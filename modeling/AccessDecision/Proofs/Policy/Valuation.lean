import AccessDecision.Proofs.Policy.ShortCircuit

/-!
# Policies whose leaves all answer

A policy none of whose leaves fails gives a result, and the outcome of that result is the
value of its formula.  The valuation is read off the leaves: those that were evaluated are
worth what they answered, and the others may be worth anything.  If each leaf answers always
in the same way, then so does the policy.
-/

namespace AccessDecision

namespace Formula

variable {α : Type}

theorem value_congr {formula : Formula α} {valuation other : α → Bool}
    (same : ∀ symbol ∈ formula.atoms, valuation symbol = other symbol) :
    formula.value valuation = formula.value other := by
  induction formula with
  | constant value => rfl
  | atom symbol => exact same symbol (by simp [atoms])
  | both first second firstIH secondIH =>
      rw [value, value, firstIH fun symbol member => same symbol (by simp [atoms, member]),
        secondIH fun symbol member => same symbol (by simp [atoms, member])]
  | either first second firstIH secondIH =>
      rw [value, value, firstIH fun symbol member => same symbol (by simp [atoms, member]),
        secondIH fun symbol member => same symbol (by simp [atoms, member])]
  | negation part ih => rw [value, value, ih same]

end Formula

theorem Policy.occurrence_unique {φ : Type} {policy : Policy φ} {first second : Occurrence φ}
    (isFirst : first ∈ policy.formula.atoms) (isSecond : second ∈ policy.formula.atoms)
    (same : first.number = second.number) : first = second := by
  have increasing : (policy.formula.atoms.map Occurrence.number).Pairwise (· < ·) := by
    rw [formula, numbers_formulaFrom]
    exact List.pairwise_lt_range' 1
  generalize policy.formula.atoms = atoms at *
  induction atoms with
  | nil => cases isFirst
  | cons atom rest ih =>
      rw [List.map_cons, List.pairwise_cons] at increasing
      obtain ⟨below, increasing⟩ := increasing
      have later (other : Occurrence φ) (member : other ∈ rest) : atom.number < other.number :=
        below _ (List.mem_map_of_mem member)
      rcases List.mem_cons.mp isFirst with rfl | firstLater <;>
        rcases List.mem_cons.mp isSecond with rfl | secondLater
      · rfl
      · have := later second secondLater
        omega
      · have := later first firstLater
        omega
      · exact ih firstLater secondLater increasing

theorem Consulted.gives {φ σ : Type} {host : Host φ σ} {request : Request}
    {stage later : Stage φ σ} {entries : List (Policy φ × Result)}
    (consulted : Consulted host request stage entries later) :
    ∀ entry ∈ entries, ∃ begun ended,
      entry.1.evaluate host request begun = (.ok entry.2, ended) := by
  induction consulted with
  | done => simp
  | @next stage begun middle later policy result others quiet gives rest ih =>
      intro entry member
      rcases List.mem_cons.mp member with rfl | member
      · exact ⟨begun, middle, gives⟩
      · exact ih entry member

namespace Policy

variable {φ σ : Type}

/-- The policy gives a result on a stage, and the result has the given outcome. -/
def Gives (host : Host φ σ) (request : Request) (policy : Policy φ) (stage : Stage φ σ)
    (granted : Bool) : Prop :=
  ∃ result later, policy.evaluate host request stage = (.ok result, later) ∧
    result.isGranted = granted

/-- Every leaf of a formula gives results on all stages, with the outcome that a valuation
assigns to it. -/
def AnsweredBy (host : Host φ σ) (request : Request) (valuation : Occurrence φ → Bool)
    (formula : Formula (Occurrence φ)) : Prop :=
  ∀ occurrence ∈ formula.atoms, ∀ stage,
    occurrence.leaf.Gives host request stage (valuation occurrence)

variable {host : Host φ σ} {request : Request} {policy : Policy φ}

theorem Gives.unique {stage : Stage φ σ} {granted other : Bool}
    (gives : policy.Gives host request stage granted)
    (givesToo : policy.Gives host request stage other) : granted = other := by
  obtain ⟨result, later, evaluates, rfl⟩ := gives
  obtain ⟨resultToo, laterToo, evaluatesToo, rfl⟩ := givesToo
  cases evaluates.symm.trans evaluatesToo
  rfl

theorem goOn_settled (outcome : Bool) :
    goOn (.settled true) (.settled false) outcome =
      (.settled outcome : Inquiry (Occurrence φ)) := by
  cases outcome <;> rfl

/-- A history as a valuation: leaves that were evaluated are worth what they answered. -/
def worth (history : List (Invocation φ)) (otherwise : Occurrence φ → Bool)
    (occurrence : Occurrence φ) : Bool :=
  match history.find? (·.occurrence.number == occurrence.number) with
  | some invocation => invocation.result.isGranted
  | none => otherwise occurrence

theorem worth_of_mem {history : List (Invocation φ)}
    (increasing : (history.map (·.occurrence.number)).Pairwise (· < ·))
    (otherwise : Occurrence φ → Bool) {invocation : Invocation φ}
    (member : invocation ∈ history) :
    worth history otherwise invocation.occurrence = invocation.result.isGranted := by
  induction history with
  | nil => cases member
  | cons first rest ih =>
      rw [List.map_cons, List.pairwise_cons] at increasing
      obtain ⟨below, increasing⟩ := increasing
      rcases List.mem_cons.mp member with rfl | member
      · simp [worth]
      · have apart : first.occurrence.number < invocation.occurrence.number :=
          below _ (List.mem_map_of_mem member)
        have differs : (first.occurrence.number == invocation.occurrence.number) = false := by
          simp
          omega
        have found := ih increasing member
        rw [worth] at found ⊢
        rwa [List.find?_cons, differs]

/-- A policy whose leaves never fail gives the value of its formula, where a leaf is worth
what it answered somewhere, or else what it is said to be worth. -/
theorem gives_of_answers
    (answer : ∀ occurrence ∈ policy.formula.atoms, ∀ stage, ∃ granted,
      occurrence.leaf.Gives host request stage granted)
    (otherwise : Occurrence φ → Bool) (stage : Stage φ σ) :
    ∃ valuation, policy.Gives host request stage (policy.formula.value valuation) ∧
      ∀ occurrence ∈ policy.formula.atoms,
        valuation occurrence = otherwise occurrence ∨
          ∃ begun, occurrence.leaf.Gives host request begun (valuation occurrence) := by
  have course := policy.course_evaluate host request 0 (.settled true) (.settled false) stage
  rcases ending : policy.evaluate host request stage with ⟨outcome, later⟩
  rw [ending] at course
  cases course with
  | @fails failure _ history middle occurrence ifTrue ifFalse consulted leads fails =>
      obtain ⟨granted, result, last, gives, -⟩ :=
        answer occurrence (Formula.mem_atoms_of_leads leads) middle
      rw [fails] at gives
      cases gives
  | @returns result _ history consulted leads accounted =>
      have settles : policy.formula.inquiry.Leads (history.map Invocation.answer)
          (.settled result.isGranted) := goOn_settled result.isGranted ▸ leads
      have agrees (invocation : Invocation φ) (member : invocation ∈ history) :
          worth history otherwise invocation.occurrence = invocation.result.isGranted :=
        worth_of_mem (pairwise_of_answers settles) otherwise member
      have isValue : policy.formula.value (worth history otherwise) = result.isGranted := by
        refine Formula.value_of_leads settles ?_
        intro answer member
        obtain ⟨invocation, isEarlier, rfl⟩ := List.mem_map.mp member
        exact agrees invocation isEarlier
      refine ⟨worth history otherwise, ⟨result, later, ending, isValue.symm⟩, ?_⟩
      intro occurrence isAtom
      rcases evaluated : history.find? (·.occurrence.number == occurrence.number) with
        - | invocation
      · left
        rw [worth, evaluated]
      · right
        have member := List.mem_of_find?_eq_some evaluated
        have sameNumber : invocation.occurrence.number = occurrence.number := by
          simpa using List.find?_some evaluated
        have isAtomToo : invocation.occurrence ∈ policy.formula.atoms :=
          (sublist_of_answers settles).mem (List.mem_map_of_mem member)
        have same := occurrence_unique isAtomToo isAtom sameNumber
        obtain ⟨begun, ended, gives⟩ := consulted.gives _ (List.mem_map_of_mem member)
        subst same
        exact ⟨begun, invocation.result, ended, gives, (agrees invocation member).symm⟩

theorem gives_value {valuation : Occurrence φ → Bool}
    (answered : AnsweredBy host request valuation policy.formula) (stage : Stage φ σ) :
    policy.Gives host request stage (policy.formula.value valuation) := by
  obtain ⟨found, gives, fromLeaves⟩ := gives_of_answers
    (fun occurrence member begun => ⟨_, answered occurrence member begun⟩) valuation stage
  have same : policy.formula.value found = policy.formula.value valuation := by
    refine Formula.value_congr fun occurrence member => ?_
    rcases fromLeaves occurrence member with unseen | ⟨begun, answers⟩
    · exact unseen
    · exact answers.unique (answered occurrence member begun)
  rwa [← same]

end Policy

end AccessDecision
