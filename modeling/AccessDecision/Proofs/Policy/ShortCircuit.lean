import AccessDecision.Proofs.Policy.Consultation

/-!
# Short-circuit evaluation

A policy asks its leaves one after the other, exactly as the inquiry of its formula does,
and gives back its own tree, pruned to what was evaluated, with the results of the leaves in
the order in which they came.  A leaf that fails ends the evaluation with its failure.

The proof follows a course: an evaluation together with the inquiry that it pursues.
Courses can be put one after the other, so the main statement is an induction on the parts
of the policy in which the inquiry stands for everything that is still to be asked.
-/

namespace AccessDecision

/-- A leaf that was evaluated, with its result. -/
structure Invocation (φ : Type) where
  occurrence : Occurrence φ
  result : Result

namespace Invocation

variable {φ : Type}

def consulted (invocation : Invocation φ) : Policy φ × Result :=
  (invocation.occurrence.leaf, invocation.result)

def summons (request : Request) (invocation : Invocation φ) : List (φ × Request) :=
  invocation.occurrence.leaf.summons request

def answer (invocation : Invocation φ) : Occurrence φ × Bool :=
  (invocation.occurrence, invocation.result.isGranted)

end Invocation

namespace Policy

variable {φ σ α β : Type}

mutual

/-- A result is the tree of a policy, whose leaves have numbers from `start` on, pruned to
what was evaluated, with the results of some invocations in the places of their leaves. -/
def Pruned (start : Nat) : Policy φ → Result → List (Invocation φ) → Prop
  | .all policies name _, result, history => ∃ children,
      result = .ofChildren name .and children ∧ PrunedFirst start policies children history
  | .any policies name _, result, history => ∃ children,
      result = .ofChildren name .or children ∧ PrunedFirst start policies children history
  | .negation policy name _, result, history => ∃ child,
      result = .ofChildren name .not [child] ∧ policy.Pruned start child history
  | leaf, result, history => history = [⟨⟨start, leaf⟩, result⟩]

/-- Results are those of as many policies, the first ones of a list; of the others nothing
was evaluated. -/
def PrunedFirst (start : Nat) :
    List (Policy φ) → List Result → List (Invocation φ) → Prop
  | _, [], history => history = []
  | [], _ :: _, _ => False
  | policy :: rest, child :: children, history => ∃ first later,
      history = first ++ later ∧ policy.Pruned start child first ∧
        PrunedFirst (start + policy.width) rest children later

end

theorem pruned_leaf {policy : Policy φ} (leaf : policy.isLeaf = true) (start : Nat)
    (result : Result) : policy.Pruned start result [⟨⟨start, policy⟩, result⟩] := by
  cases policy <;> first | exact rfl | cases leaf

theorem prunedFirst_nil (start : Nat) (policies : List (Policy φ)) :
    PrunedFirst start policies [] [] := by
  cases policies <;> rfl

/-- An evaluation pursues an inquiry: it evaluates the leaves that are asked for until it
returns, or until one of them fails.  The value that it returns says how the inquiry goes
on, and it accounts for what was evaluated. -/
inductive Course (host : Host φ σ) (request : Request) (inquiry : Inquiry (Occurrence φ))
    (next : α → Inquiry (Occurrence φ)) (accounts : α → List (Invocation φ) → Prop)
    (stage : Stage φ σ) : Except Failure α × Stage φ σ → Prop where
  | returns {value : α} {later : Stage φ σ} (history : List (Invocation φ))
      (consulted : Consulted host request stage (history.map Invocation.consulted) later)
      (leads : inquiry.Leads (history.map Invocation.answer) (next value))
      (accounted : accounts value history) :
      Course host request inquiry next accounts stage (.ok value, later)
  | fails {failure : Failure} {later : Stage φ σ} (history : List (Invocation φ))
      (middle : Stage φ σ) (occurrence : Occurrence φ)
      (ifTrue ifFalse : Inquiry (Occurrence φ))
      (consulted : Consulted host request stage (history.map Invocation.consulted) middle)
      (leads : inquiry.Leads (history.map Invocation.answer)
        (.ask occurrence ifTrue ifFalse))
      (fails : occurrence.leaf.evaluate host request middle = (.error failure, later)) :
      Course host request inquiry next accounts stage (.error failure, later)

namespace Course

variable {host : Host φ σ} {request : Request} {inquiry : Inquiry (Occurrence φ)}
  {next : α → Inquiry (Occurrence φ)} {accounts : α → List (Invocation φ) → Prop}

theorem pure {value : α} {stage : Stage φ σ} (arrived : inquiry = next value)
    (accounted : accounts value []) :
    Course host request inquiry next accounts stage
      ((Pure.pure value : Evaluation φ σ α) stage) := by
  subst arrived
  exact .returns [] (.done rfl) (.here _) accounted

theorem bind {evaluation : Evaluation φ σ α} {continuation : α → Evaluation φ σ β}
    {last : β → Inquiry (Occurrence φ)} {total : β → List (Invocation φ) → Prop}
    {stage : Stage φ σ}
    (first : Course host request inquiry next accounts stage (evaluation stage))
    (second : ∀ value earlier later, accounts value earlier →
      Course host request (next value) last
        (fun value history => total value (earlier ++ history)) later
        (continuation value later)) :
    Course host request inquiry last total stage ((evaluation >>= continuation) stage) := by
  rcases ending : evaluation stage with ⟨outcome, middle⟩
  rw [ending] at first
  cases first with
  | fails history begun occurrence ifTrue ifFalse consulted leads fails =>
      rw [Attempt.bind_of_error ending]
      exact .fails history begun occurrence ifTrue ifFalse consulted leads fails
  | @returns value _ history consulted leads accounted =>
      rw [Attempt.bind_of_ok ending]
      have rest := second value _ middle accounted
      rcases goesOn : continuation value middle with ⟨outcome, later⟩
      rw [goesOn] at rest
      cases rest with
      | returns others consultedLater leadsLater accountedLater =>
          refine .returns (history ++ others) ?_ ?_ accountedLater
          · rw [List.map_append]
            exact consulted.trans consultedLater
          · rw [List.map_append]
            exact leads.trans leadsLater
      | fails others begun occurrence ifTrue ifFalse consultedLater leadsLater fails =>
          refine .fails (history ++ others) begun occurrence ifTrue ifFalse ?_ ?_ fails
          · rw [List.map_append]
            exact consulted.trans consultedLater
          · rw [List.map_append]
            exact leads.trans leadsLater

end Course

theorem combine_cons {operation : Connective} (isBinary : operation ≠ .not) (outcome : Bool)
    (others : List Bool) :
    operation.combine (outcome :: others) =
      if operation.settledBy outcome then outcome else operation.combine others := by
  cases operation with
  | and => cases outcome <;> rfl
  | or => cases outcome <;> rfl
  | not => exact absurd rfl isBinary

/-- How an inquiry about a policy goes on after its result. -/
def goOn (ifTrue ifFalse : Inquiry (Occurrence φ)) (outcome : Bool) :
    Inquiry (Occurrence φ) :=
  if outcome then ifTrue else ifFalse

variable (host : Host φ σ) (request : Request)

theorem course_evaluate_leaf {policy : Policy φ} (leaf : policy.isLeaf = true) (start : Nat)
    (ifTrue ifFalse : Inquiry (Occurrence φ)) (stage : Stage φ σ) :
    Course host request ((policy.formulaFrom start).inquire ifTrue ifFalse)
      (fun result => goOn ifTrue ifFalse result.isGranted) (policy.Pruned start) stage
      (policy.evaluate host request stage) := by
  rw [formulaFrom_leaf leaf, Formula.inquire]
  rcases ending : policy.evaluate host request stage with ⟨failure | result, later⟩
  · exact .fails [] stage ⟨start, policy⟩ ifTrue ifFalse (.done rfl) (.here _) ending
  · exact .returns [⟨⟨start, policy⟩, result⟩] (.single ending)
      (.answer result.isGranted (.here _)) (pruned_leaf leaf start result)

theorem goOn_settledBy (operation : Connective)
    (ifTrue ifFalse others : Inquiry (Occurrence φ)) (outcome : Bool) :
    goOn (if operation.settledBy true then ifTrue else others)
        (if operation.settledBy false then ifFalse else others) outcome =
      if operation.settledBy outcome then goOn ifTrue ifFalse outcome else others := by
  cases outcome <;> rfl

theorem course_evaluateAll {operation : Connective} (isBinary : operation ≠ .not)
    {policies : List (Policy φ)}
    (members : ∀ policy ∈ policies, ∀ start ifTrue ifFalse (stage : Stage φ σ),
      Course host request ((policy.formulaFrom start).inquire ifTrue ifFalse)
        (fun result => goOn ifTrue ifFalse result.isGranted) (policy.Pruned start) stage
        (policy.evaluate host request stage))
    (name : Value) (total count start : Nat) (ifTrue ifFalse : Inquiry (Occurrence φ))
    (stage : Stage φ σ) :
    Course host request ((joinedFrom operation start policies).inquire ifTrue ifFalse)
      (fun results =>
        goOn ifTrue ifFalse (operation.combine (results.map Result.isGranted)))
      (PrunedFirst start policies) stage
      (evaluateAll host request name operation total count policies stage) := by
  induction policies generalizing count start stage with
  | nil => exact .pure rfl rfl
  | cons policy rest ih =>
      rw [joinedFrom, Formula.inquire_join isBinary, evaluateAll]
      refine (members policy (by simp) _ _ _ stage).bind ?_
      intro result earlier middle accounted
      rw [goOn_settledBy]
      by_cases settled : operation.settledBy result.isGranted = true
      · rw [if_pos settled, if_pos settled]
        have combined : operation.combine ([result].map Result.isGranted) =
            result.isGranted := by
          rw [List.map_singleton, combine_cons isBinary, if_pos settled]
        refine .returns [] (.done rfl) ?_ ⟨earlier, [], rfl, accounted, prunedFirst_nil _ rest⟩
        rw [combined]
        exact .here _
      · rw [if_neg settled, if_neg settled]
        refine (ih (fun policy member => members policy (by simp [member])) _ _ middle).bind ?_
        intro results later last accountedLater
        refine .pure ?_ ?_
        · rw [List.map_cons, combine_cons isBinary, if_neg settled]
        · exact ⟨earlier, later, by simp, accounted, accountedLater⟩

/-- Evaluating a policy pursues the inquiry of its formula. -/
theorem course_evaluate (policy : Policy φ) (start : Nat)
    (ifTrue ifFalse : Inquiry (Occurrence φ)) (stage : Stage φ σ) :
    Course host request ((policy.formulaFrom start).inquire ifTrue ifFalse)
      (fun result => goOn ifTrue ifFalse result.isGranted) (policy.Pruned start) stage
      (policy.evaluate host request stage) := by
  induction policy using inductionOnParts generalizing start ifTrue ifFalse stage with
  | leaf policy leaf => exact course_evaluate_leaf host request leaf start ifTrue ifFalse stage
  | all policies name metadata ih =>
      rw [formulaFrom, evaluate]
      refine (course_evaluateAll host request (by decide) ih name _ _ _ _ _ stage).bind ?_
      intro results earlier middle accounted
      exact .pure rfl ⟨results, rfl, by simpa using accounted⟩
  | any policies name metadata ih =>
      rw [formulaFrom, evaluate]
      refine (course_evaluateAll host request (by decide) ih name _ _ _ _ _ stage).bind ?_
      intro results earlier middle accounted
      exact .pure rfl ⟨results, rfl, by simpa using accounted⟩
  | negation policy name metadata ih =>
      rw [formulaFrom, evaluate, Formula.inquire]
      refine (ih start ifFalse ifTrue stage).bind ?_
      intro result earlier middle accounted
      refine .pure ?_ ⟨result, rfl, by simpa using accounted⟩
      rw [Result.isGranted_ofChildren, List.map_singleton]
      cases result.isGranted <;> rfl

section Answers

variable {host request} {policy : Policy φ} {history : List (Invocation φ)}
  {last : Inquiry (Occurrence φ)}

theorem sublist_of_answers
    (leads : policy.formula.inquiry.Leads (history.map Invocation.answer) last) :
    (history.map Invocation.occurrence).Sublist policy.formula.atoms := by
  have sublist := Formula.sublist_of_leads leads
  rwa [List.map_map] at sublist

theorem pairwise_of_answers
    (leads : policy.formula.inquiry.Leads (history.map Invocation.answer) last) :
    (history.map (·.occurrence.number)).Pairwise (· < ·) := by
  have sublist := (sublist_of_answers leads).map Occurrence.number
  rw [List.map_map, formula, numbers_formulaFrom] at sublist
  exact (List.pairwise_lt_range' 1).sublist sublist

theorem isLeaf_of_answers
    (leads : policy.formula.inquiry.Leads (history.map Invocation.answer) last) :
    ∀ entry ∈ history.map Invocation.consulted, entry.1.isLeaf = true := by
  intro entry member
  obtain ⟨invocation, isEarlier, rfl⟩ := List.mem_map.mp member
  have atom := (sublist_of_answers leads).mem (List.mem_map_of_mem isEarlier)
  exact policy.isLeaf_of_mem_atoms 0 invocation.occurrence atom

theorem value_of_answers {outcome : Bool}
    (leads : policy.formula.inquiry.Leads (history.map Invocation.answer)
      (.settled outcome))
    {valuation : Nat → Bool}
    (agrees : ∀ invocation ∈ history,
      valuation invocation.occurrence.number = invocation.result.isGranted) :
    policy.formula.value (fun occurrence => valuation occurrence.number) = outcome := by
  refine Formula.value_of_leads leads ?_
  intro answer member
  obtain ⟨invocation, isEarlier, rfl⟩ := List.mem_map.mp member
  exact agrees invocation isEarlier

theorem summons_of_answers {stage later : Stage φ σ}
    (leads : policy.formula.inquiry.Leads (history.map Invocation.answer) last)
    (consulted : Consulted host request stage (history.map Invocation.consulted) later) :
    later.summons = stage.summons ++ history.flatMap (·.summons request) := by
  rw [consulted.summons_eq (isLeaf_of_answers leads), List.flatMap_map]
  rfl

end Answers

/-- A policy evaluates its leaves in the order of the short-circuit evaluation of its
formula, each of them for the whole request and at most once at every place.  If all of them
give results, then so does the policy: its tree pruned to what was evaluated, which holds
exactly those results in their order, and whose outcome is the value of the formula whatever
the other leaves would have answered.  If a leaf fails, then so does the policy, in the same
way and without evaluating another one.  The policies of the host that are asked are those
leaves, each of them for the request. -/
theorem evaluate_shortCircuits (policy : Policy φ) (stage : Stage φ σ) :
    ∃ (history : List (Invocation φ)) (middle : Stage φ σ),
      Consulted host request stage (history.map Invocation.consulted) middle ∧
      (history.map (·.occurrence.number)).Pairwise (· < ·) ∧
      ((∃ result,
          policy.evaluate host request stage = (.ok result, middle) ∧
          policy.formula.inquiry.Leads (history.map Invocation.answer)
            (.settled result.isGranted) ∧
          (∀ valuation : Nat → Bool,
            (∀ invocation ∈ history,
              valuation invocation.occurrence.number = invocation.result.isGranted) →
            policy.formula.value (fun occurrence => valuation occurrence.number) =
              result.isGranted) ∧
          policy.Pruned 0 result history ∧
          middle.summons = stage.summons ++ history.flatMap (·.summons request)) ∨
        ∃ occurrence ifTrue ifFalse failure later,
          policy.formula.inquiry.Leads (history.map Invocation.answer)
            (.ask occurrence ifTrue ifFalse) ∧
          occurrence.leaf.evaluate host request middle = (.error failure, later) ∧
          policy.evaluate host request stage = (.error failure, later) ∧
          later.summons =
            stage.summons ++ history.flatMap (·.summons request) ++
              occurrence.leaf.summons request) := by
  have course := policy.course_evaluate host request 0 (.settled true) (.settled false) stage
  rcases ending : policy.evaluate host request stage with ⟨outcome, later⟩
  rw [ending] at course
  cases course with
  | @returns result _ history consulted leads accounted =>
      have settles : policy.formula.inquiry.Leads (history.map Invocation.answer)
          (.settled result.isGranted) := by
        have ends : goOn (.settled true) (.settled false) result.isGranted =
            (.settled result.isGranted : Inquiry (Occurrence φ)) := by
          cases result.isGranted <;> rfl
        rw [← ends]
        exact leads
      exact ⟨history, later, consulted, pairwise_of_answers settles,
        .inl ⟨result, rfl, settles, fun _ => value_of_answers settles, accounted,
          summons_of_answers settles consulted⟩⟩
  | @fails failure _ history middle occurrence ifTrue ifFalse consulted leads fails =>
      have leaf := policy.isLeaf_of_mem_atoms 0 occurrence (Formula.mem_atoms_of_leads leads)
      have asked := summons_evaluate_leaf host request leaf middle
      rw [fails, summons_of_answers leads consulted] at asked
      exact ⟨history, middle, consulted, pairwise_of_answers leads,
        .inr ⟨occurrence, ifTrue, ifFalse, failure, later, leads, fails, rfl, asked⟩⟩

end Policy

end AccessDecision
