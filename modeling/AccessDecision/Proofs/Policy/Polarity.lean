import AccessDecision.Proofs.Policy.Lookup

/-!
# Polarity

A leaf below an even number of negations counts in favour of a policy, and one below an odd
number counts against it.  If the leaves in favour grant whatever they granted before and the
leaves against grant nothing new, then the policy grants whatever it granted before.

Lookups that fail or come too late only take grants away.  So as long as the policies that
rely on timed lookups stand below an even number of negations, nothing that was denied is
granted because of them.
-/

namespace AccessDecision

/-- An outcome below some negations changes in favour of what stands above them. -/
def Favours (negations : Nat) (before after : Bool) : Prop :=
  if negations % 2 = 0 then before = true → after = true
  else after = true → before = true

theorem favours_refl (negations : Nat) (outcome : Bool) : Favours negations outcome outcome := by
  rw [Favours]
  split <;> exact id

theorem favours_and {negations : Nat} {before after before' after' : Bool}
    (first : Favours negations before after) (second : Favours negations before' after') :
    Favours negations (before && before') (after && after') := by
  rw [Favours] at *
  split at first <;> simp_all

theorem favours_or {negations : Nat} {before after before' after' : Bool}
    (first : Favours negations before after) (second : Favours negations before' after') :
    Favours negations (before || before') (after || after') := by
  rw [Favours] at *
  split at first <;> cases before <;> cases after <;> simp_all

theorem favours_not {negations : Nat} {before after : Bool}
    (favours : Favours (negations + 1) before after) :
    Favours negations (!before) (!after) := by
  rw [Favours] at *
  by_cases even : negations % 2 = 0
  · have odd : ¬ (negations + 1) % 2 = 0 := by omega
    rw [if_neg odd] at favours
    rw [if_pos even]
    cases before <;> cases after <;> simp_all
  · have isEven : (negations + 1) % 2 = 0 := by omega
    rw [if_pos isEven] at favours
    rw [if_neg even]
    cases before <;> cases after <;> simp_all

namespace Formula

variable {α : Type}

/-- The atoms of a formula from left to right, each with the number of negations above it, of
which some stand above the whole formula. -/
def negated (negations : Nat) : Formula α → List (α × Nat)
  | .constant _ => []
  | .atom symbol => [(symbol, negations)]
  | .both first second | .either first second =>
      first.negated negations ++ second.negated negations
  | .negation part => part.negated (negations + 1)

theorem map_fst_negated (formula : Formula α) (negations : Nat) :
    (formula.negated negations).map Prod.fst = formula.atoms := by
  induction formula generalizing negations with
  | constant value => rfl
  | atom symbol => rfl
  | both first second firstIH secondIH =>
      rw [negated, atoms, List.map_append, firstIH, secondIH]
  | either first second firstIH secondIH =>
      rw [negated, atoms, List.map_append, firstIH, secondIH]
  | negation part ih => exact ih (negations + 1)

theorem exists_negated {formula : Formula α} {symbol : α} (isAtom : symbol ∈ formula.atoms)
    (negations : Nat) : ∃ depth, (symbol, depth) ∈ formula.negated negations := by
  rw [← formula.map_fst_negated negations] at isAtom
  obtain ⟨⟨_, depth⟩, member, rfl⟩ := List.mem_map.mp isAtom
  exact ⟨depth, member⟩

theorem mem_atoms_of_negated {formula : Formula α} {symbol : α} {negations depth : Nat}
    (member : (symbol, depth) ∈ formula.negated negations) : symbol ∈ formula.atoms := by
  rw [← formula.map_fst_negated negations]
  exact List.mem_map_of_mem member

/-- If every atom changes in favour of what stands above it, then so does the formula. -/
theorem value_favours {formula : Formula α} {before after : α → Bool} {negations : Nat}
    (changes : ∀ entry ∈ formula.negated negations,
      Favours entry.2 (before entry.1) (after entry.1)) :
    Favours negations (formula.value before) (formula.value after) := by
  induction formula generalizing negations with
  | constant value => exact favours_refl negations value
  | atom symbol => exact changes (symbol, negations) (by simp [negated])
  | both first second firstIH secondIH =>
      refine favours_and (firstIH fun entry member => ?_) (secondIH fun entry member => ?_)
      · exact changes entry (List.mem_append_left _ member)
      · exact changes entry (List.mem_append_right _ member)
  | either first second firstIH secondIH =>
      refine favours_or (firstIH fun entry member => ?_) (secondIH fun entry member => ?_)
      · exact changes entry (List.mem_append_left _ member)
      · exact changes entry (List.mem_append_right _ member)
  | negation part ih => exact favours_not (ih changes)

end Formula

namespace Policy

variable {φ σ τ : Type}

/-- The leaves of a formula answer one host by one valuation and another host by another, and
between the two every leaf changes in favour of what stands above it. -/
structure Rises (first : Host φ σ) (second : Host φ τ) (request : Request)
    (before after : Occurrence φ → Bool) (formula : Formula (Occurrence φ)) : Prop where
  answered : AnsweredBy first request before formula
  answeredToo : AnsweredBy second request after formula
  favours : ∀ entry ∈ formula.negated 0,
    Favours entry.2 (before entry.1) (after entry.1)

variable {first : Host φ σ} {second : Host φ τ} {request : Request} {policy : Policy φ}

theorem grants_of_rises {before after : Occurrence φ → Bool}
    (rises : Rises first second request before after policy.formula)
    (stage : Stage φ σ) (other : Stage φ τ) :
    ∃ granted grantedToo, policy.Gives first request stage granted ∧
      policy.Gives second request other grantedToo ∧
      (granted = true → grantedToo = true) := by
  have favours : Favours 0 (policy.formula.value before) (policy.formula.value after) :=
    Formula.value_favours rises.favours
  exact ⟨_, _, gives_value rises.answered stage, gives_value rises.answeredToo other, favours⟩

/-- What an inner lookup comes to when some of its answers are replaced by failures, or do not
come in time: an answer that is given all the same is one that was given before. -/
def Replaces (healthy : Host φ σ) (failing : Host φ τ) (request : Request) (relation : Value)
    (timeout : Timeout) (inner : Resolver φ) (stage : Stage φ τ) : Prop :=
  match inner.comesTo failing request relation timeout stage with
  | .error failure => failure.isCancellation = false
  | .ok none => True
  | .ok (some value) => ∃ begun given,
      inner.comesTo healthy request relation timeout begun = .ok (some given) ∧
        given.truthy = value.truthy

/-- What a leaf below some negations comes to when lookups fail: it answers as before, unless
it relies on a timed lookup and stands below an even number of negations. -/
inductive Weathers (healthy : Host φ σ) (failing : Host φ τ) (request : Request)
    (negations : Nat) (outcome : Bool) : Policy φ → Prop where
  | unaffected {leaf : Policy φ}
      (before : ∀ stage, leaf.Gives healthy request stage outcome)
      (after : ∀ stage, leaf.Gives failing request stage outcome) :
      Weathers healthy failing request negations outcome leaf
  | lookup {relation name : Value} {timeout : Timeout} {inner : Resolver φ}
      {metadata : Metadata} (even : negations % 2 = 0)
      (before : ∀ stage, (Policy.relationship relation (.timed timeout inner) name
        metadata).Gives healthy request stage outcome)
      (after : ∀ stage, Replaces healthy failing request relation timeout inner stage) :
      Weathers healthy failing request negations outcome
        (.relationship relation (.timed timeout inner) name metadata)

namespace Weathers

variable {healthy : Host φ σ} {failing : Host φ τ} {negations : Nat} {outcome : Bool}
  {leaf : Policy φ}

theorem before (weathers : Weathers healthy failing request negations outcome leaf) :
    ∀ stage, leaf.Gives healthy request stage outcome := by
  cases weathers with
  | unaffected before after => exact before
  | lookup even before after => exact before

/-- A leaf answers also when lookups fail, and then in favour of the policy only if it did so
before. -/
theorem after (weathers : Weathers healthy failing request negations outcome leaf)
    (stage : Stage φ τ) :
    ∃ granted, leaf.Gives failing request stage granted ∧
      Favours negations granted outcome := by
  cases weathers with
  | unaffected before after => exact ⟨outcome, after stage, favours_refl negations outcome⟩
  | @lookup relation name timeout inner metadata even before after =>
      have replaced := after stage
      have stoppable : ∀ failure,
          inner.comesTo failing request relation timeout stage = .error failure →
            failure.isCancellation = false := by
        intro failure fails
        rw [Replaces, fails] at replaced
        exact replaced
      refine ⟨_, gives_of_lookup failing request relation timeout inner name metadata stage
        stoppable, ?_⟩
      rw [Favours, if_pos even]
      intro grants
      obtain ⟨prepared, affirmed⟩ := Bool.and_eq_true_iff.mp grants
      rcases comes : inner.comesTo failing request relation timeout stage with
        failure | (- | value)
      · simp [comes, Resolver.affirms] at affirmed
      · simp [comes, Resolver.affirms] at affirmed
      · rw [Replaces, comes] at replaced
        rw [comes] at affirmed
        obtain ⟨begun, given, answers, same⟩ := replaced
        have gave := gives_of_lookup healthy request relation timeout inner name metadata begun
          (by rw [answers]; simp)
        rw [(before begun).unique gave, prepared, answers]
        exact same.trans affirmed

end Weathers

/-- The leaves of a formula answer a healthy host by a valuation, and weather what fails. -/
def Outage (healthy : Host φ σ) (failing : Host φ τ) (request : Request)
    (before : Occurrence φ → Bool) (formula : Formula (Occurrence φ)) : Prop :=
  ∀ entry ∈ formula.negated 0,
    Weathers healthy failing request entry.2 (before entry.1) entry.1.leaf

theorem denies_of_outage {healthy : Host φ σ} {failing : Host φ τ} {before : Occurrence φ → Bool}
    (weathers : Outage healthy failing request before policy.formula)
    (stage : Stage φ σ) (other : Stage φ τ) :
    ∃ granted grantedToo, policy.Gives healthy request stage granted ∧
      policy.Gives failing request other grantedToo ∧
      (granted = false → grantedToo = false) := by
  have answered : AnsweredBy healthy request before policy.formula := by
    intro occurrence isAtom
    obtain ⟨negations, member⟩ := Formula.exists_negated isAtom 0
    exact (weathers _ member).before
  have answers : ∀ occurrence ∈ policy.formula.atoms, ∀ stage, ∃ granted,
      occurrence.leaf.Gives failing request stage granted := by
    intro occurrence isAtom stage
    obtain ⟨negations, member⟩ := Formula.exists_negated isAtom 0
    obtain ⟨granted, gives, -⟩ := (weathers _ member).after stage
    exact ⟨granted, gives⟩
  obtain ⟨after, gives, fromLeaves⟩ := gives_of_answers answers before other
  refine ⟨_, _, gives_value answered stage, gives, ?_⟩
  have favours : Favours 0 (policy.formula.value after) (policy.formula.value before) := by
    refine Formula.value_favours fun entry member => ?_
    rcases fromLeaves entry.1 (Formula.mem_atoms_of_negated member) with
      unseen | ⟨begun, gave⟩
    · rw [unseen]
      exact favours_refl _ _
    · obtain ⟨granted, givesHere, favours⟩ := (weathers entry member).after begun
      rw [gave.unique givesHere]
      exact favours
  intro denied
  rw [Favours, if_pos rfl, denied] at favours
  exact Bool.eq_false_iff.mpr fun grants => Bool.false_ne_true (favours grants)

end Policy

end AccessDecision
