import AccessDecision.Proofs.Checker.Decision
import AccessDecision.Proofs.Policy.Polarity

/-!
# Failing closed

What changes in favour of a policy never takes a grant away, and what fails never brings one
about.  Both pass from policies to checkers, which decide as the policy does that grants if some
of their policies do.
-/

namespace AccessDecision

namespace Checker

variable {φ σ τ : Type}

/-- A policy, and a checker that holds policies, grants whatever it granted before if all
leaves change in favour of what stands above them: those below an even number of negations grant
what they granted before, and those below an odd number grant nothing new.  So it denies what it
denied before if lookups fail or come too late, provided that the policies that rely on them
stand below an even number of negations. -/
theorem evaluate_failsClosed (first : Host φ σ) (second : Host φ τ) (request : Request)
    (before after : Occurrence φ → Bool) :
    (∀ policy : Policy φ, Policy.Rises first second request before after policy.formula →
      ∀ stage other, ∃ granted grantedToo,
        policy.Gives first request stage granted ∧
        policy.Gives second request other grantedToo ∧
        (granted = true → grantedToo = true)) ∧
    (∀ (policies : List (Policy φ)) (checker : Checker) (hearing : Hearing φ σ)
      (other : Hearing φ τ),
      Policy.Rises first second request before after (Policy.joinedFrom .or 0 policies) →
      checker.Holds policies hearing → checker.Holds policies other →
      ∃ granted grantedToo,
        Decides hearing.observers granted (checker.evaluate first request hearing).1 ∧
        Decides other.observers grantedToo (checker.evaluate second request other).1 ∧
        (granted = true → grantedToo = true)) ∧
    (∀ policy : Policy φ, Policy.Outage first second request before policy.formula →
      ∀ stage other, ∃ granted grantedToo,
        policy.Gives first request stage granted ∧
        policy.Gives second request other grantedToo ∧
        (granted = false → grantedToo = false)) ∧
    (∀ (policies : List (Policy φ)) (checker : Checker) (hearing : Hearing φ σ)
      (other : Hearing φ τ),
      Policy.Outage first second request before (Policy.joinedFrom .or 0 policies) →
      checker.Holds policies hearing → checker.Holds policies other →
      ∃ granted grantedToo,
        Decides hearing.observers granted (checker.evaluate first request hearing).1 ∧
        Decides other.observers grantedToo (checker.evaluate second request other).1 ∧
        (granted = false → grantedToo = false)) := by
  have isFormula (policies : List (Policy φ)) :
      (Policy.any policies .null .empty).formula = Policy.joinedFrom .or 0 policies := by
    rw [Policy.formula, Policy.formulaFrom]
  refine ⟨fun policy rises => Policy.grants_of_rises rises, ?_,
    fun policy outage => Policy.denies_of_outage outage, ?_⟩
  · intro policies checker hearing other rises holds holdsToo
    rw [← isFormula] at rises
    obtain ⟨granted, grantedToo, gives, givesToo, keeps⟩ :=
      Policy.grants_of_rises rises hearing.stage other.stage
    exact ⟨granted, grantedToo, decides_of_any holds gives, decides_of_any holdsToo givesToo,
      keeps⟩
  · intro policies checker hearing other outage holds holdsToo
    rw [← isFormula] at outage
    obtain ⟨granted, grantedToo, gives, givesToo, keeps⟩ :=
      Policy.denies_of_outage outage hearing.stage other.stage
    exact ⟨granted, grantedToo, decides_of_any holds gives, decides_of_any holdsToo givesToo,
      keeps⟩

def ownership : Policy Nat :=
  .relationship (.text "owner") (.timed ⟨.int 1, .finite 1⟩ (.host 2)) (.text "owner") .empty

/-- Two policies with a leaf below one negation and a lookup below two. -/
def negatedPolicies : List (Policy Nat) :=
  [.any [.host 0 (.text "zero") none, .negation (.host 1 (.text "one") none) (.text "not") .empty]
      (.text "some") .empty,
    .negation (.negation ownership (.text "inner") .empty) (.text "outer") .empty]

theorem holds_negatedPolicies :
    (⟨.standard, 0⟩ : Checker).Holds negatedPolicies (unwatchedHearing negatedPolicies) where
  roster := rfl
  carry := by decide
  collects := rfl

def leafWorth (answers : Nat → Bool) (affirmed : Bool) (occurrence : Occurrence Nat) : Bool :=
  if occurrence.number = 2 then affirmed else answers occurrence.number

theorem negated_negatedPolicies :
    (Policy.joinedFrom .or 0 negatedPolicies).negated 0 =
      [(⟨0, .host 0 (.text "zero") none⟩, 0), (⟨1, .host 1 (.text "one") none⟩, 1),
        (⟨2, ownership⟩, 2)] :=
  rfl

theorem gives_ownership (answers : Nat → Bool) (affirmed : Bool) (stage : Stage Nat Unit) :
    ownership.Gives (replyingHost answers (.ok (.bool affirmed))) blankRequest stage
      affirmed := by
  refine ⟨_, _, rfl, ?_⟩
  cases affirmed <;> rfl

theorem answeredBy_replyingHost (answers : Nat → Bool) (affirmed : Bool) :
    Policy.AnsweredBy (replyingHost answers (.ok (.bool affirmed))) blankRequest
      (leafWorth answers affirmed) (Policy.joinedFrom .or 0 negatedPolicies) := by
  intro occurrence member stage
  rw [← Formula.map_fst_negated _ 0, negated_negatedPolicies] at member
  simp only [List.map_cons, List.map_nil, List.mem_cons, List.not_mem_nil, or_false] at member
  rcases member with rfl | rfl | rfl
  · exact gives_replyingHost answers _ _ 0 _ _ stage
  · exact gives_replyingHost answers _ _ 1 _ _ stage
  · exact gives_ownership answers affirmed stage

def generousHost : Host Nat Unit :=
  replyingHost (fun _ => true) (.ok (.bool true))

def strictHost : Host Nat Unit :=
  replyingHost (· == 0) (.ok (.bool true))

def closedHost : Host Nat Unit :=
  replyingHost (· == 1) (.ok (.bool false))

/-- The same host when it cannot be reached for lookups. -/
def brokenHost : Host Nat Unit :=
  replyingHost (· == 1) (.error (.host (.named "ConnectionError" "down")))

theorem rises_strictHost :
    Policy.Rises generousHost strictHost blankRequest (leafWorth (fun _ => true) true)
      (leafWorth (· == 0) true) (Policy.joinedFrom .or 0 negatedPolicies) where
  answered := answeredBy_replyingHost _ true
  answeredToo := answeredBy_replyingHost _ true
  favours := by
    rw [negated_negatedPolicies]
    simp [Favours, leafWorth]

theorem outage_brokenHost :
    Policy.Outage closedHost brokenHost blankRequest (leafWorth (· == 1) false)
      (Policy.joinedFrom .or 0 negatedPolicies) := by
  intro entry member
  rw [negated_negatedPolicies] at member
  simp only [List.mem_cons, List.not_mem_nil, or_false] at member
  rcases member with rfl | rfl | rfl
  · exact .unaffected (gives_replyingHost _ _ _ 0 _ _) (gives_replyingHost _ _ _ 0 _ _)
  · exact .unaffected (gives_replyingHost _ _ _ 1 _ _) (gives_replyingHost _ _ _ 1 _ _)
  · exact .lookup rfl (gives_ownership _ false) fun stage => rfl

theorem evaluate_failsClosed_negated :
    Policy.Rises generousHost strictHost blankRequest (leafWorth (fun _ => true) true)
      (leafWorth (· == 0) true) (Policy.joinedFrom .or 0 negatedPolicies) ∧
    Policy.Outage closedHost brokenHost blankRequest (leafWorth (· == 1) false)
      (Policy.joinedFrom .or 0 negatedPolicies) ∧
    (⟨.standard, 0⟩ : Checker).Holds negatedPolicies (unwatchedHearing negatedPolicies) ∧
    (Policy.any negatedPolicies .null .empty).Gives strictHost blankRequest (Stage.bare ())
      true ∧
    (∃ verdict, (Checker.evaluate strictHost ⟨.standard, 0⟩ blankRequest
      (unwatchedHearing negatedPolicies)).1 = .ok verdict ∧ verdict.isGranted = true) ∧
    (Policy.any negatedPolicies .null .empty).Gives brokenHost blankRequest (Stage.bare ())
      false ∧
    (∃ verdict, (Checker.evaluate brokenHost ⟨.standard, 0⟩ blankRequest
      (unwatchedHearing negatedPolicies)).1 = .ok verdict ∧ verdict.isGranted = false) := by
  have holds := holds_negatedPolicies
  refine ⟨rises_strictHost, outage_brokenHost, holds, ?_, ?_, ?_, ?_⟩
  · obtain ⟨granted, _, gives, givesToo, keeps⟩ :=
      (evaluate_failsClosed generousHost strictHost blankRequest _ _).1
        (.any negatedPolicies .null .empty) rises_strictHost (Stage.bare ()) (Stage.bare ())
    have isGranted : granted = true := gives.unique ⟨_, _, rfl, rfl⟩
    rwa [keeps isGranted] at givesToo
  · obtain ⟨granted, _, decides, decidesToo, keeps⟩ :=
      (evaluate_failsClosed generousHost strictHost blankRequest _ _).2.1 negatedPolicies
        ⟨.standard, 0⟩ _ _ rises_strictHost holds holds
    have isGranted : granted = true := decides.symm
    rw [keeps isGranted] at decidesToo
    exact ⟨_, rfl, decidesToo⟩
  · obtain ⟨granted, _, gives, givesToo, keeps⟩ :=
      (evaluate_failsClosed closedHost brokenHost blankRequest _ (fun _ => false)).2.2.1
        (.any negatedPolicies .null .empty) outage_brokenHost (Stage.bare ()) (Stage.bare ())
    have isDenied : granted = false := gives.unique ⟨_, _, rfl, rfl⟩
    rwa [keeps isDenied] at givesToo
  · obtain ⟨granted, _, decides, decidesToo, keeps⟩ :=
      (evaluate_failsClosed closedHost brokenHost blankRequest _ (fun _ => false)).2.2.2
        negatedPolicies ⟨.standard, 0⟩ _ _ outage_brokenHost holds holds
    have isDenied : granted = false := decides.symm
    rw [keeps isDenied] at decidesToo
    exact ⟨_, rfl, decidesToo⟩

end Checker

end AccessDecision
