import AccessDecision.Proofs.Checker.Decision
import AccessDecision.Proofs.Policy.Rearrangement

/-!
# Decisions do not depend on order

Evaluation stops at the first part that settles the outcome, so policies in another order are
asked up to another point and leave another trace.  Where all leaves are settled, the decision is
the same nevertheless.
-/

namespace AccessDecision

namespace Checker

variable {φ σ τ : Type}

/-- Rearranged policies can be audited where the others can. -/
theorem Holds.rearranged {checker another : Checker} {policies others : List (Policy φ)}
    {hearing : Hearing φ σ} {other : Hearing φ τ} (holds : checker.Holds policies hearing)
    (parts : Policy.RearrangedParts policies others)
    (roster : other.stage.rosters another.roster = others)
    (collects : other.observers.stranger = none) : another.Holds others other where
  roster := roster
  carry := parts.forall_metadata (fun metadata => metadata.isSome = true) holds.carry
  collects := collects

/-- A policy with settled leaves, and a checker that holds policies with settled leaves, decides
as before when the parts of its combinators, and its policies, are put into another order. -/
theorem evaluate_rearranged (host : Host φ σ) (request : Request) :
    (∀ policy other : Policy φ, Policy.Rearranged policy other →
      (∀ leaf ∈ policy.leaves, leaf.Settled host request) →
      ∀ stage last, ∃ granted,
        policy.Gives host request stage granted ∧ other.Gives host request last granted) ∧
    (∀ (policies others : List (Policy φ)) (checker another : Checker)
      (hearing other : Hearing φ σ), Policy.RearrangedParts policies others →
      (∀ policy ∈ policies, ∀ leaf ∈ policy.leaves, leaf.Settled host request) →
      checker.Holds policies hearing → other.stage.rosters another.roster = others →
      other.observers.stranger = none →
      ∃ granted,
        Decides hearing.observers granted (checker.evaluate host request hearing).1 ∧
        Decides other.observers granted (another.evaluate host request other).1) := by
  constructor
  · intro policy other rearranged settled stage last
    exact rearranged.gives settled stage last
  · intro policies others checker another hearing other parts settled holds roster collects
    have rearranged : Policy.Rearranged (.any policies .null .empty) (.any others .null .empty) :=
      .any .null .empty parts
    have leavesSettled := Policy.settled_any settled .null .empty
    obtain ⟨granted, gives, givesToo⟩ :=
      rearranged.gives leavesSettled hearing.stage other.stage
    have holdsToo := holds.rearranged parts roster collects
    exact ⟨granted, decides_of_any holds gives, decides_of_any holdsToo givesToo⟩

theorem settled_replyingHost (answers : Nat → Bool) (reply : Except Failure Value)
    (request : Request) (number : Nat) (name : Value) (metadata : Option Metadata) :
    (Policy.host number name metadata).Settled (replyingHost answers reply) request :=
  ⟨answers number, gives_replyingHost answers reply request number name metadata⟩

def pickyHost : Host Nat Unit :=
  replyingHost (· == 1) (.ok .null)

def numbered (number : Nat) : Policy Nat :=
  .host number (.text "leaf") (some .empty)

/-- A conjunction below a negation, and a leaf. -/
def orderedPolicies : List (Policy Nat) :=
  [.negation (.all [numbered 0, numbered 1] (.text "both") .empty) (.text "not") .empty,
    numbered 2]

def exchangedPolicies : List (Policy Nat) :=
  [numbered 2,
    .negation (.all [numbered 1, numbered 0] (.text "both") .empty) (.text "not") .empty]

theorem rearranged_orderedPolicies :
    Policy.RearrangedParts orderedPolicies exchangedPolicies := by
  have exchanged : Policy.RearrangedParts [numbered 0, numbered 1] [numbered 1, numbered 0] :=
    .permuted (List.Perm.swap _ _ _)
      (.cons (.unchanged _) (.cons (.unchanged _) .nil))
  refine .permuted (List.Perm.swap _ _ _) (.cons (.unchanged _) (.cons ?_ .nil))
  exact .negation _ _ (.all _ _ exchanged)

theorem settled_orderedPolicies (request : Request) :
    ∀ policy ∈ orderedPolicies, ∀ leaf ∈ policy.leaves,
      leaf.Settled pickyHost request := by
  have leaves : orderedPolicies.flatMap Policy.leaves = [numbered 0, numbered 1, numbered 2] :=
    rfl
  intro policy member leaf isLeaf
  have isOne : leaf ∈ orderedPolicies.flatMap Policy.leaves :=
    List.mem_flatMap.mpr ⟨policy, member, isLeaf⟩
  rw [leaves] at isOne
  simp only [List.mem_cons, List.not_mem_nil, or_false] at isOne
  rcases isOne with rfl | rfl | rfl <;> exact settled_replyingHost _ _ _ _ _ _

theorem holds_orderedPolicies :
    (⟨.standard, 0⟩ : Checker).Holds orderedPolicies (unwatchedHearing orderedPolicies) where
  roster := rfl
  carry := by decide
  collects := rfl

theorem evaluate_rearranged_exchanged :
    Policy.RearrangedParts orderedPolicies exchangedPolicies ∧
    (∀ policy ∈ orderedPolicies, ∀ leaf ∈ policy.leaves,
      leaf.Settled pickyHost blankRequest) ∧
    (⟨.standard, 0⟩ : Checker).Holds orderedPolicies (unwatchedHearing orderedPolicies) ∧
    (Policy.any exchangedPolicies .null .empty).Gives pickyHost blankRequest
      (Stage.bare ()) true ∧
    (∃ verdict, (Checker.evaluate pickyHost ⟨.standard, 0⟩ blankRequest
      (unwatchedHearing exchangedPolicies)).1 = .ok verdict ∧ verdict.isGranted = true) := by
  have parts := rearranged_orderedPolicies
  have settled := settled_orderedPolicies blankRequest
  have holds := holds_orderedPolicies
  refine ⟨parts, settled, holds, ?_, ?_⟩
  · have leavesSettled := Policy.settled_any settled .null .empty
    obtain ⟨granted, gives, givesToo⟩ :=
      (evaluate_rearranged pickyHost blankRequest).1 _ _
        (.any .null .empty parts) leavesSettled (Stage.bare ()) (Stage.bare ())
    have isGranted : granted = true := gives.unique ⟨_, _, rfl, rfl⟩
    rwa [isGranted] at givesToo
  · obtain ⟨granted, decides, decidesToo⟩ :=
      (evaluate_rearranged pickyHost blankRequest).2 _ _ ⟨.standard, 0⟩
        ⟨.standard, 0⟩ _ (unwatchedHearing exchangedPolicies) parts settled holds rfl rfl
    have isGranted : granted = true := decides.symm
    rw [isGranted] at decidesToo
    exact ⟨_, rfl, decidesToo⟩

end Checker

end AccessDecision
