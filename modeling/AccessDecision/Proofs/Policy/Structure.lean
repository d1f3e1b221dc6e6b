import AccessDecision.Policy.Evaluation
import AccessDecision.Proofs.Formula

/-!
# The structure of policies

A policy is a tree: combinators stand at its inner nodes, and everything else is a leaf.
What holds of every leaf and passes from the parts of a combinator to the combinator holds
of every policy.  The same leaf may stand at several places, so the leaves are numbered from
left to right; a policy is then a Boolean formula over its numbered leaves.
-/

namespace AccessDecision

/-- A leaf of a policy at one of the places where it stands. -/
structure Occurrence (φ : Type) where
  /-- How many leaves stand to the left. -/
  number : Nat
  leaf : Policy φ

namespace Policy

variable {φ : Type}

def isLeaf : Policy φ → Bool
  | .all .. | .any .. | .negation .. => false
  | _ => true

@[elab_as_elim]
theorem inductionOnParts {motive : Policy φ → Prop}
    (leaf : ∀ policy, policy.isLeaf = true → motive policy)
    (all : ∀ policies name metadata, (∀ policy ∈ policies, motive policy) →
      motive (.all policies name metadata))
    (any : ∀ policies name metadata, (∀ policy ∈ policies, motive policy) →
      motive (.any policies name metadata))
    (negation : ∀ policy name metadata, motive policy →
      motive (.negation policy name metadata))
    (policy : Policy φ) : motive policy :=
  match policy with
  | .all policies name metadata =>
      all policies name metadata fun policy _ => inductionOnParts leaf all any negation policy
  | .any policies name metadata =>
      any policies name metadata fun policy _ => inductionOnParts leaf all any negation policy
  | .negation policy name metadata =>
      negation policy name metadata (inductionOnParts leaf all any negation policy)
  | .host .. => leaf _ rfl
  | .roles .. => leaf _ rfl
  | .attributes .. => leaf _ rfl
  | .relationship .. => leaf _ rfl
  | .guarded .. => leaf _ rfl
  | .checker _ => leaf _ rfl
  | .standIn _ => leaf _ rfl

mutual

def width : Policy φ → Nat
  | .all policies _ _ | .any policies _ _ => totalWidth policies
  | .negation policy _ _ => policy.width
  | _ => 1

def totalWidth : List (Policy φ) → Nat
  | [] => 0
  | policy :: rest => policy.width + totalWidth rest

end

mutual

/-- The formula of a policy whose leaves have numbers from `start` on. -/
def formulaFrom (start : Nat) : Policy φ → Formula (Occurrence φ)
  | .all policies _ _ => joinedFrom .and start policies
  | .any policies _ _ => joinedFrom .or start policies
  | .negation policy _ _ => .negation (policy.formulaFrom start)
  | leaf => .atom ⟨start, leaf⟩

def joinedFrom (operation : Connective) (start : Nat) :
    List (Policy φ) → Formula (Occurrence φ)
  | [] => .constant (operation.combine [])
  | policy :: rest =>
      .join operation (policy.formulaFrom start)
        (joinedFrom operation (start + policy.width) rest)

end

def formula (policy : Policy φ) : Formula (Occurrence φ) :=
  policy.formulaFrom 0

theorem width_leaf {policy : Policy φ} (leaf : policy.isLeaf = true) : policy.width = 1 := by
  cases policy <;> first | rfl | cases leaf

theorem formulaFrom_leaf {policy : Policy φ} (leaf : policy.isLeaf = true) (start : Nat) :
    policy.formulaFrom start = .atom ⟨start, policy⟩ := by
  cases policy <;> first | rfl | cases leaf

theorem numbers_joinedFrom {operation : Connective} (isBinary : operation ≠ .not)
    {policies : List (Policy φ)}
    (members : ∀ policy ∈ policies, ∀ start,
      (policy.formulaFrom start).atoms.map Occurrence.number =
        List.range' start policy.width)
    (start : Nat) :
    (joinedFrom operation start policies).atoms.map Occurrence.number =
      List.range' start (totalWidth policies) := by
  induction policies generalizing start with
  | nil => rfl
  | cons policy rest ih =>
      have first := members policy (by simp) start
      have later := ih (fun policy member => members policy (by simp [member]))
        (start + policy.width)
      rw [joinedFrom, Formula.atoms_join isBinary, List.map_append, first, later, totalWidth,
        List.range'_append_1]

/-- The leaves of a policy have different numbers, which grow from left to right. -/
theorem numbers_formulaFrom (policy : Policy φ) (start : Nat) :
    (policy.formulaFrom start).atoms.map Occurrence.number =
      List.range' start policy.width := by
  induction policy using inductionOnParts generalizing start with
  | leaf policy leaf =>
      rw [formulaFrom_leaf leaf, width_leaf leaf]
      rfl
  | all policies name metadata ih =>
      rw [formulaFrom, width]
      exact numbers_joinedFrom (by decide) ih start
  | any policies name metadata ih =>
      rw [formulaFrom, width]
      exact numbers_joinedFrom (by decide) ih start
  | negation policy name metadata ih =>
      rw [formulaFrom, width]
      exact ih start

theorem isLeaf_of_mem_joinedFrom {operation : Connective} (isBinary : operation ≠ .not)
    {policies : List (Policy φ)}
    (members : ∀ policy ∈ policies, ∀ start, ∀ occurrence ∈ (policy.formulaFrom start).atoms,
      occurrence.leaf.isLeaf = true)
    (start : Nat) :
    ∀ occurrence ∈ (joinedFrom operation start policies).atoms,
      occurrence.leaf.isLeaf = true := by
  induction policies generalizing start with
  | nil => simp [joinedFrom, Formula.atoms]
  | cons policy rest ih =>
      intro occurrence member
      rw [joinedFrom, Formula.atoms_join isBinary] at member
      rcases List.mem_append.mp member with here | there
      · exact members policy (by simp) start occurrence here
      · exact ih (fun policy member => members policy (by simp [member])) _ occurrence there

theorem isLeaf_of_mem_atoms (policy : Policy φ) (start : Nat) :
    ∀ occurrence ∈ (policy.formulaFrom start).atoms, occurrence.leaf.isLeaf = true := by
  induction policy using inductionOnParts generalizing start with
  | leaf policy leaf =>
      rw [formulaFrom_leaf leaf]
      simpa [Formula.atoms] using leaf
  | all policies name metadata ih =>
      rw [formulaFrom]
      exact isLeaf_of_mem_joinedFrom (by decide) ih start
  | any policies name metadata ih =>
      rw [formulaFrom]
      exact isLeaf_of_mem_joinedFrom (by decide) ih start
  | negation policy name metadata ih =>
      rw [formulaFrom]
      exact ih start

end Policy

end AccessDecision
