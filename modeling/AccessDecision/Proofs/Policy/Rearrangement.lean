import AccessDecision.Proofs.Policy.Valuation

/-!
# Rearranged policies

The parts of a combinator can be put into another order, at any depth.  Where every leaf always
answers in the same way, what a policy comes to is the value of a formula whose atoms are worth
the same wherever they stand, and conjunction and disjunction do not mind the order of their
parts.
-/

namespace AccessDecision

namespace Policy

variable {φ σ : Type}

mutual

/-- A policy with the parts of its combinators in another order. -/
inductive Rearranged : Policy φ → Policy φ → Prop where
  | unchanged (policy : Policy φ) : Rearranged policy policy
  | all {policies others : List (Policy φ)} (name : Value) (metadata : Metadata)
      (parts : RearrangedParts policies others) :
      Rearranged (.all policies name metadata) (.all others name metadata)
  | any {policies others : List (Policy φ)} (name : Value) (metadata : Metadata)
      (parts : RearrangedParts policies others) :
      Rearranged (.any policies name metadata) (.any others name metadata)
  | negation {policy other : Policy φ} (name : Value) (metadata : Metadata)
      (part : Rearranged policy other) :
      Rearranged (.negation policy name metadata) (.negation other name metadata)

/-- Policies that are rearranged one by one, in another order. -/
inductive RearrangedParts : List (Policy φ) → List (Policy φ) → Prop where
  | nil : RearrangedParts [] []
  | cons {policy other : Policy φ} {policies others : List (Policy φ)}
      (first : Rearranged policy other) (rest : RearrangedParts policies others) :
      RearrangedParts (policy :: policies) (other :: others)
  | permuted {policies middle others : List (Policy φ)} (perm : policies.Perm middle)
      (parts : RearrangedParts middle others) : RearrangedParts policies others

end

theorem Rearranged.metadata_eq {policy other : Policy φ} (rearranged : Rearranged policy other) :
    policy.metadata = other.metadata := by
  cases rearranged <;> rfl

/-- What is asked of the metadata of each policy holds of the rearranged ones too. -/
theorem RearrangedParts.forall_metadata (holds : Option Metadata → Prop) :
    ∀ {policies others : List (Policy φ)}, RearrangedParts policies others →
      (∀ policy ∈ policies, holds policy.metadata) → ∀ other ∈ others, holds other.metadata
  | _, _, .nil, _ => by simp
  | _, _, .cons first rest, carry => by
      rw [List.forall_mem_cons] at carry ⊢
      exact ⟨first.metadata_eq ▸ carry.1, rest.forall_metadata holds carry.2⟩
  | _, _, .permuted perm parts, carry =>
      parts.forall_metadata holds fun policy member => carry policy (perm.mem_iff.mpr member)

/-- The value of a policy whose leaves are worth the same wherever they stand. -/
def valueBy (worth : Policy φ → Bool) (policy : Policy φ) : Bool :=
  policy.formula.value fun occurrence => worth occurrence.leaf

theorem value_join {α : Type} {operation : Connective} (isBinary : operation ≠ .not)
    (valuation : α → Bool) (first second : Formula α) :
    (Formula.join operation first second).value valuation =
      if operation.settledBy (first.value valuation) then first.value valuation
      else second.value valuation := by
  cases operation with
  | and =>
      rw [Formula.join, Formula.value]
      cases first.value valuation <;> rfl
  | or =>
      rw [Formula.join, Formula.value]
      cases first.value valuation <;> rfl
  | not => exact absurd rfl isBinary

theorem combine_perm {operation : Connective} (isBinary : operation ≠ .not)
    {outcomes others : List Bool} (perm : outcomes.Perm others) :
    operation.combine outcomes = operation.combine others := by
  cases operation with
  | and => exact perm.all_eq
  | or => exact perm.any_eq
  | not => exact absurd rfl isBinary

theorem value_joinedFrom {operation : Connective} (isBinary : operation ≠ .not)
    {worth : Policy φ → Bool} {policies : List (Policy φ)}
    (members : ∀ policy ∈ policies, ∀ start,
      (policy.formulaFrom start).value (fun occurrence => worth occurrence.leaf) =
        policy.valueBy worth)
    (start : Nat) :
    (joinedFrom operation start policies).value (fun occurrence => worth occurrence.leaf) =
      operation.combine (policies.map (valueBy worth)) := by
  induction policies generalizing start with
  | nil => rfl
  | cons policy rest ih =>
      have first := members policy (by simp) start
      have later := ih (fun policy member => members policy (by simp [member]))
        (start + policy.width)
      rw [joinedFrom, value_join isBinary, first, later, List.map_cons, combine_cons isBinary]

theorem value_formulaFrom (worth : Policy φ → Bool) (policy : Policy φ) (start : Nat) :
    (policy.formulaFrom start).value (fun occurrence => worth occurrence.leaf) =
      policy.valueBy worth := by
  induction policy using inductionOnParts generalizing start with
  | leaf policy leaf =>
      rw [valueBy, formula, formulaFrom_leaf leaf, formulaFrom_leaf leaf]
      rfl
  | all policies name metadata ih =>
      rw [valueBy, formula, formulaFrom, formulaFrom, value_joinedFrom (by decide) ih,
        value_joinedFrom (by decide) ih]
  | any policies name metadata ih =>
      rw [valueBy, formula, formulaFrom, formulaFrom, value_joinedFrom (by decide) ih,
        value_joinedFrom (by decide) ih]
  | negation policy name metadata ih =>
      rw [valueBy, formula, formulaFrom, formulaFrom, Formula.value, Formula.value, ih, ih 0]

theorem valueBy_all (worth : Policy φ → Bool) (policies : List (Policy φ)) (name : Value)
    (metadata : Metadata) :
    (Policy.all policies name metadata).valueBy worth =
      Connective.and.combine (policies.map (valueBy worth)) := by
  rw [valueBy, formula, formulaFrom]
  exact value_joinedFrom (by decide) (fun policy _ => policy.value_formulaFrom worth) 0

theorem valueBy_any (worth : Policy φ → Bool) (policies : List (Policy φ)) (name : Value)
    (metadata : Metadata) :
    (Policy.any policies name metadata).valueBy worth =
      Connective.or.combine (policies.map (valueBy worth)) := by
  rw [valueBy, formula, formulaFrom]
  exact value_joinedFrom (by decide) (fun policy _ => policy.value_formulaFrom worth) 0

theorem valueBy_negation (worth : Policy φ → Bool) (policy : Policy φ) (name : Value)
    (metadata : Metadata) :
    (Policy.negation policy name metadata).valueBy worth = !policy.valueBy worth := by
  rw [valueBy, formula, formulaFrom, Formula.value, value_formulaFrom]

def leaves (policy : Policy φ) : List (Policy φ) :=
  policy.formula.atoms.map Occurrence.leaf

theorem leaves_joinedFrom {operation : Connective} (isBinary : operation ≠ .not)
    {policies : List (Policy φ)}
    (members : ∀ policy ∈ policies, ∀ start,
      (policy.formulaFrom start).atoms.map Occurrence.leaf = policy.leaves)
    (start : Nat) :
    (joinedFrom operation start policies).atoms.map Occurrence.leaf =
      policies.flatMap leaves := by
  induction policies generalizing start with
  | nil => rfl
  | cons policy rest ih =>
      have first := members policy (by simp) start
      have later := ih (fun policy member => members policy (by simp [member]))
        (start + policy.width)
      rw [joinedFrom, Formula.atoms_join isBinary, List.map_append, first, later,
        List.flatMap_cons]

theorem leaves_formulaFrom (policy : Policy φ) (start : Nat) :
    (policy.formulaFrom start).atoms.map Occurrence.leaf = policy.leaves := by
  induction policy using inductionOnParts generalizing start with
  | leaf policy leaf =>
      rw [leaves, formula, formulaFrom_leaf leaf, formulaFrom_leaf leaf]
      rfl
  | all policies name metadata ih =>
      rw [leaves, formula, formulaFrom, formulaFrom, leaves_joinedFrom (by decide) ih,
        leaves_joinedFrom (by decide) ih]
  | any policies name metadata ih =>
      rw [leaves, formula, formulaFrom, formulaFrom, leaves_joinedFrom (by decide) ih,
        leaves_joinedFrom (by decide) ih]
  | negation policy name metadata ih =>
      rw [leaves, formula, formulaFrom, formulaFrom, Formula.atoms, Formula.atoms, ih, ih 0]

theorem leaves_all (policies : List (Policy φ)) (name : Value) (metadata : Metadata) :
    (Policy.all policies name metadata).leaves = policies.flatMap leaves := by
  rw [leaves, formula, formulaFrom]
  exact leaves_joinedFrom (by decide) (fun policy _ => policy.leaves_formulaFrom) 0

theorem leaves_any (policies : List (Policy φ)) (name : Value) (metadata : Metadata) :
    (Policy.any policies name metadata).leaves = policies.flatMap leaves := by
  rw [leaves, formula, formulaFrom]
  exact leaves_joinedFrom (by decide) (fun policy _ => policy.leaves_formulaFrom) 0

theorem leaves_negation (policy : Policy φ) (name : Value) (metadata : Metadata) :
    (Policy.negation policy name metadata).leaves = policy.leaves := by
  rw [leaves, formula, formulaFrom, Formula.atoms, leaves_formulaFrom]

mutual

/-- A rearranged policy has the same leaves. -/
theorem Rearranged.leaves_perm :
    ∀ {policy other : Policy φ}, Rearranged policy other → policy.leaves.Perm other.leaves
  | _, _, .unchanged _ => .refl _
  | _, _, .all name metadata parts => by
      rw [leaves_all, leaves_all]
      exact parts.leaves_perm
  | _, _, .any name metadata parts => by
      rw [leaves_any, leaves_any]
      exact parts.leaves_perm
  | _, _, .negation name metadata part => by
      rw [leaves_negation, leaves_negation]
      exact part.leaves_perm

theorem RearrangedParts.leaves_perm :
    ∀ {policies others : List (Policy φ)}, RearrangedParts policies others →
      (policies.flatMap leaves).Perm (others.flatMap leaves)
  | _, _, .nil => .refl _
  | _, _, .cons first rest => by
      rw [List.flatMap_cons, List.flatMap_cons]
      exact first.leaves_perm.append rest.leaves_perm
  | _, _, .permuted perm parts => (perm.flatMap_right leaves).trans parts.leaves_perm

end

mutual

/-- Rearranging a policy does not change its value. -/
theorem Rearranged.valueBy_eq (worth : Policy φ → Bool) :
    ∀ {policy other : Policy φ}, Rearranged policy other →
      policy.valueBy worth = other.valueBy worth
  | _, _, .unchanged _ => rfl
  | _, _, .all name metadata parts => by
      rw [valueBy_all, valueBy_all]
      exact combine_perm (by decide) (parts.perm worth)
  | _, _, .any name metadata parts => by
      rw [valueBy_any, valueBy_any]
      exact combine_perm (by decide) (parts.perm worth)
  | _, _, .negation name metadata part => by
      rw [valueBy_negation, valueBy_negation, part.valueBy_eq worth]

theorem RearrangedParts.perm (worth : Policy φ → Bool) :
    ∀ {policies others : List (Policy φ)}, RearrangedParts policies others →
      (policies.map (valueBy worth)).Perm (others.map (valueBy worth))
  | _, _, .nil => .nil
  | _, _, .cons first rest => by
      rw [List.map_cons, List.map_cons, first.valueBy_eq worth]
      exact (rest.perm worth).cons _
  | _, _, .permuted perm parts => (perm.map _).trans (parts.perm worth)

end

/-- A leaf gives results on all stages, always with the same outcome. -/
def Settled (host : Host φ σ) (request : Request) (leaf : Policy φ) : Prop :=
  ∃ granted, ∀ stage, leaf.Gives host request stage granted

theorem settled_any {host : Host φ σ} {request : Request} {policies : List (Policy φ)}
    (settled : ∀ policy ∈ policies, ∀ leaf ∈ policy.leaves, leaf.Settled host request)
    (name : Value) (metadata : Metadata) :
    ∀ leaf ∈ (Policy.any policies name metadata).leaves, leaf.Settled host request := by
  intro leaf member
  rw [leaves_any, List.mem_flatMap] at member
  obtain ⟨policy, isPolicy, isLeaf⟩ := member
  exact settled policy isPolicy leaf isLeaf

/-- What a policy comes to on a stage, where it gives a result. -/
def outcomeOn (host : Host φ σ) (request : Request) (stage : Stage φ σ) (policy : Policy φ) :
    Bool :=
  match (policy.evaluate host request stage).1 with
  | .ok result => result.isGranted
  | .error _ => false

theorem Gives.outcomeOn_eq {host : Host φ σ} {request : Request} {policy : Policy φ}
    {stage : Stage φ σ} {granted : Bool} (gives : policy.Gives host request stage granted) :
    policy.outcomeOn host request stage = granted := by
  obtain ⟨result, later, evaluates, rfl⟩ := gives
  rw [outcomeOn, evaluates]

theorem gives_valueBy {host : Host φ σ} {request : Request} {policy : Policy φ}
    (settled : ∀ leaf ∈ policy.leaves, leaf.Settled host request) (begun stage : Stage φ σ) :
    policy.Gives host request stage (policy.valueBy (outcomeOn host request begun)) := by
  have answered : AnsweredBy host request
      (fun occurrence => occurrence.leaf.outcomeOn host request begun) policy.formula := by
    intro occurrence isAtom later
    obtain ⟨granted, gives⟩ := settled occurrence.leaf (List.mem_map_of_mem isAtom)
    have outcome := (gives begun).outcomeOn_eq
    simpa only [outcome] using gives later
  exact gives_value answered stage

/-- Rearranging a policy with settled leaves does not change what it comes to. -/
theorem Rearranged.gives {host : Host φ σ} {request : Request} {policy other : Policy φ}
    (rearranged : Rearranged policy other)
    (settled : ∀ leaf ∈ policy.leaves, leaf.Settled host request) (stage last : Stage φ σ) :
    ∃ granted, policy.Gives host request stage granted ∧
      other.Gives host request last granted := by
  have settledToo : ∀ leaf ∈ other.leaves, leaf.Settled host request :=
    fun leaf member => settled leaf (rearranged.leaves_perm.mem_iff.mpr member)
  -- Both policies are valued by what their leaves come to on the stage of the first.
  refine ⟨policy.valueBy (outcomeOn host request stage), gives_valueBy settled stage stage, ?_⟩
  rw [rearranged.valueBy_eq]
  exact gives_valueBy settledToo stage last

end Policy

end AccessDecision
