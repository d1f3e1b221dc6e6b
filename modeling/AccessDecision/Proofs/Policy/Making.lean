import AccessDecision.Proofs.Policy.Building

/-!
# Policies of the library

The library makes policies in seven ways, from whatever parts.  Each of them takes metadata, which
can be left out, and puts empty ones in their place then.  Only a builder keeps it when it is told
that there are none: what it builds from that has no metadata.
-/

namespace AccessDecision

/-- A builder has the metadata that it was last given, or empty ones. -/
theorem PolicyBuilder.metadata_of_steps {φ : Type} {name : Value} {calls : List (Step φ)}
    {builder : PolicyBuilder φ} (steps : (start name).steps calls = .ok builder) :
    builder.metadata = (last Step.metadata? calls).getD (some .empty) := by
  rcases accepted_or_refused calls with
    accepted | ⟨before, call, after, failure, rfl, earlier, refused⟩
  · obtain ⟨built, makes, overlays⟩ :=
      steps_of_accepted (start name) accepted
    cases steps.symm.trans makes
    exact overlays.metadata
  · rw [steps_of_refused (start name) earlier refused] at steps
    cases steps

namespace Policy

variable {φ : Type} {policy : Policy φ} {given : Option Metadata}

/-- A policy that the library made, with the metadata that it was given, if there are any. -/
inductive Made : Policy φ → Option Metadata → Prop where
  | byRoles (required held : φ) (name : Option Value) (metadata : Option Metadata) :
      Made (.byRoles required held name metadata) metadata
  | byCondition (condition : φ) (name : Option Value) (metadata : Option Metadata) :
      Made (.byCondition condition name metadata) metadata
  | byRelationship (relation : Value) (resolver : Resolver φ) (name : Option Value)
      (metadata : Option Metadata) :
      Made (.byRelationship relation resolver name metadata) metadata
  | allOf {policies : List (Policy φ)} {name : Option Value} {metadata : Option Metadata}
      {joint : Policy φ} (makes : Policy.allOf policies name metadata = .ok joint) :
      Made joint metadata
  | anyOf {policies : List (Policy φ)} {name : Option Value} {metadata : Option Metadata}
      {joint : Policy φ} (makes : Policy.anyOf policies name metadata = .ok joint) :
      Made joint metadata
  | notOf (policy : Policy φ) (name : Option Value) (metadata : Option Metadata) :
      Made (.notOf policy name metadata) metadata
  | built {name : Value} {calls : List (PolicyBuilder.Step φ)} {builder : PolicyBuilder φ}
      (steps : (PolicyBuilder.start name).steps calls = .ok builder) :
      Made builder.build (PolicyBuilder.last PolicyBuilder.Step.metadata? calls).join

/-- A policy from a builder that was last told that there are no metadata. -/
inductive Stripped : Policy φ → Prop where
  | built {name : Value} {calls : List (PolicyBuilder.Step φ)} {builder : PolicyBuilder φ}
      (steps : (PolicyBuilder.start name).steps calls = .ok builder)
      (withdrawn : PolicyBuilder.last PolicyBuilder.Step.metadata? calls = some none) :
      Stripped builder.build

theorem Stripped.metadata_eq_none (stripped : policy.Stripped) : policy.metadata = none := by
  obtain ⟨steps, withdrawn⟩ := stripped
  exact (PolicyBuilder.metadata_of_steps steps).trans (by rw [withdrawn]; rfl)

theorem combinator_eq_ok {build : List (Policy φ) → Value → Metadata → Policy φ}
    {standard : String} {policies : List (Policy φ)} {name : Option Value}
    (makes : combinator build standard policies name given = .ok policy) :
    policy = build policies (nameOr standard name) (given.getD .empty) := by
  rw [combinator] at makes
  split at makes
  · cases makes
  · cases makes
    rfl

namespace Made

/-- A policy has the metadata that it was made with, or empty ones, unless it was stripped of
them. -/
theorem metadata_eq (made : policy.Made given) :
    policy.metadata = some (given.getD .empty) ∨ policy.Stripped ∧ given = none := by
  cases made with
  | byRoles | byCondition | byRelationship | notOf => exact .inl rfl
  | allOf makes | anyOf makes =>
      rw [combinator_eq_ok makes]
      exact .inl rfl
  | @built name calls builder steps =>
      have carries : builder.build.metadata =
          (PolicyBuilder.last PolicyBuilder.Step.metadata? calls).getD (some .empty) :=
        PolicyBuilder.metadata_of_steps steps
      rcases last : PolicyBuilder.last PolicyBuilder.Step.metadata? calls with - | - | metadata
      · exact .inl (by rw [carries, last]; rfl)
      · exact .inr ⟨.built steps last, rfl⟩
      · exact .inl (by rw [carries, last]; rfl)

theorem ne_checker (made : policy.Made given) (number : Nat) : policy ≠ .checker number := by
  cases made with
  | byRoles | byCondition | byRelationship | notOf | built => nofun
  | allOf makes | anyOf makes =>
      rw [combinator_eq_ok makes]
      nofun

end Made

end Policy

end AccessDecision
