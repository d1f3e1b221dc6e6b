import AccessDecision.Policy.Basic

/-!
# Building guarded policies

A builder collects one guard for each part of the request, an effect and metadata.
Setting something again replaces it, and a guard can be taken back.  The guards of the
built policy stand in a fixed order, whatever the order in which they were set.
-/

namespace AccessDecision

structure PolicyBuilder (φ : Type) where
  name : Value
  subject : Option φ
  action : Option φ
  resource : Option φ
  context : Option φ
  whole : Option φ
  effect : Effect
  metadata : Option Metadata

namespace PolicyBuilder

variable {φ : Type}

def start (name : Value) : PolicyBuilder φ :=
  { name, subject := none, action := none, resource := none, context := none,
    whole := none, effect := .allow, metadata := some .empty }

inductive Step (φ : Type) where
  | guard (part : RequestPart) (code : Option φ)
  | effect (value : Value)
  /-- Metadata by its fields, or none. -/
  | metadata (fields : Option Fields)

def Step.name : Step φ → String
  | .guard .subject _ => "subjects"
  | .guard .action _ => "actions"
  | .guard .resource _ => "resources"
  | .guard .context _ => "context"
  | .guard .whole _ => "when"
  | .effect _ => "effect"
  | .metadata _ => "security_rule"

/-- Set or take back the guard of a part. -/
def setGuard (builder : PolicyBuilder φ) (code : Option φ) :
    RequestPart → PolicyBuilder φ
  | .subject => { builder with subject := code }
  | .action => { builder with action := code }
  | .resource => { builder with resource := code }
  | .context => { builder with context := code }
  | .whole => { builder with whole := code }

/-- Perform a step.  Only an effect that does not exist and metadata with a field that
does not exist fail. -/
def step (builder : PolicyBuilder φ) : Step φ → Except Failure (PolicyBuilder φ)
  | .guard part code => .ok (builder.setGuard code part)
  | .effect value => (Effect.choice.ofValue value).map fun effect => { builder with effect }
  | .metadata fields =>
      (fields.mapM Metadata.ofArguments).map fun metadata => { builder with metadata }

/-- Perform steps in order, up to the first that fails. -/
def steps (builder : PolicyBuilder φ) : List (Step φ) → Except Failure (PolicyBuilder φ)
  | [] => .ok builder
  | first :: rest =>
      match builder.step first with
      | .ok builder => builder.steps rest
      | .error failure => .error failure

/-- The guards that are set, in their fixed order. -/
def guards (builder : PolicyBuilder φ) : List (Guard φ) :=
  [(RequestPart.subject, builder.subject), (.action, builder.action),
    (.resource, builder.resource), (.context, builder.context),
    (.whole, builder.whole)].filterMap fun (part, code) => code.map (Guard.mk part)

def build (builder : PolicyBuilder φ) : Policy φ :=
  .guarded builder.guards builder.effect builder.name builder.metadata

end PolicyBuilder

end AccessDecision
