import AccessDecision.Session.Basic

/-!
# Making what is planned

Functions, resolvers and policies are made from their plans, the parts of a policy
before the policy itself and one after the other, its metadata last.
-/

namespace AccessDecision

def FunctionPlan.make (plan : FunctionPlan) : Work HostCode := do
  let number ← Work.nextFunction
  pure (.function number plan.label plan.script plan.delay)

/-- Make a function that a policy cannot do without; it may be absent all the same. -/
def FunctionPlan.makeNeeded : Option FunctionPlan → Work HostCode
  | some plan => plan.make
  | none => pure .absent

def ResolverPlan.make : ResolverPlan → Work (Resolver HostCode)
  | .stored name => Work.find (Session.resolverOrStranger name)
  | .host function => do
      let code ← FunctionPlan.makeNeeded function
      pure (.host code)
  | .seconds timeout inner => do
      let inner ← inner.make
      let timeout ← Attempt.ofExcept (Timeout.ofSeconds timeout)
      pure (.timed timeout inner)
  | .duration timeout inner => do
      let inner ← inner.make
      let timeout ← Attempt.ofExcept (Timeout.ofDuration timeout)
      pure (.timed timeout inner)

def PolicyBuilder.perform (builder : PolicyBuilder HostCode) :
    PolicyBuilder.Step FunctionPlan → Work (PolicyBuilder HostCode)
  | .guard part none => Attempt.ofExcept (builder.step (.guard part none))
  | .guard part (some plan) => do
      let code ← plan.make
      Attempt.ofExcept (builder.step (.guard part (some code)))
  | .effect value => Attempt.ofExcept (builder.step (.effect value))
  | .metadata fields => Attempt.ofExcept (builder.step (.metadata fields))

def PolicyBuilder.performAll (builder : PolicyBuilder HostCode) :
    List (PolicyBuilder.Step FunctionPlan) → Work (PolicyBuilder HostCode)
  | [] => pure builder
  | step :: rest => do
      let builder ← builder.perform step
      builder.performAll rest

namespace PolicyPlan

def makeMetadata (fields : Option Fields) : Work (Option Metadata) :=
  Attempt.ofExcept (fields.mapM Metadata.ofArguments)

mutual

def make : PolicyPlan → Work (Policy HostCode)
  | .stored name => Work.find (Session.policyOrStranger name)
  | .host name replies metadata => do
      let number ← Work.nextFunction
      let metadata ← makeMetadata metadata
      pure (.host (.policy number name replies) name metadata)
  | .roles required held name metadata => do
      let required ← FunctionPlan.makeNeeded required
      let held ← FunctionPlan.makeNeeded held
      let metadata ← makeMetadata metadata
      pure (.byRoles required held name metadata)
  | .attributes condition name metadata => do
      let condition ← FunctionPlan.makeNeeded condition
      let metadata ← makeMetadata metadata
      pure (.byCondition condition name metadata)
  | .relationship relation resolver name metadata => do
      let resolver ← resolver.make
      let metadata ← makeMetadata metadata
      pure (.byRelationship relation resolver name metadata)
  | .all policies name metadata => do
      let policies ← makeAll policies
      let metadata ← makeMetadata metadata
      Attempt.ofExcept (Policy.allOf policies name metadata)
  | .any policies name metadata => do
      let policies ← makeAll policies
      let metadata ← makeMetadata metadata
      Attempt.ofExcept (Policy.anyOf policies name metadata)
  | .negation policy name metadata => do
      let policy ← policy.make
      let metadata ← makeMetadata metadata
      pure (.notOf policy name metadata)
  | .built name steps => do
      let builder ← (PolicyBuilder.start name).performAll steps
      pure builder.build

def makeAll : List PolicyPlan → Work (List (Policy HostCode))
  | [] => pure []
  | plan :: rest => do
      let policy ← plan.make
      let policies ← makeAll rest
      pure (policy :: policies)

end

end PolicyPlan

end AccessDecision
