import AccessDecision.Policy.Builder
import AccessDecision.Script.Host

/-!
# Plans

A plan tells how a function, a resolver or a policy is to be made.  Resolvers and
policies that already exist can be used by their names.  Metadata is planned by its
fields.
-/

namespace AccessDecision

structure FunctionPlan where
  label : Value
  script : Script
  /-- How many seconds the function takes to answer. -/
  delay : Quantity

inductive ResolverPlan where
  | stored (name : String)
  | host (function : Option FunctionPlan)
  /-- A timeout in seconds around another resolver. -/
  | seconds (timeout : Value) (inner : ResolverPlan)
  /-- A timeout given as a length of time to the microsecond. -/
  | duration (timeout : Value) (inner : ResolverPlan)

inductive PolicyPlan where
  | stored (name : String)
  | host (name : Value) (replies : List HostReply) (metadata : Option Fields)
  | roles (required held : Option FunctionPlan) (name : Option Value)
      (metadata : Option Fields)
  | attributes (condition : Option FunctionPlan) (name : Option Value)
      (metadata : Option Fields)
  | relationship (relation : Value) (resolver : ResolverPlan) (name : Option Value)
      (metadata : Option Fields)
  | all (policies : List PolicyPlan) (name : Option Value) (metadata : Option Fields)
  | any (policies : List PolicyPlan) (name : Option Value) (metadata : Option Fields)
  | negation (policy : PolicyPlan) (name : Option Value) (metadata : Option Fields)
  | built (name : Value) (steps : List (PolicyBuilder.Step FunctionPlan))

end AccessDecision
