import AccessDecision.Value.Basic

/-!
# Requests

A request asks whether a subject may perform an action on a resource in a context.
The functions that decide about it see only a part of it, in an order of their own.
-/

namespace AccessDecision

structure Request where
  subject : Value
  action : Value
  resource : Value
  context : Value

inductive RequestPart where
  | subject
  | action
  | resource
  | context
  | whole
deriving DecidableEq

namespace RequestPart

/-- A part of a request as the arguments of a function. -/
def arguments (request : Request) : RequestPart → List Value
  | .subject => [request.subject]
  | .action => [request.action]
  | .resource => [request.resource]
  | .context => [request.context]
  | .whole => [request.subject, request.action, request.resource, request.context]

end RequestPart

end AccessDecision
