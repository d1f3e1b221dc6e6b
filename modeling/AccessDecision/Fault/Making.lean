import AccessDecision.Choice

/-!
# Making faults

A fault can be made from named arguments.  Each kind of fault knows some names, the
first of which must be given.
-/

namespace AccessDecision

/-- Accept named arguments that are all known, with the needed ones among them.  An
unknown one is reported before a missing one. -/
def checkArguments (maker : String) (needed known : List String) (arguments : Fields) :
    Except KindFault Unit :=
  match arguments.find? fun argument => !known.contains argument.1 with
  | some argument => .error (.unexpectedArgument maker argument.1)
  | none =>
      match needed.find? fun name => (arguments.get? name).isNone with
      | some name => .error (.missingArgument maker name)
      | none => .ok ()

namespace FaultKind

def parameters : FaultKind → List String
  | .general => ["message", "error_code", "details", "cause"]
  | .emptyPolicySet => ["combinator", "details"]
  | .configuration => ["message", "config_key", "config_value", "details"]
  | .accessDenied => ["reason", "details"]

end FaultKind

namespace Fault

/-- The fault of a kind that some arguments give.  The code is examined first, whether
or not the kind takes one. -/
def ofArguments (kind : FaultKind) (arguments : Fields) (cause : Option String) :
    Except Failure Fault := do
  let code ←
    match arguments.get? "error_code" with
    | some code => ErrorCode.choice.ofValue code
    | none => .ok .internal
  let argument := fun name => (arguments.get? name).getD .null
  let details := argument "details"
  Except.mapError Failure.kind do
    checkArguments kind.label (kind.parameters.take 1) kind.parameters arguments
    match kind with
    | .general => .ok (general (argument "message") code details cause)
    | .emptyPolicySet => emptyPolicySet (argument "combinator") details
    | .configuration =>
        configuration (argument "message") (argument "config_key") (argument "config_value")
          details
    | .accessDenied => .ok (accessDenied (argument "reason") details)

end Fault

end AccessDecision
