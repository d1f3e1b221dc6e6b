import AccessDecision.Failure.Kind
import AccessDecision.Value.Display

/-!
# Faults

A fault is an error of the library itself: mistakes in building policies, unusable
settings, and denials that a caller turns into an error.  It carries a code, a message
and details.  Details that a caller hands in and that do not count as false stay shared
with the fault, so the fields a fault adds appear in them as well.
-/

namespace AccessDecision

inductive ErrorCode where
  | invalidPolicy
  | forbidden
  | configuration
  | internal
deriving DecidableEq

def ErrorCode.label : ErrorCode → String
  | .invalidPolicy => "invalid_policy"
  | .forbidden => "forbidden"
  | .configuration => "configuration_error"
  | .internal => "internal_error"

inductive FaultKind where
  | general
  | emptyPolicySet
  | configuration
  | accessDenied
deriving DecidableEq

def FaultKind.label : FaultKind → String
  | .general => "GatehouseError"
  | .emptyPolicySet => "EmptyPolicySetError"
  | .configuration => "ConfigurationError"
  | .accessDenied => "AccessDeniedError"

structure Fault where
  kind : FaultKind
  code : ErrorCode
  message : Value
  details : Value
  /-- The text of the error behind this one. -/
  cause : Option String

namespace Fault

/-- The details that a fault starts with: those handed in, unless they count as
false. -/
def ownDetails (given : Value) : Value :=
  if given.truthy then given else .object []

/-- Details with one more field, which only an object can take. -/
def addDetail (name : String) (value details : Value) : Except KindFault Value :=
  match details with
  | .object fields => .ok (.object (Entries.set name value fields))
  | .brokenObject fields =>
      .ok (.brokenObject (Entries.set (name.toList.map Char.toNat) value fields))
  | .list _ => .error .listIndex
  | other => .error (.notSettable other.kindName)

def general (message : Value) (code : ErrorCode) (details : Value)
    (cause : Option String) : Fault :=
  { kind := .general, code, message, details := ownDetails details, cause }

def noPolicies (combinator : Value) : Fault :=
  { kind := .emptyPolicySet
    code := .invalidPolicy
    message := .text (combinator.display ++ " requires at least one policy")
    details := .object [("combinator", combinator)]
    cause := none }

/-- A combinator was given no policies, with details to add that to. -/
def emptyPolicySet (combinator details : Value) : Except KindFault Fault :=
  (addDetail "combinator" combinator (ownDetails details)).map fun details =>
    { noPolicies combinator with details }

def badSettings (message : Value) : Fault :=
  { kind := .configuration, code := .configuration, message, details := .object []
    cause := none }

/-- A setting is unusable, with details to add that to.  Its name is recorded unless it
counts as false, and its value unless that is null. -/
def configuration (message key value details : Value) : Except KindFault Fault := do
  let details := ownDetails details
  let details ← if key.truthy then addDetail "config_key" key details else .ok details
  let details ←
    match value with
    | .null => .ok details
    | value => addDetail "config_value" (.text value.display) details
  .ok { badSettings message with details }

def accessDenied (reason details : Value) : Fault :=
  { kind := .accessDenied, code := .forbidden, message := reason
    details := ownDetails details, cause := none }

def text (fault : Fault) : String :=
  fault.code.label ++ ": " ++ fault.message.display

def record (fault : Fault) : Fields :=
  [("error", .text fault.code.label), ("message", fault.message),
    ("details", fault.details)] ++
    (fault.cause.map fun cause => ("cause", Value.text cause)).toList

/-- What becomes of the details that a caller handed in. -/
def callerDetails (given : Value) (fault : Fault) : Value :=
  if given.truthy then fault.details else given

end Fault

end AccessDecision
