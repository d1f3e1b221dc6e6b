import AccessDecision.Failure
import AccessDecision.Timestamp.Clock
import AccessDecision.Timestamp.Printer
import AccessDecision.Timestamp.Reader

/-!
# Audit events

An audit event records what one policy decided about one request.  Apart from its
timestamp every field is kept as it was given, and an event can be turned into a record
and back.
-/

namespace AccessDecision

structure AuditEvent where
  eventId : Value
  timestamp : ClockTime
  checker : Value
  policyName : Value
  outcome : Value
  reason : Value
  category : Value
  ruleName : Value
  rulesetName : Value
  details : Value

namespace AuditEvent

def record (event : AuditEvent) : Fields :=
  [("event_id", event.eventId), ("timestamp", .text event.timestamp.text),
    ("checker", event.checker), ("policy_name", event.policyName),
    ("outcome", event.outcome), ("reason", event.reason), ("category", event.category),
    ("rule_name", event.ruleName), ("ruleset_name", event.rulesetName),
    ("details", event.details)]

/-- An event as it is written, which does not tell the clock of its timestamp. -/
def asWritten (event : AuditEvent) : AuditEvent :=
  { event with timestamp := event.timestamp.asWritten }

theorem asWritten_of_fixed {event : AuditEvent} (fixed : event.timestamp.clock = none) :
    event.asWritten = event := by
  rw [asWritten, ClockTime.asWritten_of_fixed fixed]

def required (fields : Fields) (key : String) : Except Failure Value :=
  match fields.get? key with
  | some value => .ok value
  | none => .error (.missingKey (.text key))

def timestampOf : Value → Except Failure Timestamp
  | .text text => (Timestamp.read text).mapError .timestamp
  | .brokenText codes => (Timestamp.readCodes codes).mapError .timestamp
  | _ => .error (.timestamp .notText)

/-- The event that a record gives.  The first required field that is missing is
reported, the identifier and the timestamp last. -/
def ofRecord (fields : Fields) : Except Failure AuditEvent := do
  let checker ← required fields "checker"
  let policyName ← required fields "policy_name"
  let outcome ← required fields "outcome"
  let eventId ← required fields "event_id"
  let timestamp ← timestampOf (← required fields "timestamp")
  let optional := fun key => (fields.get? key).getD .null
  .ok { eventId, timestamp, checker, policyName, outcome
        reason := optional "reason"
        category := optional "category"
        ruleName := optional "rule_name"
        rulesetName := optional "ruleset_name"
        details := (fields.get? "details").getD (.object []) }

/-- The failure of asking a value that is no object for a field. -/
def notRecord : Value → KindFault
  | .list _ => .listIndex
  | .text _ | .brokenText _ => .textIndex
  | value => .notSubscriptable value.kindName

def ofValue (value : Value) : Except Failure AuditEvent :=
  match value.fields? with
  | some fields => ofRecord fields
  | none => .error (.kind (notRecord value))

end AuditEvent

end AccessDecision
