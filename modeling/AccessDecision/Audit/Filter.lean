import AccessDecision.Audit.Event
import AccessDecision.Value.Agreement

/-!
# Selecting audit events

A filter asks for events with a given policy name, with a given outcome, from a first
instant on and up to a last one, both included.  What is not asked for does not matter.
-/

namespace AccessDecision

structure EventFilter where
  policyName : Option Value
  outcome : Option Value
  first : Option ClockTime
  last : Option ClockTime

namespace EventFilter

def everything : EventFilter :=
  ⟨none, none, none, none⟩

def isBefore (left right : ClockTime) : Except Failure Bool :=
  if left.comparable right then .ok (decide (left.lead right < 0))
  else .error .mixedOffsets

/-- Whether an event passes.  Later conditions are examined only if the earlier ones
hold. -/
def accepts (filter : EventFilter) (event : AuditEvent) : Except Failure Bool := do
  if filter.policyName.any (!event.policyName.agrees ·) then return false
  if filter.outcome.any (!event.outcome.agrees ·) then return false
  if let some first := filter.first then
    if ← isBefore event.timestamp first then return false
  if let some last := filter.last then
    if ← isBefore last event.timestamp then return false
  return true

def select (filter : EventFilter) : List AuditEvent → Except Failure (List AuditEvent)
  | [] => .ok []
  | event :: rest => do
      let accepted ← filter.accepts event
      let selected ← filter.select rest
      .ok (if accepted then event :: selected else selected)

end EventFilter

end AccessDecision
