import AccessDecision.Audit.Filter

/-!
# Audit events in memory

A memory keeps the events logged last, at most as many as its capacity allows.  It holds
the latest one first, so that logging does not walk over the others; it gives them back
in the order in which they were logged.
-/

namespace AccessDecision

/-- The latest events, the last one first. -/
structure AuditMemory where
  capacity : Option Nat
  latest : List AuditEvent

namespace AuditMemory

def empty (capacity : Option Nat) : AuditMemory :=
  ⟨capacity, []⟩

/-- The capacity that a value gives; null is no bound. -/
def capacityOf : Value → Except Failure (Option Nat)
  | .null => .ok none
  | .bool value => .ok (some value.toNat)
  | .int value =>
      if !RangeFault.fits 64 value then .error (.range .beyondSize)
      else if value < 0 then .error .negativeCapacity
      else .ok (some value.toNat)
  | _ => .error (.kind .notInteger)

/-- The events in the order in which they were logged. -/
def events (memory : AuditMemory) : List AuditEvent :=
  memory.latest.reverse

def firstEntries {α : Type} (capacity : Option Nat) (entries : List α) : List α :=
  match capacity with
  | none => entries
  | some count => entries.take count

/-- The last entries of a list, as many as the capacity allows. -/
def lastEntries {α : Type} (capacity : Option Nat) (entries : List α) : List α :=
  match capacity with
  | none => entries
  | some count => entries.drop (entries.length - count)

/-- Log an event; the oldest one is forgotten if there is no room. -/
def log (memory : AuditMemory) (event : AuditEvent) : AuditMemory :=
  { memory with latest := firstEntries memory.capacity (event :: memory.latest) }

theorem reverse_firstEntries {α : Type} (capacity : Option Nat) (entries : List α) :
    (firstEntries capacity entries).reverse = lastEntries capacity entries.reverse := by
  cases capacity with
  | none => rfl
  | some count => simp [firstEntries, lastEntries, List.reverse_take]

theorem log_events (memory : AuditMemory) (event : AuditEvent) :
    (memory.log event).events = lastEntries memory.capacity (memory.events ++ [event]) := by
  simp [events, log, reverse_firstEntries]

end AuditMemory

end AccessDecision
