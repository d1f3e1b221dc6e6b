import AccessDecision.Attempt
import AccessDecision.Audit.File
import AccessDecision.Audit.Memory

/-!
# Sinks for audit events

A sink takes audit events and gives them back.  Events are kept in memory or in a file;
a sink of the host that fails at some of its calls keeps the other events in memory.  Whether
the path of a file is one turns out when the file is used, and so does whether
something is a sink at all.
-/

namespace AccessDecision

inductive Sink where
  | memory (store : AuditMemory)
  | file (path : Value)
  /-- Fails at the calls that have a fault, by their number counted from zero and by the
  event. -/
  | failing (fault : Nat → AuditEvent → Option Failure) (calls : Nat) (store : AuditMemory)
  /-- Something else that stands in for a sink, by its kind. -/
  | stranger (kind : String)

namespace Sink

def standardCapacity : Nat :=
  1000

def standardPath : String :=
  "audit.log"

/-- The sink of a type that is given by name, with the capacity and the path that apply
to its type. -/
def create (type : Value) (capacity path : Option Value) : Except Failure Sink :=
  if type.agrees (.text "memory") then do
    let capacity ←
      AuditMemory.capacityOf (capacity.getD (.int standardCapacity))
    .ok (.memory (.empty capacity))
  else if type.agrees (.text "file") then
    .ok (.file (path.getD (.text standardPath)))
  else .error (.unknownSink type)

/-- The failure of opening a file by a descriptor. -/
def descriptorFault (descriptor : Int) : Failure :=
  if !RangeFault.fits 32 descriptor then .kind (.notPath (Value.kindName (.int descriptor)))
  else if descriptor < 0 then .file .negativeDescriptor
  else .file .badDescriptor

def pathOf : Value → Except Failure String
  | .text path => .ok path
  | .int descriptor => .error (descriptorFault descriptor)
  | .bool descriptor => .error (descriptorFault descriptor.toNat)
  | value => .error (.kind (.notPath value.kindName))

/-- Log an event; the outcome is what the caller sees. -/
def log (event : AuditEvent) : Sink → Disk → Except Failure Unit × Sink × Disk
  | .memory store, disk => (.ok (), .memory (store.log event), disk)
  | .file path, disk =>
      match (pathOf path).bind (AuditFile.log · event disk) with
      | .ok disk => (.ok (), .file path, disk)
      | .error failure => (.error failure, .file path, disk)
  | .failing fault calls store, disk =>
      match fault calls event with
      | some failure => (.error failure, .failing fault (calls + 1) store, disk)
      | none => (.ok (), .failing fault (calls + 1) (store.log event), disk)
  | .stranger kind, disk => (.error (.kind (.noField kind "log")), .stranger kind, disk)

/-- A sink of the host that fails with an error at the calls with the given numbers. -/
def failingAt (numbers : List Int) (error : Failure) : Sink :=
  .failing (fun number _ => if numbers.contains (number : Int) then some error else none) 0
    (.empty (some standardCapacity))

def events (nesting : Nat) (filter : EventFilter) (disk : Disk) :
    Sink → Except Failure (List AuditEvent) × List LogRecord
  | .memory store => (filter.select store.events, [])
  | .failing _ _ store => (filter.select store.events, [])
  | .file path =>
      match pathOf path with
      | .ok path => AuditFile.events nesting path filter disk
      | .error failure => (.error failure, [])
  | .stranger kind => (.error (.kind (.noField kind "get_events")), [])

def typeName : Sink → String
  | .memory _ => "MemoryAuditLogger"
  | .file _ => "FileAuditLogger"
  | .failing .. => "FlakySink"
  | .stranger kind => kind

end Sink

end AccessDecision
