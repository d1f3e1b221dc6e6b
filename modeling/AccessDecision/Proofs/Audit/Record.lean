import AccessDecision.Audit.File
import AccessDecision.Proofs.Json.RoundTrip
import AccessDecision.Proofs.Timestamp.RoundTrip

/-!
# Events and their lines

An event is given back by its record, and by the line that its record is written to, if its
fields are plain values and its offset is nothing or at least a second.  Only the clock of its
timestamp is not told.
-/

namespace AccessDecision

namespace AuditEvent

/-- An event that a line of a file can keep where lists and objects nest up to a limit. -/
structure Storable (nesting : Nat) (event : AuditEvent) : Prop where
  plain : (Value.object event.record).Plain nesting
  counts : ∀ ahead ∈ event.timestamp.offset, ahead = 0 ∨ 1000000 ≤ ahead.natAbs

theorem timestampOf_text {time : Timestamp}
    (counts : ∀ ahead ∈ time.offset, ahead = 0 ∨ 1000000 ≤ ahead.natAbs) :
    timestampOf (.text time.text) = .ok time := by
  rw [timestampOf, time.read_text counts]
  rfl

/-- An event is given back by its record. -/
theorem ofValue_record {event : AuditEvent}
    (counts : ∀ ahead ∈ event.timestamp.offset, ahead = 0 ∨ 1000000 ≤ ahead.natAbs) :
    ofValue (.object event.record) = .ok event.asWritten := by
  have timestamp := timestampOf_text counts
  simp only [ofValue, Value.fields?, ofRecord, required, record, Fields.get?, List.lookup_cons]
  simp [bind, Except.bind, timestamp, asWritten, ClockTime.asWritten]

end AuditEvent

namespace AuditFile

theorem readLine_write {nesting : Nat} {event : AuditEvent} (storable : event.Storable nesting) :
    readLine nesting (Json.write (.object event.record)) = .event event.asWritten := by
  rw [readLine, Json.readWithin_write storable.plain]
  dsimp only
  rw [AuditEvent.ofValue_record storable.counts]

end AuditFile

end AccessDecision
