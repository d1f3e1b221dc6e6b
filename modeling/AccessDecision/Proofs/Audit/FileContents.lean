import AccessDecision.Proofs.Audit.Disk
import AccessDecision.Proofs.Audit.Record
import AccessDecision.Proofs.Checker.Delivery
import AccessDecision.Proofs.Json.Visible
import AccessDecision.Proofs.Text.Lines

/-!
# What a file of audit events holds

Every event that a file takes adds one line to it, and reading the file selects among the events
of its lines as if they had been kept in memory.
-/

namespace AccessDecision

def deliveriesOf (events : List AuditEvent) : List Delivery :=
  events.map fun event => ⟨event, none⟩

namespace AuditFile

def linesOf (events : List AuditEvent) : List (List Char) :=
  events.map fun event => Json.write (.object event.record)

def textOf (events : List AuditEvent) : String :=
  String.ofList ((linesOf events).flatMap (· ++ ['\n']))

theorem textOf_cons (event : AuditEvent) (events : List AuditEvent) :
    textOf (event :: events) = lineOf event ++ textOf events := by
  apply String.toList_injective
  simp [textOf, linesOf, lineOf, Json.line]

theorem log_of_append {disk next : Disk} {path : String} {event : AuditEvent}
    (appends : disk.append path (lineOf event).toUTF8 = .ok next) :
    Sink.log event (.file (.text path)) disk = (.ok (), .file (.text path), next) := by
  have logs : (Sink.pathOf (.text path)).bind (AuditFile.log · event disk) = .ok next := by
    change (disk.append path (lineOf event).toUTF8).mapError Failure.file = .ok next
    rw [appends]
    rfl
  rw [Sink.log, logs]

theorem delivered_file {disk : Disk} {path : String} {place : Disk.Place}
    (accepts : disk.Accepts path place) {text : String}
    (holds : disk.lookup place.path = some text.toUTF8) (events : List AuditEvent) :
    ∃ written, Delivered (some (.file (.text path))) disk (deliveriesOf events)
      (some (.file (.text path))) written ∧ written.Accepts path place ∧
      written.lookup place.path = some (text ++ textOf events).toUTF8 := by
  induction events generalizing disk text with
  | nil =>
      have same : text ++ textOf [] = text := String.append_empty
      exact ⟨disk, .done _ _, accepts, by rw [same, holds]⟩
  | cons event events ih =>
      let next : Disk := Entries.set place.path (text.toUTF8 ++ (lineOf event).toUTF8) disk
      have nextAccepts : next.Accepts path place := accepts.anywhere next
      have nextHolds : next.lookup place.path = some (text ++ lineOf event).toUTF8 := by
        rw [Entries.lookup_set, if_pos rfl]
        exact congrArg some String.toByteArray_append.symm
      have appends : disk.append path (lineOf event).toUTF8 = .ok next := by
        rw [accepts.append_eq, holds]
        rfl
      obtain ⟨written, delivered, writtenAccepts, writtenHolds⟩ := ih nextAccepts nextHolds
      refine ⟨written, .taken (log_of_append appends) delivered, writtenAccepts, ?_⟩
      rw [writtenHolds, textOf_cons, String.append_assoc]

theorem delivered_new_file {disk : Disk} {path : String} (creatable : disk.Creatable path)
    (events : List AuditEvent) :
    ∃ written, Delivered (some (.file (.text path))) disk (deliveriesOf events)
      (some (.file (.text path))) written ∧
      (events = [] ∧ written.read path = .error (.missing path) ∨
        written.read path = .ok (textOf events).toUTF8) := by
  obtain ⟨place, accepts, isMissing⟩ := creatable.accepts
  cases events with
  | nil => exact ⟨disk, .done _ _, .inl ⟨rfl, creatable.isMissing⟩⟩
  | cons event events =>
      let next : Disk := Entries.set place.path (lineOf event).toUTF8 disk
      have holds : next.lookup place.path = some (lineOf event).toUTF8 :=
        (Entries.lookup_set _ _ _ _).trans (if_pos rfl)
      have appends : disk.append path (lineOf event).toUTF8 = .ok next := by
        rw [accepts.append_eq, isMissing, Option.getD_none, ByteArray.empty_append]
      obtain ⟨written, delivered, writtenAccepts, writtenHolds⟩ :=
        delivered_file (accepts.anywhere next) holds events
      rw [← textOf_cons] at writtenHolds
      exact ⟨written, .taken (log_of_append appends) delivered,
        .inr (writtenAccepts.read_eq writtenHolds)⟩

theorem unbroken_linesOf (events : List AuditEvent) :
    ∀ line ∈ linesOf events, ∀ character ∈ line, character ≠ '\n' ∧ character ≠ '\r' := by
  intro line member character isWritten
  obtain ⟨event, -, rfl⟩ := List.mem_map.mp member
  have visible := Json.isVisible_write _ character isWritten
  constructor
  · rintro rfl
    exact absurd visible (by decide)
  · rintro rfl
    exact absurd visible (by decide)

theorem readLines_linesOf {nesting : Nat} {events : List AuditEvent}
    (storable : ∀ event ∈ events, event.Storable nesting) (path : String) (filter : EventFilter)
    (number : Nat) :
    readLines nesting path filter number (linesOf events) =
      (filter.select (events.map AuditEvent.asWritten), []) := by
  induction events generalizing number with
  | nil => rfl
  | cons event events ih =>
      rw [List.forall_mem_cons] at storable
      have later := ih storable.2 (number + 1)
      rw [linesOf] at later ⊢
      rw [List.map_cons, readLines, readLine_write storable.1, List.map_cons, EventFilter.select]
      dsimp only
      cases filter.accepts event.asWritten with
      | error failure => rfl
      | ok passes =>
          dsimp only
          rw [later]
          cases filter.select (events.map AuditEvent.asWritten) <;> rfl

theorem events_of_text {disk : Disk} {path text : String} (holds : disk.read path = .ok text.toUTF8)
    (nesting : Nat) (filter : EventFilter) :
    AuditFile.events nesting path filter disk =
      readLines nesting path filter 1 (Text.linesOf text.toList) := by
  rw [AuditFile.events, holds]
  dsimp only
  rw [Text.readOctets_toUTF8]

/-- A file that holds the lines of some events gives those that pass. -/
theorem events_of_read {nesting : Nat} {disk : Disk} {path : String} {events : List AuditEvent}
    (storable : ∀ event ∈ events, event.Storable nesting)
    (holds : events = [] ∧ disk.read path = .error (.missing path) ∨
      disk.read path = .ok (textOf events).toUTF8) (filter : EventFilter) :
    AuditFile.events nesting path filter disk =
      (filter.select (events.map AuditEvent.asWritten), []) := by
  rcases holds with ⟨rfl, isMissing⟩ | holds
  · rw [AuditFile.events, isMissing]
    rfl
  · have lines : Text.linesOf (textOf events).toList = linesOf events := by
      rw [textOf, String.toList_ofList, Text.linesOf_flatMap (unbroken_linesOf events)]
    rw [events_of_text holds, lines, readLines_linesOf storable]

end AuditFile

end AccessDecision
