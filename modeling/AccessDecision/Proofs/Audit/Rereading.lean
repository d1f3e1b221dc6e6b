import AccessDecision.Proofs.Audit.Record
import AccessDecision.Proofs.Audit.Unforeseen
import AccessDecision.Proofs.Timestamp.Spellings

/-!
# Reading a record again

A value that gives an event need not be the record of that event: its timestamp may be spelled in
another way, and fields may be left out that need not be there.  The record of the event keeps all
else, and gives the same event again.  A value with fields gives no event only if a required field
is missing or its timestamp denotes none.
-/

namespace AccessDecision

namespace AuditEvent

open TimestampReader

/-- What an event and its record keep of the fields that gave it. -/
structure Keeps (fields : Fields) (event : AuditEvent) : Prop where
  required : ∀ key ∈ ["checker", "policy_name", "outcome", "event_id"],
    ∃ value, Fields.get? fields key = some value ∧ Fields.get? event.record key = some value
  optional : ∀ key ∈ ["reason", "category", "rule_name", "ruleset_name"],
    Fields.get? event.record key = some ((Fields.get? fields key).getD .null)
  details : Fields.get? event.record "details" =
    some ((Fields.get? fields "details").getD (.object []))
  /-- The text of the record denotes the very timestamp that was given. -/
  timestamp : ∃ given time, Fields.get? fields "timestamp" = some given ∧
    timestampOf given = .ok time ∧ event.timestamp = time ∧
    Fields.get? event.record "timestamp" = some (.text time.text) ∧
    Timestamp.read time.text = .ok time

/-- Why fields give no event. -/
inductive Refused (fields : Fields) : Failure → Prop where
  | missing {key : String} (first : firstMissing fields = some key) :
      Refused fields (.missingKey (.text key))
  | timestamp {given : Value} {fault : TimestampFault} (noneMissing : firstMissing fields = none)
      (found : Fields.get? fields "timestamp" = some given)
      (unread : timestampOf given = .error (.timestamp fault)) :
      Refused fields (.timestamp fault)

section Timestamps

theorem read_of_mapError {read : Except TimestampFault Timestamp} {time : Timestamp}
    (reads : read.mapError Failure.timestamp = .ok time) : read = .ok time := by
  cases read with
  | ok read =>
      cases reads
      rfl
  | error fault => cases reads

theorem fault_of_mapError {read : Except TimestampFault Timestamp} {failure : Failure}
    (fails : read.mapError Failure.timestamp = .error failure) :
    ∃ fault, failure = .timestamp fault := by
  cases read with
  | ok time => cases fails
  | error fault =>
      cases fails
      exact ⟨fault, rfl⟩

theorem counts_of_timestampOf {given : Value} {time : Timestamp}
    (reads : timestampOf given = .ok time) :
    ∀ ahead ∈ time.offset, ahead = 0 ∨ 1000000 ≤ ahead.natAbs := by
  cases given with
  | text text => exact Timestamp.counts_of_read (read_of_mapError reads)
  | brokenText codes => exact Timestamp.counts_of_readCodes (read_of_mapError reads)
  | _ => cases reads

theorem timestampOf_error {given : Value} {failure : Failure}
    (fails : timestampOf given = .error failure) : ∃ fault, failure = .timestamp fault := by
  cases given with
  | text text => exact fault_of_mapError fails
  | brokenText codes => exact fault_of_mapError fails
  | _ =>
      cases fails
      exact ⟨.notText, rfl⟩

end Timestamps

variable {fields : Fields} {event : AuditEvent}

theorem firstMissing_eq_none_of_ofRecord (gives : ofRecord fields = .ok event) :
    firstMissing fields = none := by
  cases first : firstMissing fields with
  | none => rfl
  | some key => cases gives.symm.trans (ofRecord_of_missing first)

/-- A kept event has a fixed offset, which is nothing or at least a second. -/
theorem rereads_of_keeps (keeps : event.Keeps fields) :
    ofValue (.object event.record) = .ok event := by
  obtain ⟨given, time, -, reads, isTime, -⟩ := keeps.timestamp
  have counts : ∀ ahead ∈ event.timestamp.offset, ahead = 0 ∨ 1000000 ≤ ahead.natAbs := by
    rw [isTime]
    exact counts_of_timestampOf reads
  have fixed : event.timestamp.clock = none := by
    rw [isTime]
    rfl
  rw [ofValue_record counts, asWritten_of_fixed fixed]

/-- Fields that give an event are kept by it. -/
theorem keeps_of_ofRecord (gives : ofRecord fields = .ok event) : event.Keeps fields := by
  have complete := complete_of_firstMissing (firstMissing_eq_none_of_ofRecord gives)
  simp only [requiredKeys, List.forall_mem_cons, Option.isSome_iff_exists] at complete
  obtain ⟨⟨_, checker⟩, ⟨_, policyName⟩, ⟨_, outcome⟩, ⟨_, eventId⟩, ⟨given, timestamp⟩, -⟩ :=
    complete
  simp only [ofRecord, AuditEvent.required, checker, policyName, outcome, eventId, timestamp, bind,
    Except.bind] at gives
  cases reads : timestampOf given with
  | error failure =>
      rw [reads] at gives
      cases gives
  | ok time =>
      rw [reads] at gives
      cases gives
      exact {
        required := by
          simp only [List.forall_mem_cons]
          exact ⟨⟨_, checker, rfl⟩, ⟨_, policyName, rfl⟩, ⟨_, outcome, rfl⟩, ⟨_, eventId, rfl⟩,
            List.forall_mem_nil _⟩
        optional := by
          simp only [List.forall_mem_cons]
          exact ⟨rfl, rfl, rfl, rfl, List.forall_mem_nil _⟩
        details := rfl
        timestamp :=
          ⟨given, time, timestamp, reads, rfl, rfl, time.read_text (counts_of_timestampOf reads)⟩ }

theorem ofRecord_of_timestampOf (noneMissing : firstMissing fields = none) {given : Value}
    (found : Fields.get? fields "timestamp" = some given) {time : Timestamp}
    (reads : timestampOf given = .ok time) :
    ∃ event, ofRecord fields = .ok event ∧ event.timestamp = time := by
  obtain ⟨other, toEvent, foundToo, gives⟩ :=
    ofRecord_of_complete (complete_of_firstMissing noneMissing)
  cases found.symm.trans foundToo
  rw [reads] at gives
  obtain ⟨given, kept, foundAgain, readsAgain, isTime, -⟩ := (keeps_of_ofRecord gives).timestamp
  cases found.symm.trans foundAgain
  cases readsAgain.symm.trans reads
  exact ⟨_, gives, isTime⟩

theorem ofRecord_eq_error_iff {failure : Failure} :
    ofRecord fields = .error failure ↔ Refused fields failure := by
  constructor
  · intro fails
    cases first : firstMissing fields with
    | some key =>
        cases fails.symm.trans (ofRecord_of_missing first)
        exact .missing first
    | none =>
        obtain ⟨given, toEvent, found, gives⟩ :=
          ofRecord_of_complete (complete_of_firstMissing first)
        cases reads : timestampOf given with
        | ok time =>
            rw [reads] at gives
            cases fails.symm.trans gives
        | error other =>
            rw [reads] at gives
            cases fails.symm.trans gives
            obtain ⟨fault, rfl⟩ := timestampOf_error reads
            exact .timestamp first found reads
  · rintro (⟨first⟩ | ⟨noneMissing, found, unread⟩)
    · exact ofRecord_of_missing first
    · obtain ⟨given, toEvent, foundToo, gives⟩ :=
        ofRecord_of_complete (complete_of_firstMissing noneMissing)
      cases found.symm.trans foundToo
      rw [gives, unread]
      rfl

theorem ofValue_of_fields {value : Value} (hasFields : value.fields? = some fields) :
    ofValue value = ofRecord fields := by
  rw [ofValue, hasFields]

theorem ofRecord_fails_iff :
    (∃ failure, ofRecord fields = .error failure) ↔
      (∃ key ∈ requiredKeys, Fields.get? fields key = none) ∨
        ∃ given fault, Fields.get? fields "timestamp" = some given ∧
          timestampOf given = .error (.timestamp fault) := by
  constructor
  · rintro ⟨failure, fails⟩
    cases ofRecord_eq_error_iff.mp fails with
    | @missing key first =>
        have isMissing := List.find?_some first
        exact .inl ⟨key, List.mem_of_find?_eq_some first, Option.isNone_iff_eq_none.mp isMissing⟩
    | timestamp noneMissing found unread => exact .inr ⟨_, _, found, unread⟩
  · intro refused
    cases gives : ofRecord fields with
    | error failure => exact ⟨failure, rfl⟩
    | ok event =>
        have complete := complete_of_firstMissing (firstMissing_eq_none_of_ofRecord gives)
        obtain ⟨given, time, found, reads, -⟩ := (keeps_of_ofRecord gives).timestamp
        rcases refused with ⟨key, isRequired, isMissing⟩ | ⟨other, fault, foundToo, unread⟩
        · have present := complete key isRequired
          rw [isMissing] at present
          cases present
        · cases found.symm.trans foundToo
          cases reads.symm.trans unread

/-- The event that a value gives is given by its own record too, which keeps all that the value
said.  A value with fields is refused for the first required field that is missing, or else for
its timestamp, which may be spelled in any way. -/
theorem reread_eq_self (value : Value) :
    (∀ event, ofValue value = .ok event →
      ofValue (.object event.record) = .ok event ∧
        ∃ fields, value.fields? = some fields ∧ event.Keeps fields) ∧
    ∀ fields, value.fields? = some fields →
      (∀ failure, ofValue value = .error failure ↔ Refused fields failure) ∧
      ((∃ failure, ofValue value = .error failure) ↔
        (∃ key ∈ requiredKeys, Fields.get? fields key = none) ∨
          ∃ given fault, Fields.get? fields "timestamp" = some given ∧
            timestampOf given = .error (.timestamp fault)) ∧
      ∀ spelling : Spelling, spelling.WellFormed → spelling.time.Valid →
        firstMissing fields = none →
        Fields.get? fields "timestamp" = some (.text (String.ofList spelling.characters)) →
        ∃ event, ofValue value = .ok event ∧ event.timestamp.toCivilTime = spelling.time := by
  constructor
  · intro event gives
    cases hasFields : value.fields? with
    | none =>
        rw [ofValue, hasFields] at gives
        cases gives
    | some fields =>
        rw [ofValue_of_fields hasFields] at gives
        have keeps := keeps_of_ofRecord gives
        exact ⟨rereads_of_keeps keeps, fields, rfl, keeps⟩
  · intro fields hasFields
    rw [ofValue_of_fields hasFields]
    refine ⟨fun failure => ofRecord_eq_error_iff, ofRecord_fails_iff, ?_⟩
    intro spelling wellFormed valid noneMissing found
    have reads : timestampOf (.text (String.ofList spelling.characters)) =
        .ok ⟨spelling.time, valid⟩ := by
      rw [timestampOf, Timestamp.read_spelled wellFormed valid]
      rfl
    obtain ⟨event, gives, isTime⟩ := ofRecord_of_timestampOf noneMissing found reads
    exact ⟨event, gives, congrArg (fun time => time.toCivilTime) isTime⟩

/-- A timestamp with a separator outside ASCII, more than six digits and a negative offset down to
the second. -/
def sparseSpelling : Spelling :=
  .moment 2024 2 29 '·' (.fraction 23 59 59 ['0', '0', '0', '1', '2', '3', '9', '9'])
    (.behind 0 30 (some 15))

/-- A record that leaves out every field that it need not have. -/
def sparseRecord : Fields :=
  [("timestamp", .text (String.ofList sparseSpelling.characters)), ("outcome", .int 1),
    ("policy_name", .null), ("event_id", .text "e"), ("checker", .list []),
    ("unknown", .bool true)]

theorem reread_eq_self_sparse :
    ∃ event, ofValue (.object sparseRecord) = .ok event ∧
      ofValue (.object event.record) = .ok event ∧
      event.timestamp.toCivilTime = ⟨2024, 2, 29, 23, 59, 59, 123, some (-1815000000)⟩ ∧
      Fields.get? event.record "details" = some (.object []) := by
  have wellFormed : sparseSpelling.WellFormed := by
    refine ⟨⟨?_, ?_, ?_, ?_, ?_⟩, ?_, ?_, ?_⟩ <;> decide
  have valid : sparseSpelling.time.Valid := by
    have offset : ∀ ahead ∈ sparseSpelling.time.offset, ahead.natAbs < dayLength := by
      intro ahead isAhead
      cases isAhead
      decide
    exact ⟨by decide, by decide, by decide, by decide, by decide, by decide, by decide, offset⟩
  obtain ⟨event, gives, time⟩ := ((reread_eq_self (.object sparseRecord)).2 sparseRecord rfl).2.2
    sparseSpelling wellFormed valid rfl rfl
  obtain ⟨rereads, fields, isFields, keeps⟩ :=
    (reread_eq_self (.object sparseRecord)).1 event gives
  cases isFields
  exact ⟨event, gives, rereads, time, keeps.details⟩

end AuditEvent

end AccessDecision
