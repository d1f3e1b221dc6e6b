import AccessDecision.Audit.File

/-!
# Failures that are not foreseen

A line of a file is skipped if its value fails to give an event for want of a field, or because its
timestamp is a text that denotes none.  Two failures of a value stop the reading instead: it may be
no object, or have a timestamp that is no text.
-/

namespace AccessDecision

namespace AuditEvent

def requiredKeys : List String :=
  ["checker", "policy_name", "outcome", "event_id", "timestamp"]

def isText : Value → Bool
  | .text _ | .brokenText _ => true
  | _ => false

section Timestamps

theorem check_ne_notText (time : CivilTime) : time.check ≠ .error .notText := by
  intro fails
  rw [CivilTime.check] at fails
  repeat' split at fails
  all_goals cases fails

theorem read_ne_notText (text : String) : Timestamp.read text ≠ .error .notText := by
  rw [Timestamp.read]
  split
  · intro fails
    cases fails
  · exact check_ne_notText _

theorem readCodes_ne_notText (codes : List Nat) : Timestamp.readCodes codes ≠ .error .notText := by
  rw [Timestamp.readCodes]
  split
  · intro fails
    cases fails
  · exact check_ne_notText _

theorem skips_mapError {read : Except TimestampFault Timestamp} (isText : read ≠ .error .notText)
    {failure : Failure} (fails : read.mapError Failure.timestamp = .error failure) :
    AuditFile.skips failure = true := by
  cases read with
  | ok time => cases fails
  | error fault =>
      cases fails
      cases fault with
      | notText => exact absurd rfl isText
      | _ => rfl

theorem skips_timestampOf {value : Value} (textual : isText value = true) {failure : Failure}
    (fails : timestampOf value = .error failure) : AuditFile.skips failure = true := by
  cases value with
  | text text => exact skips_mapError (read_ne_notText text) fails
  | brokenText codes => exact skips_mapError (readCodes_ne_notText codes) fails
  | _ => cases textual

theorem timestampOf_of_not_text {value : Value} (noText : isText value = false) :
    timestampOf value = .error (.timestamp .notText) := by
  cases value with
  | text | brokenText => cases noText
  | _ => rfl

end Timestamps

variable {fields : Fields}

def firstMissing (fields : Fields) : Option String :=
  requiredKeys.find? fun key => (Fields.get? fields key).isNone

theorem complete_of_firstMissing (noneMissing : firstMissing fields = none) :
    ∀ key ∈ requiredKeys, (Fields.get? fields key).isSome = true := by
  intro key isRequired
  have present := List.find?_eq_none.mp noneMissing key isRequired
  rwa [Option.isNone_iff_eq_none, ← ne_eq, ← Option.isSome_iff_ne_none] at present

/-- The first of some fields is asked for, and the others only if it is there. -/
theorem bind_required_of_missing {α : Type} {key first : String} {others : List String}
    {next : Value → Except Failure α}
    (isFirst : (key :: others).find? (fun key => (Fields.get? fields key).isNone) = some first)
    (later : others.find? (fun key => (Fields.get? fields key).isNone) = some first →
      ∀ value, next value = .error (.missingKey (.text first))) :
    (required fields key >>= next) = .error (.missingKey (.text first)) := by
  rw [required]
  rw [List.find?_cons] at isFirst
  cases found : Fields.get? fields key with
  | none =>
      rw [found] at isFirst
      cases isFirst
      rfl
  | some value =>
      rw [found] at isFirst
      exact later isFirst value

theorem ofRecord_of_missing {key : String} (first : firstMissing fields = some key) :
    ofRecord fields = .error (.missingKey (.text key)) := by
  refine bind_required_of_missing first fun first checker => ?_
  refine bind_required_of_missing first fun first policyName => ?_
  refine bind_required_of_missing first fun first outcome => ?_
  refine bind_required_of_missing first fun first eventId => ?_
  exact bind_required_of_missing first nofun

/-- Whether a complete record gives an event depends on its timestamp alone. -/
theorem ofRecord_of_complete
    (complete : ∀ key ∈ requiredKeys, (Fields.get? fields key).isSome = true) :
    ∃ time event, Fields.get? fields "timestamp" = some time ∧
      ofRecord fields = (timestampOf time).map event := by
  simp only [requiredKeys, List.forall_mem_cons, Option.isSome_iff_exists] at complete
  obtain ⟨⟨_, checker⟩, ⟨_, policyName⟩, ⟨_, outcome⟩, ⟨_, eventId⟩, ⟨time, timestamp⟩, -⟩ :=
    complete
  simp only [ofRecord, required, checker, policyName, outcome, eventId, timestamp, bind,
    Except.bind]
  exact ⟨time, _, rfl, rfl⟩

/-- A value gives no event, and fails in a way that the reading of a line does not foresee. -/
inductive Unforeseen (value : Value) : Failure → Prop where
  | notRecord (noFields : value.fields? = none) : Unforeseen value (.kind (notRecord value))
  | timestamp {fields : Fields} {time : Value} (hasFields : value.fields? = some fields)
      (complete : ∀ key ∈ requiredKeys, (Fields.get? fields key).isSome = true)
      (found : Fields.get? fields "timestamp" = some time) (noText : isText time = false) :
      Unforeseen value (.timestamp .notText)

theorem Unforeseen.fails {value : Value} {failure : Failure}
    (unforeseen : Unforeseen value failure) :
    ofValue value = .error failure ∧ AuditFile.skips failure = false := by
  cases unforeseen with
  | notRecord noFields =>
      rw [ofValue, noFields]
      exact ⟨rfl, rfl⟩
  | timestamp hasFields complete found noText =>
      obtain ⟨time, event, foundToo, gives⟩ := ofRecord_of_complete complete
      cases found.symm.trans foundToo
      rw [ofValue, hasFields]
      dsimp only
      rw [gives, timestampOf_of_not_text noText]
      exact ⟨rfl, rfl⟩

theorem unforeseen_of_fails {value : Value} {failure : Failure}
    (fails : ofValue value = .error failure) (stops : AuditFile.skips failure = false) :
    Unforeseen value failure := by
  rw [ofValue] at fails
  cases hasFields : value.fields? with
  | none =>
      rw [hasFields] at fails
      cases fails
      exact .notRecord hasFields
  | some fields =>
      rw [hasFields] at fails
      dsimp only at fails
      cases first : firstMissing fields with
      | some key =>
          rw [ofRecord_of_missing first] at fails
          cases fails
          cases stops
      | none =>
          have complete := complete_of_firstMissing first
          obtain ⟨time, event, found, gives⟩ := ofRecord_of_complete complete
          rw [gives] at fails
          cases textual : isText time with
          | true =>
              cases reads : timestampOf time with
              | ok read =>
                  rw [reads] at fails
                  cases fails
              | error fault =>
                  rw [reads] at fails
                  cases fails
                  rw [skips_timestampOf textual reads] at stops
                  cases stops
          | false =>
              rw [timestampOf_of_not_text textual] at fails
              cases fails
              exact .timestamp hasFields complete found textual

end AuditEvent

end AccessDecision
