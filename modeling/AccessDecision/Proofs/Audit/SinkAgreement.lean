import AccessDecision.Machine
import AccessDecision.Proofs.Audit.FileContents
import AccessDecision.Proofs.Audit.Selection

/-!
# Files and memories agree

A file that takes some events and a memory that has room for all of them give the same events for
every filter, or fail in the same way because one of two timestamps that are compared has no
offset.  Only the clock of a timestamp is not kept in a file: a time that was shown twice is not
equal to what is written of it, and a bound off the same clock may tell the two apart.
-/

namespace AccessDecision

namespace AuditMemory

theorem lastEntries_of_le {α : Type} {capacity : Option Nat} {entries : List α}
    (room : ∀ count ∈ capacity, entries.length ≤ count) :
    lastEntries capacity entries = entries := by
  cases capacity with
  | none => rfl
  | some count =>
      have fits := room count rfl
      have nothing : entries.length - count = 0 := by omega
      rw [lastEntries, nothing, List.drop_zero]

theorem events_foldl_log {memory : AuditMemory} {events : List AuditEvent}
    (room : ∀ count ∈ memory.capacity, (memory.events ++ events).length ≤ count) :
    (events.foldl log memory).events = memory.events ++ events := by
  induction events generalizing memory with
  | nil => rw [List.foldl_nil, List.append_nil]
  | cons event events ih =>
      have fits : ∀ count ∈ memory.capacity, (memory.events ++ [event]).length ≤ count := by
        intro count isCapacity
        have bound := room count isCapacity
        simp only [List.length_append, List.length_cons, List.length_nil] at bound ⊢
        omega
      have logged : (memory.log event).events = memory.events ++ [event] := by
        rw [log_events, lastEntries_of_le fits]
      have more : ∀ count ∈ (memory.log event).capacity,
          ((memory.log event).events ++ events).length ≤ count := by
        rw [logged, List.append_assoc]
        exact room
      rw [List.foldl_cons, ih more, logged, List.append_assoc, List.singleton_append]

end AuditMemory

theorem delivered_memory (disk : Disk) (store : AuditMemory) (events : List AuditEvent) :
    Delivered (some (.memory store)) disk (deliveriesOf events)
      (some (.memory (events.foldl AuditMemory.log store))) disk := by
  induction events generalizing store with
  | nil => exact .done _ _
  | cons event events ih => exact .taken rfl (ih (store.log event))

namespace AuditEvent

def IsOptionalText (value : Value) : Prop :=
  value = .null ∨ ∃ text, value = .text text

/-- An event whose fields are texts or nothing, with a truth value for its outcome, texts by
their names for its details, and an offset of whole seconds if it has one. -/
structure Textual (event : AuditEvent) : Prop where
  texts : ∀ value ∈ [event.eventId, event.checker, event.policyName, event.reason,
    event.category, event.ruleName, event.rulesetName], IsOptionalText value
  outcome : ∃ granted, event.outcome = .bool granted
  details : ∃ fields : Fields, event.details = .object fields ∧ (fields.map Prod.fst).Nodup ∧
    ∀ field ∈ fields, ∃ text, field.2 = .text text
  wholeSeconds : ∀ ahead ∈ event.timestamp.offset, ahead % 1000000 = 0

theorem IsOptionalText.plain {value : Value} (isText : IsOptionalText value) (room : Nat) :
    value.Plain room := by
  rcases isText with rfl | ⟨text, rfl⟩
  · exact .null room
  · exact .text room text

/-- An event takes an object in an object at most. -/
theorem Textual.storable {event : AuditEvent} (textual : event.Textual) {nesting : Nat}
    (nests : 2 ≤ nesting) : event.Storable nesting := by
  obtain ⟨room, rfl⟩ := Nat.exists_eq_add_of_le' nests
  obtain ⟨texts, ⟨granted, isOutcome⟩, ⟨fields, isDetails, distinct, areTexts⟩, whole⟩ := textual
  constructor
  · have details : event.details.Plain (room + 1) := by
      rw [isDetails]
      refine .object distinct fun field member => ?_
      obtain ⟨text, isText⟩ := areTexts field member
      rw [isText]
      exact .text room text
    have outcome : event.outcome.Plain (room + 1) := by
      rw [isOutcome]
      exact .bool _ granted
    have names : (event.record.map Prod.fst).Nodup := by
      simp [record]
    refine .object names ?_
    simp only [List.forall_mem_cons] at texts
    obtain ⟨eventId, checker, policyName, reason, category, ruleName, rulesetName, -⟩ := texts
    simp only [record, List.forall_mem_cons]
    exact ⟨eventId.plain _, .text _ _, checker.plain _, policyName.plain _, outcome,
      reason.plain _, category.plain _, ruleName.plain _, rulesetName.plain _, details,
      List.forall_mem_nil _⟩
  · intro ahead isOffset
    have multiple := whole ahead isOffset
    omega

end AuditEvent

namespace Sink

variable {nesting : Nat} {disk : Disk} {path : String} {capacity : Option Nat}
  {events : List AuditEvent}

/-- A file that can be created takes events, and then it selects among what is written of them. -/
theorem delivered_created (nests : 2 ≤ nesting) (creatable : disk.Creatable path)
    (textual : ∀ event ∈ events, event.Textual) :
    ∃ written,
      Delivered (some (.file (.text path))) disk (deliveriesOf events)
        (some (.file (.text path))) written ∧
      ∀ filter : EventFilter, (Sink.file (.text path)).events nesting filter written =
        (filter.select (events.map AuditEvent.asWritten), []) := by
  obtain ⟨written, delivered, holds⟩ := AuditFile.delivered_new_file creatable events
  refine ⟨written, delivered, fun filter => ?_⟩
  exact AuditFile.events_of_read (fun event member => (textual event member).storable nests) holds
    filter

/-- A memory with enough room takes events, and then it selects among them. -/
theorem delivered_remembered (room : ∀ count ∈ capacity, events.length ≤ count) (disk : Disk) :
    ∃ store,
      Delivered (some (.memory (.empty capacity))) disk (deliveriesOf events)
        (some (.memory store)) disk ∧
      ∀ (nesting : Nat) (filter : EventFilter),
        (Sink.memory store).events nesting filter disk = (filter.select events, []) := by
  refine ⟨_, delivered_memory disk (.empty capacity) events, fun _ filter => ?_⟩
  have remembers : (events.foldl AuditMemory.log (.empty capacity)).events = events :=
    AuditMemory.events_foldl_log room
  rw [Sink.events, remembers]

/-- A file that can be created and a memory with enough room, to which the same events are handed
in the same order, take all of them.  Then they give the same events for every filter whose bounds
are in order with the timestamps, or both fail because timestamps cannot be compared.  Without a
filter they give all events.  The file gives an event as it is written, which is the event itself
unless a clock showed its timestamp, and is equal to it as long as its offset is certain. -/
theorem file_agrees_with_memory (nests : 2 ≤ nesting) (creatable : disk.Creatable path)
    (room : ∀ count ∈ capacity, events.length ≤ count)
    (textual : ∀ event ∈ events, event.Textual) :
    ∃ written store,
      Delivered (some (.file (.text path))) disk (deliveriesOf events)
        (some (.file (.text path))) written ∧
      Delivered (some (.memory (.empty capacity))) disk (deliveriesOf events)
        (some (.memory store)) disk ∧
      (∀ filter : EventFilter, (∀ event ∈ events, filter.InOrder event.timestamp) →
        (∃ selected, selected.Sublist events ∧
          (Sink.memory store).events nesting filter disk = (.ok selected, []) ∧
          (Sink.file (.text path)).events nesting filter written =
            (.ok (selected.map AuditEvent.asWritten), [])) ∨
        ((Sink.memory store).events nesting filter disk = (.error .mixedOffsets, []) ∧
          (Sink.file (.text path)).events nesting filter written = (.error .mixedOffsets, []))) ∧
      (Sink.memory store).events nesting .everything disk = (.ok events, []) ∧
      (Sink.file (.text path)).events nesting .everything written =
        (.ok (events.map AuditEvent.asWritten), []) ∧
      ∀ event ∈ events, event.agrees event.asWritten = event.timestamp.isCertain ∧
        (event.timestamp.clock = none → event.asWritten = event) := by
  obtain ⟨written, created, fromFile⟩ := delivered_created nests creatable textual
  obtain ⟨store, remembered, fromMemory⟩ := delivered_remembered room disk
  refine ⟨written, store, created, remembered, ?_, ?_, ?_, ?_⟩
  · intro filter ordered
    rw [fromFile, fromMemory, EventFilter.select_asWritten ordered]
    rcases filter.select_cases events with ⟨selected, selects, sublist⟩ | fails
    · rw [selects]
      exact .inl ⟨selected, sublist, rfl, rfl⟩
    · rw [fails]
      exact .inr ⟨rfl, rfl⟩
  · rw [fromMemory, EventFilter.select_everything]
  · rw [fromFile, EventFilter.select_everything]
  · exact fun event _ => ⟨event.agrees_asWritten, AuditEvent.asWritten_of_fixed⟩

end Sink

theorem locate_single : Disk.locate [] "a" = .ok ⟨"", "a", false⟩ := by
  have names : "a".splitOn "/" = ["a"] := by
    rw [String.splitOn, if_neg (by decide), String.splitOnAux.eq_def, if_neg (by decide),
      if_neg (by decide), String.splitOnAux.eq_def, if_pos (by decide)]
    rfl
  rw [Disk.locate, if_neg (by decide), if_neg (by decide), if_neg (by decide), names]
  rfl

theorem creatable_single : Disk.Creatable [] "a" where
  isMissing := by
    rw [Disk.read, locate_single]
    rfl
  opens := by
    rw [Disk.append, locate_single]
    exact ⟨_, rfl⟩

theorem locate_nested : Disk.locate [] "m/a" = .error (.missing "m/a") := by
  have names : "m/a".splitOn "/" = ["m", "a"] := by
    rw [String.splitOn, if_neg (by decide), String.splitOnAux.eq_def, if_neg (by decide),
      if_neg (by decide), String.splitOnAux.eq_def, if_neg (by decide), if_pos (by decide)]
    dsimp only
    rw [if_pos (by decide), String.splitOnAux.eq_def, if_neg (by decide), if_neg (by decide),
      String.splitOnAux.eq_def, if_pos (by decide)]
    rfl
  rw [Disk.locate, if_neg (by decide), if_neg (by decide), if_neg (by decide), names]
  rfl

def escapedTimestamp : Timestamp where
  year := 2026
  month := 2
  day := 28
  hour := 23
  minute := 59
  second := 59
  microsecond := 7
  offset := some (-18000000000)
  valid := ⟨by decide, by decide, by decide, by decide, by decide, by decide, by decide, by decide⟩

def escapedEvent : AuditEvent where
  eventId := .text "\"1\"\n"
  timestamp := escapedTimestamp
  checker := .text "café"
  policyName := .text "🔑"
  outcome := .bool true
  reason := .null
  category := .text ""
  ruleName := .null
  rulesetName := .null
  details := .object [("a\\b", .text "\t")]

theorem textual_escapedEvent : escapedEvent.Textual where
  texts := by
    simp only [escapedEvent, List.forall_mem_cons]
    exact ⟨.inr ⟨_, rfl⟩, .inr ⟨_, rfl⟩, .inr ⟨_, rfl⟩, .inl rfl, .inr ⟨_, rfl⟩, .inl rfl,
      .inl rfl, List.forall_mem_nil _⟩
  outcome := ⟨true, rfl⟩
  details := by
    refine ⟨_, rfl, by decide, ?_⟩
    rw [List.forall_mem_singleton]
    exact ⟨_, rfl⟩
  wholeSeconds := by
    rintro ahead ⟨⟩
    rfl

def autumnTime (hour minute : Nat) (offset : Option Int) : CivilTime :=
  ⟨2026, 11, 1, hour, minute, 0, 0, offset⟩

/-- A clock that is set back at two in the morning of the first of November, so that it shows the
times of one hour twice. -/
def autumnClock : LocalClock where
  number := 0
  ahead reading again :=
    if reading < (autumnTime 1 0 none).reading ∨
        reading < (autumnTime 2 0 none).reading ∧ again = false then -14400000000
    else -18000000000
  short reading again := by
    split <;> decide

theorem autumnClock_seconds (reading : Int) (again : Bool) :
    autumnClock.ahead reading again % 1000000 = 0 := by
  rw [autumnClock]
  dsimp only
  split <;> rfl

def autumnTimestamp (hour minute : Nat) (again : Bool) (isTime : hour < 24 ∧ minute < 60) :
    ClockTime where
  toCivilTime :=
    autumnTime hour minute (some (autumnClock.ahead (autumnTime hour minute none).reading again))
  valid := by
    constructor <;> simp [autumnTime, daysInMonth, isTime, autumnClock.short]
  clock := some (autumnClock, again)
  shown := by
    simp only [Option.mem_some_iff, forall_eq']
    rfl

def autumnEvent (name : String) (hour minute : Nat) (again : Bool)
    (isTime : hour < 24 ∧ minute < 60) : AuditEvent :=
  { escapedEvent with
    policyName := .text name
    timestamp := autumnTimestamp hour minute again isTime }

theorem textual_autumnEvent (name : String) {hour minute : Nat} (again : Bool)
    (isTime : hour < 24 ∧ minute < 60) : (autumnEvent name hour minute again isTime).Textual where
  texts := by
    simp only [autumnEvent, escapedEvent, List.forall_mem_cons]
    exact ⟨.inr ⟨_, rfl⟩, .inr ⟨_, rfl⟩, .inr ⟨_, rfl⟩, .inl rfl, .inr ⟨_, rfl⟩, .inl rfl,
      .inl rfl, List.forall_mem_nil _⟩
  outcome := textual_escapedEvent.outcome
  details := textual_escapedEvent.details
  wholeSeconds := by
    simp only [autumnEvent, autumnTimestamp, autumnTime, Option.mem_some_iff, forall_eq']
    exact autumnClock_seconds _ again

/-- An event that is logged when the clock shows a quarter past one for the second time. -/
def repeatedEvent : AuditEvent :=
  autumnEvent "a" 1 15 true (by decide)

/-- Events from a time on that the clock shows for the first time. -/
def earlierQuestion : EventFilter :=
  { EventFilter.everything with first := some (autumnTimestamp 1 30 false (by decide)) }

def autumnEvents : List AuditEvent :=
  [escapedEvent, autumnEvent "a" 0 30 false (by decide), autumnEvent "b" 4 0 false (by decide),
    autumnEvent "a" 5 0 false (by decide)]

/-- Events about one policy from a time on that the clock has shown for the second time. -/
def autumnQuestion : EventFilter :=
  { EventFilter.everything with
    policyName := some (.text "a")
    first := some (autumnTimestamp 1 30 true (by decide)) }

theorem selects_autumnQuestion :
    autumnQuestion.select autumnEvents = .ok [autumnEvent "a" 5 0 false (by decide)] := by
  rfl

theorem inOrder_autumnEvents :
    ∀ event ∈ autumnEvents, autumnQuestion.InOrder event.timestamp := by
  have decided : (autumnEvents.all fun event => decide (autumnQuestion.InOrder event.timestamp)) =
      true := by rfl
  simpa using decided

theorem textual_autumnEvents : ∀ event ∈ autumnEvents, event.Textual := by
  simp only [autumnEvents, List.forall_mem_cons]
  exact ⟨textual_escapedEvent, textual_autumnEvent "a" false _, textual_autumnEvent "b" false _,
    textual_autumnEvent "a" false _, List.forall_mem_nil _⟩

namespace Sink

theorem file_agrees_with_memory_autumn :
    2 ≤ Machine.ordinary.nesting ∧ Disk.Creatable [] "a" ∧
    (∀ count ∈ some 4, autumnEvents.length ≤ count) ∧ (∀ event ∈ autumnEvents, event.Textual) ∧
    (∀ event ∈ autumnEvents, autumnQuestion.InOrder event.timestamp) ∧
    ∃ written store,
      Delivered (some (.file (.text "a"))) [] (deliveriesOf autumnEvents)
        (some (.file (.text "a"))) written ∧
      Delivered (some (.memory (.empty (some 4)))) [] (deliveriesOf autumnEvents)
        (some (.memory store)) [] ∧
      (Sink.memory store).events Machine.ordinary.nesting autumnQuestion [] =
        (.ok [autumnEvent "a" 5 0 false (by decide)], []) ∧
      (Sink.file (.text "a")).events Machine.ordinary.nesting autumnQuestion written =
        (.ok [(autumnEvent "a" 5 0 false (by decide)).asWritten], []) ∧
      ∀ event ∈ autumnEvents, event.agrees event.asWritten = true := by
  have nests : 2 ≤ Machine.ordinary.nesting := by decide
  have room : ∀ count ∈ some 4, autumnEvents.length ≤ count := by
    rintro count ⟨⟩
    exact Nat.le_refl 4
  obtain ⟨written, store, created, remembered, selections, everything, -, equal⟩ :=
    file_agrees_with_memory nests creatable_single room textual_autumnEvents
  have kept : store.events = autumnEvents := by
    rw [Sink.events, EventFilter.select_everything] at everything
    exact Except.ok.inj (congrArg Prod.fst everything)
  have fromMemory : (Sink.memory store).events Machine.ordinary.nesting autumnQuestion [] =
      (.ok [autumnEvent "a" 5 0 false (by decide)], []) := by
    rw [Sink.events, kept, selects_autumnQuestion]
  refine ⟨nests, creatable_single, room, textual_autumnEvents, inOrder_autumnEvents, written,
    store, created, remembered, fromMemory, ?_, fun event member => ?_⟩
  · rcases selections autumnQuestion inOrder_autumnEvents with ⟨selected, -, memory, file⟩ | fails
    · rw [fromMemory] at memory
      cases memory
      exact file
    · rw [fromMemory] at fails
      cases fails.1
  · have certain : (autumnEvents.all fun event => event.timestamp.isCertain) = true := by rfl
    rw [(equal event member).1]
    exact List.all_eq_true.mp certain event member

/-- Without its directory a file takes no event.  And an event off a clock that is set back,
shown for the second time, is not equal to what is written of it; a bound shown for the first
time, which is later by the clock and earlier as an instant, keeps it out of what a memory gives
only. -/
theorem file_differs_from_memory :
    ((Sink.log escapedEvent (.file (.text "m/a")) [] =
        (.error (.file (.missing "m/a")), .file (.text "m/a"), []) ∧
      (Sink.file (.text "m/a")).events Machine.ordinary.nesting .everything [] = (.ok [], []) ∧
      (Sink.memory ((AuditMemory.empty none).log escapedEvent)).events Machine.ordinary.nesting
        .everything [] = (.ok [escapedEvent], [])) ∧
    ∃ written store,
      Delivered (some (.file (.text "a"))) [] (deliveriesOf [repeatedEvent])
        (some (.file (.text "a"))) written ∧
      Delivered (some (.memory (.empty none))) [] (deliveriesOf [repeatedEvent])
        (some (.memory store)) [] ∧
      (Sink.memory store).events Machine.ordinary.nesting .everything [] =
        (.ok [repeatedEvent], []) ∧
      (Sink.file (.text "a")).events Machine.ordinary.nesting .everything written =
        (.ok [repeatedEvent.asWritten], []) ∧
      repeatedEvent.agrees repeatedEvent.asWritten = false ∧
      (Sink.memory store).events Machine.ordinary.nesting earlierQuestion [] = (.ok [], []) ∧
      (Sink.file (.text "a")).events Machine.ordinary.nesting earlierQuestion written =
        (.ok [repeatedEvent.asWritten], [])) := by
  have textual : ∀ event ∈ [repeatedEvent], event.Textual := by
    rw [List.forall_mem_singleton]
    exact textual_autumnEvent "a" true _
  have room : ∀ count ∈ (none : Option Nat), [repeatedEvent].length ≤ count := nofun
  have nests : 2 ≤ Machine.ordinary.nesting := by decide
  obtain ⟨written, created, fromFile⟩ := delivered_created nests creatable_single textual
  obtain ⟨store, remembered, fromMemory⟩ := delivered_remembered room []
  refine ⟨⟨?_, ?_, rfl⟩, written, store, created, remembered, ?_, ?_, ?_, ?_, ?_⟩
  · have fails : AuditFile.log "m/a" escapedEvent [] = .error (.file (.missing "m/a")) := by
      rw [AuditFile.log, Disk.append, locate_nested]
      rfl
    rw [Sink.log, pathOf, Except.bind, fails]
  · change AuditFile.events Machine.ordinary.nesting "m/a" .everything [] = _
    rw [AuditFile.events, Disk.read, locate_nested]
    rfl
  · rw [fromMemory, EventFilter.select_everything]
  · rw [fromFile, EventFilter.select_everything]
    rfl
  · rw [AuditEvent.agrees_asWritten]
    rfl
  · rw [fromMemory]
    rfl
  · rw [fromFile]
    rfl

end Sink

end AccessDecision
