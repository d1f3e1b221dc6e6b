import AccessDecision.Proofs.Audit.SinkAgreement
import AccessDecision.Session.Run

/-!
# What a memory gives back

Events are logged in a memory and asked for in any order.  A question is answered by those of
the latest events that satisfy each condition it gives, as if the oldest ones had never been
logged.  It leaves no trace in later answers, and several conditions together select what all of
them select alone.
-/

namespace AccessDecision

namespace ClockTime

/-- A time is no later than another one, by their clock if it is the same and otherwise as
an instant. -/
def AtMost (left right : ClockTime) : Prop :=
  if left.sharesClock right then left.reading ≤ right.reading else left.instant ≤ right.instant

instance (left right : ClockTime) : Decidable (left.AtMost right) :=
  inferInstanceAs (Decidable
    (if left.sharesClock right then left.reading ≤ right.reading
      else left.instant ≤ right.instant))

theorem sharesClock_comm (left right : ClockTime) :
    left.sharesClock right = right.sharesClock left := by
  rw [sharesClock, sharesClock]
  cases left.clock with
  | none => cases right.clock <;> rfl
  | some face =>
      cases right.clock with
      | none => rfl
      | some other => exact BEq.comm

theorem atMost_iff_lead (left right : ClockTime) : left.AtMost right ↔ ¬ right.lead left < 0 := by
  rw [AtMost, lead, sharesClock_comm right left]
  split <;> omega

end ClockTime

namespace EventFilter

/-- An event that satisfies every condition of a filter. -/
structure Passes (filter : EventFilter) (event : AuditEvent) : Prop where
  policyName : ∀ name ∈ filter.policyName, event.policyName.agrees name = true
  outcome : ∀ outcome ∈ filter.outcome, event.outcome.agrees outcome = true
  first : ∀ first ∈ filter.first, first.AtMost event.timestamp
  last : ∀ last ∈ filter.last, event.timestamp.AtMost last

theorem passes_iff (filter : EventFilter) (event : AuditEvent) :
    filter.Passes event ↔
      (∀ name ∈ filter.policyName, event.policyName.agrees name = true) ∧
      (∀ outcome ∈ filter.outcome, event.outcome.agrees outcome = true) ∧
      (∀ first ∈ filter.first, first.AtMost event.timestamp) ∧
      ∀ last ∈ filter.last, event.timestamp.AtMost last :=
  ⟨fun ⟨name, outcome, first, last⟩ => ⟨name, outcome, first, last⟩,
    fun ⟨name, outcome, first, last⟩ => ⟨name, outcome, first, last⟩⟩

instance (filter : EventFilter) (event : AuditEvent) : Decidable (filter.Passes event) :=
  decidable_of_iff' _ (filter.passes_iff event)

/-- The conditions that a filter gives, each as a filter of its own. -/
def conditions (filter : EventFilter) : List EventFilter :=
  (filter.policyName.toList.map fun name => { everything with policyName := some name }) ++
    (filter.outcome.toList.map fun outcome => { everything with outcome := some outcome }) ++
    (filter.first.toList.map fun first => { everything with first := some first }) ++
    filter.last.toList.map fun last => { everything with last := some last }

theorem passes_iff_conditions (filter : EventFilter) (event : AuditEvent) :
    filter.Passes event ↔ ∀ condition ∈ filter.conditions, condition.Passes event := by
  simp [conditions, passes_iff, everything, or_imp, forall_and]

theorem bind_isBefore {left right : ClockTime}
    (comparable : left.offset.isSome = right.offset.isSome) (next : Except Failure Bool) :
    (isBefore left right >>= fun before => if before = true then pure false else next) =
      if right.AtMost left then next else .ok false := by
  rw [isBefore, ClockTime.comparable_iff, comparable, beq_self_eq_true, if_pos rfl]
  by_cases before : left.lead right < 0
  · rw [if_neg (mt (ClockTime.atMost_iff_lead _ _).mp (not_not_intro before)),
      decide_eq_true before]
    rfl
  · rw [if_pos ((ClockTime.atMost_iff_lead _ _).mpr before), decide_eq_false before]
    rfl

theorem any_not_iff {α : Type} (asked : Option α) (holds : α → Bool) :
    asked.any (!holds ·) = true ↔ ¬ ∀ item ∈ asked, holds item = true := by
  cases asked <;> simp

/-- Where all timestamps can be compared, an event is accepted if it satisfies every condition. -/
theorem accepts_of_comparable {filter : EventFilter} {event : AuditEvent}
    (comparable : ∀ time ∈ filter.times, time.offset.isSome = event.timestamp.offset.isSome) :
    filter.accepts event = .ok (decide (filter.Passes event)) := by
  obtain ⟨policyName, outcome, first, last⟩ := filter
  simp only [times, List.forall_mem_append, Option.mem_toList] at comparable
  obtain ⟨comparesFirst, comparesLast⟩ := comparable
  rw [accepts]
  by_cases named : ∀ name ∈ policyName, event.policyName.agrees name = true
  case neg =>
    rw [if_pos ((any_not_iff _ _).mpr named),
      decide_eq_false fun passes => named passes.policyName]
    rfl
  by_cases counts : ∀ value ∈ outcome, event.outcome.agrees value = true
  case neg =>
    rw [if_neg (mt (any_not_iff _ _).mp (not_not_intro named)),
      if_pos ((any_not_iff _ _).mpr counts), decide_eq_false fun passes => counts passes.outcome]
    rfl
  rw [if_neg (mt (any_not_iff _ _).mp (not_not_intro named)),
    if_neg (mt (any_not_iff _ _).mp (not_not_intro counts))]
  have timely : decide (Passes ⟨policyName, outcome, first, last⟩ event) =
      decide ((∀ time ∈ first, time.AtMost event.timestamp) ∧
        ∀ time ∈ last, event.timestamp.AtMost time) :=
    decide_eq_decide.mpr
      ⟨fun passes => ⟨passes.first, passes.last⟩, fun times => ⟨named, counts, times.1, times.2⟩⟩
  rw [timely]
  cases first with
  | none =>
      cases last with
      | none =>
          simp
          rfl
      | some last =>
          simp only [bind_isBefore (comparesLast last rfl)]
          split <;> simp [pure, Except.pure, *]
  | some first =>
      simp only [bind_isBefore (comparesFirst first rfl).symm]
      cases last with
      | none => split <;> simp [pure, Except.pure, *]
      | some last =>
          simp only [bind_isBefore (comparesLast last rfl)]
          split
          · split <;> simp [pure, Except.pure, *]
          · simp [*]

/-- Where all timestamps can be compared, the events that satisfy every condition are selected. -/
theorem select_of_comparable {filter : EventFilter} {events : List AuditEvent}
    (comparable : ∀ event ∈ events, ∀ time ∈ filter.times,
      time.offset.isSome = event.timestamp.offset.isSome) :
    filter.select events = .ok (events.filter (filter.Passes ·)) := by
  induction events with
  | nil => rfl
  | cons event events ih =>
      rw [List.forall_mem_cons] at comparable
      rw [select, ih comparable.2, accepts_of_comparable comparable.1, List.filter_cons]
      rfl

def places (filter : EventFilter) (events : List AuditEvent) : List Nat :=
  (List.range events.length).filter fun place => ∃ event ∈ events[place]?, filter.Passes event

theorem times_of_conditions {filter condition : EventFilter}
    (member : condition ∈ filter.conditions) : ∀ time ∈ condition.times, time ∈ filter.times := by
  intro time isTime
  simp only [conditions, List.mem_append, List.mem_map, Option.mem_toList] at member
  rcases member with ((⟨_, _, rfl⟩ | ⟨_, _, rfl⟩) | ⟨first, isFirst, rfl⟩) | ⟨last, isLast, rfl⟩
  · simp [times, everything] at isTime
  · simp [times, everything] at isTime
  · simp_all [times, everything]
  · simp_all [times, everything]

theorem mem_places {filter : EventFilter} {events : List AuditEvent} {place : Nat} :
    place ∈ filter.places events ↔ ∃ event ∈ events[place]?, filter.Passes event := by
  rw [places, List.mem_filter, decide_eq_true_iff, List.mem_range]
  refine and_iff_right_of_imp ?_
  rintro ⟨event, isEvent, -⟩
  exact (List.getElem?_eq_some_iff.mp isEvent).1

theorem pairwise_places (filter : EventFilter) (events : List AuditEvent) :
    (filter.places events).Pairwise (· < ·) :=
  List.pairwise_lt_range.filter _

/-- Events are selected at the places that all conditions select alone. -/
theorem mem_places_iff_conditions {filter : EventFilter} {events : List AuditEvent} {place : Nat} :
    place ∈ filter.places events ↔
      place < events.length ∧ ∀ condition ∈ filter.conditions, place ∈ condition.places events := by
  simp only [mem_places]
  rcases isEvent : events[place]? with - | event
  · have outside := List.getElem?_eq_none_iff.mp isEvent
    simp
    omega
  · have inside := (List.getElem?_eq_some_iff.mp isEvent).1
    simpa [inside] using passes_iff_conditions filter event

theorem filterMap_range {α : Type} (items : List α) :
    (List.range items.length).filterMap (items[·]?) = items := by
  induction items with
  | nil => rfl
  | cons item items ih =>
      have later : ((fun place => (item :: items)[place]?) ∘ Nat.succ) = (items[·]?) := rfl
      rw [List.length_cons, List.range_succ_eq_map, List.filterMap_cons, List.filterMap_map, later,
        ih]
      rfl

theorem filter_eq_places (filter : EventFilter) (events : List AuditEvent) :
    events.filter (filter.Passes ·) = (filter.places events).filterMap (events[·]?) := by
  have picked (place : Nat) : (events[place]?).filter (filter.Passes ·) =
      if ∃ event ∈ events[place]?, filter.Passes event then events[place]? else none := by
    cases events[place]? with
    | none => simp
    | some event => simp [Option.filter]
  calc
    events.filter (filter.Passes ·) =
        ((List.range events.length).filterMap (events[·]?)).filter (filter.Passes ·) := by
      rw [filterMap_range]
    _ = (filter.places events).filterMap (events[·]?) := by
      simp only [places, List.filterMap_filter, List.filter_filterMap, picked, decide_eq_true_iff]

end EventFilter

namespace AuditMemory

def bound (capacity : Option Nat) : Value :=
  capacity.elim .null fun count => .int count

theorem firstEntries_cons {α : Type} (capacity : Option Nat) (entry : α) (entries : List α) :
    firstEntries capacity (entry :: firstEntries capacity entries) =
      firstEntries capacity (entry :: entries) := by
  cases capacity with
  | none => rfl
  | some count =>
      cases count with
      | zero => rfl
      | succ count => simp [firstEntries, List.take_take]

theorem capacityOf_bound {capacity accepted : Option Nat}
    (accepts : capacityOf (bound capacity) = .ok accepted) : accepted = capacity := by
  cases capacity with
  | none =>
      cases accepts
      rfl
  | some count =>
      simp only [bound, Option.elim_some, capacityOf] at accepts
      split at accepts
      · cases accepts
      · split at accepts
        · cases accepts
        · cases accepts
          simp

end AuditMemory

theorem Sink.create_memory {capacity : Option Nat} {path : Option Value} {sink : Sink}
    (made : create (.text "memory") (some (AuditMemory.bound capacity)) path = .ok sink) :
    sink = .memory (.empty capacity) := by
  rw [create, if_pos ((Value.agrees_text _ _).mpr rfl)] at made
  simp only [Option.getD_some, bind, Except.bind] at made
  split at made
  · cases made
  · next accepted accepts =>
      cases made
      rw [AuditMemory.capacityOf_bound accepts]

inductive SinkCall where
  | log (event : AuditEvent)
  | ask (filter : EventFilter)

namespace SinkCall

/-- Make a call of the sink with a number.  Only questions are answered by events. -/
def make (number : Nat) : SinkCall → Work (List AuditEvent)
  | .log event => do
      Work.logEvent number event
      pure []
  | .ask filter => Work.selectEvents number filter

theorem make_log (number : Nat) (event : AuditEvent) (session : Session) :
    (log event).make number session =
      ((Work.logEvent number event session).1.map fun _ => [],
        (Work.logEvent number event session).2) := by
  rw [make]
  rcases logs : Work.logEvent number event session with ⟨failure | _, later⟩
  · exact Attempt.bind_of_error logs
  · exact Attempt.bind_of_ok logs

def logged (calls : List SinkCall) : List AuditEvent :=
  calls.filterMap fun
    | .log event => some event
    | .ask _ => none

end SinkCall

namespace Work

variable {session : Session} {number : Nat} {store : AuditMemory}

theorem logEvent_memory (stands : session.sinks[number]? = some (.memory store))
    (event : AuditEvent) :
    logEvent number event session =
      (.ok (), { session with sinks := session.sinks.set number (.memory (store.log event)) }) := by
  rw [logEvent, stands]
  rfl

theorem selectEvents_memory (stands : session.sinks[number]? = some (.memory store))
    (filter : EventFilter) :
    (selectEvents number filter session).1 = filter.select store.events := by
  rw [selectEvents, stands]
  rfl

/-- What is selected may be told in the log, and sinks and files stay as they are. -/
theorem selectEvents_keeps (session : Session) (number : Nat) (filter : EventFilter) :
    (selectEvents number filter session).2.sinks = session.sinks ∧
      (selectEvents number filter session).2.disk = session.disk ∧
      (selectEvents number filter session).2.machine = session.machine := by
  rw [selectEvents]
  cases session.sinks[number]? <;> exact ⟨rfl, rfl, rfl⟩

end Work

namespace Session

def after (number : Nat) (session : Session) (calls : List SinkCall) : Session :=
  calls.foldl (fun session call => (call.make number session).2) session

theorem after_append (number : Nat) (session : Session) (first second : List SinkCall) :
    session.after number (first ++ second) = (session.after number first).after number second :=
  List.foldl_append

/-- The sink with a number is a memory of the latest of some events. -/
def Remembers (session : Session) (number : Nat) (capacity : Option Nat)
    (events : List AuditEvent) : Prop :=
  session.sinks[number]? =
    some (.memory ⟨capacity, AuditMemory.firstEntries capacity events.reverse⟩)

section Memory

variable {session : Session} {number : Nat} {capacity : Option Nat} {events : List AuditEvent}

theorem Remembers.make (remembers : session.Remembers number capacity events)
    (call : SinkCall) :
    (call.make number session).2.Remembers number capacity (events ++ SinkCall.logged [call]) := by
  cases call with
  | log event =>
      have logs := Work.logEvent_memory remembers event
      have inside := (List.getElem?_eq_some_iff.mp remembers).1
      rw [SinkCall.make_log, logs, Remembers]
      simp only [SinkCall.logged, List.filterMap_cons, List.filterMap_nil, List.reverse_append]
      simp [AuditMemory.log, inside, AuditMemory.firstEntries_cons]
  | ask filter =>
      rw [SinkCall.make, Remembers, (Work.selectEvents_keeps session number filter).1]
      exact (List.append_nil events).symm ▸ remembers

theorem Remembers.after (remembers : session.Remembers number capacity events)
    (calls : List SinkCall) :
    (session.after number calls).Remembers number capacity (events ++ SinkCall.logged calls) := by
  induction calls generalizing session events with
  | nil => exact (List.append_nil events).symm ▸ remembers
  | cons call calls ih =>
      have later := ih (remembers.make call)
      rwa [List.append_assoc, SinkCall.logged, SinkCall.logged, ← List.filterMap_append] at later

/-- A memory that remembers some events gives those that satisfy every condition. -/
theorem Remembers.answers (remembers : session.Remembers number capacity events)
    {filter : EventFilter} {aware : Bool}
    (comparable : ∀ time ∈ filter.times ++ events.map AuditEvent.timestamp,
      time.offset.isSome = aware) :
    (Work.selectEvents number filter session).1 =
      .ok ((AuditMemory.lastEntries capacity events).filter (filter.Passes ·)) := by
  have given : (AuditMemory.mk capacity
      (AuditMemory.firstEntries capacity events.reverse)).events =
      AuditMemory.lastEntries capacity events := by
    rw [AuditMemory.events, AuditMemory.reverse_firstEntries, List.reverse_reverse]
  rw [List.forall_mem_append, List.forall_mem_map] at comparable
  rw [Work.selectEvents_memory remembers, given]
  refine EventFilter.select_of_comparable fun event isKept time isTime => ?_
  have isLogged : event ∈ events := by
    cases capacity with
    | none => exact isKept
    | some count => exact List.mem_of_mem_drop isKept
  rw [comparable.1 time isTime, comparable.2 event isLogged]

end Memory

/-- Calls of sinks come to the same where sinks, files and machines are the same. -/
structure SameSinks (session other : Session) : Prop where
  sinks : session.sinks = other.sinks
  disk : session.disk = other.disk
  machine : session.machine = other.machine

theorem SameSinks.logEvent {session other : Session} (same : session.SameSinks other)
    (number : Nat) (event : AuditEvent) :
    (Work.logEvent number event session).1 = (Work.logEvent number event other).1 ∧
      (Work.logEvent number event session).2.SameSinks (Work.logEvent number event other).2 := by
  obtain ⟨sinks, disk, machine⟩ := same
  rw [Work.logEvent, Work.logEvent, sinks, disk]
  cases other.sinks[number]? with
  | none => exact ⟨rfl, sinks, disk, machine⟩
  | some sink => exact ⟨rfl, rfl, rfl, machine⟩

theorem SameSinks.make {session other : Session} (same : session.SameSinks other) (number : Nat)
    (call : SinkCall) :
    (call.make number session).1 = (call.make number other).1 ∧
      (call.make number session).2.SameSinks (call.make number other).2 := by
  cases call with
  | log event =>
      have ⟨sameOutcome, sameSinks⟩ := same.logEvent number event
      rw [SinkCall.make_log, SinkCall.make_log, sameOutcome]
      exact ⟨rfl, sameSinks⟩
  | ask filter =>
      have ⟨sinks, disk, machine⟩ := same
      have keeps := Work.selectEvents_keeps session number filter
      have keepsToo := Work.selectEvents_keeps other number filter
      refine ⟨?_, ?_, ?_, ?_⟩
      · simp only [SinkCall.make, Work.selectEvents, sinks, disk, machine]
        cases other.sinks[number]? <;> rfl
      · exact keeps.1.trans (sinks.trans keepsToo.1.symm)
      · exact keeps.2.1.trans (disk.trans keepsToo.2.1.symm)
      · exact keeps.2.2.trans (machine.trans keepsToo.2.2.symm)

theorem SameSinks.after {session other : Session} (same : session.SameSinks other) (number : Nat)
    (calls : List SinkCall) :
    (session.after number calls).SameSinks (other.after number calls) := by
  induction calls generalizing session other with
  | nil => exact same
  | cons call calls ih => exact ih (same.make number call).2

/-- A memory answers each question by those of the events logged last, as many as it was made
for, that satisfy every condition of the question, in the order in which they were logged.  That
a question was asked makes no difference to any later call.  The events stand at certain places
among those that are kept; several conditions together select the places that all of them select
alone. -/
theorem answers_from_latest {session : Session} {number : Nat} {capacity : Option Nat}
    {path : Option Value} {sink : Sink}
    (made : Sink.create (.text "memory") (some (AuditMemory.bound capacity)) path = .ok sink)
    (stands : session.sinks[number]? = some sink) (calls : List SinkCall)
    {filter : EventFilter} {aware : Bool}
    (comparable : ∀ time ∈ filter.times ++ (SinkCall.logged calls).map AuditEvent.timestamp,
      time.offset.isSome = aware) :
    let kept := AuditMemory.lastEntries capacity (SinkCall.logged calls)
    let answer := fun asked => (Work.selectEvents number asked (session.after number calls)).1
    answer filter = .ok (kept.filter (filter.Passes ·)) ∧
    (∀ (asked : EventFilter) (between : List SinkCall) (later : SinkCall),
      (later.make number (session.after number (calls ++ .ask asked :: between))).1 =
        (later.make number (session.after number (calls ++ between))).1) ∧
    (∀ asked ∈ filter :: filter.conditions,
      answer asked = .ok ((asked.places kept).filterMap (kept[·]?)) ∧
        (asked.places kept).Pairwise (· < ·)) ∧
    ∀ place, place ∈ filter.places kept ↔
      place < kept.length ∧ ∀ condition ∈ filter.conditions, place ∈ condition.places kept := by
  intro kept answer
  obtain rfl := Sink.create_memory made
  have remembers : (session.after number calls).Remembers number capacity
      (SinkCall.logged calls) := by
    have fresh : session.Remembers number capacity [] := by
      rw [Remembers, stands]
      cases capacity <;> simp [AuditMemory.empty, AuditMemory.firstEntries]
    exact fresh.after calls
  have answers (asked : EventFilter) (member : asked ∈ filter :: filter.conditions) :
      answer asked = .ok (kept.filter (asked.Passes ·)) := by
    refine remembers.answers fun time isTime => comparable time ?_
    rw [List.mem_append] at isTime ⊢
    refine isTime.imp_left fun isCondition => ?_
    rcases List.mem_cons.mp member with rfl | isPart
    · exact isCondition
    · exact EventFilter.times_of_conditions isPart time isCondition
  refine ⟨answers filter List.mem_cons_self, ?_, ?_, ?_⟩
  · intro asked between later
    have asks : ((SinkCall.ask asked).make number (session.after number calls)).2.SameSinks
        (session.after number calls) := by
      obtain ⟨sinks, disk, machine⟩ :=
        Work.selectEvents_keeps (session.after number calls) number asked
      exact ⟨sinks, disk, machine⟩
    rw [after_append, after_append]
    exact ((asks.after number between).make number later).1
  · intro asked member
    rw [answers asked member, EventFilter.filter_eq_places]
    exact ⟨rfl, asked.pairwise_places kept⟩
  · exact fun place => EventFilter.mem_places_iff_conditions

def eventAbout (name : String) : AuditEvent :=
  { escapedEvent with policyName := .text name }

/-- Four events are logged in a memory that keeps two, with a question in between. -/
def crowdedCalls : List SinkCall :=
  [.log (eventAbout "b"), .log (eventAbout "a"), .ask .everything, .log (eventAbout "b"),
    .log (eventAbout "a")]

/-- Events about one policy from an instant on that is given with another offset. -/
def laterQuestion : EventFilter :=
  { EventFilter.everything with
    policyName := some (.text "b")
    first := some <| .fixed
      { year := 2026, month := 3, day := 1, hour := 4, minute := 59, second := 59,
        microsecond := 7, offset := some 0
        valid := ⟨by decide, by decide, by decide, by decide, by decide, by decide, by decide,
          by decide⟩ } }

def crowdedSession : Session :=
  { start escapedTimestamp (.avoiding []) with sinks := [.memory (.empty (some 2))] }

theorem passes_laterQuestion : laterQuestion.Passes (eventAbout "b") where
  policyName := by
    rintro name ⟨⟩
    exact (Value.agrees_text _ _).mpr rfl
  outcome := by rintro outcome ⟨⟩
  first := by
    rintro first ⟨⟩
    decide
  last := by rintro last ⟨⟩

theorem not_passes_laterQuestion : ¬ laterQuestion.Passes (eventAbout "a") := by
  intro passes
  have isName := (Value.agrees_text _ _).mp (passes.policyName _ rfl)
  revert isName
  simp [eventAbout]

theorem answers_from_latest_crowded :
    Sink.create (.text "memory") (some (AuditMemory.bound (some 2))) none =
      .ok (.memory (.empty (some 2))) ∧
    crowdedSession.sinks[0]? = some (.memory (.empty (some 2))) ∧
    (∀ time ∈ laterQuestion.times ++ (SinkCall.logged crowdedCalls).map AuditEvent.timestamp,
      time.offset.isSome = true) ∧
    (Work.selectEvents 0 laterQuestion (crowdedSession.after 0 crowdedCalls)).1 =
      .ok [eventAbout "b"] := by
  have made : Sink.create (.text "memory") (some (AuditMemory.bound (some 2))) none =
      .ok (.memory (.empty (some 2))) := by
    rw [Sink.create, if_pos ((Value.agrees_text _ _).mpr rfl)]
    rfl
  have stands : crowdedSession.sinks[0]? = some (.memory (.empty (some 2))) := rfl
  have comparable : ∀ time ∈
      laterQuestion.times ++ (SinkCall.logged crowdedCalls).map AuditEvent.timestamp,
      time.offset.isSome = true := by decide
  have answer := (answers_from_latest made stands crowdedCalls comparable).1
  refine ⟨made, stands, comparable, answer.trans ?_⟩
  simp [AuditMemory.lastEntries, SinkCall.logged, crowdedCalls, passes_laterQuestion,
    not_passes_laterQuestion]

end Session

end AccessDecision
