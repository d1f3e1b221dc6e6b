import AccessDecision.Audit.Filter
import AccessDecision.Proofs.Value.Agreement

/-!
# Selecting among audit events

Selecting gives some of the events in their order, or fails because one of two timestamps that
are compared has no offset.  An event is written without the clock of its timestamp.  That does
not matter to a filter whose bounds are off other clocks, or in the same order as the instants.
-/

namespace AccessDecision

namespace ClockTime

/-- Two timestamps that come in one order by the instants and, if one clock showed both, by what
it showed. -/
def InOrder (left right : ClockTime) : Prop :=
  left.sharesClock right = true →
    (left.reading < right.reading ↔ left.instant < right.instant)

instance (left right : ClockTime) : Decidable (left.InOrder right) :=
  inferInstanceAs (Decidable (_ → _))

theorem sharesClock_asWritten_left (left right : ClockTime) :
    left.asWritten.sharesClock right = false :=
  rfl

theorem sharesClock_asWritten_right (left right : ClockTime) :
    left.sharesClock right.asWritten = false := by
  rw [sharesClock]
  cases left.clock <;> rfl

theorem isSome_offset {time : ClockTime} {face : LocalClock × Bool}
    (shows : time.clock = some face) : time.offset.isSome = true := by
  rw [time.shown face shows]
  rfl

/-- Timestamps off one clock have offsets, so they can be compared as instants too. -/
theorem comparable_iff (left right : ClockTime) :
    left.comparable right = (left.offset.isSome == right.offset.isSome) := by
  rw [comparable]
  cases shares : left.sharesClock right with
  | false => rfl
  | true =>
      rw [sharesClock] at shares
      split at shares
      · next isLeft isRight =>
          rw [isSome_offset isLeft, isSome_offset isRight]
          rfl
      · cases shares

theorem asWritten_agrees (time : ClockTime) : time.agrees time.asWritten = time.isCertain := by
  have comparable : time.comparable time.asWritten = true := by
    rw [comparable_iff]
    exact beq_self_eq_true _
  have certain : time.asWritten.isCertain = true := rfl
  have instants : (time.instant == time.asWritten.instant) = true := beq_self_eq_true _
  rw [agrees, sharesClock_asWritten_right, if_neg Bool.false_ne_true, comparable, instants,
    certain, Bool.true_and, Bool.true_and, Bool.and_true]

end ClockTime

namespace AuditEvent

def agrees (left right : AuditEvent) : Bool :=
  left.timestamp.agrees right.timestamp &&
    [AuditEvent.eventId, checker, policyName, outcome, reason, category, ruleName, rulesetName,
      details].all fun field => (field left).partAgrees (field right)

theorem agrees_asWritten (event : AuditEvent) :
    event.agrees event.asWritten = event.timestamp.isCertain := by
  have sameTime : event.timestamp.agrees event.asWritten.timestamp = event.timestamp.isCertain :=
    event.timestamp.asWritten_agrees
  rw [agrees, sameTime, Bool.and_eq_left_iff_imp, List.all_eq_true]
  intro _ field member
  have sameField : field event.asWritten = field event := by
    simp only [List.mem_cons, List.not_mem_nil, or_false] at member
    rcases member with rfl | rfl | rfl | rfl | rfl | rfl | rfl | rfl | rfl <;> rfl
  rw [sameField]
  exact (field event).partAgrees_refl

end AuditEvent

namespace EventFilter

def times (filter : EventFilter) : List ClockTime :=
  filter.first.toList ++ filter.last.toList

theorem isBefore_error {left right : ClockTime} {failure : Failure}
    (fails : isBefore left right = .error failure) : failure = .mixedOffsets := by
  rw [isBefore] at fails
  split at fails
  · cases fails
  · cases fails
    rfl

theorem accepts_error {filter : EventFilter} {event : AuditEvent} {failure : Failure}
    (fails : filter.accepts event = .error failure) : failure = .mixedOffsets := by
  rw [accepts] at fails
  simp only [bind, Except.bind, pure, Except.pure] at fails
  repeat' split at fails
  all_goals cases fails
  all_goals exact isBefore_error ‹_›

/-- Selecting gives some of the events in their order, or fails where timestamps cannot be
compared. -/
theorem select_cases (filter : EventFilter) (events : List AuditEvent) :
    (∃ selected, filter.select events = .ok selected ∧ selected.Sublist events) ∨
      filter.select events = .error .mixedOffsets := by
  induction events with
  | nil => exact .inl ⟨[], rfl, .refl []⟩
  | cons event events ih =>
      rw [select]
      cases accepted : filter.accepts event with
      | error failure =>
          have mixed := accepts_error accepted
          subst mixed
          exact .inr rfl
      | ok passes =>
          rcases ih with ⟨selected, selects, sublist⟩ | fails
          · rw [selects]
            refine .inl ⟨_, rfl, ?_⟩
            cases passes with
            | false => exact sublist.cons event
            | true => exact sublist.cons_cons event
          · rw [fails]
            exact .inr rfl

theorem select_everything (events : List AuditEvent) :
    everything.select events = .ok events := by
  induction events with
  | nil => rfl
  | cons event events ih =>
      rw [select, ih]
      rfl

/-- The bounds of a filter come in one order with a timestamp, by the instants and by the clock
that they may share. -/
structure InOrder (filter : EventFilter) (time : ClockTime) : Prop where
  first : ∀ first ∈ filter.first, time.InOrder first
  last : ∀ last ∈ filter.last, last.InOrder time

theorem inOrder_iff (filter : EventFilter) (time : ClockTime) :
    filter.InOrder time ↔
      (∀ first ∈ filter.first, time.InOrder first) ∧ ∀ last ∈ filter.last, last.InOrder time :=
  ⟨fun ⟨first, last⟩ => ⟨first, last⟩, fun ⟨first, last⟩ => ⟨first, last⟩⟩

instance (filter : EventFilter) (time : ClockTime) : Decidable (filter.InOrder time) :=
  decidable_of_iff' _ (filter.inOrder_iff time)

theorem isBefore_of_inOrder {left right : ClockTime} (ordered : left.InOrder right) :
    isBefore left right =
      if left.offset.isSome == right.offset.isSome then
        .ok (decide (left.instant < right.instant))
      else .error .mixedOffsets := by
  have leads : left.lead right < 0 ↔ left.instant < right.instant := by
    rw [ClockTime.lead]
    cases shares : left.sharesClock right with
    | false =>
        rw [if_neg Bool.false_ne_true]
        omega
    | true =>
        rw [if_pos rfl, ← ordered shares]
        omega
  rw [isBefore, ClockTime.comparable_iff, decide_eq_decide.mpr leads]

theorem isBefore_asWritten {left right : ClockTime} (ordered : left.InOrder right) :
    isBefore left.asWritten right = isBefore left right ∧
      isBefore left right.asWritten = isBefore left right := by
  have leftOrdered : left.asWritten.InOrder right := by
    intro shares
    rw [ClockTime.sharesClock_asWritten_left] at shares
    cases shares
  have rightOrdered : left.InOrder right.asWritten := by
    intro shares
    rw [ClockTime.sharesClock_asWritten_right] at shares
    cases shares
  rw [isBefore_of_inOrder leftOrdered, isBefore_of_inOrder rightOrdered,
    isBefore_of_inOrder ordered]
  exact ⟨rfl, rfl⟩

theorem accepts_asWritten {filter : EventFilter} {event : AuditEvent}
    (ordered : filter.InOrder event.timestamp) :
    filter.accepts event.asWritten = filter.accepts event := by
  have firsts : ∀ first ∈ filter.first,
      isBefore event.asWritten.timestamp first = isBefore event.timestamp first :=
    fun first isFirst => (isBefore_asWritten (ordered.first first isFirst)).1
  have lasts : ∀ last ∈ filter.last,
      isBefore last event.asWritten.timestamp = isBefore last event.timestamp :=
    fun last isLast => (isBefore_asWritten (ordered.last last isLast)).2
  obtain ⟨policyName, outcome, first, last⟩ := filter
  rw [accepts, accepts]
  cases first with
  | none =>
      cases last with
      | none => rfl
      | some last =>
          simp only [lasts last rfl]
          rfl
  | some first =>
      simp only [firsts first rfl]
      cases last with
      | none => rfl
      | some last =>
          simp only [lasts last rfl]
          rfl

/-- Written events are selected as the events are. -/
theorem select_asWritten {filter : EventFilter} {events : List AuditEvent}
    (ordered : ∀ event ∈ events, filter.InOrder event.timestamp) :
    filter.select (events.map AuditEvent.asWritten) =
      (filter.select events).map (List.map AuditEvent.asWritten) := by
  induction events with
  | nil => rfl
  | cons event events ih =>
      rw [List.forall_mem_cons] at ordered
      rw [List.map_cons, select, select, accepts_asWritten ordered.1, ih ordered.2]
      cases filter.accepts event with
      | error failure => rfl
      | ok passes =>
          cases filter.select events with
          | error failure => rfl
          | ok selected => cases passes <;> rfl

end EventFilter

end AccessDecision
