import AccessDecision.Checker.Hearing

/-!
# Deliveries to a sink

Events are handed to a sink one after the other, and the sink refuses some of them.  What it
is left with is what it would hold if it never refused anything and had been handed the
other events only.
-/

namespace AccessDecision

/-- An event that was handed on, with the failure if the sink refused it. -/
structure Delivery where
  event : AuditEvent
  failure : Option Failure

namespace Delivery

def isTaken (delivery : Delivery) : Bool :=
  delivery.failure.isNone

def isCancelled (delivery : Delivery) : Bool :=
  delivery.failure.any Failure.isCancellation

/-- What the one who hands the event over comes to: a sink that calls off everything is not
to be stopped. -/
def outcome (delivery : Delivery) : Except Failure Unit :=
  match delivery.failure with
  | none => .ok ()
  | some failure => if failure.isCancellation then .error failure else .ok ()

/-- What is logged about a sink that fails but does not call off everything. -/
def complaints (delivery : Delivery) : List LogRecord :=
  match delivery.failure with
  | none => []
  | some failure =>
      if failure.isCancellation then [] else [.auditFailed delivery.event failure]

/-- What is logged about a delivery: that the policy decided, and then that the sink
failed. -/
def records (delivery : Delivery) : List LogRecord :=
  .decided delivery.event :: delivery.complaints

theorem outcome_of_not_cancelled {delivery : Delivery}
    (stoppable : delivery.isCancelled = false) : delivery.outcome = .ok () := by
  rcases delivery with ⟨event, - | failure⟩
  · rfl
  · have goesOn : failure.isCancellation = false := stoppable
    simp [outcome, goesOn]

theorem isCancellation_of_outcome_error {delivery : Delivery} {failure : Failure}
    (fails : delivery.outcome = .error failure) :
    delivery.failure = some failure ∧ failure.isCancellation = true := by
  rcases delivery with ⟨event, - | given⟩
  · cases fails
  · rw [outcome] at fails
    dsimp only at fails
    split at fails
    · next cancels =>
        cases fails
        exact ⟨rfl, cancels⟩
    · cases fails

theorem isCancelled_of_outcome_ok {delivery : Delivery} (succeeds : delivery.outcome = .ok ()) :
    delivery.isCancelled = false := by
  rcases delivery with ⟨event, - | failure⟩
  · rfl
  · rw [outcome] at succeeds
    dsimp only at succeeds
    split at succeeds
    · cases succeeds
    · next goesOn => exact Bool.not_eq_true _ ▸ goesOn

end Delivery

namespace Sink

/-- The sink that never fails and holds the same. -/
def calm : Sink → Sink
  | .failing _ _ store => .memory store
  | sink => sink

def memory? : Sink → Option AuditMemory
  | .memory store | .failing _ _ store => some store
  | _ => none

/-- A sink that may fail but never calls off everything. -/
def Harmless : Sink → Prop
  | .failing fault _ _ =>
      ∀ number event failure, fault number event = some failure →
        failure.isCancellation = false
  | _ => True

theorem isCancellation_pathOf {value : Value} {failure : Failure}
    (fails : pathOf value = .error failure) : failure.isCancellation = false := by
  have descriptor (number : Int) : (descriptorFault number).isCancellation = false := by
    rw [descriptorFault]
    split
    · rfl
    · split <;> rfl
  cases value with
  | text path => cases fails
  | int number =>
      rw [pathOf, Except.error.injEq] at fails
      rw [← fails]
      exact descriptor number
  | bool flag =>
      rw [pathOf, Except.error.injEq] at fails
      rw [← fails]
      exact descriptor flag.toNat
  | _ =>
      cases fails
      rfl

theorem isCancellation_log_file {path : String} {event : AuditEvent} {disk : Disk}
    {failure : Failure} (fails : AuditFile.log path event disk = .error failure) :
    failure.isCancellation = false := by
  rw [AuditFile.log] at fails
  rcases wrote : disk.append path (AuditFile.lineOf event).toUTF8 with fault | later
  · rw [wrote] at fails
    cases fails
    rfl
  · rw [wrote] at fails
    cases fails

theorem Harmless.isCancellation {sink next : Sink} {event : AuditEvent} {disk later : Disk}
    {failure : Failure} (harmless : sink.Harmless)
    (logs : sink.log event disk = (.error failure, next, later)) :
    failure.isCancellation = false := by
  cases sink with
  | memory store => cases logs
  | file path =>
      rw [log] at logs
      rcases wrote : (pathOf path).bind (AuditFile.log · event disk) with fault | written
      · rw [wrote] at logs
        cases logs
        rcases isPath : pathOf path with other | name
        · rw [isPath] at wrote
          cases wrote
          exact isCancellation_pathOf isPath
        · rw [isPath] at wrote
          exact isCancellation_log_file wrote
      · rw [wrote] at logs
        cases logs
  | failing fault calls store =>
      rw [log] at logs
      rcases known : fault calls event with - | other
      · rw [known] at logs
        cases logs
      · rw [known] at logs
        cases logs
        exact harmless calls event _ known
  | stranger kind =>
      cases logs
      rfl

theorem Harmless.log {sink next : Sink} {event : AuditEvent} {disk later : Disk}
    {outcome : Except Failure Unit} (harmless : sink.Harmless)
    (logs : sink.log event disk = (outcome, next, later)) : next.Harmless := by
  cases sink with
  | memory store =>
      cases logs
      trivial
  | file path =>
      rw [Sink.log] at logs
      split at logs <;>
        · cases logs
          trivial
  | failing fault calls store =>
      rw [Sink.log] at logs
      split at logs <;>
        · cases logs
          exact harmless
  | stranger kind =>
      cases logs
      trivial

theorem calm_log_of_ok {sink next : Sink} {event : AuditEvent} {disk later : Disk}
    (logs : sink.log event disk = (.ok (), next, later)) :
    sink.calm.log event disk = (.ok (), next.calm, later) := by
  cases sink with
  | memory store =>
      cases logs
      rfl
  | file path =>
      have isFile : next = .file path := by
        rw [log] at logs
        split at logs
        · cases logs
          rfl
        · cases logs
      subst isFile
      exact logs
  | failing fault calls store =>
      rw [log] at logs
      split at logs
      · cases logs
      · cases logs
        rfl
  | stranger kind => cases logs

theorem calm_of_error {sink next : Sink} {event : AuditEvent} {disk later : Disk}
    {failure : Failure} (logs : sink.log event disk = (.error failure, next, later)) :
    next.calm = sink.calm ∧ later = disk := by
  cases sink with
  | memory store => cases logs
  | file path =>
      rw [log] at logs
      split at logs
      · cases logs
      · cases logs
        exact ⟨rfl, rfl⟩
  | failing fault calls store =>
      rw [log] at logs
      split at logs
      · cases logs
        exact ⟨rfl, rfl⟩
      · cases logs
  | stranger kind =>
      cases logs
      exact ⟨rfl, rfl⟩

end Sink

/-- Events are handed one after the other to a sink, if there is one, which may write to
the disk; each of them is taken or refused. -/
inductive Delivered : Option Sink → Disk → List Delivery → Option Sink → Disk → Prop where
  | done (sink : Option Sink) (disk : Disk) : Delivered sink disk [] sink disk
  | unheard {last : Option Sink} {disk later : Disk} {others : List Delivery}
      (event : AuditEvent) (rest : Delivered none disk others last later) :
      Delivered none disk (⟨event, none⟩ :: others) last later
  | taken {sink next : Sink} {last : Option Sink} {disk middle later : Disk}
      {others : List Delivery} {event : AuditEvent}
      (logs : sink.log event disk = (.ok (), next, middle))
      (rest : Delivered (some next) middle others last later) :
      Delivered (some sink) disk (⟨event, none⟩ :: others) last later
  | refused {sink next : Sink} {last : Option Sink} {disk middle later : Disk}
      {others : List Delivery} {event : AuditEvent} {failure : Failure}
      (logs : sink.log event disk = (.error failure, next, middle))
      (rest : Delivered (some next) middle others last later) :
      Delivered (some sink) disk (⟨event, some failure⟩ :: others) last later

namespace Delivered

variable {sink last : Option Sink} {disk later : Disk} {deliveries : List Delivery}

theorem trans {others : List Delivery} {final : Option Sink} {written : Disk}
    (delivered : Delivered sink disk deliveries last later)
    (onwards : Delivered last later others final written) :
    Delivered sink disk (deliveries ++ others) final written := by
  induction delivered with
  | done => exact onwards
  | unheard event _ ih => exact .unheard event (ih onwards)
  | taken logs _ ih => exact .taken logs (ih onwards)
  | refused logs _ ih => exact .refused logs (ih onwards)

theorem of_absent (delivered : Delivered sink disk deliveries last later)
    (absent : sink = none) :
    last = none ∧ later = disk ∧ ∀ delivery ∈ deliveries, delivery.failure = none := by
  induction delivered with
  | done => exact ⟨absent, rfl, by simp⟩
  | unheard event _ ih => simpa using ih rfl
  | taken => cases absent
  | refused => cases absent

/-- A sink is left with the events that it took, as if nothing else had been handed to
it. -/
theorem calm {given : Sink} (delivered : Delivered (some given) disk deliveries last later) :
    ∃ left, last = some left ∧
      Delivered (some given.calm) disk (deliveries.filter Delivery.isTaken)
        (some left.calm) later := by
  generalize present : some given = sink at delivered
  induction delivered generalizing given with
  | done sink disk =>
      subst present
      exact ⟨given, rfl, .done _ _⟩
  | unheard => cases present
  | taken logs _ ih =>
      cases present
      obtain ⟨left, isLast, rest⟩ := ih rfl
      exact ⟨left, isLast, .taken (Sink.calm_log_of_ok logs) rest⟩
  | refused logs _ ih =>
      cases present
      obtain ⟨left, isLast, rest⟩ := ih rfl
      obtain ⟨holds, unwritten⟩ := Sink.calm_of_error logs
      rw [holds, unwritten] at rest
      exact ⟨left, isLast, rest⟩

theorem memory {store : AuditMemory}
    (delivered : Delivered (some (.memory store)) disk deliveries last later) :
    last = some (.memory ((deliveries.map Delivery.event).foldl AuditMemory.log store)) := by
  generalize isMemory : some (Sink.memory store) = sink at delivered
  induction delivered generalizing store with
  | done sink disk => exact isMemory.symm
  | unheard => cases isMemory
  | taken logs _ ih =>
      cases isMemory
      cases logs
      exact ih rfl
  | refused logs =>
      cases isMemory
      cases logs

theorem memory? {given left : Sink} {store : AuditMemory} (remembers : given.memory? = some store)
    (delivered : Delivered (some given) disk deliveries (some left) later) :
    left.memory? = some
      (((deliveries.filter Delivery.isTaken).map Delivery.event).foldl
        AuditMemory.log store) := by
  obtain ⟨_, isLast, rest⟩ := delivered.calm
  cases isLast
  have isMemory : given.calm = .memory store := by
    cases given <;> cases remembers <;> rfl
  rw [isMemory] at rest
  have holds := rest.memory
  cases left with
  | memory | failing =>
      cases holds
      rfl
  | file | stranger => cases holds

theorem harmless (delivered : Delivered sink disk deliveries last later)
    (safe : ∀ given, sink = some given → given.Harmless) :
    (∀ left, last = some left → left.Harmless) ∧
      ∀ delivery ∈ deliveries, delivery.isCancelled = false := by
  induction delivered with
  | done => exact ⟨safe, by simp⟩
  | unheard event _ ih => simpa [Delivery.isCancelled] using ih safe
  | @taken given next _ _ _ _ _ event logs _ ih =>
      have nextSafe := (safe given rfl).log logs
      have rest := ih fun _ same => by
        cases same
        exact nextSafe
      simpa [Delivery.isCancelled] using rest
  | @refused given next _ _ _ _ _ event failure logs _ ih =>
      have nextSafe := (safe given rfl).log logs
      have rest := ih fun _ same => by
        cases same
        exact nextSafe
      have stoppable := (safe given rfl).isCancellation logs
      simpa [Delivery.isCancelled, stoppable] using rest

end Delivered

end AccessDecision
