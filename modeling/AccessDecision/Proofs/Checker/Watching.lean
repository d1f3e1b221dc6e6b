import AccessDecision.Checker.Observation
import AccessDecision.Proofs.Checker.Delivery
import AccessDecision.Proofs.Policy.Isolation

/-!
# Watching decisions

While a checker watches its policies it logs, counts and hands events to its sink.  None of
this touches what policies see, and each event leaves its records in the log.  Counting and
logging by themselves succeed always and hand over nothing.
-/

namespace AccessDecision

def LogRecord.isAudit : LogRecord → Bool
  | .decided _ | .auditFailed .. => true
  | _ => false

theorem LogRecord.isAudit_of_isEvaluation {record : LogRecord}
    (evaluates : record.isEvaluation = true) : record.isAudit = false := by
  cases record <;> first | rfl | cases evaluates

theorem Delivery.isAudit_records (delivery : Delivery) :
    delivery.records.filter LogRecord.isAudit = delivery.records := by
  rw [records, complaints]
  split
  · rfl
  · split <;> rfl

/-- The records about audit events. -/
def Stage.auditRecords {φ σ : Type} (stage : Stage φ σ) : List LogRecord :=
  stage.log.filter LogRecord.isAudit

theorem Stage.Modest.auditRecords {φ σ : Type} {allowed : Call φ → Prop} {later : Stage φ σ}
    (modest : later.Modest allowed) (stage : Stage φ σ) :
    (stage.append later).auditRecords = stage.auditRecords := by
  have quiet : later.log.filter LogRecord.isAudit = [] := by
    rw [List.filter_eq_nil_iff]
    intro record member
    rw [LogRecord.isAudit_of_isEvaluation (modest.records record member)]
    simp
  simp [Stage.auditRecords, quiet]

/-- Between two hearings nothing took place but watching, which came to some deliveries. -/
structure Watched {φ σ : Type} (hearing : Hearing φ σ) (deliveries : List Delivery)
    (later : Hearing φ σ) : Prop where
  quiet : later.stage.silenced = hearing.stage.silenced
  stranger : later.observers.stranger = hearing.observers.stranger
  records : later.stage.auditRecords =
    hearing.stage.auditRecords ++ deliveries.flatMap Delivery.records
  delivered : Delivered hearing.observers.sink hearing.observers.disk deliveries
    later.observers.sink later.observers.disk

/-- Observers whose collector is one and whose sink calls off nothing. -/
structure Observers.Harmless (observers : Observers) : Prop where
  collects : observers.stranger = none
  sink : ∀ sink, observers.sink = some sink → sink.Harmless

namespace Watched

variable {φ σ : Type} {hearing middle later : Hearing φ σ} {deliveries others : List Delivery}

theorem refl (hearing : Hearing φ σ) : Watched hearing [] hearing :=
  ⟨rfl, rfl, by simp, .done _ _⟩

theorem trans (watched : Watched hearing deliveries middle)
    (onwards : Watched middle others later) :
    Watched hearing (deliveries ++ others) later where
  quiet := onwards.quiet.trans watched.quiet
  stranger := onwards.stranger.trans watched.stranger
  records := by rw [onwards.records, watched.records, List.flatMap_append, List.append_assoc]
  delivered := watched.delivered.trans onwards.delivered

/-- Harmless observers stay so, and have called off nothing. -/
theorem harmless (watched : Watched hearing deliveries later)
    (safe : hearing.observers.Harmless) :
    later.observers.Harmless ∧ ∀ delivery ∈ deliveries, delivery.isCancelled = false := by
  have ⟨sink, stoppable⟩ := watched.delivered.harmless safe.sink
  exact ⟨⟨watched.stranger.trans safe.collects, sink⟩, stoppable⟩

end Watched

/-- A proceeding that gives a value always and only logs and counts, provided that what
stands in for a collector is one. -/
def Proceeding.Discreet {φ σ α : Type} (proceeding : Proceeding φ σ α) (value : α) : Prop :=
  ∀ hearing, hearing.observers.stranger = none →
    ∃ later, proceeding hearing = (.ok value, later) ∧ Watched hearing [] later

namespace Proceeding

variable {φ σ α β : Type}

theorem discreet_pure (value : α) : Discreet (pure value : Proceeding φ σ α) value :=
  fun hearing _ => ⟨hearing, rfl, .refl hearing⟩

theorem Discreet.bind {proceeding : Proceeding φ σ α} {next : α → Proceeding φ σ β}
    {value : α} {last : β} (first : Discreet proceeding value)
    (second : Discreet (next value) last) : Discreet (proceeding >>= next) last := by
  intro hearing collects
  obtain ⟨middle, runs, watched⟩ := first hearing collects
  obtain ⟨later, goesOn, onwards⟩ := second middle (watched.stranger.trans collects)
  exact ⟨later, by rw [Attempt.bind_of_ok runs, goesOn], watched.trans onwards⟩

theorem discreet_collect (wanted : Bool) (use : String) (update : Collector → Collector)
    {notices : Collector → List LogRecord}
    (discreet : ∀ collector, ∀ record ∈ notices collector, record.isAudit = false) :
    Discreet (collect wanted use update notices : Proceeding φ σ Unit) () := by
  intro hearing collects
  cases wanted with
  | false => exact ⟨hearing, rfl, .refl hearing⟩
  | true =>
      rcases present : hearing.observers.collector with - | collector
      · exact ⟨hearing, by simp [collect, collects, present], .refl hearing⟩
      · have quiet : (notices collector).filter LogRecord.isAudit = [] := by
          simpa [List.filter_eq_nil_iff] using discreet collector
        refine ⟨{ stage := { hearing.stage with log := hearing.stage.log ++ notices collector }
                  observers := { hearing.observers with collector := some (update collector) } },
          ?_, rfl, rfl, ?_, .done _ _⟩
        · simp [collect, collects, present]
        · simp [Stage.auditRecords, quiet]

end Proceeding

/-- An event says what a policy with its metadata decided. -/
structure AuditEvent.Reports {φ : Type} (event : AuditEvent) (settings : Settings)
    (policy : Policy φ) (result : Result) : Prop where
  checker : event.checker = settings.checkerName
  policyName : event.policyName = policy.name
  outcome : event.outcome = result.outcome
  reason : event.reason = result.reason
  metadata : ∃ metadata, policy.metadata = some metadata ∧
    event.category = metadata.category ∧ event.ruleName = metadata.name ∧
    event.rulesetName = metadata.rulesetName ∧ event.details = .object metadata.record

namespace Settings

variable {φ σ : Type} (settings : Settings)

theorem discreet_countVerdict (granted : Bool) :
    Proceeding.Discreet (settings.countVerdict granted : Proceeding φ σ Unit) () := by
  refine Proceeding.discreet_collect _ _ _ fun collector record member => ?_
  rw [Collector.verdictNotices] at member
  split at member
  · rw [List.mem_singleton.mp member]
    rfl
  · cases member

theorem discreet_countPolicy (policy : Policy φ) (result : Result) :
    Proceeding.Discreet (settings.countPolicy policy result : Proceeding φ σ Unit) () :=
  Proceeding.discreet_collect _ _ _ fun _ _ member => by cases member

theorem deliver_spec (event : AuditEvent) (hearing : Hearing φ σ) :
    ∃ (delivery : Delivery) (later : Hearing φ σ),
      deliver event hearing = (delivery.outcome, later) ∧ delivery.event = event ∧
      later.stage = { hearing.stage with log := hearing.stage.log ++ delivery.complaints } ∧
      later.observers.stranger = hearing.observers.stranger ∧
      Delivered hearing.observers.sink hearing.observers.disk [delivery]
        later.observers.sink later.observers.disk := by
  rcases hearing with ⟨stage, sink | sink, collector, stranger, disk, clock, identifiers⟩
  · exact ⟨⟨event, none⟩, _, rfl, rfl, by simp [Delivery.complaints], rfl,
      .unheard event (.done _ _)⟩
  · rcases logs : sink.log event disk with ⟨outcome, next, written⟩
    let left : Hearing φ σ :=
      ⟨stage, some next, collector, stranger, written, clock, identifiers⟩
    have hands : Proceeding.deliver event
        ⟨stage, some sink, collector, stranger, disk, clock, identifiers⟩ = (outcome, left) := by
      simp [Proceeding.deliver, logs, left]
    cases outcome with
    | ok =>
        exact ⟨⟨event, none⟩, left, Attempt.orElse_of_ok hands, rfl,
          by simp [Delivery.complaints, left], rfl, .taken logs (.done _ _)⟩
    | error failure =>
        rw [deliver, Attempt.orElse_of_error hands]
        by_cases cancels : failure.isCancellation = true
        · refine ⟨⟨event, some failure⟩, left, ?_, rfl, ?_, rfl, .refused logs (.done _ _)⟩
          · simp [Delivery.outcome, cancels]
          · simp [Delivery.complaints, cancels, left]
        · refine ⟨⟨event, some failure⟩,
            { left with
              stage := { stage with log := stage.log ++ [.auditFailed event failure] } },
            ?_, rfl, ?_, rfl, .refused logs (.done _ _)⟩
          · rw [if_neg cancels, Delivery.outcome]
            simp only [cancels]
            rfl
          · simp [Delivery.complaints, cancels]

theorem writeDown_spec {policy : Policy φ} {metadata : Metadata}
    (carries : policy.metadata = some metadata) (result : Result) (hearing : Hearing φ σ) :
    ∃ delivery later,
      settings.writeDown policy metadata result hearing = (delivery.outcome, later) ∧
      Watched hearing [delivery] later ∧ delivery.event.Reports settings policy result := by
  let event := settings.eventOf policy metadata result hearing.observers
  let noted : Hearing φ σ :=
    { stage := { hearing.stage with log := hearing.stage.log ++ [.decided event] }
      observers :=
        { hearing.observers with identifiers := hearing.observers.identifiers.giveOut 1 } }
  obtain ⟨delivery, later, runs, isEvent, stage, stranger, delivered⟩ :=
    deliver_spec event noted
  refine ⟨delivery, later, runs, ⟨?_, stranger, ?_, delivered⟩, ?_⟩
  · rw [stage]
    rfl
  · rw [stage, List.flatMap_singleton, ← delivery.isAudit_records, Delivery.records, isEvent]
    simp [Stage.auditRecords, noted]
  · rw [isEvent]
    exact ⟨rfl, rfl, rfl, rfl, metadata, carries, rfl, rfl, rfl, rfl⟩

/-- What auditing the decision of a policy comes to: one delivery of an event that reports
it, unless nothing is audited. -/
def Audited (settings : Settings) (policy : Policy φ) (result : Result)
    (deliveries : List Delivery) (outcome : Except Failure Unit) : Prop :=
  if settings.auditEnabled.truthy then
    ∃ delivery, deliveries = [delivery] ∧ outcome = delivery.outcome ∧
      delivery.event.Reports settings policy result
  else deliveries = [] ∧ outcome = .ok ()

variable {policy : Policy φ} {result : Result} {outcome : Except Failure Unit}

theorem audit_spec {hearing later : Hearing φ σ} (carries : policy.metadata.isSome = true)
    (audits : settings.audit policy result hearing = (outcome, later))
    (collects : hearing.observers.stranger = none) :
    ∃ deliveries, Watched hearing deliveries later ∧
      settings.Audited policy result deliveries outcome := by
  obtain ⟨metadata, isMetadata⟩ := Option.isSome_iff_exists.mp carries
  obtain ⟨middle, counts, watched⟩ :=
    settings.discreet_countPolicy policy result hearing collects
  rw [audit, Attempt.bind_of_ok counts, isMetadata] at audits
  by_cases enabled : settings.auditEnabled.truthy = true
  · obtain ⟨delivery, last, writes, onwards, reports⟩ :=
      settings.writeDown_spec isMetadata result middle
    rw [if_pos enabled] at audits
    obtain ⟨rfl, rfl⟩ := Prod.mk.inj (audits.symm.trans writes)
    refine ⟨[delivery], watched.trans onwards, ?_⟩
    rw [Audited, if_pos enabled]
    exact ⟨delivery, rfl, rfl, reports⟩
  · rw [if_neg enabled] at audits
    obtain ⟨rfl, rfl⟩ := Prod.mk.inj audits
    refine ⟨[], watched, ?_⟩
    rw [Audited, if_neg enabled]
    exact ⟨rfl, rfl⟩

theorem delivery_of_audit {hearing later : Hearing φ σ}
    (enabled : settings.auditEnabled.truthy = true) (carries : policy.metadata.isSome = true)
    (audits : settings.audit policy result hearing = (outcome, later))
    (collects : hearing.observers.stranger = none) :
    ∃ delivery : Delivery, outcome = delivery.outcome ∧ Watched hearing [delivery] later ∧
      delivery.event.Reports settings policy result := by
  obtain ⟨_, watched, audited⟩ := settings.audit_spec carries audits collects
  rw [Audited, if_pos enabled] at audited
  obtain ⟨delivery, rfl, isOutcome, reports⟩ := audited
  exact ⟨delivery, isOutcome, watched, reports⟩

/-- Harmless observers do not keep a checker from auditing. -/
theorem harmless_of_audit {stage : Stage φ σ} {observers : Observers} {later : Hearing φ σ}
    (carries : policy.metadata.isSome = true) (safe : observers.Harmless)
    (audits : settings.audit policy result ⟨stage, observers⟩ = (outcome, later)) :
    outcome = .ok () ∧ later.stage.silenced = stage.silenced ∧ later.observers.Harmless := by
  obtain ⟨deliveries, watched, audited⟩ := settings.audit_spec carries audits safe.collects
  obtain ⟨stillSafe, stoppable⟩ := watched.harmless safe
  refine ⟨?_, watched.quiet, stillSafe⟩
  rw [Audited] at audited
  split at audited
  · obtain ⟨delivery, rfl, rfl, -⟩ := audited
    exact Delivery.outcome_of_not_cancelled (stoppable delivery (by simp))
  · exact audited.2

end Settings

end AccessDecision
