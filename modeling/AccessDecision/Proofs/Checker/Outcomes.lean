import AccessDecision.Proofs.Audit.SinkAgreement
import AccessDecision.Proofs.Checker.Conservation
import AccessDecision.Proofs.Value.Agreement

/-!
# Outcomes in an audit

What is logged about a result and what is counted tell whether its outcome counts as true.  But
events are selected by what their outcome equals.  So an event is found among those that granted
access, or among those that denied it, if its outcome is a truth value or equals one.  A
combination may keep an outcome that merely counts as true or as false, and the event about it is
found in neither place.
-/

namespace AccessDecision

namespace Value

/-- Whether a value equals the truth value that it counts as. -/
def isDefinite (value : Value) : Bool :=
  value.agrees (.bool value.truthy)

theorem isDefinite_bool (granted : Bool) : isDefinite (.bool granted) = true := by
  rw [isDefinite, agrees_of_quantity rfl rfl]
  cases granted <;> decide

theorem truthy_of_agrees {value : Value} {granted : Bool}
    (agrees : value.agrees (.bool granted) = true) : value.truthy = granted :=
  truthy_of_partAgrees (partAgrees_of_agrees agrees)

/-- What is equal to a truth value is definite and counts as that one. -/
theorem agrees_bool (value : Value) (granted : Bool) :
    value.agrees (.bool granted) = (value.isDefinite && value.truthy == granted) := by
  cases agrees : value.agrees (.bool granted) with
  | true =>
      have counts := truthy_of_agrees agrees
      simp [isDefinite, counts, agrees]
  | false =>
      symm
      rw [Bool.and_eq_false_iff]
      by_cases counts : value.truthy = granted
      · exact .inl (by rw [isDefinite, counts, agrees])
      · exact .inr (by simpa using counts)

end Value

/-- The wording of a decision follows the truth value of its outcome. -/
theorem LogRecord.message_decided (event : AuditEvent) :
    (LogRecord.decided event).message =
      "Policy " ++ event.policyName.display ++ " " ++ decisionWord event.outcome.truthy ++
        " access" :=
  rfl

namespace EventFilter

def ofOutcome (granted : Bool) : EventFilter :=
  { everything with outcome := some (.bool granted) }

def sorts (granted : Bool) (event : AuditEvent) : Bool :=
  event.outcome.isDefinite && event.outcome.truthy == granted

theorem accepts_ofOutcome (granted : Bool) (event : AuditEvent) :
    (ofOutcome granted).accepts event = .ok (sorts granted event) := by
  rw [sorts, ← Value.agrees_bool]
  cases agrees : event.outcome.agrees (.bool granted) <;>
    simp [accepts, ofOutcome, everything, agrees] <;> rfl

theorem select_ofOutcome (granted : Bool) (events : List AuditEvent) :
    (ofOutcome granted).select events = .ok (events.filter (sorts granted)) := by
  induction events with
  | nil => rfl
  | cons event events ih =>
      rw [select, ih, accepts_ofOutcome, List.filter_cons]
      rfl

/-- The events that granted access and those that denied it are all events if the outcomes of all
of them are definite. -/
theorem perm_sorted (events : List AuditEvent) :
    (events.filter (sorts true) ++ events.filter (sorts false)).Perm events ↔
      ∀ event ∈ events, event.outcome.isDefinite = true := by
  constructor
  · intro sorted event member
    have found := sorted.mem_iff.mpr member
    rw [List.mem_append, List.mem_filter, List.mem_filter, sorts, sorts] at found
    rcases found with ⟨-, isSorted⟩ | ⟨-, isSorted⟩
    · exact (Bool.and_eq_true_iff.mp isSorted).1
    · exact (Bool.and_eq_true_iff.mp isSorted).1
  · intro definite
    have others : events.filter (sorts false) = events.filter fun event => !sorts true event := by
      refine List.filter_congr fun event member => ?_
      simp [sorts, definite event member]
    rw [others]
    exact List.filter_append_perm _ _

end EventFilter

namespace AuditFile

theorem readLines_ofOutcome {nesting : Nat} {path : String} {number : Nat}
    {lines : List (List Char)}
    {events : List AuditEvent} {records : List LogRecord} (granted : Bool)
    (reads : readLines nesting path .everything number lines = (.ok events, records)) :
    readLines nesting path (.ofOutcome granted) number lines =
      (.ok (events.filter (EventFilter.sorts granted)), records) := by
  induction lines generalizing number events records with
  | nil =>
      cases reads
      rfl
  | cons line lines ih =>
      rw [readLines] at reads ⊢
      rcases others : readLines nesting path .everything (number + 1) lines with ⟨rest, told⟩
      rw [others] at reads
      cases holds : readLine nesting line with
      | stopped failure =>
          rw [holds] at reads
          cases reads
      | skipped fault =>
          rw [holds] at reads
          obtain ⟨rfl, rfl⟩ := Prod.mk.inj reads
          simp only [ih others]
      | event event =>
          rw [holds] at reads
          obtain ⟨isRest, rfl⟩ := Prod.mk.inj reads
          cases rest with
          | error failure => cases isRest
          | ok rest =>
              have isRest : event :: rest = events := Except.ok.inj isRest
              subst isRest
              simp only [ih others, EventFilter.accepts_ofOutcome, List.filter_cons]
              rfl

theorem events_ofOutcome {nesting : Nat} {path : String} {disk : Disk}
    {events : List AuditEvent} {records : List LogRecord} (granted : Bool)
    (reads : AuditFile.events nesting path .everything disk = (.ok events, records)) :
    AuditFile.events nesting path (.ofOutcome granted) disk =
      (.ok (events.filter (EventFilter.sorts granted)), records) := by
  rw [AuditFile.events] at reads ⊢
  cases holds : disk.read path with
  | error fault =>
      rw [holds] at reads
      cases fault with
      | missing path =>
          cases reads
          rfl
      | _ => cases reads
  | ok octets =>
      rw [holds] at reads
      cases means : Text.readOctets octets with
      | complete text =>
          simp only [means] at reads ⊢
          exact readLines_ofOutcome granted reads
      | broken text =>
          simp only [means] at reads
          have stops (given : Except Failure (List AuditEvent)) :
              given.bind (fun _ => Except.error (.file .illFormed)) ≠ .ok events := by
            cases given <;> simp [Except.bind]
          exact absurd (congrArg Prod.fst reads) (stops _)

end AuditFile

/-- A sink gives those of its events for an outcome that it sorts there. -/
theorem Sink.events_ofOutcome {nesting : Nat} {sink : Sink} {disk : Disk}
    {events : List AuditEvent}
    {records : List LogRecord} (granted : Bool)
    (gives : sink.events nesting .everything disk = (.ok events, records)) :
    sink.events nesting (.ofOutcome granted) disk =
      (.ok (events.filter (EventFilter.sorts granted)), records) := by
  cases sink with
  | memory store | failing fault calls store =>
      rw [Sink.events, EventFilter.select_everything] at gives
      cases gives
      rw [Sink.events, EventFilter.select_ofOutcome]
  | file path =>
      rw [Sink.events] at gives ⊢
      cases isPath : pathOf path with
      | error failure =>
          rw [isPath] at gives
          cases gives
      | ok path =>
          rw [isPath] at gives
          exact AuditFile.events_ofOutcome granted gives
  | stranger kind => cases gives

/-- Every result that an evaluation gives has an outcome that equals a truth value. -/
def Evaluation.Definite {φ σ : Type} (evaluation : Evaluation φ σ Result) : Prop :=
  ∀ stage result later, evaluation stage = (.ok result, later) →
    result.outcome.isDefinite = true

namespace Evaluation

variable {φ σ α : Type}

theorem definite_pure {result : Result} (definite : result.outcome.isDefinite = true) :
    Definite (pure result : Evaluation φ σ Result) := by
  rintro stage _ later ⟨⟩
  exact definite

theorem definite_bind (evaluation : Evaluation φ σ α) {next : α → Evaluation φ σ Result}
    (definite : ∀ value, (next value).Definite) : Definite (evaluation >>= next) := by
  intro stage result later gives
  rcases runs : evaluation stage with ⟨failure | value, middle⟩
  · rw [Attempt.bind_of_error runs] at gives
    cases gives
  · rw [Attempt.bind_of_ok runs] at gives
    exact definite value middle result later gives

end Evaluation

/-- All policies but those of the host give results with definite outcomes. -/
theorem Policy.definite_evaluate {φ σ : Type} (host : Host φ σ) (request : Request)
    {policy : Policy φ} (builtIn : ∀ code name metadata, policy ≠ .host code name metadata) :
    Evaluation.Definite (policy.evaluate host request) := by
  have either (decides : Bool) (granted denied : Value × Value) :
      Evaluation.Definite (pure (if decides then Result.granted granted.1 granted.2
        else .denied denied.1 denied.2) : Evaluation φ σ Result) := by
    refine Evaluation.definite_pure ?_
    cases decides <;> exact Value.isDefinite_bool _
  cases policy with
  | host code name metadata => exact absurd rfl (builtIn code name metadata)
  | roles =>
      rw [evaluate]
      exact Evaluation.definite_bind _ fun _ => Evaluation.definite_bind _ fun _ =>
        either _ (_, _) (_, _)
  | attributes | relationship =>
      rw [evaluate]
      exact Evaluation.definite_bind _ fun _ => either _ (_, _) (_, _)
  | guarded guards effect =>
      rw [evaluate]
      refine Evaluation.definite_bind _ fun hold => Evaluation.definite_pure ?_
      cases hold <;> cases effect <;> exact Value.isDefinite_bool _
  | all | any | negation =>
      rw [evaluate]
      exact Evaluation.definite_bind _ fun _ =>
        Evaluation.definite_pure (Value.isDefinite_bool _)
  | checker | standIn => rintro _ _ _ ⟨⟩

namespace Checker

variable {φ σ : Type} {host : Host φ σ} {settings : Settings} {request : Request}

/-- Between two hearings some rounds were written down, of policies that gave their results: what
is logged tells of their events, and the sink was handed these. -/
structure Booked (host : Host φ σ) (settings : Settings) (request : Request)
    (hearing : Hearing φ σ) (rounds : List (Round φ)) (later : Hearing φ σ) : Prop where
  gives : ∀ round ∈ rounds, ∃ stage left,
    round.policy.evaluate host request stage = (.ok round.result, left)
  reports : ∀ round ∈ rounds,
    round.delivery.event.Reports settings round.policy round.result
  events : later.stage.auditEvents =
    hearing.stage.auditEvents ++ (rounds.map Round.delivery).map Delivery.event
  delivered : Delivered hearing.observers.sink hearing.observers.disk
    (rounds.map Round.delivery) later.observers.sink later.observers.disk

namespace Booked

variable {hearing middle later : Hearing φ σ} {rounds others : List (Round φ)}

theorem of_watched (watched : Watched hearing [] later) :
    Booked host settings request hearing [] later :=
  ⟨by simp, by simp, watched.auditEvents_eq, watched.delivered⟩

theorem of_evaluated {policy : Policy φ} {stage : Stage φ σ} {given : Except Failure Result}
    (gives : policy.evaluate host request hearing.stage = (given, stage)) :
    Booked host settings request hearing [] { hearing with stage } := by
  have unaudited := auditRecords_evaluate host request policy hearing.stage
  rw [gives] at unaudited
  exact ⟨by simp, by simp, by simp [Stage.auditEvents_congr unaudited], .done _ _⟩

theorem append (booked : Booked host settings request hearing rounds middle)
    (onwards : Booked host settings request middle others later) :
    Booked host settings request hearing (rounds ++ others) later where
  gives := List.forall_mem_append.mpr ⟨booked.gives, onwards.gives⟩
  reports := List.forall_mem_append.mpr ⟨booked.reports, onwards.reports⟩
  events := by
    rw [onwards.events, booked.events]
    simp
  delivered := by
    rw [List.map_append]
    exact booked.delivered.trans onwards.delivered

end Booked

/-- A round under which results are audited is written down. -/
theorem booked_round (enabled : settings.auditEnabled.truthy = true) {policy : Policy φ}
    (carries : policy.metadata.isSome = true) {result : Result}
    {hearing middle later : Hearing φ σ} (collects : hearing.observers.stranger = none)
    {outcome : Except Failure Unit}
    (asks : ask host settings request policy hearing = (.ok result, middle))
    (audits : settings.audit policy result middle = (outcome, later)) :
    ∃ delivery, Booked host settings request hearing [⟨policy, result, delivery⟩] later ∧
      later.observers.stranger = none := by
  obtain ⟨stage, gives, rfl⟩ := evaluate_of_ask_ok asks
  obtain ⟨delivery, -, watched, reports⟩ :=
    settings.delivery_of_audit enabled carries audits collects
  have written : Booked host settings request { hearing with stage }
      [⟨policy, result, delivery⟩] later :=
    ⟨by simpa using ⟨_, _, gives⟩, by simpa using reports, watched.auditEvents_eq,
      watched.delivered⟩
  exact ⟨delivery, (Booked.of_evaluated gives).append written,
    watched.stranger.trans collects⟩

theorem Progress.booked {policies : List (Policy φ)} {hearing later : Hearing φ σ}
    {completed : List (Policy φ × Result)} {outcome : Except Failure Findings}
    (progress : Progress host settings request policies hearing completed outcome later)
    (enabled : settings.auditEnabled.truthy = true)
    (carry : ∀ policy ∈ policies, policy.metadata.isSome = true)
    (collects : hearing.observers.stranger = none) :
    ∃ rounds, rounds.map Round.consulted = completed ∧
      Booked host settings request hearing rounds later ∧ later.observers.stranger = none := by
  induction progress with
  | exhausted hearing => exact ⟨[], rfl, .of_watched (.refl hearing), collects⟩
  | failed asks =>
      obtain ⟨fault, stage, fails, rfl⟩ := evaluate_of_ask_error asks
      exact ⟨[], rfl, .of_evaluated fails, collects⟩
  | interrupted asks stops =>
      obtain ⟨delivery, booked, still⟩ :=
        booked_round enabled (carry _ List.mem_cons_self) collects asks stops
      exact ⟨_, rfl, booked, still⟩
  | granted asks audits grants =>
      obtain ⟨delivery, booked, still⟩ :=
        booked_round enabled (carry _ List.mem_cons_self) collects asks audits
      exact ⟨_, rfl, booked, still⟩
  | denied asks audits denies others ih =>
      obtain ⟨delivery, booked, still⟩ :=
        booked_round enabled (carry _ List.mem_cons_self) collects asks audits
      obtain ⟨rounds, rfl, onwards, stillToo⟩ :=
        ih (fun policy member => carry policy (by simp [member])) still
      exact ⟨_ :: rounds, rfl, booked.append onwards, stillToo⟩

theorem Heard.booked {checker : Checker} {hearing later : Hearing φ σ}
    {completed : List (Policy φ × Result)} {outcome : Except Failure Verdict}
    (heard : Heard host checker request hearing completed outcome later)
    (enabled : checker.settings.auditEnabled.truthy = true)
    (carry : ∀ policy ∈ hearing.stage.rosters checker.roster, policy.metadata.isSome = true)
    (collects : hearing.observers.stranger = none) :
    ∃ rounds, rounds.map Round.consulted = completed ∧
      Booked host checker.settings request hearing rounds later := by
  cases heard with
  | without lacks logged pronounces =>
      obtain ⟨rfl, watched⟩ :=
        watched_of_pronounce (logged.watched.stranger.trans collects) pronounces
      exact ⟨[], rfl, .of_watched (logged.watched.trans watched)⟩
  | broken filled logged progress =>
      obtain ⟨rounds, isCompleted, booked, -⟩ :=
        progress.booked enabled carry (logged.watched.stranger.trans collects)
      exact ⟨rounds, isCompleted, (Booked.of_watched logged.watched).append booked⟩
  | @found begun finished noted later completed findings outcome filled logged progress loggedToo
      pronounces =>
      obtain ⟨rounds, isCompleted, booked, still⟩ :=
        progress.booked enabled carry (logged.watched.stranger.trans collects)
      obtain ⟨rfl, watched⟩ :=
        watched_of_pronounce (loggedToo.watched.stranger.trans still) pronounces
      have ended : Booked host checker.settings request finished [] later :=
        .of_watched (loggedToo.watched.trans watched)
      have whole := ((Booked.of_watched logged.watched).append booked).append ended
      rw [List.nil_append, List.append_nil] at whole
      exact ⟨rounds, isCompleted, whole⟩

/-- What is logged about an event and what is counted for it tell whether the result granted
access.  A filter by outcome selects the event accordingly if the outcome of the result is
definite, and never if it is not.  Only a policy of the host gives outcomes that are not. -/
theorem Booked.sorts {hearing later : Hearing φ σ} {rounds : List (Round φ)}
    (booked : Booked host settings request hearing rounds later) :
    ∀ round ∈ rounds,
      (LogRecord.decided round.delivery.event).message =
        "Policy " ++ round.policy.name.display ++ " " ++
          LogRecord.decisionWord round.result.isGranted ++ " access" ∧
      (Decision.ofEntry round.consulted).word =
        LogRecord.decisionWord round.result.isGranted ∧
      (∀ granted, (EventFilter.ofOutcome granted).accepts round.delivery.event =
        .ok (round.result.outcome.isDefinite && round.result.isGranted == granted)) ∧
      ((∀ code name metadata, round.policy ≠ .host code name metadata) →
        round.result.outcome.isDefinite = true) := by
  intro round member
  have reports := booked.reports round member
  obtain ⟨stage, left, gives⟩ := booked.gives round member
  refine ⟨?_, rfl, fun granted => ?_, fun builtIn =>
    Policy.definite_evaluate host request builtIn stage round.result left gives⟩
  · rw [LogRecord.message_decided, reports.policyName, reports.outcome, Result.isGranted]
  · rw [EventFilter.accepts_ofOutcome, EventFilter.sorts, reports.outcome, Result.isGranted]

/-- A checker that audits writes down each result that it gets, with the outcome as it is.  The log
and the metrics name the result by the truth value of its outcome, and the sink selects events by
what equals a truth value.  So an event is selected by the truth value by which it is named if its
outcome equals that, and by none otherwise, which only happens to policies of the host.  The events
that granted access and those that denied it are together all events exactly if all their outcomes
equal truth values. -/
theorem evaluate_sorted (host : Host φ σ) (checker : Checker) (request : Request)
    {hearing : Hearing φ σ} (enabled : checker.settings.auditEnabled.truthy = true)
    (carry : ∀ policy ∈ hearing.stage.rosters checker.roster, policy.metadata.isSome = true)
    (collects : hearing.observers.stranger = none) :
    ∃ rounds outcome later,
      checker.evaluate host request hearing = (outcome, later) ∧
      Booked host checker.settings request hearing rounds later ∧
      (checker.settings.metricsEnabled.truthy = true →
        hearing.Accounted (Decision.ofOutcome checker.settings outcome)
          (rounds.map fun round => Decision.ofEntry round.consulted) later) ∧
      (∀ round ∈ rounds,
        (LogRecord.decided round.delivery.event).message =
          "Policy " ++ round.policy.name.display ++ " " ++
            LogRecord.decisionWord round.result.isGranted ++ " access" ∧
        (Decision.ofEntry round.consulted).word =
          LogRecord.decisionWord round.result.isGranted ∧
        (∀ granted, (EventFilter.ofOutcome granted).accepts round.delivery.event =
          .ok (round.result.outcome.isDefinite && round.result.isGranted == granted)) ∧
        ((∀ code name metadata, round.policy ≠ .host code name metadata) →
          round.result.outcome.isDefinite = true)) ∧
      ∀ nesting sink events records, later.observers.sink = some sink →
        sink.events nesting .everything later.observers.disk = (.ok events, records) →
        (∀ granted, sink.events nesting (.ofOutcome granted) later.observers.disk =
          (.ok (events.filter (EventFilter.sorts granted)), records)) ∧
        ((events.filter (EventFilter.sorts true) ++
            events.filter (EventFilter.sorts false)).Perm events ↔
          ∀ event ∈ events, event.outcome.isDefinite = true) := by
  obtain ⟨completed, heard⟩ := heard_evaluate host checker request hearing
  obtain ⟨rounds, isCompleted, booked⟩ := heard.booked enabled carry collects
  refine ⟨rounds, _, _, rfl, booked, fun counts => ?_, booked.sorts, ?_⟩
  · have accounted := heard.accounted counts
    rwa [← isCompleted, List.map_map] at accounted
  intro nesting sink events records _ gives
  exact ⟨fun granted => Sink.events_ofOutcome granted gives, EventFilter.perm_sorted events⟩

def keptResult : Result :=
  .combined (.text "first") .or [.granted (.text "rule") .null] (.text "yes")

def keepingHost : Host Nat Nat where
  delay _ _ _ := .finite 0
  function _ _ calls := ⟨.ok .null, calls + 1, []⟩
  policy _ _ calls := ⟨.ok (some keptResult), calls + 1, []⟩

def rememberingHearing : Hearing Nat Nat :=
  freshHearing (some (.memory (.empty none)))

theorem evaluate_sorted_counting :
    Settings.standard.auditEnabled.truthy = true ∧
    (∀ policy ∈ rememberingHearing.stage.rosters 0, policy.metadata.isSome = true) ∧
    rememberingHearing.observers.stranger = none ∧
    ∃ outcome later sink events,
      Checker.evaluate countingHost ⟨.standard, 0⟩ blankRequest rememberingHearing =
        (outcome, later) ∧
      later.observers.sink = some sink ∧
      sink.events Machine.ordinary.nesting .everything later.observers.disk =
        (.ok events, []) ∧
      events.length = 2 ∧
      (events.filter (EventFilter.sorts true) ++
        events.filter (EventFilter.sorts false)).Perm events := by
  have carry : ∀ policy ∈ rememberingHearing.stage.rosters 0, policy.metadata.isSome = true := by
    decide
  refine ⟨rfl, carry, rfl, ?_⟩
  obtain ⟨rounds, outcome, later, runs, -, -, -, sorted⟩ :=
    evaluate_sorted countingHost ⟨.standard, 0⟩ blankRequest rfl carry rfl
  cases runs
  refine ⟨_, _, _, _, rfl, rfl, rfl, rfl, (sorted Machine.ordinary.nesting _ _ _ rfl rfl).2.mpr ?_⟩
  intro event member
  rcases List.mem_cons.mp member with rfl | member
  · exact Value.isDefinite_bool false
  · rw [List.mem_singleton.mp member]
    exact Value.isDefinite_bool true

/-- An outcome that merely counts as true can be declared, and its event is logged as one that
granted access, but the event is found neither there nor among those that denied it. -/
theorem evaluate_sorted_kept :
    Result.declare (.text "first") .or [.granted (.text "rule") .null] (.text "yes") =
      .ok keptResult ∧
    ∃ verdict later sink event,
      Checker.evaluate keepingHost ⟨.standard, 0⟩ blankRequest rememberingHearing =
        (.ok verdict, later) ∧
      later.observers.sink = some sink ∧ later.stage.auditEvents = [event] ∧
      LogRecord.decisionWord event.outcome.truthy = "granted" ∧
      sink.events Machine.ordinary.nesting .everything later.observers.disk = (.ok [event], []) ∧
      ∀ granted, sink.events Machine.ordinary.nesting (.ofOutcome granted) later.observers.disk =
        (.ok [], []) := by
  have indefinite : Value.isDefinite (.text "yes") = false := by
    simp [Value.isDefinite, Value.agrees, Value.quantity?]
  refine ⟨rfl, _, _, _, _, rfl, rfl, rfl, rfl, rfl, fun granted => ?_⟩
  refine (Sink.events_ofOutcome granted rfl).trans ?_
  have unsorted (event : AuditEvent) (isKept : event.outcome = .text "yes") :
      [event].filter (EventFilter.sorts granted) = [] := by
    simp [EventFilter.sorts, isKept, indefinite]
  exact congrArg (fun events => (Except.ok events, [])) (unsorted _ rfl)

end Checker

end AccessDecision
