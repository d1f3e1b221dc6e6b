import AccessDecision.Proofs.Checker.AuditTrail
import AccessDecision.Proofs.Checker.Docket
import AccessDecision.Proofs.Metrics.Recording

/-!
# Metrics conserve decisions

Checkers that share a collector tell it of each verdict that they give and of each result that
they get from a policy, and of nothing else.  A decision that fails is not counted, but the
results before it are.  So the counts follow from the minutes of the docket, and if everything
is audited there are as many audit events as results.
-/

namespace AccessDecision

variable {φ σ : Type}

/-- The decision of a policy, under the name that the policy shows. -/
def Decision.ofEntry (entry : Policy φ × Result) : Decision :=
  ⟨entry.1.name.display, entry.2.isGranted⟩

/-- The decision of a checker, if it came to one. -/
def Decision.ofOutcome (settings : Settings) : Except Failure Verdict → List Decision
  | .ok verdict => [⟨settings.shownName, verdict.isGranted⟩]
  | .error _ => []

theorem Decision.count_name (name : String) (decisions : List Decision) :
    (decisions.map Decision.name).count name =
      decisions.count ⟨name, true⟩ + decisions.count ⟨name, false⟩ := by
  induction decisions with
  | nil => rfl
  | cons decision rest ih =>
      rcases decision with ⟨other, granted⟩
      rw [List.map_cons, List.count_cons, List.count_cons, List.count_cons, ih]
      by_cases same : other = name <;> cases granted <;> simp [same] <;> omega

namespace Hearing

def collecting (hearing : Hearing φ σ) : Option Collector × Option String :=
  (hearing.observers.collector, hearing.observers.stranger)

structure Shows (hearing : Hearing φ σ) (collector : Collector) : Prop where
  collecting : hearing.collecting = (some collector, none)
  enabled : collector.enabled = true

/-- Between two hearings the collector was told of some decisions of checkers and of policies. -/
def Accounted (hearing : Hearing φ σ) (decided evaluated : List Decision)
    (later : Hearing φ σ) : Prop :=
  ∀ collector, hearing.Shows collector →
    ∃ next, later.Shows next ∧ collector.Recorded decided evaluated next

variable {hearing middle later : Hearing φ σ}

theorem Shows.of_same {collector : Collector} (shows : hearing.Shows collector)
    (same : later.collecting = hearing.collecting) : later.Shows collector :=
  ⟨same.trans shows.collecting, shows.enabled⟩

theorem Accounted.of_same (same : later.collecting = hearing.collecting) :
    hearing.Accounted [] [] later :=
  fun collector shows => ⟨collector, shows.of_same same, .refl shows.enabled⟩

theorem Accounted.trans {decided evaluated others further : List Decision}
    (accounted : hearing.Accounted decided evaluated middle)
    (onwards : middle.Accounted others further later) :
    hearing.Accounted (decided ++ others) (evaluated ++ further) later := by
  intro collector shows
  obtain ⟨next, goesOn, recorded⟩ := accounted collector shows
  obtain ⟨last, ends, recordedToo⟩ := onwards next goesOn
  exact ⟨last, ends, recorded.trans recordedToo⟩

theorem Logged.accounted (logged : hearing.Logged later) : hearing.Accounted [] [] later :=
  .of_same (congrArg (fun observers => (observers.collector, observers.stranger))
    logged.observers)

end Hearing

theorem Proceeding.collect_spec {hearing : Hearing φ σ} {collector : Collector}
    (shows : hearing.Shows collector) {wanted : Bool} (isWanted : wanted = true) (use : String)
    (update : Collector → Collector) (notices : Collector → List LogRecord)
    (stays : (update collector).enabled = true) :
    ∃ later, Proceeding.collect wanted use update notices hearing = (.ok (), later) ∧
      later.Shows (update collector) := by
  obtain ⟨collects, strange⟩ := Prod.mk.inj shows.collecting
  let told : Hearing φ σ :=
    { stage := { hearing.stage with log := hearing.stage.log ++ notices collector }
      observers := { hearing.observers with collector := some (update collector) } }
  have isTold : told.collecting = (some (update collector), none) :=
    Prod.ext rfl strange
  exact ⟨told, by simp [collect, isWanted, collects, strange, told], isTold, stays⟩

/-- Whether or not a result can be audited, it is counted. -/
theorem Settings.accounted_audit {settings : Settings}
    (counts : settings.metricsEnabled.truthy = true) (policy : Policy φ) (result : Result)
    (hearing : Hearing φ σ) :
    hearing.Accounted [] [.ofEntry (policy, result)]
      (settings.audit policy result hearing).2 := by
  intro collector shows
  have recorded := Collector.Recorded.recordPolicy shows.enabled policy.name.display
    result.isGranted
  obtain ⟨middle, runs, showsToo⟩ := Proceeding.collect_spec shows counts
    "record_policy_evaluation" (·.recordPolicy policy.name.display result.isGranted)
    (fun _ => []) recorded.enabled
  have counted : settings.countPolicy policy result hearing = (.ok (), middle) := runs
  refine ⟨_, ?_, recorded⟩
  rw [audit, Attempt.bind_of_ok counted]
  split
  -- The result is counted before it is written down, so a sink that fails does not matter.
  · rcases policy.metadata with - | metadata
    · exact showsToo
    · have delivers (event : AuditEvent) : Proceeding.Keeps Hearing.collecting
            (Proceeding.deliver event : Proceeding φ σ Unit) := by
        intro hearing
        rw [Proceeding.deliver]
        dsimp only
        split <;> rfl
      exact showsToo.of_same (settings.keeps_writeDown (fun _ _ => rfl) (fun _ _ => rfl)
        delivers policy metadata result middle)
  · exact showsToo

namespace Checker

variable {host : Host φ σ} {settings : Settings} {request : Request}

theorem accounted_round (counts : settings.metricsEnabled.truthy = true) {policy : Policy φ}
    {result : Result} {hearing middle later : Hearing φ σ} {outcome : Except Failure Unit}
    (asks : ask host settings request policy hearing = (.ok result, middle))
    (audits : settings.audit policy result middle = (outcome, later)) :
    hearing.Accounted [] [.ofEntry (policy, result)] later := by
  obtain ⟨stage, gives, rfl⟩ := evaluate_of_ask_ok asks
  have accounted := Settings.accounted_audit counts policy result { hearing with stage }
  rw [audits] at accounted
  exact fun collector shows => accounted collector (shows.of_same rfl)

theorem Progress.accounted {policies : List (Policy φ)} {hearing later : Hearing φ σ}
    {completed : List (Policy φ × Result)} {outcome : Except Failure Findings}
    (progress : Progress host settings request policies hearing completed outcome later)
    (counts : settings.metricsEnabled.truthy = true) :
    hearing.Accounted [] (completed.map .ofEntry) later := by
  induction progress with
  | exhausted hearing => exact .of_same rfl
  | failed asks =>
      obtain ⟨fault, stage, fails, rfl⟩ := evaluate_of_ask_error asks
      exact .of_same rfl
  | interrupted asks stops => exact accounted_round counts asks stops
  | granted asks audits grants => exact accounted_round counts asks audits
  | denied asks audits denies others ih => exact (accounted_round counts asks audits).trans ih

/-- A verdict is counted when it is pronounced, and a collector that is one does not keep it from
being pronounced. -/
theorem accounted_pronounce (counts : settings.metricsEnabled.truthy = true) {verdict : Verdict}
    {noted later : Hearing φ σ} {outcome : Except Failure Verdict}
    (pronounces : pronounce settings verdict noted = (outcome, later)) :
    noted.Accounted (Decision.ofOutcome settings outcome) [] later := by
  intro collector shows
  have recorded := Collector.Recorded.recordVerdict shows.enabled settings.shownName
    verdict.isGranted
  obtain ⟨next, runs, showsToo⟩ := Proceeding.collect_spec shows counts
    "record_decision" (·.recordVerdict settings.shownName verdict.isGranted none)
    (·.verdictNotices settings.shownName verdict.isGranted none) recorded.enabled
  have gives : pronounce settings verdict noted = (.ok verdict, next) :=
    Attempt.bind_of_ok runs
  cases pronounces.symm.trans gives
  exact ⟨_, showsToo, recorded⟩

theorem Heard.accounted {checker : Checker} {hearing later : Hearing φ σ}
    {completed : List (Policy φ × Result)} {outcome : Except Failure Verdict}
    (heard : Heard host checker request hearing completed outcome later)
    (counts : checker.settings.metricsEnabled.truthy = true) :
    hearing.Accounted (Decision.ofOutcome checker.settings outcome) (completed.map .ofEntry)
      later := by
  cases heard with
  | without lacks logged pronounces =>
      exact logged.accounted.trans (accounted_pronounce counts pronounces)
  | broken filled logged progress => exact logged.accounted.trans (progress.accounted counts)
  | found filled logged progress loggedToo pronounces =>
      have examined := logged.accounted.trans (progress.accounted counts)
      have accounted := (examined.trans loggedToo.accounted).trans
        (accounted_pronounce counts pronounces)
      simpa using accounted

end Checker

section Events

def LogRecord.event? : LogRecord → Option AuditEvent
  | .decided event => some event
  | _ => none

def Stage.auditEvents (stage : Stage φ σ) : List AuditEvent :=
  stage.log.filterMap LogRecord.event?

theorem Stage.filterMap_auditRecords (stage : Stage φ σ) :
    stage.auditRecords.filterMap LogRecord.event? = stage.auditEvents := by
  rw [auditRecords, List.filterMap_filter, auditEvents]
  congr 1
  funext record
  cases record <;> rfl

theorem Stage.auditEvents_congr {stage later : Stage φ σ}
    (same : later.auditRecords = stage.auditRecords) : later.auditEvents = stage.auditEvents := by
  rw [← filterMap_auditRecords, same, filterMap_auditRecords]

theorem Watched.auditEvents_eq {hearing later : Hearing φ σ} {deliveries : List Delivery}
    (watched : Watched hearing deliveries later) :
    later.stage.auditEvents = hearing.stage.auditEvents ++ deliveries.map Delivery.event := by
  have each (delivery : Delivery) :
      delivery.records.filterMap LogRecord.event? = [delivery.event] := by
    rw [Delivery.records, Delivery.complaints]
    split
    · rfl
    · split <;> rfl
  rw [← Stage.filterMap_auditRecords, watched.records, List.filterMap_append,
    Stage.filterMap_auditRecords, List.filterMap_flatMap]
  simp [each, List.map_eq_flatMap]

namespace Checker

variable {host : Host φ σ} {settings : Settings} {request : Request}

theorem auditEvents_round (enabled : settings.auditEnabled.truthy = true) {policy : Policy φ}
    (carries : policy.metadata.isSome = true) {result : Result}
    {hearing middle later : Hearing φ σ} (collects : hearing.observers.stranger = none)
    {outcome : Except Failure Unit}
    (asks : ask host settings request policy hearing = (.ok result, middle))
    (audits : settings.audit policy result middle = (outcome, later)) :
    later.stage.auditEvents.length = hearing.stage.auditEvents.length + 1 ∧
      later.observers.stranger = none := by
  obtain ⟨stage, gives, rfl⟩ := evaluate_of_ask_ok asks
  obtain ⟨delivery, -, watched, -⟩ :=
    settings.delivery_of_audit enabled carries audits collects
  have unaudited := auditRecords_evaluate host request policy hearing.stage
  rw [gives] at unaudited
  refine ⟨?_, watched.stranger.trans collects⟩
  rw [watched.auditEvents_eq, Stage.auditEvents_congr unaudited]
  simp

theorem Progress.auditEvents_length {policies : List (Policy φ)} {hearing later : Hearing φ σ}
    {completed : List (Policy φ × Result)} {outcome : Except Failure Findings}
    (progress : Progress host settings request policies hearing completed outcome later)
    (enabled : settings.auditEnabled.truthy = true)
    (carry : ∀ policy ∈ policies, policy.metadata.isSome = true)
    (collects : hearing.observers.stranger = none) :
    later.stage.auditEvents.length = hearing.stage.auditEvents.length + completed.length := by
  induction progress with
  | exhausted => rfl
  | @failed policy rest hearing later failure asks =>
      obtain ⟨fault, stage, fails, rfl⟩ := evaluate_of_ask_error asks
      have unaudited := auditRecords_evaluate host request policy hearing.stage
      rw [fails] at unaudited
      exact congrArg List.length (Stage.auditEvents_congr unaudited)
  | interrupted asks stops =>
      exact (auditEvents_round enabled (carry _ List.mem_cons_self) collects asks stops).1
  | granted asks audits grants =>
      exact (auditEvents_round enabled (carry _ List.mem_cons_self) collects asks audits).1
  | denied asks audits denies others ih =>
      obtain ⟨one, still⟩ :=
        auditEvents_round enabled (carry _ List.mem_cons_self) collects asks audits
      rw [ih (fun policy member => carry policy (by simp [member])) still, one,
        List.length_cons, Nat.add_assoc, Nat.add_comm 1]

theorem Heard.auditEvents_length {checker : Checker} {hearing later : Hearing φ σ}
    {completed : List (Policy φ × Result)} {outcome : Except Failure Verdict}
    (heard : Heard host checker request hearing completed outcome later)
    (enabled : checker.settings.auditEnabled.truthy = true)
    (carry : ∀ policy ∈ hearing.stage.rosters checker.roster, policy.metadata.isSome = true)
    (collects : hearing.observers.stranger = none) :
    later.stage.auditEvents.length = hearing.stage.auditEvents.length + completed.length := by
  cases heard with
  | without lacks logged pronounces =>
      obtain ⟨rfl, watched⟩ :=
        watched_of_pronounce (logged.watched.stranger.trans collects) pronounces
      simp [(logged.watched.trans watched).auditEvents_eq]
  | broken filled logged progress =>
      rw [progress.auditEvents_length enabled carry (logged.watched.stranger.trans collects),
        Stage.auditEvents_congr logged.records]
  | found filled logged progress loggedToo pronounces =>
      have before := logged.watched.stranger.trans collects
      have examination := progress.examination _ _ _ carry before
      have after := loggedToo.watched.stranger.trans (examination.stranger _ _ _ carry before)
      obtain ⟨rfl, watched⟩ := watched_of_pronounce after pronounces
      have examined := progress.auditEvents_length enabled carry before
      rw [Stage.auditEvents_congr logged.records] at examined
      simp [(loggedToo.watched.trans watched).auditEvents_eq, examined]

end Checker

end Events

namespace Matter

/-- A matter that leaves it to checkers to tell the collector, and under which they do. -/
def Shares : Matter φ σ → Prop
  | .decide checker _ => checker.settings.metricsEnabled.truthy = true
  | .watch change => ∀ observers : Observers,
      (change observers).collector = observers.collector ∧
        (change observers).stranger = observers.stranger
  | _ => True

/-- A matter under which every result of a policy is audited. -/
def Audits (hearing : Hearing φ σ) : Matter φ σ → Prop
  | .decide checker _ => checker.settings.auditEnabled.truthy = true ∧
      ∀ policy ∈ hearing.stage.rosters checker.roster, policy.metadata.isSome = true
  | _ => True

end Matter

def Hearing.AuditsAll (host : Host φ σ) : Hearing φ σ → List (Matter φ σ) → Prop
  | _, [] => True
  | hearing, matter :: others =>
      matter.Audits hearing ∧ AuditsAll host (hearing.conduct host matter) others

namespace Minute

def decisions : Minute φ σ → List Decision
  | .decided checker _ _ outcome _ => Decision.ofOutcome checker.settings outcome
  | _ => []

def evaluations : Minute φ σ → List Decision
  | .decided _ _ completed _ _ => completed.map .ofEntry
  | _ => []

/-- Whether a minute accounts for what the collector is told and for the audit events. -/
structure Accounts (host : Host φ σ) (hearing : Hearing φ σ) (minute : Minute φ σ) : Prop where
  records : minute.Records host hearing
  counts : minute.matter.Shares →
    hearing.Accounted minute.decisions minute.evaluations (hearing.conduct host minute.matter)
  events : minute.matter.Audits hearing → hearing.observers.stranger = none →
    (hearing.conduct host minute.matter).stage.auditEvents.length =
      hearing.stage.auditEvents.length + minute.evaluations.length

theorem exists_accounts (host : Host φ σ) (hearing : Hearing φ σ) (matter : Matter φ σ) :
    ∃ minute : Minute φ σ, minute.matter = matter ∧ minute.Accounts host hearing := by
  cases matter with
  | enlist roster policy =>
      exact ⟨.enlisted roster policy, rfl, trivial, fun _ => .of_same rfl, fun _ _ => rfl⟩
  | recess change =>
      exact ⟨.recessed change, rfl, trivial, fun _ => .of_same rfl, fun _ _ => rfl⟩
  | watch change =>
      refine ⟨.watched change, rfl, trivial, fun shared => .of_same ?_, fun _ _ => rfl⟩
      obtain ⟨collector, stranger⟩ := shared hearing.observers
      exact Prod.ext collector stranger
  | decide checker request =>
      obtain ⟨completed, heard⟩ := checker.heard_evaluate host request hearing
      obtain ⟨enlistments, recorded⟩ := heard.exists_records
      refine ⟨_, rfl, recorded, fun shared => heard.accounted shared, fun audits collects => ?_⟩
      rw [evaluations, List.length_map]
      exact heard.auditEvents_length audits.1 audits.2 collects

end Minute

namespace Minuted

variable {host : Host φ σ} {hearing : Hearing φ σ} {minutes : List (Minute φ σ)}

theorem accounted (minuted : Minuted host (Minute.Accounts host) hearing minutes)
    (shared : ∀ minute ∈ minutes, minute.matter.Shares) :
    hearing.Accounted (minutes.flatMap Minute.decisions) (minutes.flatMap Minute.evaluations)
      (hearing.after host (minutes.map Minute.matter)) := by
  induction minutes generalizing hearing with
  | nil => exact .of_same rfl
  | cons minute rest ih =>
      obtain ⟨accounts, others⟩ := minuted
      have first := accounts.counts (shared minute (by simp))
      exact first.trans (ih others fun minute member => shared minute (by simp [member]))

theorem auditEvents_length {collector : Collector} (shows : hearing.Shows collector)
    (minuted : Minuted host (Minute.Accounts host) hearing minutes)
    (shared : ∀ minute ∈ minutes, minute.matter.Shares)
    (audits : hearing.AuditsAll host (minutes.map Minute.matter)) :
    (hearing.after host (minutes.map Minute.matter)).stage.auditEvents.length =
      hearing.stage.auditEvents.length + (minutes.flatMap Minute.evaluations).length := by
  induction minutes generalizing hearing collector with
  | nil => rfl
  | cons minute rest ih =>
      obtain ⟨accounts, others⟩ := minuted
      obtain ⟨next, goesOn, -⟩ := accounts.counts (shared minute (by simp)) collector shows
      have one := accounts.events audits.1 (congrArg Prod.snd shows.collecting)
      have further := ih goesOn others (fun minute member => shared minute (by simp [member]))
        audits.2
      rw [List.flatMap_cons, List.length_append, ← Nat.add_assoc, ← one]
      exact further

end Minuted

/-- Checkers that share a fresh collector conserve decisions: after any docket it has counted
each verdict that was given, under the name of the checker, each of them was timed, and it has
counted each result that a policy gave at the top of a checker, whatever came after it.  If
everything was audited, there are as many audit events as results. -/
theorem Hearing.after_conserves (host : Host φ σ) {hearing : Hearing φ σ}
    {docket : List (Matter φ σ)} {start : String}
    (fresh : hearing.observers.collector = some (.create true start))
    (collects : hearing.observers.stranger = none)
    (shared : ∀ matter ∈ docket, matter.Shares) :
    ∃ (minutes : List (Minute φ σ)) (collector : Collector),
      minutes.map Minute.matter = docket ∧
      (∀ earlier minute others, minutes = earlier ++ minute :: others →
        minute.Records host (hearing.after host (earlier.map Minute.matter))) ∧
      (hearing.after host docket).observers.collector = some collector ∧
      (∀ decision, collector.verdicts.count decision =
        (minutes.flatMap Minute.decisions).count decision) ∧
      (∀ name, collector.latencyCount name =
        collector.verdicts.count ⟨name, true⟩ + collector.verdicts.count ⟨name, false⟩) ∧
      (∀ decision, collector.evaluations.count decision =
        (minutes.flatMap Minute.evaluations).count decision) ∧
      (hearing.AuditsAll host docket →
        hearing.stage.auditEvents.length + collector.evaluations.total =
          (hearing.after host docket).stage.auditEvents.length) := by
  have shows : hearing.Shows (.create true start) := ⟨Prod.ext fresh collects, rfl⟩
  obtain ⟨minutes, rfl, minuted⟩ :=
    Minuted.exists_minutes (Minute.exists_accounts host) docket hearing
  have sharedToo : ∀ minute ∈ minutes, minute.matter.Shares :=
    fun minute member => shared _ (List.mem_map_of_mem member)
  obtain ⟨collector, ends, recorded⟩ := minuted.accounted sharedToo _ shows
  have verdicts (decision : Decision) : collector.verdicts.count decision =
      (minutes.flatMap Minute.decisions).count decision :=
    (recorded.verdicts decision).trans (Nat.zero_add _)
  refine ⟨minutes, collector, rfl, ?_, congrArg Prod.fst ends.collecting, verdicts, ?_, ?_, ?_⟩
  · intro earlier minute others isSplit
    exact (minuted.records_at earlier minute others isSplit).records
  · intro name
    rw [recorded.latencies, Decision.count_name, verdicts, verdicts]
    exact Nat.zero_add _
  · intro decision
    exact (recorded.evaluations decision).trans (Nat.zero_add _)
  · intro audits
    rw [minuted.auditEvents_length shows sharedToo audits, recorded.total]
    exact congrArg _ (Nat.zero_add _)

def countedHearing : Hearing Nat Nat :=
  let fresh := Checker.freshHearing none
  { stage :=
      { fresh.stage with
        rosters := fun roster => if roster = 0 then Checker.twoPolicies else [] }
    observers := { fresh.observers with collector := some (.create true "gatehouse") } }

/-- Two checkers of one name decide, the second one without policies and then with two, of
which the last fails. -/
def failingDocket : List (Matter Nat Nat) :=
  [.decide ⟨.standard, 0⟩ Checker.blankRequest, .decide ⟨.standard, 1⟩ Checker.blankRequest,
    .enlist 1 (.host 9 (.text "third") (some .empty)),
    .enlist 1 (.roles 0 0 (.text "fourth") .empty),
    .decide ⟨.standard, 1⟩ Checker.blankRequest]

theorem Hearing.after_conserves_failing :
    countedHearing.observers.collector = some (.create true "gatehouse") ∧
    countedHearing.observers.stranger = none ∧
    (∀ matter ∈ failingDocket, matter.Shares) ∧
    countedHearing.AuditsAll Checker.countingHost failingDocket ∧
    ∃ (minutes : List (Minute Nat Nat)) (collector : Collector),
      minutes.map Minute.matter = failingDocket ∧
      (countedHearing.after Checker.countingHost failingDocket).observers.collector =
        some collector ∧
      (minutes.flatMap Minute.decisions).count ⟨"PermissionChecker", true⟩ = 1 ∧
      (minutes.flatMap Minute.decisions).count ⟨"PermissionChecker", false⟩ = 1 ∧
      collector.latencyCount "PermissionChecker" = 2 ∧
      (minutes.flatMap Minute.evaluations).count ⟨"third", false⟩ = 1 ∧
      (minutes.flatMap Minute.evaluations).count ⟨"fourth", false⟩ = 0 ∧
      collector.evaluations.total =
        (countedHearing.after Checker.countingHost failingDocket).stage.auditEvents.length := by
  have shared : ∀ matter ∈ failingDocket, matter.Shares := by
    simp [failingDocket, Matter.Shares, Settings.standard, Value.truthy]
  have audits : countedHearing.AuditsAll Checker.countingHost failingDocket := by
    refine ⟨⟨rfl, by decide⟩, ⟨rfl, by decide⟩, trivial, trivial, ⟨rfl, ?_⟩, trivial⟩
    decide +kernel
  have fresh : countedHearing.observers.collector = some (.create true "gatehouse") := rfl
  refine ⟨fresh, rfl, shared, audits, ?_⟩
  obtain ⟨minutes, collector, isDocket, -, ends, verdicts, timed, evaluations, events⟩ :=
    Hearing.after_conserves Checker.countingHost fresh rfl shared
  have shown : (countedHearing.after Checker.countingHost failingDocket).observers.collector.map
      (fun collector => (collector.verdicts, collector.evaluations)) =
      some ([(⟨"PermissionChecker", true⟩, 1), (⟨"PermissionChecker", false⟩, 1)],
        [(⟨"first", false⟩, 1), (⟨"second", true⟩, 1), (⟨"third", false⟩, 1)]) := by
    decide +kernel
  rw [ends] at shown
  obtain ⟨isVerdicts, isEvaluations⟩ := Prod.mk.inj (Option.some.inj shown)
  refine ⟨minutes, collector, isDocket, ends, ?_, ?_, ?_, ?_, ?_, ?_⟩
  · rw [← verdicts, isVerdicts]
    rfl
  · rw [← verdicts, isVerdicts]
    rfl
  · rw [timed, isVerdicts]
    rfl
  · rw [← evaluations, isEvaluations]
    rfl
  · rw [← evaluations, isEvaluations]
    rfl
  · rw [← events audits]
    exact (Nat.zero_add _).symm

end AccessDecision
