import AccessDecision.Proofs.Checker.AuditTrail
import AccessDecision.Proofs.Policy.Making

/-!
# Auditing the policies of the library

Auditing never fails for a policy that the library made, as long as nothing calls the sink off: an
event about it shows the metadata that it was made with, or none.  The one exception is a policy
that a builder stripped of its metadata.  So a checker over such policies fails only where one of
them does, or where it would audit a stripped one.
-/

namespace AccessDecision

/-- An event shows metadata, the fields of which are absent if there are none. -/
structure AuditEvent.Cites (event : AuditEvent) (given : Option Metadata) : Prop where
  category : event.category = (given.map Metadata.category).getD .null
  ruleName : event.ruleName = (given.map Metadata.name).getD .null
  rulesetName : event.rulesetName = (given.map Metadata.rulesetName).getD .null
  details : event.details = .object ((given.map Metadata.record).getD [])

theorem AuditEvent.Reports.cites {φ : Type} {event : AuditEvent} {settings : Settings}
    {policy : Policy φ} {result : Result} {given : Option Metadata}
    (reports : event.Reports settings policy result) (made : policy.Made given) :
    event.Cites given := by
  obtain ⟨metadata, carries, category, ruleName, rulesetName, details⟩ := reports.metadata
  rcases made.metadata_eq with isGiven | ⟨stripped, -⟩
  · obtain rfl := Option.some.inj (carries.symm.trans isGiven)
    cases given <;> exact ⟨category, ruleName, rulesetName, details⟩
  · rw [stripped.metadata_eq_none] at carries
    cases carries

namespace Settings

variable {φ σ : Type} (settings : Settings)

def lacksMetadata : Failure :=
  .kind (.noField (Value.kindName .null) "category")

variable {policy : Policy φ} {given : Option Metadata} {hearing : Hearing φ σ}

theorem audit_of_disabled (disabled : settings.auditEnabled.truthy = false)
    (policy : Policy φ) (result : Result) (collects : hearing.observers.stranger = none) :
    ∃ later, settings.audit policy result hearing = (.ok (), later) ∧
      Watched hearing [] later := by
  obtain ⟨later, counts, watched⟩ :=
    settings.discreet_countPolicy policy result hearing collects
  refine ⟨later, ?_, watched⟩
  rw [audit, Attempt.bind_of_ok counts, disabled]
  rfl

theorem audit_of_none (enabled : settings.auditEnabled.truthy = true)
    (lacks : policy.metadata = none) (result : Result)
    (collects : hearing.observers.stranger = none) :
    ∃ later, settings.audit policy result hearing = (.error lacksMetadata, later) ∧
      Watched hearing [] later := by
  obtain ⟨later, counts, watched⟩ :=
    settings.discreet_countPolicy policy result hearing collects
  refine ⟨later, ?_, watched⟩
  rw [audit, Attempt.bind_of_ok counts, enabled, lacks]
  rfl

theorem audit_of_made (enabled : settings.auditEnabled.truthy = true) (made : policy.Made given)
    (whole : ¬ policy.Stripped) (result : Result) (safe : hearing.observers.Harmless) :
    ∃ delivery later, settings.audit policy result hearing = (.ok (), later) ∧
      Watched hearing [delivery] later ∧ delivery.event.Reports settings policy result := by
  have carries : policy.metadata.isSome = true := by
    rcases made.metadata_eq with isGiven | ⟨stripped, -⟩
    · rw [isGiven]
      rfl
    · exact absurd stripped whole
  rcases audits : settings.audit policy result hearing with ⟨outcome, later⟩
  obtain ⟨delivery, isOutcome, watched, reports⟩ :=
    settings.delivery_of_audit enabled carries audits safe.collects
  have heard := (watched.harmless safe).2 delivery (by simp)
  rw [Delivery.outcome_of_not_cancelled heard] at isOutcome
  exact ⟨delivery, later, by rw [isOutcome], watched, reports⟩

/-- Auditing a policy that the library made fails if it was stripped, and hands over one event
about it otherwise. -/
theorem audit_cases {result : Result} {outcome : Except Failure Unit} {later : Hearing φ σ}
    (enabled : settings.auditEnabled.truthy = true) (made : policy.Made given)
    (audits : settings.audit policy result hearing = (outcome, later))
    (safe : hearing.observers.Harmless) :
    policy.Stripped ∧ outcome = .error lacksMetadata ∧ Watched hearing [] later ∨
      ∃ delivery, outcome = .ok () ∧ Watched hearing [delivery] later ∧
        delivery.event.Reports settings policy result := by
  by_cases stripped : policy.Stripped
  · obtain ⟨last, fails, watched⟩ :=
      settings.audit_of_none enabled stripped.metadata_eq_none result safe.collects
    cases audits.symm.trans fails
    exact .inl ⟨stripped, rfl, watched⟩
  · obtain ⟨delivery, last, returns, watched, reports⟩ :=
      settings.audit_of_made enabled made stripped result safe
    cases audits.symm.trans returns
    exact .inr ⟨delivery, rfl, watched, reports⟩

end Settings

namespace Checker

variable {φ σ : Type} {host : Host φ σ} {settings : Settings} {request : Request}
  {policies : List (Policy φ)}

/-- What a checker stops at when it comes to a policy: a failure of that policy, or a result of it
that cannot be audited because it was stripped of its metadata. -/
inductive StopsAt (host : Host φ σ) (request : Request) (policy : Policy φ) (stage : Stage φ σ) :
    Failure → Prop where
  | failed {failure : Failure} {later : Stage φ σ}
      (fails : policy.evaluate host request stage = (.error failure, later)) :
      StopsAt host request policy stage failure
  | stripped {result : Result} {later : Stage φ σ} (stripped : policy.Stripped)
      (gives : policy.evaluate host request stage = (.ok result, later)) :
      StopsAt host request policy stage Settings.lacksMetadata

/-- What becomes of some rounds: a value in which their results are found, or a stop at the next
policy. -/
inductive Closing {α : Type} (host : Host φ σ) (request : Request) (policies : List (Policy φ))
    (finds : α → List Result → Prop) (rounds : List (Round φ)) (middle : Stage φ σ) :
    Except Failure α → Prop where
  | returned {value : α} (found : finds value (rounds.map Round.result)) :
      Closing host request policies finds rounds middle (.ok value)
  | stopped {policy : Policy φ} {failure : Failure}
      (position : policies[rounds.length]? = some policy)
      (stops : StopsAt host request policy middle failure) :
      Closing host request policies finds rounds middle (.error failure)

namespace Closing

variable {rounds : List (Round φ)} {middle : Stage φ σ} {outcome : Except Failure Findings}

theorem cons
    (closing : Closing host request policies (fun findings results => findings.results = results)
      rounds middle outcome)
    (policy : Policy φ) (round : Round φ) :
    Closing host request (policy :: policies)
      (fun (findings : Findings) results => findings.results = results) (round :: rounds)
      middle (outcome.map fun findings => ⟨round.result :: findings.results, findings.granting⟩) := by
  cases closing with
  | returned found => exact .returned (congrArg (round.result :: ·) found)
  | stopped position stops => exact .stopped (by simpa using position) stops

theorem verdict (settings : Settings)
    (closing : Closing host request policies (fun findings results => findings.results = results)
      rounds middle outcome) :
    Closing host request policies
      (fun verdict results => policies ≠ [] →
        verdict.trace = some (.ofChildren settings.checkerName .or results))
      rounds middle (outcome.map (Findings.verdict settings)) := by
  cases closing with
  | returned found => exact .returned fun _ => by rw [Findings.trace_verdict, found]
  | stopped position stops => exact .stopped position stops

end Closing

/-- An examination of policies that the library made leaves a trail up to the end or to the policy
that it stops at. -/
theorem Progress.trail {hearing later : Hearing φ σ} {completed : List (Policy φ × Result)}
    {outcome : Except Failure Findings}
    (progress : Progress host settings request policies hearing completed outcome later)
    (enabled : settings.auditEnabled.truthy = true)
    (made : ∀ policy ∈ policies, ∃ given, policy.Made given)
    (safe : hearing.observers.Harmless) :
    later.observers.Harmless ∧ ∃ rounds middle,
      Trail host settings request policies hearing rounds middle later ∧
      Closing host request policies (fun findings results => findings.results = results)
        rounds middle outcome := by
  -- Harmless observers stay so in every round, which carries the induction.
  induction progress with
  | exhausted hearing => exact ⟨safe, [], hearing.stage, .nil rfl, .returned rfl⟩
  | @failed policy rest hearing later failure asks =>
      obtain ⟨given, isMade⟩ := made policy List.mem_cons_self
      rw [ask_eq_evaluate_of_ne host settings request isMade.ne_checker safe.collects,
        Proceeding.onStage, Attempt.within] at asks
      rcases fails : policy.evaluate host request hearing.stage with ⟨ends, stage⟩
      have unaudited := auditRecords_evaluate host request policy hearing.stage
      rw [fails] at asks unaudited
      cases asks
      exact ⟨safe, [], hearing.stage, .nil unaudited, .stopped rfl (.failed fails)⟩
  | @interrupted policy rest hearing middle later result failure asks stops =>
      obtain ⟨stage, gives, rfl⟩ := evaluate_of_ask_ok asks
      obtain ⟨given, isMade⟩ := made policy List.mem_cons_self
      have unaudited := auditRecords_evaluate host request policy hearing.stage
      rw [gives] at unaudited
      rcases settings.audit_cases enabled isMade stops safe with
        ⟨stripped, isFailure, watched⟩ | ⟨_, succeeds, -⟩
      · cases isFailure
        exact ⟨(watched.harmless safe).1, [], hearing.stage,
          .watch (.refl hearing) (.nil unaudited) watched,
          .stopped rfl (.stripped stripped gives)⟩
      · cases succeeds
  | @granted policy rest hearing middle later result asks audits grants =>
      obtain ⟨stage, gives, rfl⟩ := evaluate_of_ask_ok asks
      obtain ⟨given, isMade⟩ := made policy List.mem_cons_self
      rcases settings.audit_cases enabled isMade audits safe with
        ⟨-, fails, -⟩ | ⟨delivery, -, watched, reports⟩
      · cases fails
      · exact ⟨(watched.harmless safe).1, [⟨policy, result, delivery⟩], later.stage,
          .cons gives watched reports (.nil rfl), .returned rfl⟩
  | @denied policy rest hearing middle audited later result completed outcome asks audits denies
      others ih =>
      obtain ⟨stage, gives, rfl⟩ := evaluate_of_ask_ok asks
      obtain ⟨given, isMade⟩ := made policy List.mem_cons_self
      rcases settings.audit_cases enabled isMade audits safe with
        ⟨-, fails, -⟩ | ⟨delivery, -, watched, reports⟩
      · cases fails
      · obtain ⟨stillSafe, rounds, left, trail, closing⟩ :=
          ih (fun policy member => made policy (by simp [member])) (watched.harmless safe).1
        exact ⟨stillSafe, ⟨policy, result, delivery⟩ :: rounds, left,
          .cons gives watched reports trail, closing.cons policy ⟨policy, result, delivery⟩⟩

theorem trail_of_made (host : Host φ σ) (checker : Checker) (request : Request)
    {hearing : Hearing φ σ} (enabled : checker.settings.auditEnabled.truthy = true)
    (made : ∀ policy ∈ hearing.stage.rosters checker.roster, ∃ given, policy.Made given)
    (safe : hearing.observers.Harmless) :
    ∃ rounds middle outcome later,
      checker.evaluate host request hearing = (outcome, later) ∧
      Trail host checker.settings request (hearing.stage.rosters checker.roster) hearing rounds
        middle later ∧
      Closing host request (hearing.stage.rosters checker.roster)
        (fun verdict results => hearing.stage.rosters checker.roster ≠ [] →
          verdict.trace = some (.ofChildren checker.settings.checkerName .or results))
        rounds middle outcome := by
  obtain ⟨completed, heard⟩ := heard_evaluate host checker request hearing
  rcases runs : checker.evaluate host request hearing with ⟨outcome, later⟩
  rw [runs] at heard
  cases heard with
  | without lacks logged pronounces =>
      obtain ⟨rfl, onwards⟩ :=
        watched_of_pronounce (logged.watched.stranger.trans safe.collects) pronounces
      exact ⟨[], hearing.stage, _, later, rfl,
        .watch (.refl hearing) (.nil rfl) (logged.watched.trans onwards),
        .returned fun filled => absurd lacks filled⟩
  | broken filled logged progress =>
      obtain ⟨-, rounds, middle, trail, closing⟩ :=
        progress.trail enabled made (logged.watched.harmless safe).1
      exact ⟨rounds, middle, _, later, rfl, .watch logged.watched trail (.refl later),
        closing.verdict checker.settings⟩
  | found filled logged progress loggedToo pronounces =>
      obtain ⟨stillSafe, rounds, middle, trail, closing⟩ :=
        progress.trail enabled made (logged.watched.harmless safe).1
      obtain ⟨rfl, onwards⟩ :=
        watched_of_pronounce (loggedToo.watched.stranger.trans stillSafe.collects) pronounces
      exact ⟨rounds, middle, _, later, rfl,
        .watch logged.watched trail (loggedToo.watched.trans onwards),
        closing.verdict checker.settings⟩

/-- Auditing a policy that the library made hands over one event, which shows the metadata that it
was made with, and does not fail, unless the policy was stripped; where nothing is audited it never
fails.  So a checker that audits such policies gives a verdict or stops at one of them: at a
failure of its own, or at a result of a stripped one. -/
theorem evaluate_audits_made {φ σ : Type} :
    (∀ (settings : Settings) (policy : Policy φ) (given : Option Metadata) (result : Result)
        (hearing : Hearing φ σ), policy.Made given → hearing.observers.Harmless →
      (settings.auditEnabled.truthy = false →
        ∃ later, settings.audit policy result hearing = (.ok (), later) ∧
          Watched hearing [] later) ∧
      (settings.auditEnabled.truthy = true → ¬ policy.Stripped →
        ∃ delivery later, settings.audit policy result hearing = (.ok (), later) ∧
          Watched hearing [delivery] later ∧
          delivery.event.Reports settings policy result ∧ delivery.event.Cites given) ∧
      (settings.auditEnabled.truthy = true → policy.Stripped →
        ∃ later, settings.audit policy result hearing = (.error Settings.lacksMetadata, later) ∧
          Watched hearing [] later)) ∧
    ∀ (host : Host φ σ) (checker : Checker) (request : Request) (hearing : Hearing φ σ),
      checker.settings.auditEnabled.truthy = true →
      (∀ policy ∈ hearing.stage.rosters checker.roster, ∃ given, policy.Made given) →
      hearing.observers.Harmless →
      ∃ rounds middle outcome later,
        checker.evaluate host request hearing = (outcome, later) ∧
        Trail host checker.settings request (hearing.stage.rosters checker.roster) hearing rounds
          middle later ∧
        (∀ round ∈ rounds, ∀ given, round.policy.Made given →
          round.delivery.event.Cites given) ∧
        Closing host request (hearing.stage.rosters checker.roster)
          (fun verdict results => hearing.stage.rosters checker.roster ≠ [] →
            verdict.trace = some (.ofChildren checker.settings.checkerName .or results))
          rounds middle outcome ∧
        ((∀ policy ∈ hearing.stage.rosters checker.roster, ¬ policy.Stripped) →
          ∀ failure, outcome = .error failure →
            ∃ policy ∈ hearing.stage.rosters checker.roster, ∃ last,
              policy.evaluate host request middle = (.error failure, last)) := by
  refine ⟨fun settings policy given result hearing made safe => ⟨fun disabled => ?_,
    fun enabled whole => ?_, fun enabled stripped => ?_⟩,
    fun host checker request hearing enabled made safe => ?_⟩
  · exact settings.audit_of_disabled disabled policy result safe.collects
  · obtain ⟨delivery, later, audits, watched, reports⟩ :=
      settings.audit_of_made enabled made whole result safe
    exact ⟨delivery, later, audits, watched, reports, reports.cites made⟩
  · exact settings.audit_of_none enabled stripped.metadata_eq_none result safe.collects
  · obtain ⟨rounds, middle, outcome, later, runs, trail, closing⟩ :=
      trail_of_made host checker request enabled made safe
    refine ⟨rounds, middle, outcome, later, runs, trail,
      fun round member given isMade => (trail.reports round member).cites isMade, closing,
      fun whole failure fails => ?_⟩
    subst fails
    obtain - | ⟨position, stops⟩ := closing
    have member := List.mem_of_getElem? position
    obtain fails | ⟨stripped⟩ := stops
    · exact ⟨_, member, _, fails⟩
    · exact absurd stripped (whole _ member)

/-- A condition that never holds, without metadata, and what a builder makes that is told that
there are no metadata. -/
def barePolicies : List (Policy Nat) :=
  [.byCondition 0 none none,
    { PolicyBuilder.start (.text "Open") with metadata := none : PolicyBuilder Nat }.build]

def bareHearing : Hearing Nat Nat :=
  { freshHearing none with stage := { Stage.bare 0 with rosters := fun _ => barePolicies } }

theorem steps_withdrawn :
    (PolicyBuilder.start (.text "Open") : PolicyBuilder Nat).steps [.metadata none] =
      .ok { PolicyBuilder.start (.text "Open") with metadata := none } :=
  rfl

theorem made_barePolicies : ∀ policy ∈ barePolicies, policy.Made none := by
  simp only [barePolicies, List.forall_mem_cons]
  exact ⟨.byCondition 0 none none, .built steps_withdrawn, by simp⟩

theorem harmless_bareHearing : bareHearing.observers.Harmless :=
  ⟨rfl, nofun⟩

theorem not_stripped_byCondition {φ : Type} (condition : φ) (name : Option Value)
    (metadata : Option Metadata) : ¬ (Policy.byCondition condition name metadata).Stripped :=
  nofun

theorem evaluate_audits_made_bare :
    Settings.standard.auditEnabled.truthy = true ∧
    (∀ policy ∈ bareHearing.stage.rosters 0, policy.Made none) ∧
    bareHearing.observers.Harmless ∧
    (∃ delivery later, Settings.standard.audit (.byCondition 0 none none) (.denied .null .null)
        bareHearing = (.ok (), later) ∧ Watched bareHearing [delivery] later ∧
      delivery.event.Cites none) ∧
    ∃ rounds middle later,
      Checker.evaluate countingHost ⟨.standard, 0⟩ blankRequest bareHearing =
        (.error Settings.lacksMetadata, later) ∧
      Trail countingHost .standard blankRequest barePolicies bareHearing rounds middle later ∧
      (∀ round ∈ rounds, round.delivery.event.Cites none) ∧
      (rounds.flatMap Round.records).length = 1 := by
  refine ⟨rfl, made_barePolicies, harmless_bareHearing, ?_, ?_⟩
  · obtain ⟨delivery, later, audits, watched, -, cites⟩ :=
      (evaluate_audits_made.1 .standard (.byCondition 0 none none) none (.denied .null .null)
        bareHearing (.byCondition 0 none none) harmless_bareHearing).2.1 rfl
        (not_stripped_byCondition 0 none none)
    exact ⟨delivery, later, audits, watched, cites⟩
  obtain ⟨rounds, middle, outcome, later, runs, trail, cites, -⟩ :=
    evaluate_audits_made.2 countingHost ⟨.standard, 0⟩ blankRequest bareHearing rfl
      (fun policy member => ⟨none, made_barePolicies policy member⟩) harmless_bareHearing
  have records := congrArg List.length trail.records
  have isMade : ∀ round ∈ rounds, round.policy.Made none := fun round member =>
    made_barePolicies _ (trail.policies_prefix.subset (List.mem_map_of_mem member))
  cases runs
  exact ⟨rounds, middle, _, rfl, trail, fun round member => cites round member none
    (isMade round member), records.symm⟩

/-- A checker fails although its policy grants access and there is no sink. -/
theorem evaluate_fails_stripped :
    ∃ builder : PolicyBuilder Nat,
      (PolicyBuilder.start (.text "Open")).steps [.metadata none] = .ok builder ∧
      ∃ hearing : Hearing Nat Nat, hearing.stage.rosters 0 = [builder.build] ∧
        hearing.observers.Harmless ∧
        (∃ result stage, result.isGranted = true ∧
          builder.build.evaluate countingHost blankRequest hearing.stage = (.ok result, stage)) ∧
        (Checker.evaluate countingHost ⟨.standard, 0⟩ blankRequest hearing).1 =
          .error Settings.lacksMetadata := by
  refine ⟨_, steps_withdrawn,
    { freshHearing none with stage := { Stage.bare 0 with rosters := fun _ => [_] } }, rfl,
    ⟨rfl, nofun⟩, ⟨_, _, ?_, rfl⟩, rfl⟩
  rfl

end Checker

end AccessDecision
