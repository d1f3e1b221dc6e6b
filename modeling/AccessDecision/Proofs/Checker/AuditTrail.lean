import AccessDecision.Proofs.Checker.Refinement

/-!
# The audit trail

The policies that a checker evaluated, the children of its trace and the events that it
handed to its sink are three lists that one loop makes.  A round keeps what belongs together,
so that all three lists are read off the rounds, however the loop ends: a policy granted
access, none did, a policy failed, or the sink called off everything.
-/

namespace AccessDecision

namespace Checker

/-- A policy that was evaluated, with its result and the delivery of the event about it. -/
structure Round (φ : Type) where
  policy : Policy φ
  result : Result
  delivery : Delivery

namespace Round

variable {φ : Type}

def consulted (round : Round φ) : Policy φ × Result :=
  (round.policy, round.result)

def records (round : Round φ) : List LogRecord :=
  round.delivery.records

end Round

/-- How a checker ends after some rounds: it gives a value in which the results of all rounds
are found, the next policy fails, or the sink calls off everything in the last round. -/
inductive Ending {φ σ α : Type} (host : Host φ σ) (request : Request)
    (policies : List (Policy φ)) (finds : α → List Result → Prop) (rounds : List (Round φ))
    (middle : Stage φ σ) : Except Failure α → Prop where
  | returned {value : α} (found : finds value (rounds.map Round.result))
      (heard : ∀ round ∈ rounds, round.delivery.isCancelled = false) :
      Ending host request policies finds rounds middle (.ok value)
  | failed {policy : Policy φ} {failure : Failure} {later : Stage φ σ}
      (position : policies[rounds.length]? = some policy)
      (fails : policy.evaluate host request middle = (.error failure, later))
      (heard : ∀ round ∈ rounds, round.delivery.isCancelled = false) :
      Ending host request policies finds rounds middle (.error failure)
  | interrupted {earlier : List (Round φ)} {last : Round φ} {failure : Failure}
      (isLast : rounds = earlier ++ [last]) (calledOff : last.delivery.failure = some failure)
      (cancels : failure.isCancellation = true)
      (heard : ∀ round ∈ earlier, round.delivery.isCancelled = false) :
      Ending host request policies finds rounds middle (.error failure)

/-- What some rounds leave behind. -/
structure Trail {φ σ : Type} (host : Host φ σ) (settings : Settings) (request : Request)
    (policies : List (Policy φ)) (hearing : Hearing φ σ) (rounds : List (Round φ))
    (middle : Stage φ σ) (later : Hearing φ σ) : Prop where
  policies_prefix : rounds.map Round.policy <+: policies
  consulted : Consulted host request hearing.stage (rounds.map Round.consulted) middle
  reports : ∀ round ∈ rounds,
    round.delivery.event.Reports settings round.policy round.result
  records : later.stage.auditRecords =
    hearing.stage.auditRecords ++ rounds.flatMap Round.records
  delivered : Delivered hearing.observers.sink hearing.observers.disk
    (rounds.map Round.delivery) later.observers.sink later.observers.disk

variable {φ σ : Type} {host : Host φ σ} {settings : Settings} {request : Request}
  {policies : List (Policy φ)}

theorem Ending.map {α β : Type} {finds : α → List Result → Prop}
    {holds : β → List Result → Prop} {change : α → β} {rounds : List (Round φ)}
    {middle : Stage φ σ} {outcome : Except Failure α}
    (ending : Ending host request policies finds rounds middle outcome)
    (keeps : ∀ value, finds value (rounds.map Round.result) →
      holds (change value) (rounds.map Round.result)) :
    Ending host request policies holds rounds middle (outcome.map change) := by
  cases ending with
  | returned found heard => exact .returned (keeps _ found) heard
  | failed position fails heard => exact .failed position fails heard
  | interrupted isLast calledOff cancels heard =>
      exact .interrupted isLast calledOff cancels heard

theorem Ending.cons {α β : Type} {finds : α → List Result → Prop}
    {holds : β → List Result → Prop} {change : α → β} {policy : Policy φ}
    {rest : List (Policy φ)} {round : Round φ} {rounds : List (Round φ)} {middle : Stage φ σ}
    {outcome : Except Failure α} (first : round.delivery.isCancelled = false)
    (ending : Ending host request rest finds rounds middle outcome)
    (keeps : ∀ value results, finds value results →
      holds (change value) (round.result :: results)) :
    Ending host request (policy :: rest) holds (round :: rounds) middle
      (outcome.map change) := by
  cases ending with
  | returned found heard =>
      exact .returned (keeps _ _ found) (by simpa [first] using heard)
  | failed position fails heard =>
      exact .failed (by simpa using position) fails (by simpa [first] using heard)
  | @interrupted earlier last failure isLast calledOff cancels heard =>
      have isLastToo : round :: rounds = (round :: earlier) ++ [last] := by
        rw [isLast, List.cons_append]
      exact .interrupted isLastToo calledOff cancels (by simpa [first] using heard)

/-- A policy that is evaluated leaves no record about an audit event. -/
theorem auditRecords_evaluate (host : Host φ σ) (request : Request) (policy : Policy φ)
    (stage : Stage φ σ) :
    (policy.evaluate host request stage).2.auditRecords = stage.auditRecords := by
  obtain ⟨outcome, effect, modest, runs⟩ := policy.isolated host request stage.state
  rw [runs stage rfl]
  exact modest.auditRecords stage

namespace Trail

variable {hearing middle later : Hearing φ σ}

theorem nil {policies : List (Policy φ)} {stage : Stage φ σ}
    (unaudited : stage.auditRecords = hearing.stage.auditRecords) :
    Trail host settings request policies hearing [] hearing.stage { hearing with stage } where
  policies_prefix := List.nil_prefix
  consulted := .done rfl
  reports := by simp
  records := by simpa using unaudited
  delivered := .done _ _

theorem cons {policy : Policy φ} {rest : List (Policy φ)} {result : Result}
    {delivery : Delivery} {stage left : Stage φ σ} {rounds : List (Round φ)}
    (gives : policy.evaluate host request hearing.stage = (.ok result, stage))
    (watched : Watched { hearing with stage } [delivery] middle)
    (reports : delivery.event.Reports settings policy result)
    (trail : Trail host settings request rest middle rounds left later) :
    Trail host settings request (policy :: rest) hearing (⟨policy, result, delivery⟩ :: rounds)
      left later where
  policies_prefix := by
    obtain ⟨others, isRest⟩ := trail.policies_prefix
    exact ⟨others, by rw [← isRest]; rfl⟩
  consulted := .next rfl gives (trail.consulted.after_quiet watched.quiet)
  reports := by
    intro round member
    rcases List.mem_cons.mp member with rfl | later
    · exact reports
    · exact trail.reports round later
  records := by
    have unaudited := auditRecords_evaluate host request policy hearing.stage
    rw [gives] at unaudited
    rw [trail.records, watched.records, List.flatMap_cons, ← unaudited]
    simp [Round.records]
  delivered := watched.delivered.trans trail.delivered

theorem watch {started finished : Hearing φ σ} {left : Stage φ σ} {rounds : List (Round φ)}
    (begins : Watched hearing [] started)
    (trail : Trail host settings request policies started rounds left finished)
    (ends : Watched finished [] later) :
    Trail host settings request policies hearing rounds left later where
  policies_prefix := trail.policies_prefix
  consulted := trail.consulted.after_quiet begins.quiet
  reports := trail.reports
  records := by
    rw [ends.records, trail.records, begins.records]
    simp
  delivered := by
    have delivered := (begins.delivered.trans trail.delivered).trans ends.delivered
    rwa [List.nil_append, List.append_nil] at delivered

theorem of_absent {rounds : List (Round φ)} {left : Stage φ σ}
    (trail : Trail host settings request policies hearing rounds left later)
    (absent : hearing.observers.sink = none) :
    later.observers.sink = none ∧ later.observers.disk = hearing.observers.disk ∧
      ∀ round ∈ rounds, round.delivery.failure = none := by
  obtain ⟨stillAbsent, unwritten, taken⟩ := trail.delivered.of_absent absent
  exact ⟨stillAbsent, unwritten, fun round member => taken _ (List.mem_map_of_mem member)⟩

theorem holds_taken {rounds : List (Round φ)} {left : Stage φ σ} {given : Sink}
    (trail : Trail host settings request policies hearing rounds left later)
    (present : hearing.observers.sink = some given) :
    ∃ last, later.observers.sink = some last ∧
      Delivered (some given.calm) hearing.observers.disk
        ((rounds.map Round.delivery).filter Delivery.isTaken)
        (some last.calm) later.observers.disk ∧
      ∀ store, given.memory? = some store →
        last.memory? = some
          ((((rounds.map Round.delivery).filter Delivery.isTaken).map Delivery.event).foldl
            AuditMemory.log store) := by
  have delivered := trail.delivered
  rw [present] at delivered
  obtain ⟨last, isLast, calm⟩ := delivered.calm
  rw [isLast] at delivered
  exact ⟨last, isLast, calm, fun store remembers => delivered.memory? remembers⟩

end Trail

/-- Every examination under which decisions are audited leaves a trail. -/
theorem Examination.trail {hearing later : Hearing φ σ} {outcome : Except Failure Findings}
    (examination : Examination host settings request policies hearing outcome later)
    (enabled : settings.auditEnabled.truthy = true)
    (carry : ∀ policy ∈ policies, policy.metadata.isSome = true)
    (collects : hearing.observers.stranger = none) :
    ∃ rounds middle, Trail host settings request policies hearing rounds middle later ∧
      Ending host request policies (fun findings results => findings.results = results)
        rounds middle outcome := by
  induction examination with
  | exhausted hearing =>
      exact ⟨[], hearing.stage, .nil rfl, .returned rfl (by simp)⟩
  | @failed policy rest hearing failure stage fails =>
      have unaudited := auditRecords_evaluate host request policy hearing.stage
      rw [fails] at unaudited
      exact ⟨[], hearing.stage, .nil unaudited, .failed rfl fails (by simp)⟩
  | @interrupted policy rest hearing later result stage failure gives stops =>
      obtain ⟨delivery, isOutcome, watched, reports⟩ :=
        settings.delivery_of_audit enabled (carry policy List.mem_cons_self) stops collects
      obtain ⟨calledOff, cancels⟩ := Delivery.isCancellation_of_outcome_error isOutcome.symm
      exact ⟨[⟨policy, result, delivery⟩], later.stage, .cons gives watched reports (.nil rfl),
        .interrupted (List.nil_append _).symm calledOff cancels (by simp)⟩
  | @granted policy rest hearing later result stage gives audits grants =>
      obtain ⟨delivery, isOutcome, watched, reports⟩ :=
        settings.delivery_of_audit enabled (carry policy List.mem_cons_self) audits collects
      have heard := Delivery.isCancelled_of_outcome_ok isOutcome.symm
      exact ⟨[⟨policy, result, delivery⟩], later.stage, .cons gives watched reports (.nil rfl),
        .returned rfl (by simpa using heard)⟩
  | @denied policy rest hearing middle later result stage outcome gives audits denies _ ih =>
      obtain ⟨delivery, isOutcome, watched, reports⟩ :=
        settings.delivery_of_audit enabled (carry policy List.mem_cons_self) audits collects
      have heard := Delivery.isCancelled_of_outcome_ok isOutcome.symm
      obtain ⟨rounds, left, trail, ending⟩ :=
        ih (fun policy member => carry policy (by simp [member]))
          (watched.stranger.trans collects)
      refine ⟨⟨policy, result, delivery⟩ :: rounds, left, .cons gives watched reports trail, ?_⟩
      refine .cons heard ending fun findings results found => ?_
      rw [found]

/-- A checker that audits hands over one event for each policy that was evaluated, in their
order, and the events report what those policies decided.  The trail says so whether the
checker gives a verdict, in whose trace the results of all rounds are the children, or the
next policy fails, or the sink calls off everything.  Events that the sink refused are
missing from it, and no others. -/
theorem evaluate_leaves_trail (host : Host φ σ) (checker : Checker) (request : Request)
    {hearing : Hearing φ σ} (holds : hearing.stage.rosters checker.roster = policies)
    (enabled : checker.settings.auditEnabled.truthy = true)
    (carry : ∀ policy ∈ policies, policy.metadata.isSome = true)
    (collects : hearing.observers.stranger = none) :
    ∃ rounds middle outcome later,
      checker.evaluate host request hearing = (outcome, later) ∧
      Trail host checker.settings request policies hearing rounds middle later ∧
      Ending host request policies
        (fun verdict results => policies ≠ [] →
          verdict.trace = some (.ofChildren checker.settings.checkerName .or results))
        rounds middle outcome ∧
      (policies = [] → rounds = []) ∧
      (hearing.observers.sink = none → later.observers.sink = none ∧
        later.observers.disk = hearing.observers.disk ∧
        ∀ round ∈ rounds, round.delivery.failure = none) ∧
      ∀ sink, hearing.observers.sink = some sink →
        ∃ last, later.observers.sink = some last ∧
          Delivered (some sink.calm) hearing.observers.disk
            ((rounds.map Round.delivery).filter Delivery.isTaken)
            (some last.calm) later.observers.disk ∧
          ∀ store, sink.memory? = some store →
            last.memory? = some
              ((((rounds.map Round.delivery).filter Delivery.isTaken).map
                Delivery.event).foldl AuditMemory.log store) := by
  by_cases filled : policies = []
  · subst filled
    obtain ⟨later, runs, watched⟩ := checker.evaluate_of_nil host request holds collects
    have trail : Trail host checker.settings request [] hearing [] hearing.stage later :=
      .watch (.refl hearing) (.nil rfl) watched
    exact ⟨[], hearing.stage, _, later, runs, trail,
      .returned (fun filled => absurd rfl filled) (by simp), fun _ => rfl, trail.of_absent,
      fun sink present => trail.holds_taken present⟩
  · obtain ⟨started, ending, finished, later, begins, examination, runs, ends⟩ :=
      checker.evaluate_spec host request holds filled carry collects
    obtain ⟨rounds, middle, examined, ended⟩ :=
      examination.trail enabled carry (begins.stranger.trans collects)
    have trail := Trail.watch begins examined ends
    refine ⟨rounds, middle, _, later, runs, trail, ended.map ?_,
      fun lacks => absurd lacks filled, trail.of_absent,
      fun sink present => trail.holds_taken present⟩
    intro findings found _
    rcases findings with ⟨results, - | ⟨policy, reason⟩⟩ <;>
      · cases found
        rfl

theorem evaluate_leaves_trail_counting :
    (freshHearing (some faultySink)).stage.rosters 0 = twoPolicies ∧
    Settings.standard.auditEnabled.truthy = true ∧
    (∀ policy ∈ twoPolicies, policy.metadata.isSome = true) ∧
    (freshHearing (some faultySink)).observers.stranger = none ∧
    ∃ rounds middle outcome later,
      Checker.evaluate countingHost ⟨.standard, 0⟩ blankRequest
        (freshHearing (some faultySink)) = (outcome, later) ∧
      Trail countingHost .standard blankRequest twoPolicies (freshHearing (some faultySink))
        rounds middle later ∧
      (rounds.flatMap Round.records).length = 3 := by
  have carry : ∀ policy ∈ twoPolicies, policy.metadata.isSome = true := by decide
  have holds : (freshHearing (some faultySink)).stage.rosters 0 = twoPolicies := rfl
  refine ⟨holds, rfl, carry, rfl, ?_⟩
  obtain ⟨rounds, middle, outcome, later, runs, trail, -⟩ :=
    evaluate_leaves_trail countingHost ⟨.standard, 0⟩ blankRequest holds rfl carry rfl
  refine ⟨rounds, middle, outcome, later, runs, trail, ?_⟩
  have records := congrArg List.length trail.records
  cases runs
  exact records.symm

end Checker

end AccessDecision
