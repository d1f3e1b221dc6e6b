import AccessDecision.Proofs.Policy.Nesting

/-!
# Nested timeouts

The shortest of the timeouts around a function of the host decides whether the function answers in
time, and the whole nest then answers by what the function says.  A failure is reported by the
innermost timeout and a delay by the shortest one; no other one reports anything, and only what no
handler of errors stops passes through all of them.

This takes a prompt event loop and timeouts that are spaced.  One that is over before the lookups
within it had their turns comes before the answer of a lookup within two others, and of two that
are close to each other the longer one may come first.
-/

namespace AccessDecision

namespace Resolver

variable {φ σ : Type}

section Nests

variable {host : Host φ σ} {request : Request} {relation : Value} {code : φ}
  {timeouts : List Timeout} {stage : Stage φ σ}

/-- A function of the host answers within all timeouts of a nest. -/
def InTime (host : Host φ σ) (request : Request) (relation : Value) (code : φ)
    (timeouts : List Timeout) (stage : Stage φ σ) : Prop :=
  ∀ timeout ∈ timeouts,
    (host.delay code [request.subject, request.resource, relation] stage.state).atMost
      timeout.size = true

/-- How a function of the host that looks a relationship up comes to an end. -/
abbrev Calls (host : Host φ σ) (request : Request) (relation : Value) (code : φ)
    (stage : Stage φ σ) (outcome : Except Failure Value) (later : Stage φ σ) : Prop :=
  Evaluation.callFunction host code [request.subject, request.resource, relation] stage =
    (outcome, later)

/-- How a nest of timeouts around a function of the host comes to an answer, and what its
timeouts report on the way. -/
inductive Answers (host : Host φ σ) (request : Request) (relation : Value) (code : φ)
    (timeouts : List Timeout) (stage : Stage φ σ) :
    Except Failure Bool → List LogRecord → Stage φ σ → Prop where
  /-- The function took too long, and the shortest timeout reports that. -/
  | late {shortest : Timeout} (late : ¬ InTime host request relation code timeouts stage)
      (isTimeout : shortest ∈ timeouts)
      (isShortest : ∀ timeout ∈ timeouts, shortest.size.atMost timeout.size = true) :
      Answers host request relation code timeouts stage (.ok false)
        [.lookupTimeout relation shortest.seconds]
        (stage.noting (.function code [request.subject, request.resource, relation]))
  | answered {value : Value} {later : Stage φ σ}
      (inTime : InTime host request relation code timeouts stage)
      (answers : Calls host request relation code stage (.ok value) later) :
      Answers host request relation code timeouts stage (.ok value.truthy) [] later
  /-- The function failed, and the innermost timeout reports that. -/
  | failed {failure : Failure} {innermost : Timeout} {later : Stage φ σ}
      (inTime : InTime host request relation code timeouts stage)
      (fails : Calls host request relation code stage (.error failure) later)
      (stoppable : failure.isCancellation = false)
      (isInnermost : innermost ∈ timeouts.getLast?) :
      Answers host request relation code timeouts stage (.ok false)
        [failureReport relation innermost failure] later
  | cancelled {failure : Failure} {later : Stage φ σ}
      (inTime : InTime host request relation code timeouts stage)
      (fails : Calls host request relation code stage (.error failure) later)
      (unstoppable : failure.isCancellation = true) :
      Answers host request relation code timeouts stage (.error failure) [] later

theorem exists_answers {lag : Rat} (prompt : host.loop.Prompt lag) (nonempty : timeouts ≠ [])
    (spaced : Spaced lag none timeouts)
    (apart : ∀ timeout ∈ timeouts, (host.delay code [request.subject, request.resource, relation]
      stage.state).Apart lag timeout.size) :
    ∃ outcome records later,
      Answers host request relation code timeouts stage outcome records later ∧
      (nest code timeouts).lookup host request.subject request.resource relation none stage =
        (outcome.map fun granted => some (.bool granted), later.telling records) := by
  have inTime_iff : interrupts host.loop (innerLimit host.loop none timeouts) (host.delay code
      [request.subject, request.resource, relation] stage.state) = false ↔
        InTime host request relation code timeouts stage :=
    spaced.interrupts_innerLimit prompt apart
  cases ending : interrupts host.loop (innerLimit host.loop none timeouts)
      (host.delay code [request.subject, request.resource, relation] stage.state) with
  | true =>
      have late : ¬ InTime host request relation code timeouts stage := by
        rw [← inTime_iff, ending]
        exact Bool.true_eq_false.mp
      have ends := spaced.lookup_of_late prompt ending
      obtain ⟨first, isFirst, isLimit⟩ := exists_foremost host.loop nonempty
      rw [isFirst] at ends
      exact ⟨_, _, _, .late late (mem_of_foremost isFirst)
        (spaced.innerLimit_atMost prompt isLimit).2, ends⟩
  | false =>
      have inTime := inTime_iff.mp ending
      rcases calls : Evaluation.callFunction host code
        [request.subject, request.resource, relation] stage with ⟨failure | value, later⟩
      · cases stoppable : failure.isCancellation with
        | false =>
            have isInnermost : timeouts.getLast nonempty ∈ timeouts.getLast? :=
              List.getLast?_eq_some_getLast nonempty
            exact ⟨_, _, _, .failed inTime calls stoppable isInnermost,
              spaced.lookup_of_failing ending prompt stoppable calls isInnermost⟩
        | true =>
            have passes := spaced.lookup_of_cancelling ending prompt stoppable calls
            exact ⟨_, _, _, .cancelled inTime calls stoppable,
              by rw [Stage.telling_nil]; exact passes⟩
      · have ends := spaced.lookup_of_answered ending prompt calls
        rw [if_neg (by simpa using nonempty)] at ends
        exact ⟨_, _, _, .answered inTime calls, by rw [Stage.telling_nil]; exact ends⟩

namespace Answers

variable {outcome : Except Failure Bool} {records : List LogRecord} {later : Stage φ σ}

/-- A nest around a function that answers in time answers truly or not, as the function does. -/
theorem eq_of_answered {value : Value} {ended : Stage φ σ}
    (answers : Answers host request relation code timeouts stage outcome records later)
    (inTime : InTime host request relation code timeouts stage)
    (calls : Calls host request relation code stage (.ok value) ended) :
    outcome = .ok value.truthy ∧ records = [] ∧ later = ended := by
  cases answers with
  | late late => exact absurd inTime late
  | answered _ answers =>
      cases answers.symm.trans calls
      exact ⟨rfl, rfl, rfl⟩
  | _ _ fails => cases fails.symm.trans calls

/-- A nest around a function that takes too long is told so by its shortest timeout. -/
theorem exists_shortest
    (answers : Answers host request relation code timeouts stage outcome records later)
    (late : ¬ InTime host request relation code timeouts stage) :
    ∃ shortest ∈ timeouts, (∀ timeout ∈ timeouts, shortest.size.atMost timeout.size = true) ∧
      outcome = .ok false ∧ records = [.lookupTimeout relation shortest.seconds] ∧
      later = stage.noting (.function code [request.subject, request.resource, relation]) := by
  cases answers with
  | late _ isTimeout isShortest => exact ⟨_, isTimeout, isShortest, rfl, rfl, rfl⟩
  | answered inTime => exact absurd inTime late
  | failed inTime => exact absurd inTime late
  | cancelled inTime => exact absurd inTime late

theorem affirms_iff
    (answers : Answers host request relation code timeouts stage outcome records later) :
    outcome = .ok true ↔ InTime host request relation code timeouts stage ∧
      ∃ value ended, Calls host request relation code stage (.ok value) ended ∧
        value.truthy = true := by
  constructor
  · intro affirms
    cases answers with
    | @answered value later inTime answers =>
        exact ⟨inTime, value, later, answers, Except.ok.inj affirms⟩
    | _ => cases affirms
  · rintro ⟨inTime, value, ended, calls, truthy⟩
    rw [(answers.eq_of_answered inTime calls).1, truthy]

/-- Nothing but a cancellation of the function comes out of a nest. -/
theorem cancels (answers : Answers host request relation code timeouts stage outcome records
      later) {failure : Failure} (fails : outcome = .error failure) :
    failure.isCancellation = true ∧
      Calls host request relation code stage (.error failure) later := by
  cases answers with
  | cancelled _ calls unstoppable =>
      cases fails
      exact ⟨unstoppable, calls⟩
  | _ => cases fails

/-- A nest reports once that the function took too long or failed, and never that it
answered. -/
theorem reports
    (answers : Answers host request relation code timeouts stage outcome records later) :
    (¬ InTime host request relation code timeouts stage ∨
      (∃ failure ended, Calls host request relation code stage (.error failure) ended ∧
        failure.isCancellation = false) → records.length = 1) ∧
    (InTime host request relation code timeouts stage →
      (∃ value ended, Calls host request relation code stage (.ok value) ended) →
        records = []) := by
  refine ⟨fun fails => ?_, fun inTime ⟨value, ended, calls⟩ => ?_⟩
  · cases answers with
    | answered inTime answers =>
        rcases fails with late | ⟨failure, ended, calls, -⟩
        · exact absurd inTime late
        · cases answers.symm.trans calls
    | cancelled inTime cancels unstoppable =>
        rcases fails with late | ⟨failure, ended, calls, stoppable⟩
        · exact absurd inTime late
        · cases cancels.symm.trans calls
          rw [unstoppable] at stoppable
          cases stoppable
    | _ => rfl
  · exact (answers.eq_of_answered inTime calls).2.1

end Answers

def relationshipResult (name relation : Value) (granted : Bool) : Result :=
  let shown := "'" ++ relation.display ++ "' relationship with resource"
  if granted then .granted name (.text ("Subject has " ++ shown))
  else .denied name (.text ("Subject does not have " ++ shown))

end Nests

/-- A host whose only function ends after a while, on an event loop that lags by a millisecond. -/
def delayedHost (delay : Quantity) (outcome : Except Failure Value) : Host Unit Unit where
  delay _ _ _ := delay
  function _ _ state := ⟨outcome, state, []⟩
  policy _ _ state := ⟨.ok none, state, []⟩
  loop := .lagging (1 / 1000)

def wholeSeconds (number : Nat) : Timeout :=
  ⟨.int number, .finite number⟩

theorem spaced_wholeSeconds : Spaced (1 / 1000) none [wholeSeconds 2, wholeSeconds 1] where
  begins := by
    rw [List.forall_mem_cons, List.forall_mem_singleton]
    exact ⟨rfl, rfl⟩
  exceeds := by
    rw [Option.toList_none, List.nil_append, List.forall_mem_cons, List.forall_mem_singleton]
    unfold Timeout.Exceeds
    exact ⟨by decide +kernel, by decide +kernel⟩
  apart := by
    rw [Option.toList_none, List.nil_append, List.pairwise_pair]
    exact .inr (by decide +kernel)

section Unspaced

variable {host : Host φ σ} {subject resource relation : Value} {stage later : Stage φ σ}

theorem hasRelationship_of_unwaited {timeout : Timeout} (code : φ)
    (unwaited : timeout.seconds.float?.isSome = false) :
    ((nest code [timeout]).hasRelationship host subject resource relation stage).1 =
      .ok (.bool false) := by
  have fails : prepare timeout (.host code : Resolver φ) = .error (.range .beyondFloat) :=
    if_neg (by simp [unwaited])
  have looks : (nest code [timeout]).lookup host subject resource relation none stage =
      (.ok (some (.bool false)),
        stage.telling [failureReport relation timeout (.range .beyondFloat)]) := by
    rw [nest, nest, lookup, fails,
      Attempt.orElse_of_error (Attempt.bind_of_error (Attempt.ofExcept_apply _ _))]
    rfl
  exact congrArg Prod.fst (Attempt.bind_of_ok looks)

theorem lookup_timed_host {timeout : Timeout} {code : φ} {limit : Option Timeout} {value : Value}
    (begins : timeout.begin = .ok ())
    (inTime : interrupts host.loop (tightened host.loop timeout limit)
      (host.delay code [subject, resource, relation] stage.state) = false)
    (gives : Evaluation.callFunction host code [subject, resource, relation] stage =
      (.ok value, later)) :
    (nest code [timeout]).lookup host subject resource relation limit stage =
      (.ok (some (.bool value.truthy)), later) := by
  have prepares : prepare timeout (.host code : Resolver φ) = .ok () := begins
  have answers := lookup_host_of_prompt inTime gives
  have still : (Resolver.host code : Resolver φ).waits = false := rfl
  rw [nest, nest, lookup_timed_eq prepares, await, still, Bool.false_and,
    if_neg Bool.false_ne_true]
  exact Attempt.orElse_of_ok (Attempt.bind_of_ok answers)

/-- A timeout that leaves the lookups within it no turns is over before the answer of a lookup
within two others. -/
theorem hasRelationship_of_hurried {first second : Timeout} {inner : Resolver φ}
    (hurried : host.loop.hurries first = true)
    (behind : host.loop.precedes second first = false)
    (prepares : prepare first (.timed second inner) = .ok ())
    (preparesToo : prepare second inner = .ok ()) (waits : inner.waits = true)
    {answer : Option Value}
    (ends : inner.lookup host subject resource relation (some first) stage = (.ok answer, later)) :
    (Resolver.timed first (.timed second inner)).hasRelationship host subject resource relation
      stage = (.ok (.bool false), later.telling [.lookupTimeout relation first.seconds]) := by
  have notOwn : runsOutFirst host.loop second (some first) = false := behind
  have own : runsOutFirst host.loop first none = true := rfl
  have isOff : calledOff (inner.lookup host subject resource relation (some first)) stage =
      (.ok none, later) :=
    Attempt.orElse_of_ok (Attempt.bind_of_ok ends)
  have within : (Resolver.timed second inner).lookup host subject resource relation (some first)
      stage = (.ok none, later) := by
    rw [lookup_timed_eq preparesToo, tightened, notOwn, if_neg Bool.false_ne_true, await, waits,
      Option.any_some, hurried, Bool.and_self, if_pos rfl, if_neg Bool.false_ne_true]
    exact Attempt.orElse_of_ok (Attempt.bind_of_ok isOff)
  have isOverdue : overdue ((Resolver.timed second inner).lookup host subject resource relation
      (some first)) stage = (.ok none, later) :=
    Attempt.orElse_of_ok within
  have whole : (Resolver.timed first (.timed second inner)).lookup host subject resource relation
      none stage = (.ok (some (.bool false)),
        later.telling [.lookupTimeout relation first.seconds]) := by
    rw [lookup_timed_eq prepares, tightened, own, if_pos rfl, await, waits_of_prepare preparesToo,
      Option.any_some, hurried, Bool.and_self, if_pos rfl, if_pos rfl]
    exact Attempt.orElse_of_ok (Attempt.bind_of_ok isOverdue)
  exact Attempt.bind_of_ok whole

/-- A timeout reports the delay of a function if the one within it comes second. -/
theorem hasRelationship_of_close {first second : Timeout} {code : φ}
    (patient : host.loop.hurries first = false)
    (behind : host.loop.precedes second first = false)
    (begins : first.begin = .ok ()) (beginsToo : second.begin = .ok ())
    (late : interrupts host.loop (some first)
      (host.delay code [subject, resource, relation] stage.state) = true) :
    (nest code [first, second]).hasRelationship host subject resource relation stage =
      (.ok (.bool false),
        (stage.noting (.function code [subject, resource, relation])).telling
          [.lookupTimeout relation first.seconds]) := by
  have notOwn : runsOutFirst host.loop second (some first) = false := behind
  have own : runsOutFirst host.loop first none = true := rfl
  have stillPatient : (some first).any host.loop.hurries = false := patient
  have prepares : prepare first (nest code [second]) = .ok () := begins
  have preparesToo : prepare second (.host code : Resolver φ) = .ok () := beginsToo
  have within : (nest code [second]).lookup host subject resource relation (some first) stage =
      (.ok none, stage.noting (.function code [subject, resource, relation])) := by
    rw [nest, nest, lookup_timed_eq preparesToo, tightened, notOwn, if_neg Bool.false_ne_true,
      await_of_patient stillPatient]
    exact Attempt.orElse_of_ok (Attempt.bind_of_ok (lookup_host_of_late late))
  have whole : (nest code [first, second]).lookup host subject resource relation none stage =
      (.ok (some (.bool false)),
        (stage.noting (.function code [subject, resource, relation])).telling
          [.lookupTimeout relation first.seconds]) := by
    rw [nest, lookup_timed_eq prepares, tightened, own, if_pos rfl, await_of_patient stillPatient]
    exact Attempt.orElse_of_ok (Attempt.bind_of_ok within)
  exact Attempt.bind_of_ok whole

end Unspaced

/-- A negative power of two seconds, times a whole number. -/
def binarySeconds (significand places : Nat) : Timeout :=
  ⟨.float (.finite false significand (-places)), .finite (significand / Nat.pow 2 places)⟩

end Resolver

end AccessDecision
