import AccessDecision.Policy.Evaluation
import AccessDecision.Proofs.Policy.Lookup
import AccessDecision.Proofs.Policy.Polling
import AccessDecision.Proofs.Policy.Waiting

/-!
# Lookups within several timeouts

A function of the host that looks relationships up can stand within any number of timeouts.  Where
these are spaced, each of them waits for the end of what stands within it: an answer is read as
true or false, a failure is reported and answered by false, a delay is reported by the timeout
that was over first, and what no handler of errors stops passes.
-/

namespace AccessDecision

namespace Stage

variable {φ σ : Type}

/-- A stage with one more call. -/
def noting (stage : Stage φ σ) (call : Call φ) : Stage φ σ :=
  { stage with calls := stage.calls ++ [call] }

/-- A stage with some more records in its log. -/
def telling (stage : Stage φ σ) (records : List LogRecord) : Stage φ σ :=
  { stage with log := stage.log ++ records }

@[simp]
theorem telling_nil (stage : Stage φ σ) : stage.telling [] = stage := by
  simp [telling]

end Stage

namespace Resolver

variable {φ σ : Type}

/-- A function of the host within some timeouts, the outermost one first. -/
def nest (code : φ) : List Timeout → Resolver φ
  | [] => .host code
  | timeout :: inner => .timed timeout (nest code inner)

/-- What a timed lookup makes of what it waited for. -/
def conclude (relation : Value) (timeout : Timeout) (own : Bool) :
    Option Value → Evaluation φ σ (Option Value)
  | some value => pure (some (.bool value.truthy))
  | none =>
      if own then do
        Evaluation.report (.lookupTimeout relation timeout.seconds)
        pure (some (.bool false))
      else pure none

def failureReport (relation : Value) (timeout : Timeout) (failure : Failure) : LogRecord :=
  if failure.isTimeout then .lookupTimeout relation timeout.seconds
  else .lookupFailed relation failure

theorem answerFailure_apply (relation : Value) (timeout : Timeout) {failure : Failure}
    (stoppable : failure.isCancellation = false) (stage : Stage φ σ) :
    answerFailure relation timeout failure stage =
      (.ok (some (.bool false)), stage.telling [failureReport relation timeout failure]) := by
  rw [answerFailure, stoppable]
  rfl

section Host

variable {host : Host φ σ} {subject resource relation : Value} {limit : Option Timeout}
  {code : φ} {stage later : Stage φ σ}

/-- A timed lookup waits for the inner one and makes its answer of what that came to. -/
theorem lookup_timed_eq {timeout : Timeout} {inner : Resolver φ}
    (prepares : prepare timeout inner = .ok ()) (host : Host φ σ)
    (subject resource relation : Value) (limit : Option Timeout) :
    (Resolver.timed timeout inner).lookup host subject resource relation limit =
      Attempt.orElse
        (await host.loop (tightened host.loop timeout limit)
            (runsOutFirst host.loop timeout limit) inner
            (inner.lookup host subject resource relation (tightened host.loop timeout limit)) >>=
          conclude relation timeout (runsOutFirst host.loop timeout limit))
        (answerFailure relation timeout) := by
  rw [lookup, prepares, Attempt.ofExcept_ok, pure_bind]
  rfl

theorem waits_of_prepare {timeout : Timeout} {inner : Resolver φ}
    (prepares : prepare timeout inner = .ok ()) : (Resolver.timed timeout inner).waits = true := by
  rw [waits, prepares]
  rfl

theorem await_of_patient {loop : EventLoop} (patient : limit.any loop.hurries = false)
    (own : Bool) (inner : Resolver φ) (lookup : Evaluation φ σ (Option Value)) :
    await loop limit own inner lookup = lookup := by
  rw [await, patient, Bool.and_false, if_neg Bool.false_ne_true]

theorem lookup_host_of_late (late : interrupts host.loop limit
      (host.delay code [subject, resource, relation] stage.state) = true) :
    (Resolver.host code).lookup host subject resource relation limit stage =
      (.ok none, stage.noting (.function code [subject, resource, relation])) := by
  rw [lookup]
  refine (Attempt.bind_of_ok (Attempt.change_apply _ _)).trans ?_
  refine (Attempt.bind_of_ok (Attempt.look_apply _ _)).trans ?_
  rw [late]
  rfl

theorem lookup_host_of_prompt (prompt : interrupts host.loop limit
      (host.delay code [subject, resource, relation] stage.state) = false)
    {outcome : Except Failure Value}
    (ends : Evaluation.callFunction host code [subject, resource, relation] stage =
      (outcome, later)) :
    (Resolver.host code).lookup host subject resource relation limit stage =
      (outcome.map some, later) := by
  rw [lookup]
  refine (Attempt.bind_of_ok (Attempt.change_apply _ _)).trans ?_
  refine (Attempt.bind_of_ok (Attempt.look_apply _ _)).trans ?_
  rw [prompt]
  cases outcome with
  | ok value => exact Attempt.bind_of_ok ends
  | error failure => exact Attempt.bind_of_error ends

end Host

namespace Spaced

variable {host : Host φ σ} {lag : Rat} {subject resource relation : Value}
  {limit : Option Timeout} {timeout : Timeout} {inner timeouts : List Timeout} {code : φ}
  {stage later : Stage φ σ}

theorem prepares (spaced : Spaced lag limit (timeout :: inner)) (code : φ) :
    prepare timeout (nest code inner) = .ok () := by
  have begins := spaced.begins timeout List.mem_cons_self
  cases inner <;> exact begins

theorem patient (spaced : Spaced lag limit (timeout :: inner)) (prompt : host.loop.Prompt lag) :
    (tightened host.loop timeout limit).any host.loop.hurries = false := by
  obtain ⟨tight, isTight⟩ := exists_tightened host.loop timeout limit
  have within : tight ∈ (tightened host.loop timeout limit).toList := Option.mem_toList.mpr isTight
  rw [isTight, Option.any_some]
  exact prompt.patient (spaced.inside.exceeds tight (List.mem_append_left inner within))

theorem lookup_eq (spaced : Spaced lag limit (timeout :: inner)) (prompt : host.loop.Prompt lag)
    (subject resource relation : Value) (code : φ) :
    (nest code (timeout :: inner)).lookup host subject resource relation limit =
      Attempt.orElse
        ((nest code inner).lookup host subject resource relation
            (tightened host.loop timeout limit) >>=
          conclude relation timeout (runsOutFirst host.loop timeout limit))
        (answerFailure relation timeout) := by
  rw [nest, lookup_timed_eq (spaced.prepares code), await_of_patient (spaced.patient prompt)]

theorem lookup_of_some (spaced : Spaced lag limit (timeout :: inner))
    (prompt : host.loop.Prompt lag) {value : Value}
    (ends : (nest code inner).lookup host subject resource relation
      (tightened host.loop timeout limit) stage = (.ok (some value), later)) :
    (nest code (timeout :: inner)).lookup host subject resource relation limit stage =
      (.ok (some (.bool value.truthy)), later) := by
  rw [spaced.lookup_eq prompt]
  exact Attempt.orElse_of_ok (Attempt.bind_of_ok ends)

/-- A timed lookup that waited in vain tells so if its own timeout ran out. -/
theorem lookup_of_none (spaced : Spaced lag limit (timeout :: inner))
    (prompt : host.loop.Prompt lag)
    (ends : (nest code inner).lookup host subject resource relation
      (tightened host.loop timeout limit) stage = (.ok none, later)) :
    (nest code (timeout :: inner)).lookup host subject resource relation limit stage =
      if runsOutFirst host.loop timeout limit then
        (.ok (some (.bool false)), later.telling [.lookupTimeout relation timeout.seconds])
      else (.ok none, later) := by
  rw [spaced.lookup_eq prompt, Attempt.orElse, Attempt.bind_of_ok ends]
  cases runsOutFirst host.loop timeout limit <;> rfl

theorem lookup_of_failed (spaced : Spaced lag limit (timeout :: inner))
    (prompt : host.loop.Prompt lag) {failure : Failure}
    (stoppable : failure.isCancellation = false)
    (ends : (nest code inner).lookup host subject resource relation
      (tightened host.loop timeout limit) stage = (.error failure, later)) :
    (nest code (timeout :: inner)).lookup host subject resource relation limit stage =
      (.ok (some (.bool false)), later.telling [failureReport relation timeout failure]) := by
  rw [spaced.lookup_eq prompt, Attempt.orElse_of_error (Attempt.bind_of_error ends)]
  exact answerFailure_apply relation timeout stoppable later

theorem lookup_of_cancelled (spaced : Spaced lag limit (timeout :: inner))
    (prompt : host.loop.Prompt lag) {failure : Failure}
    (unstoppable : failure.isCancellation = true)
    (ends : (nest code inner).lookup host subject resource relation
      (tightened host.loop timeout limit) stage = (.error failure, later)) :
    (nest code (timeout :: inner)).lookup host subject resource relation limit stage =
      (.error failure, later) := by
  rw [spaced.lookup_eq prompt, Attempt.orElse_of_error (Attempt.bind_of_error ends),
    answerFailure, unstoppable]
  rfl

theorem lookup_of_late (spaced : Spaced lag limit timeouts) (prompt : host.loop.Prompt lag)
    (late : interrupts host.loop (innerLimit host.loop limit timeouts)
      (host.delay code [subject, resource, relation] stage.state) = true) :
    (nest code timeouts).lookup host subject resource relation limit stage =
      (.ok ((foremost host.loop limit timeouts).map fun _ => .bool false),
        (stage.noting (.function code [subject, resource, relation])).telling
          ((foremost host.loop limit timeouts).toList.map fun first =>
            .lookupTimeout relation first.seconds)) := by
  -- Each timeout may tighten the limit for those within it, so the induction is for all limits.
  induction timeouts generalizing limit with
  | nil =>
      rw [innerLimit_nil] at late
      rw [nest, lookup_host_of_late late]
      simp [foremost]
  | cons timeout inner ih =>
      rw [innerLimit_cons] at late
      have ends := ih spaced.inside late
      rw [foremost]
      cases deeper : foremost host.loop (tightened host.loop timeout limit) inner with
      | some first =>
          rw [deeper] at ends
          exact spaced.lookup_of_some prompt ends
      | none =>
          rw [deeper] at ends
          rw [spaced.lookup_of_none prompt ends]
          split <;> simp

variable (inTime : interrupts host.loop (innerLimit host.loop limit timeouts)
  (host.delay code [subject, resource, relation] stage.state) = false)

include inTime

/-- What a nest comes to around a function that answers in time. -/
theorem lookup_of_answered (spaced : Spaced lag limit timeouts) (prompt : host.loop.Prompt lag)
    {value : Value} (gives : Evaluation.callFunction host code [subject, resource, relation]
      stage = (.ok value, later)) :
    (nest code timeouts).lookup host subject resource relation limit stage =
      (.ok (some (if timeouts.isEmpty then value else .bool value.truthy)), later) := by
  induction timeouts generalizing limit with
  | nil =>
      rw [innerLimit_nil] at inTime
      rw [nest, lookup_host_of_prompt inTime gives]
      rfl
  | cons timeout inner ih =>
      rw [innerLimit_cons] at inTime
      rw [spaced.lookup_of_some prompt (ih inTime spaced.inside)]
      cases inner <;> rfl

theorem lookup_of_failing (spaced : Spaced lag limit timeouts) (prompt : host.loop.Prompt lag)
    {failure : Failure} (stoppable : failure.isCancellation = false)
    (fails : Evaluation.callFunction host code [subject, resource, relation]
      stage = (.error failure, later)) {innermost : Timeout}
    (isInnermost : innermost ∈ timeouts.getLast?) :
    (nest code timeouts).lookup host subject resource relation limit stage =
      (.ok (some (.bool false)), later.telling [failureReport relation innermost failure]) := by
  induction timeouts generalizing limit with
  | nil => cases isInnermost
  | cons timeout inner ih =>
      rw [innerLimit_cons] at inTime
      cases inner with
      | nil =>
          cases isInnermost
          exact spaced.lookup_of_failed prompt stoppable (lookup_host_of_prompt inTime fails)
      | cons next rest =>
          rw [List.getLast?_cons_cons] at isInnermost
          exact spaced.lookup_of_some prompt (ih inTime spaced.inside isInnermost)

theorem lookup_of_cancelling (spaced : Spaced lag limit timeouts) (prompt : host.loop.Prompt lag)
    {failure : Failure} (unstoppable : failure.isCancellation = true)
    (fails : Evaluation.callFunction host code [subject, resource, relation]
      stage = (.error failure, later)) :
    (nest code timeouts).lookup host subject resource relation limit stage =
      (.error failure, later) := by
  induction timeouts generalizing limit with
  | nil => exact lookup_host_of_prompt inTime fails
  | cons timeout inner ih =>
      rw [innerLimit_cons] at inTime
      exact spaced.lookup_of_cancelled prompt unstoppable (ih inTime spaced.inside)

end Spaced

end Resolver

end AccessDecision
