import AccessDecision.Proofs.Policy.Valuation

/-!
# Timed lookups

A timed lookup that no cancellation interrupts gives an answer, and the answer is true only if
the inner lookup gave a true one in time.  So a policy that relies on it grants access on no
other ground: a failure or a timeout of the inner lookup reads as a relationship that does not
exist.
-/

namespace AccessDecision

namespace Resolver

variable {φ σ : Type}

/-- What comes of an inner lookup for a request: an answer, nothing before the timeout runs
out, or a failure. -/
def comesTo (host : Host φ σ) (request : Request) (relation : Value) (timeout : Timeout)
    (inner : Resolver φ) (stage : Stage φ σ) : Except Failure (Option Value) :=
  (inner.lookup host request.subject request.resource relation (some timeout) stage).1

/-- Whether a lookup answered in time and truly. -/
def affirms : Except Failure (Option Value) → Bool
  | .ok (some value) => value.truthy
  | .ok none | .error _ => false

theorem isCancellation_prepare {timeout : Timeout} {inner : Resolver φ} {failure : Failure}
    (fails : prepare timeout inner = .error failure) : failure.isCancellation = false := by
  rw [prepare] at fails
  rcases checks : inner.check with unasked | ⟨⟩
  · rw [checks] at fails
    cases fails
    cases inner with
    | standIn kind =>
        cases checks
        rfl
    | host code => cases checks
    | timed timeout inner => cases checks
  · rw [checks] at fails
    change timeout.begin = .error failure at fails
    rw [Timeout.begin] at fails
    split at fails <;> cases fails
    rfl

theorem isCalledOff_of_stoppable {failure : Failure}
    (stoppable : failure.isCancellation = false) : failure.isCalledOff = false := by
  cases failure with
  | host error =>
      cases error with
      | cancelled message => cases stoppable
      | timeout message => rfl
      | named name message => rfl
  | _ => rfl

/-- Waiting for a lookup changes nothing unless the lookup is called off. -/
theorem await_of_stoppable (loop : EventLoop) (limit : Option Timeout) (inner : Resolver φ)
    {lookup : Evaluation φ σ (Option Value)} {stage : Stage φ σ}
    (stoppable : ∀ failure, (lookup stage).1 = .error failure →
      failure.isCancellation = false) :
    await loop limit true inner lookup stage = lookup stage := by
  rw [await]
  split
  · rw [if_pos rfl, overdue]
    rcases ends : lookup stage with ⟨failure | answer, later⟩
    · have goesOn : failure.isCancellation = false := stoppable failure (by rw [ends])
      rw [Attempt.orElse_of_error ends]
      simp [isCalledOff_of_stoppable goesOn]
    · exact Attempt.orElse_of_ok ends
  · rfl

theorem answerFailure_of_stoppable (relation : Value) (timeout : Timeout) {failure : Failure}
    (stoppable : failure.isCancellation = false) (stage : Stage φ σ) :
    ∃ later, answerFailure relation timeout failure stage = (.ok (some (.bool false)), later) := by
  rw [answerFailure, stoppable]
  exact ⟨_, rfl⟩

theorem lookup_timed (host : Host φ σ) (request : Request) (relation : Value)
    (timeout : Timeout) (inner : Resolver φ) (stage : Stage φ σ)
    (stoppable : ∀ failure,
      comesTo host request relation timeout inner stage = .error failure →
        failure.isCancellation = false) :
    ∃ later, (Resolver.timed timeout inner).lookup host request.subject request.resource
        relation none stage =
      (.ok (some (.bool ((prepare timeout inner).isOk &&
        affirms (comesTo host request relation timeout inner stage)))), later) := by
  have own : runsOutFirst host.loop timeout none = true := rfl
  rw [comesTo] at *
  rw [lookup]
  simp only [own, if_true]
  rcases prepares : prepare timeout inner with failure | ⟨⟩
  · rw [Attempt.orElse_of_error (Attempt.bind_of_error (Attempt.ofExcept_apply _ _))]
    exact answerFailure_of_stoppable relation timeout (isCancellation_prepare prepares) stage
  · have awaits := await_of_stoppable host.loop (some timeout) inner stoppable
    rw [Attempt.ofExcept_ok, pure_bind]
    rcases ends : inner.lookup host request.subject request.resource relation (some timeout)
      stage with ⟨failure | answer, later⟩
    · rw [ends] at awaits stoppable
      rw [Attempt.orElse_of_error (Attempt.bind_of_error awaits)]
      exact answerFailure_of_stoppable relation timeout (stoppable failure rfl) later
    · rw [ends] at awaits
      cases answer with
      | none =>
          let noted : Stage φ σ :=
            { later with log := later.log ++ [.lookupTimeout relation timeout.seconds] }
          exact ⟨noted, Attempt.orElse_of_ok (Attempt.bind_of_ok awaits)⟩
      | some value => exact ⟨later, Attempt.orElse_of_ok (Attempt.bind_of_ok awaits)⟩

end Resolver

/-- A policy by a timed lookup grants access if the inner lookup affirms the relationship. -/
theorem Policy.gives_of_lookup {φ σ : Type} (host : Host φ σ) (request : Request)
    (relation : Value) (timeout : Timeout) (inner : Resolver φ) (name : Value)
    (metadata : Metadata) (stage : Stage φ σ)
    (stoppable : ∀ failure,
      inner.comesTo host request relation timeout stage = .error failure →
        failure.isCancellation = false) :
    (Policy.relationship relation (.timed timeout inner) name metadata).Gives host request stage
      ((Resolver.prepare timeout inner).isOk &&
        Resolver.affirms (inner.comesTo host request relation timeout stage)) := by
  obtain ⟨later, answers⟩ :=
    Resolver.lookup_timed host request relation timeout inner stage stoppable
  have has : (Resolver.timed timeout inner).hasRelationship host request.subject
      request.resource relation stage = (.ok (.bool ((Resolver.prepare timeout inner).isOk &&
        Resolver.affirms (inner.comesTo host request relation timeout stage))), later) :=
    Attempt.bind_of_ok answers
  refine ⟨_, later, by rw [evaluate]; exact Attempt.bind_of_ok has, ?_⟩
  rw [Value.truthy]
  split
  · next affirmed => exact affirmed.symm
  · next denied => exact (Bool.not_eq_true _ ▸ denied).symm

end AccessDecision
