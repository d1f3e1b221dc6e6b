import AccessDecision.Policy.Stage

/-!
# Looking up relationships

A timed lookup always answers: it takes what the inner lookup says as true or false,
and answers false if that fails or takes longer than the timeout, or if the timeout
cannot be waited for.  Only a cancellation passes through.  Which of nested timeouts runs
out first is up to the event loop.  A lookup of the host that is interrupted does nothing
but be called.

A timed lookup that waits for another one takes several turns to answer.  So within a
timeout that leaves the lookups no time for their turns, its answer comes too late.
-/

namespace AccessDecision

namespace Resolver

variable {φ σ : Type}

def unasked (kind : String) : Failure :=
  .kind (.noField kind "has_relationship")

def check : Resolver φ → Except Failure Unit
  | .standIn kind => .error (unasked kind)
  | _ => .ok ()

def prepare (timeout : Timeout) (inner : Resolver φ) : Except Failure Unit := do
  inner.check
  timeout.begin

/-- Whether a lookup waits for another one before it answers. -/
def waits : Resolver φ → Bool
  | .timed timeout inner => (prepare timeout inner).isOk
  | _ => false

/-- Whether a timeout runs out before an enclosing one. -/
def runsOutFirst (loop : EventLoop) (timeout : Timeout) (limit : Option Timeout) : Bool :=
  limit.all (loop.precedes timeout)

/-- Whether something that takes the given time is interrupted. -/
def interrupts (loop : EventLoop) (limit : Option Timeout) (delay : Quantity) : Bool :=
  limit.any (loop.interrupts · delay)

/-- Answer a failed lookup by false, unless it was cancelled. -/
def answerFailure (relation : Value) (timeout : Timeout) (failure : Failure) :
    Evaluation φ σ (Option Value) :=
  if failure.isCancellation then Attempt.fail failure
  else do
    Evaluation.report
      (if failure.isTimeout then .lookupTimeout relation timeout.seconds
        else .lookupFailed relation failure)
    pure (some (.bool false))

/-- A lookup that an enclosing limit calls off while it waits: whatever comes of it is
lost, unless it ends the program. -/
def calledOff (lookup : Evaluation φ σ (Option Value)) : Evaluation φ σ (Option Value) :=
  Attempt.orElse
    (do
      let _ ← lookup
      pure none)
    fun failure => if failure.endsProgram then Attempt.fail failure else pure none

/-- A lookup that is called off by the timeout that waits for it: an answer that it gives
all the same is taken, and its cancellation is that of the timeout. -/
def overdue (lookup : Evaluation φ σ (Option Value)) : Evaluation φ σ (Option Value) :=
  Attempt.orElse lookup fun failure =>
    if failure.isCalledOff then pure none else Attempt.fail failure

/-- Wait for an inner lookup within a limit, which is the timeout's own or an enclosing
one. -/
def await (loop : EventLoop) (limit : Option Timeout) (own : Bool) (inner : Resolver φ)
    (lookup : Evaluation φ σ (Option Value)) : Evaluation φ σ (Option Value) :=
  if inner.waits && limit.any loop.hurries then
    if own then overdue lookup else calledOff lookup
  else lookup

/-- Look a relationship up within an enclosing limit.  There is no answer if that limit
runs out first. -/
def lookup (host : Host φ σ) (subject resource relation : Value) (limit : Option Timeout) :
    Resolver φ → Evaluation φ σ (Option Value)
  | .host code => do
      let arguments := [subject, resource, relation]
      Evaluation.noteCall (.function code arguments)
      let delay ← Attempt.look fun stage => host.delay code arguments stage.state
      if interrupts host.loop limit delay then pure none
      else
        let value ← Evaluation.accept (host.function code arguments)
        pure (some value)
  | .standIn kind => Attempt.fail (unasked kind)
  | .timed timeout inner =>
      Attempt.orElse
        (do
          Attempt.ofExcept (prepare timeout inner)
          let own := runsOutFirst host.loop timeout limit
          let limit := if own then some timeout else limit
          let answer ← await host.loop limit own inner
            (lookup host subject resource relation limit inner)
          match answer with
          | some value => pure (some (.bool value.truthy))
          | none =>
              if own then do
                Evaluation.report (.lookupTimeout relation timeout.seconds)
                pure (some (.bool false))
              else pure none)
        (answerFailure relation timeout)

/-- Whether the subject has the relationship, as the resolver answers it. -/
def hasRelationship (host : Host φ σ) (resolver : Resolver φ)
    (subject resource relation : Value) : Evaluation φ σ Value := do
  let value ← resolver.lookup host subject resource relation none
  pure (value.getD .null)

end Resolver

end AccessDecision
