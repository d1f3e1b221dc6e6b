import AccessDecision.Proofs.Policy.Structure

/-!
# What evaluations are made of

The evaluation of a policy is put together of calls of host code, of what is logged about them
and of values that may have failed.  A property that these have, and that passes from parts to
the whole, is a property of the evaluation of every policy.
-/

namespace AccessDecision

def LogRecord.isEvaluation : LogRecord → Bool
  | .settled .. | .lookupTimeout .. | .lookupFailed .. => true
  | _ => false

/-- A property that calls of host code of an allowed kind have, and that passes from parts of an
evaluation to the whole. -/
structure Evaluation.Compositional {φ σ : Type} (host : Host φ σ) (allowed : Call φ → Prop)
    (holds : {α : Type} → Evaluation φ σ α → Prop) : Prop where
  ofExcept : ∀ {α : Type} (value : Except Failure α), holds (Attempt.ofExcept value)
  bind : ∀ {α β : Type} {evaluation : Evaluation φ σ α} {next : α → Evaluation φ σ β},
    holds evaluation → (∀ value, holds (next value)) → holds (evaluation >>= next)
  orElse : ∀ {α : Type} {evaluation : Evaluation φ σ α}
    {handler : Failure → Evaluation φ σ α},
    holds evaluation → (∀ failure, holds (handler failure)) → holds (evaluation.orElse handler)
  report : ∀ {record : LogRecord}, record.isEvaluation = true →
    holds (Evaluation.report record)
  callFunction : ∀ code arguments, allowed (.function code arguments) →
    holds (Evaluation.callFunction host code arguments)
  callPolicy : ∀ code request, allowed (.policy code request) →
    holds (Evaluation.callPolicy host code request)
  lookup : ∀ code subject resource relation limit,
    allowed (.function code [subject, resource, relation]) →
    holds ((Resolver.host code).lookup host subject resource relation limit)

def Call.AllowsFunctions {φ : Type} (allowed : Call φ → Prop) : Prop :=
  ∀ code arguments, allowed (.function code arguments)

namespace Evaluation.Compositional

variable {φ σ : Type} {host : Host φ σ} {allowed : Call φ → Prop}
  {holds : {α : Type} → Evaluation φ σ α → Prop}

section

variable (law : Compositional host allowed holds)

include law

theorem pure {α : Type} (value : α) : holds (Pure.pure value : Evaluation φ σ α) :=
  law.ofExcept (.ok value)

theorem fail {α : Type} (failure : Failure) :
    holds (Attempt.fail failure : Evaluation φ σ α) :=
  law.ofExcept (.error failure)

theorem answerFailure (relation : Value) (timeout : Timeout) (failure : Failure) :
    holds (Resolver.answerFailure relation timeout failure :
      Evaluation φ σ (Option Value)) := by
  rw [Resolver.answerFailure]
  split
  · exact law.fail failure
  · refine law.bind (law.report ?_) fun _ => law.pure _
    split <;> rfl

theorem await {lookup : Evaluation φ σ (Option Value)} (looksUp : holds lookup)
    (loop : EventLoop) (limit : Option Timeout) (own : Bool) (inner : Resolver φ) :
    holds (Resolver.await loop limit own inner lookup) := by
  rw [Resolver.await]
  split
  · split
    · refine law.orElse looksUp fun failure => ?_
      split
      · exact law.pure none
      · exact law.fail failure
    · refine law.orElse (law.bind looksUp fun _ => law.pure none) fun failure => ?_
      split
      · exact law.fail failure
      · exact law.pure none
  · exact looksUp

theorem lookupAll (functions : Call.AllowsFunctions allowed)
    (subject resource relation : Value) (limit : Option Timeout) (resolver : Resolver φ) :
    holds (resolver.lookup host subject resource relation limit) := by
  induction resolver generalizing limit with
  | host code => exact law.lookup code subject resource relation limit (functions _ _)
  | standIn kind => exact law.fail _
  | timed timeout inner ih =>
      rw [Resolver.lookup]
      refine law.orElse ?_ (law.answerFailure relation timeout)
      refine law.bind (law.ofExcept _) fun _ => ?_
      refine law.bind (law.await (ih _) _ _ _ inner) fun answer => ?_
      cases answer with
      | some value => exact law.pure _
      | none =>
          dsimp only
          split
          · exact law.bind (law.report rfl) fun _ => law.pure _
          · exact law.pure none

theorem guardsHold (functions : Call.AllowsFunctions allowed) (request : Request)
    (guards : List (Guard φ)) : holds (Policy.guardsHold host request guards) := by
  induction guards with
  | nil => exact law.pure true
  | cons guard rest ih =>
      rw [Policy.guardsHold]
      refine law.bind (law.callFunction _ _ (functions _ _)) fun value => ?_
      split
      · exact ih
      · exact law.pure false

/-- A leaf calls functions only, unless it is a policy of the host. -/
theorem evaluate_leaf (functions : Call.AllowsFunctions allowed) (request : Request)
    {policy : Policy φ} (leaf : policy.isLeaf = true)
    (asks : ∀ code name metadata, policy = .host code name metadata →
      allowed (.policy code request)) :
    holds (policy.evaluate host request) := by
  cases policy with
  | host code name metadata =>
      rw [Policy.evaluate]
      exact law.bind (law.callPolicy code request (asks code name metadata rfl))
        fun result => law.ofExcept _
  | roles required held name metadata =>
      have members (code : φ) (arguments : List Value) :
          holds (Policy.callForSet host code arguments) :=
        law.bind (law.callFunction code arguments (functions _ _)) fun value => law.ofExcept _
      rw [Policy.evaluate]
      exact law.bind (members required _) fun _ => law.bind (members held _) fun _ =>
        law.pure _
  | attributes condition name metadata =>
      rw [Policy.evaluate]
      exact law.bind (law.callFunction _ _ (functions _ _)) fun _ => law.pure _
  | relationship relation resolver name metadata =>
      rw [Policy.evaluate]
      refine law.bind ?_ fun value => law.pure _
      exact law.bind (law.lookupAll functions _ _ _ _ resolver) fun _ => law.pure _
  | guarded guards effect name metadata =>
      rw [Policy.evaluate]
      exact law.bind (law.guardsHold functions request guards) fun _ => law.pure _
  | checker number => exact law.fail _
  | standIn kind => exact law.fail _
  | all | any | negation => cases leaf

theorem evaluateAll (request : Request) {policies : List (Policy φ)}
    (members : ∀ policy ∈ policies, holds (policy.evaluate host request)) (name : Value)
    (operation : Connective) (total count : Nat) :
    holds (Policy.evaluateAll host request name operation total count policies) := by
  induction policies generalizing count with
  | nil => exact law.pure []
  | cons policy rest ih =>
      rw [Policy.evaluateAll]
      refine law.bind (members policy (by simp)) fun result => ?_
      split
      · exact law.bind (law.report rfl) fun _ => law.pure _
      · refine law.bind (ih (fun policy member => members policy (by simp [member])) _) ?_
        exact fun results => law.pure _

theorem evaluate (functions : Call.AllowsFunctions allowed) (request : Request)
    (asks : ∀ code, allowed (.policy code request)) (policy : Policy φ) :
    holds (policy.evaluate host request) := by
  induction policy using Policy.inductionOnParts with
  | leaf policy leaf =>
      exact law.evaluate_leaf functions request leaf fun code _ _ _ => asks code
  | all policies name metadata ih =>
      rw [Policy.evaluate]
      exact law.bind (law.evaluateAll request ih name _ _ _) fun _ => law.pure _
  | any policies name metadata ih =>
      rw [Policy.evaluate]
      exact law.bind (law.evaluateAll request ih name _ _ _) fun _ => law.pure _
  | negation policy name metadata ih =>
      rw [Policy.evaluate]
      exact law.bind ih fun _ => law.pure _

end

end Evaluation.Compositional

end AccessDecision
