import AccessDecision.Policy.Relationship
import AccessDecision.Value.Agreement

/-!
# Evaluating policies

Policies are evaluated strictly one after the other.  A combinator stops as soon as its
outcome is settled; the policies after that are not evaluated and leave no trace.  A
policy of the host may fail to give a result, which is found out when the result is
used; a checker in place of a policy is left to decide by itself.
-/

namespace AccessDecision

namespace Value

/-- The members of a collection: the items of a list, the characters of a text, or the
names of an object. -/
def elements? : Value → Option (List Value)
  | .list items => some items
  | .text characters =>
      some (characters.toList.map fun character => .text (String.singleton character))
  | .brokenText codes => some (codes.map fun code => .ofCodes [code])
  | .object fields => some (fields.map fun field => .text field.1)
  | .brokenObject fields => some (fields.map fun field => .ofCodes field.1)
  | _ => none

/-- Whether a value can be a member of a set. -/
def isSetMember : Value → Bool
  | .list _ => false
  | .object _ => false
  | .brokenObject _ => false
  | _ => true

def setMembers (value : Value) : Except Failure (List Value) :=
  match value.elements? with
  | none => .error (.kind (.notIterable value.kindName))
  | some elements =>
      match elements.find? (!·.isSetMember) with
      | some element => .error (.kind (.unhashable element.kindName))
      | none => .ok elements

end Value

def intersect (left right : List Value) : Bool :=
  left.any fun first => right.any fun second => first.partAgrees second

/-- Whether an outcome settles a connective before all outcomes are known. -/
def Connective.settledBy : Connective → Bool → Bool
  | .and, granted => !granted
  | .or, granted => granted
  | .not, _ => false

namespace Policy

variable {φ σ : Type}

def callForSet (host : Host φ σ) (code : φ) (arguments : List Value) :
    Evaluation φ σ (List Value) := do
  let value ← Evaluation.callFunction host code arguments
  Attempt.ofExcept value.setMembers

/-- Whether all guards hold; the first that does not ends the search. -/
def guardsHold (host : Host φ σ) (request : Request) :
    List (Guard φ) → Evaluation φ σ Bool
  | [] => pure true
  | guard :: rest => do
      let value ← Evaluation.callFunction host guard.code (guard.part.arguments request)
      if value.truthy then guardsHold host request rest else pure false

def guardedResult (name : Value) (effect : Effect) (hold : Bool) : Result :=
  if !hold then .denied name (.text "policy predicate did not match")
  else
    match effect with
    | .allow => .granted name (.text "policy allowed access")
    | .deny => .denied name (.text "policy denied access")

mutual

/-- The result of a policy for a request. -/
def evaluate (host : Host φ σ) (request : Request) : Policy φ → Evaluation φ σ Result
  | .host code _ _ => do
      let result ← Evaluation.callPolicy host code request
      Attempt.ofExcept (Result.present "outcome" result)
  | .roles required held name _ => do
      let required ← callForSet host required [request.resource, request.action]
      let held ← callForSet host held [request.subject]
      pure (if intersect required held then
          .granted name (.text "User has required role")
        else .denied name (.text "User doesn't have required role"))
  | .attributes condition name _ => do
      let value ← Evaluation.callFunction host condition
        [request.subject, request.resource, request.action, request.context]
      pure (if value.truthy then .granted name (.text "Condition evaluated to true")
        else .denied name (.text "Condition evaluated to false"))
  | .relationship relation resolver name _ => do
      let value ← resolver.hasRelationship host request.subject request.resource relation
      let shown := "'" ++ relation.display ++ "' relationship with resource"
      pure (if value.truthy then .granted name (.text ("Subject has " ++ shown))
        else .denied name (.text ("Subject does not have " ++ shown)))
  | .guarded guards effect name _ => do
      let hold ← guardsHold host request guards
      pure (guardedResult name effect hold)
  | .all policies name _ => do
      let results ← evaluateAll host request name .and policies.length 0 policies
      pure (.ofChildren name .and results)
  | .any policies name _ => do
      let results ← evaluateAll host request name .or policies.length 0 policies
      pure (.ofChildren name .or results)
  | .negation policy name _ => do
      let result ← policy.evaluate host request
      pure (.ofChildren name .not [result])
  | .checker number => Attempt.fail (.referral ⟨number, none⟩)
  | .standIn kind => Attempt.fail (.kind (.noField kind "evaluate_access"))

/-- The results of policies up to the one that settles a connective, after `count` of
`total` policies did not. -/
def evaluateAll (host : Host φ σ) (request : Request) (name : Value)
    (operation : Connective) (total count : Nat) :
    List (Policy φ) → Evaluation φ σ (List Result)
  | [] => pure []
  | policy :: rest => do
      let result ← policy.evaluate host request
      if operation.settledBy result.isGranted then do
        Evaluation.report
          (.settled name (count + 1) total result.isGranted result.policyName)
        pure [result]
      else do
        let results ← evaluateAll host request name operation total (count + 1) rest
        pure (result :: results)

end

/-- What a policy answers to a request, which need not be a result if it is one of the
host. -/
def respond (host : Host φ σ) (request : Request) (policy : Policy φ) :
    Evaluation φ σ (Option Result) :=
  match policy with
  | .host code _ _ => Evaluation.callPolicy host code request
  | policy => some <$> policy.evaluate host request

theorem evaluate_eq_respond (host : Host φ σ) (request : Request) (policy : Policy φ) :
    policy.evaluate host request = (do
      let result ← policy.respond host request
      Attempt.ofExcept (Result.present "outcome" result)) := by
  have given (attempt : Evaluation φ σ Result) :
      ((some <$> attempt) >>= fun result =>
        Attempt.ofExcept (Result.present "outcome" result)) = attempt := by
    simp [Result.present]
  cases policy with
  | host => rw [evaluate, respond]
  | _ => exact (given _).symm

end Policy

end AccessDecision
