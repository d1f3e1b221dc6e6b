import AccessDecision.Choice
import AccessDecision.Metadata
import AccessDecision.Policy.Request
import AccessDecision.Policy.Timeout

/-!
# Policies

A policy decides about requests.  The host supplies policies of its own and the
functions that the built-in ones rely on; both are known here only by their code, so
policies are plain data.  Combinators are never empty.  The name of a policy is a text
as a rule; it is kept as it is given.  Whether something is a policy or a resolver turns
out when it is used, so something else can stand in for one.
-/

namespace AccessDecision

/-- What a guarded policy does when its guards hold. -/
inductive Effect where
  | allow
  | deny
deriving DecidableEq

namespace Effect

def label : Effect → String
  | .allow => "allow"
  | .deny => "deny"

def choice : Choice Effect :=
  ⟨"Effect", label, [.allow, .deny]⟩

end Effect

/-- How a relationship between subject and resource is looked up. -/
inductive Resolver (φ : Type) where
  | host (code : φ)
  | timed (timeout : Timeout) (inner : Resolver φ)
  /-- Something else that stands in for a resolver, by its kind. -/
  | standIn (kind : String)

/-- A condition on a part of the request. -/
structure Guard (φ : Type) where
  part : RequestPart
  code : φ

/-- A policy over host code of type `φ`. -/
inductive Policy (φ : Type) where
  /-- A policy of the host. -/
  | host (code : φ) (name : Value) (metadata : Option Metadata)
  /-- Grants if the subject holds a role that is required. -/
  | roles (required held : φ) (name : Value) (metadata : Metadata)
  /-- Grants if a condition holds. -/
  | attributes (condition : φ) (name : Value) (metadata : Metadata)
  /-- Grants if the subject has a relationship with the resource. -/
  | relationship (relation : Value) (resolver : Resolver φ) (name : Value)
      (metadata : Metadata)
  /-- Has its effect if all guards hold, and denies otherwise. -/
  | guarded (guards : List (Guard φ)) (effect : Effect) (name : Value)
      (metadata : Option Metadata)
  /-- Grants if all policies do. -/
  | all (policies : List (Policy φ)) (name : Value) (metadata : Metadata)
  /-- Grants if some policy does. -/
  | any (policies : List (Policy φ)) (name : Value) (metadata : Metadata)
  /-- Grants if the policy does not. -/
  | negation (policy : Policy φ) (name : Value) (metadata : Metadata)
  /-- A checker that stands in for a policy, by its number. -/
  | checker (number : Nat)
  /-- Something else that stands in for a policy, by its kind. -/
  | standIn (kind : String)

namespace Policy

variable {φ : Type}

/-- The name of a policy.  What stands in for a policy has none. -/
def name : Policy φ → Value
  | .host _ name _ | .roles _ _ name _ | .attributes _ name _
  | .relationship _ _ name _ | .guarded _ _ name _ | .all _ name _ | .any _ name _
  | .negation _ name _ => name
  | .checker _ | .standIn _ => .null

/-- The metadata of a policy, which host policies and guarded ones may lack, as does what
stands in for a policy. -/
def metadata : Policy φ → Option Metadata
  | .host _ _ metadata | .guarded _ _ _ metadata => metadata
  | .roles _ _ _ metadata | .attributes _ _ metadata | .relationship _ _ _ metadata
  | .all _ _ metadata | .any _ _ metadata | .negation _ _ metadata => some metadata
  | .checker _ | .standIn _ => none

def parts : Policy φ → List (Policy φ)
  | .all policies _ _ | .any policies _ _ => policies
  | .negation policy _ _ => [policy]
  | _ => []

def checkerKind : String :=
  "PermissionChecker"

def kindName : Policy φ → String
  | .host .. => "HostPolicy"
  | .roles .. => "RbacPolicy"
  | .attributes .. => "AbacPolicy"
  | .relationship .. => "RebacPolicy"
  | .guarded .. => "_PredicatePolicy"
  | .all .. => "AndPolicy"
  | .any .. => "OrPolicy"
  | .negation .. => "NotPolicy"
  | .checker _ => checkerKind
  | .standIn kind => kind

def askName (policy : Policy φ) : Except Failure Value :=
  match policy with
  | .checker _ | .standIn _ => .error (.kind (.noField policy.kindName "policy_name"))
  | _ => .ok policy.name

def literal (policy : Policy φ) : String :=
  policy.kindName ++ "(" ++ policy.name.literal ++ ")"

/-- The given name, unless it is missing or counts as false. -/
def nameOr (standard : String) (given : Option Value) : Value :=
  match given with
  | some name => if name.truthy then name else .text standard
  | none => .text standard

def givenName (standard : String) (given : Option Value) : Value :=
  given.getD (.text standard)

/-- A combinator over policies of which there must be at least one. -/
def combinator (build : List (Policy φ) → Value → Metadata → Policy φ)
    (standard : String) (policies : List (Policy φ)) (name : Option Value)
    (metadata : Option Metadata) : Except Failure (Policy φ) :=
  if policies.isEmpty then .error (.fault (.noPolicies (nameOr standard name)))
  else .ok (build policies (nameOr standard name) (metadata.getD .empty))

def allOf (policies : List (Policy φ)) (name : Option Value)
    (metadata : Option Metadata) : Except Failure (Policy φ) :=
  combinator .all "AndPolicy" policies name metadata

def anyOf (policies : List (Policy φ)) (name : Option Value)
    (metadata : Option Metadata) : Except Failure (Policy φ) :=
  combinator .any "OrPolicy" policies name metadata

def notOf (policy : Policy φ) (name : Option Value) (metadata : Option Metadata) :
    Policy φ :=
  .negation policy (nameOr "NotPolicy" name) (metadata.getD .empty)

def byRoles (required held : φ) (name : Option Value) (metadata : Option Metadata) :
    Policy φ :=
  .roles required held (givenName "RbacPolicy" name) (metadata.getD .empty)

def byCondition (condition : φ) (name : Option Value) (metadata : Option Metadata) :
    Policy φ :=
  .attributes condition (givenName "AbacPolicy" name) (metadata.getD .empty)

def byRelationship (relation : Value) (resolver : Resolver φ) (name : Option Value)
    (metadata : Option Metadata) : Policy φ :=
  .relationship relation resolver (givenName "RebacPolicy" name) (metadata.getD .empty)

end Policy

end AccessDecision
