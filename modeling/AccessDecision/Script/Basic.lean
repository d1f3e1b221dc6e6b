import AccessDecision.Attempt
import AccessDecision.Json.Canonical

/-!
# Scripts

A script describes a function of a host by an expression over its arguments.  It may
depend on how often the function was evaluated before, may fail, and may add policies
to checkers.
-/

namespace AccessDecision

/-- An expression over the arguments of a call. -/
inductive Script where
  | constant (value : Value)
  /-- A part of an argument, or null if there is none. -/
  | argument (index : Nat) (path : List String)
  | list (items : List Script)
  | equal (left right : Script)
  | member (item collection : Script)
  | negation (operand : Script)
  | all (operands : List Script)
  | any (operands : List Script)
  /-- A different expression at every evaluation; the last one stays. -/
  | stages (scripts : List Script)
  | raise (failure : Failure)
  /-- Adds a policy to a checker, both by name, before it goes on. -/
  | add (checker policy : String) (next : Script)

namespace Script

def follow (value : Value) : List String → Value
  | [] => value
  | name :: rest =>
      match value.fields? with
      | some fields => follow ((Fields.get? fields name).getD .null) rest
      | none => .null

def occurs (item collection : Value) : Bool :=
  match collection with
  | .list items => items.any item.sameText
  | _ => false

variable {α : Type}

mutual

/-- The value of a script after `count` earlier evaluations.  What is added is found by
`enlist` and noted in order. -/
def evaluate (enlist : String → String → Except Failure α) (count : Nat)
    (arguments : List Value) : Script → Attempt (List α) Value
  | .constant value => pure value
  | .argument index path => pure (follow ((arguments[index]?).getD .null) path)
  | .list items => do
      let values ← evaluateItems enlist count arguments items
      pure (.list values)
  | .equal left right => do
      let left ← left.evaluate enlist count arguments
      let right ← right.evaluate enlist count arguments
      pure (.bool (left.sameText right))
  | .member item collection => do
      let item ← item.evaluate enlist count arguments
      let collection ← collection.evaluate enlist count arguments
      pure (.bool (occurs item collection))
  | .negation operand => do
      let value ← operand.evaluate enlist count arguments
      pure (.bool (!value.truthy))
  | .all operands => do
      let answer ← search enlist count arguments false operands
      pure (.bool !answer)
  | .any operands => do
      let answer ← search enlist count arguments true operands
      pure (.bool answer)
  | .stages scripts => evaluateStage enlist count arguments count scripts
  | .raise failure => Attempt.fail failure
  | .add checker policy next => do
      let addition ← Attempt.ofExcept (enlist checker policy)
      Attempt.change (· ++ [addition])
      next.evaluate enlist count arguments

def evaluateItems (enlist : String → String → Except Failure α) (count : Nat)
    (arguments : List Value) : List Script → Attempt (List α) (List Value)
  | [] => pure []
  | item :: rest => do
      let value ← item.evaluate enlist count arguments
      let values ← evaluateItems enlist count arguments rest
      pure (value :: values)

/-- Whether some script has a value of the given truth; the first such one ends the
search. -/
def search (enlist : String → String → Except Failure α) (count : Nat)
    (arguments : List Value) (wanted : Bool) : List Script → Attempt (List α) Bool
  | [] => pure false
  | operand :: rest => do
      let value ← operand.evaluate enlist count arguments
      if value.truthy = wanted then pure true
      else search enlist count arguments wanted rest

/-- The value of the stage with the given number, or of the last one. -/
def evaluateStage (enlist : String → String → Except Failure α) (count : Nat)
    (arguments : List Value) : Nat → List Script → Attempt (List α) Value
  | _, [] => Attempt.fail .noItem
  | _, [last] => last.evaluate enlist count arguments
  | 0, stage :: _ => stage.evaluate enlist count arguments
  | number + 1, _ :: rest => evaluateStage enlist count arguments number rest

end

end Script

end AccessDecision
