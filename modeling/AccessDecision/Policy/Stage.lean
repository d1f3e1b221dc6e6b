import AccessDecision.Attempt
import AccessDecision.Log
import AccessDecision.Policy.Basic
import AccessDecision.Policy.EventLoop
import AccessDecision.Result.Basic

/-!
# The stage of an evaluation

Policies are evaluated against a host, whose code may answer differently each time, may
fail, and may add policies to any checker.  The stage holds the state of the host, the
policies of every checker, the calls made so far and everything that was logged.
-/

namespace AccessDecision

/-- A call of host code. -/
inductive Call (φ : Type) where
  | function (code : φ) (arguments : List Value)
  | policy (code : φ) (request : Request)

/-- What a call of host code gives, and what it leaves behind. -/
structure Reply (φ σ α : Type) where
  outcome : Except Failure α
  state : σ
  /-- Policies added to checkers, which are known by number. -/
  additions : List (Nat × Policy φ)

/-- The behaviour of host code on states of type `σ`, and the event loop that it runs on. -/
structure Host (φ σ : Type) where
  /-- How many seconds a function takes to answer. -/
  delay : φ → List Value → σ → Quantity
  function : φ → List Value → σ → Reply φ σ Value
  /-- A policy of the host may fail to give a result. -/
  policy : φ → Request → σ → Reply φ σ (Option Result)
  loop : EventLoop := .lagging 0

/-- The policies of every checker, by its number. -/
abbrev Rosters (φ : Type) :=
  Nat → List (Policy φ)

namespace Rosters

variable {φ : Type}

def add (rosters : Rosters φ) (checker : Nat) (policy : Policy φ) : Rosters φ :=
  fun other => if other = checker then rosters other ++ [policy] else rosters other

def addAll (rosters : Rosters φ) (additions : List (Nat × Policy φ)) : Rosters φ :=
  additions.foldl (fun rosters addition => rosters.add addition.1 addition.2) rosters

@[simp]
theorem add_self (rosters : Rosters φ) (checker : Nat) (policy : Policy φ) :
    rosters.add checker policy checker = rosters checker ++ [policy] := by
  simp [add]

theorem add_of_ne (rosters : Rosters φ) {checker other : Nat} (policy : Policy φ)
    (differs : other ≠ checker) :
    rosters.add checker policy other = rosters other := by
  simp [add, differs]

end Rosters

/-- Everything that evaluation can see and change. -/
structure Stage (φ σ : Type) where
  state : σ
  rosters : Rosters φ
  calls : List (Call φ)
  log : List LogRecord

/-- An evaluation that ends in a value or a failure. -/
abbrev Evaluation (φ σ α : Type) :=
  Attempt (Stage φ σ) α

namespace Evaluation

variable {φ σ α : Type}

def report (record : LogRecord) : Evaluation φ σ Unit :=
  Attempt.change fun stage => { stage with log := stage.log ++ [record] }

def noteCall (call : Call φ) : Evaluation φ σ Unit :=
  Attempt.change fun stage => { stage with calls := stage.calls ++ [call] }

def accept (reply : σ → Reply φ σ α) : Evaluation φ σ α :=
  fun stage =>
    let reply := reply stage.state
    (reply.outcome,
      { stage with
        state := reply.state
        rosters := stage.rosters.addAll reply.additions })

def callFunction (host : Host φ σ) (code : φ) (arguments : List Value) :
    Evaluation φ σ Value := do
  noteCall (.function code arguments)
  accept (host.function code arguments)

def callPolicy (host : Host φ σ) (code : φ) (request : Request) :
    Evaluation φ σ (Option Result) := do
  noteCall (.policy code request)
  accept (host.policy code request)

theorem callFunction_calls (host : Host φ σ) (code : φ) (arguments : List Value)
    (stage : Stage φ σ) :
    (callFunction host code arguments stage).2.calls =
      stage.calls ++ [.function code arguments] :=
  rfl

theorem calls_of_callFunction {host : Host φ σ} {code : φ} {arguments : List Value}
    {stage later : Stage φ σ} {outcome : Except Failure Value}
    (ends : callFunction host code arguments stage = (outcome, later)) :
    later.calls = stage.calls ++ [.function code arguments] := by
  rw [← callFunction_calls host, ends]

end Evaluation

end AccessDecision
