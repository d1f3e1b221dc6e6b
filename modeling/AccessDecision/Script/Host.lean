import AccessDecision.Policy.Stage
import AccessDecision.Result.Description
import AccessDecision.Script.Basic

/-!
# Hosts made of scripts

A scripted host consists of functions, each with a script, and of policies that give
results one after the other.  Functions and policies are numbered, and the state of the
host tells how often each of them was evaluated.
-/

namespace AccessDecision

/-- What a scripted policy does when it is evaluated. -/
inductive HostReply where
  | result (description : Description)
  | raise (failure : Failure)

inductive HostCode where
  /-- A function that is not there. -/
  | absent
  /-- A function that answers after a delay in seconds. -/
  | function (number : Nat) (label : Value) (script : Script) (delay : Quantity)
  /-- A policy that gives replies in order, the last one again and again. -/
  | policy (number : Nat) (name : Value) (replies : List HostReply)

abbrev HostCounts :=
  Nat → Nat

namespace HostCounts

def none : HostCounts :=
  fun _ => 0

def increase (counts : HostCounts) (number : Nat) : HostCounts :=
  fun other => if other = number then counts other + 1 else counts other

end HostCounts

namespace HostReply

/-- The reply with a number, or the last one. -/
def atNumber : Nat → List HostReply → Option HostReply
  | _, [] => none
  | _, [last] => some last
  | 0, reply :: _ => some reply
  | number + 1, _ :: rest => atNumber number rest

def outcome : HostReply → Except Failure (Option Result)
  | .result description => description.build
  | .raise failure => .error failure

end HostReply

namespace HostCode

/-- The policies and checkers that scripts know by name. -/
abbrev Directory :=
  String → String → Except Failure (Nat × Policy HostCode)

def callFunction (directory : Directory) (code : HostCode) (arguments : List Value)
    (counts : HostCounts) : Reply HostCode HostCounts Value :=
  match code with
  | .function number _ script _ =>
      let (outcome, additions) :=
        (script.evaluate directory (counts number) arguments) []
      { outcome, state := counts.increase number, additions }
  | .absent | .policy .. =>
      { outcome := .error (.kind (.notCallable (Value.kindName .null)))
        state := counts, additions := [] }

def callPolicy (code : HostCode) (counts : HostCounts) :
    Reply HostCode HostCounts (Option Result) :=
  match code with
  | .policy number _ replies =>
      { outcome :=
          match HostReply.atNumber (counts number) replies with
          | some reply => reply.outcome
          | none => .error .noItem
        state := counts.increase number
        additions := [] }
  | .absent | .function .. =>
      { outcome := .error (.kind (.notCallable (Value.kindName .null)))
        state := counts, additions := [] }

def delay : HostCode → Quantity
  | .function _ _ _ delay => delay
  | _ => .finite 0

def host (directory : Directory) (loop : EventLoop) : Host HostCode HostCounts :=
  { delay := fun code _ _ => code.delay
    function := callFunction directory
    policy := fun code _ => callPolicy code
    loop }

/-- A call as it is shown: the name of the function with the arguments, or that of the
policy.  A function that is not there cannot be called. -/
def shownCall : Call HostCode → Option Value
  | .function (.function _ label _ _) arguments => some (.list (label :: arguments))
  | .policy (.policy _ name _) _ => some (.list [name])
  | _ => none

end HostCode

end AccessDecision
