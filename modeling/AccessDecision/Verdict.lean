import AccessDecision.Result.Agreement
import AccessDecision.Result.Rendering

/-!
# Verdicts

A verdict is the answer to a request: access granted by a policy, or denied, together
with the trace of how it was reached.  A trace holds at most one result.
-/

namespace AccessDecision

/-- How a verdict was reached. -/
abbrev Trace :=
  Option Result

namespace Trace

def render : Trace → String
  | none => "No evaluation trace available"
  | some root => root.render 0

def literal (trace : Trace) : String :=
  "EvalTrace(root=" ++ trace.elim (Value.literal .null) Result.literal ++ ")"

def agrees : Trace → Trace → Bool
  | none, none => true
  | some left, some right => left.agrees right
  | _, _ => false

end Trace

inductive Verdict where
  | granted (policy reason : Value) (trace : Trace)
  | denied (reason : Value) (trace : Trace)

namespace Verdict

def kindName : Verdict → String
  | .granted .. => "AccessGranted"
  | .denied .. => "AccessDenied"

def isGranted : Verdict → Bool
  | .granted .. => true
  | .denied .. => false

def trace : Verdict → Trace
  | .granted _ _ trace => trace
  | .denied _ trace => trace

def reason : Verdict → Value
  | .granted _ reason _ => reason
  | .denied reason _ => reason

def summary : Verdict → String
  | .granted policy reason _ =>
      "[GRANTED] by " ++ policy.display ++ reason.displayAfter " - "
  | .denied reason _ => "[DENIED] - " ++ reason.display

def display (verdict : Verdict) : String :=
  verdict.summary ++ "\nEvaluation Trace:\n" ++ verdict.trace.render

def agrees : Verdict → Verdict → Bool
  | .granted policy reason trace, .granted policy' reason' trace' =>
      policy.partAgrees policy' && reason.partAgrees reason' && trace.agrees trace'
  | .denied reason trace, .denied reason' trace' =>
      reason.partAgrees reason' && trace.agrees trace'
  | _, _ => false

/-- Insist on access: a denial becomes the failure made from its reason. -/
def insist (verdict : Verdict) (failure : Value → Failure) : Except Failure Unit :=
  match verdict with
  | .granted .. => .ok ()
  | .denied reason _ => .error (failure reason)

end Verdict

end AccessDecision
