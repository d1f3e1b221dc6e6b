import AccessDecision.Checker.Observation
import AccessDecision.Policy.Evaluation
import AccessDecision.Verdict

/-!
# Checkers

A checker holds policies in the order in which they were added and decides about a
request: it evaluates them one after the other, and the first one that grants access
settles the matter.  Policies that are added while it decides do not take part.  When it
comes upon another checker among its policies, it refers the request to that one.
-/

namespace AccessDecision

/-- A checker, by its settings and by the number of its roster. -/
structure Checker where
  settings : Settings
  roster : Nat

/-- What the evaluation of several policies came to. -/
structure Findings where
  results : List Result
  /-- The policy that granted access, by name, with its reason. -/
  granting : Option (Value × Value)

namespace Checker

variable {φ σ : Type}

def noPolicies : String :=
  "No policies configured"

def allDenied : String :=
  "All policies denied access"

/-- The result of a policy that is there, which the collector is told before anything
else is asked of it. -/
def takeResult (settings : Settings) (result : Option Result) : Proceeding φ σ Result := do
  let fault ← Attempt.look fun hearing => settings.collectorFault hearing.observers
  match result, fault with
  | none, some fault => Attempt.fail (.kind fault)
  | result, _ => Attempt.ofExcept (Result.present "outcome" result)

/-- Ask a policy for its result.  A checker in its place is left to decide. -/
def ask (host : Host φ σ) (settings : Settings) (request : Request) (policy : Policy φ) :
    Proceeding φ σ Result :=
  match policy with
  | .checker number => do
      let fault ← Attempt.look fun hearing => settings.checkerFault hearing.observers
      Attempt.fail (.referral ⟨number, fault⟩)
  | policy => do
      let result ← Proceeding.onStage (policy.respond host request)
      takeResult settings result

/-- Evaluate and audit policies up to the first that grants access. -/
def examine (host : Host φ σ) (settings : Settings) (request : Request) :
    List (Policy φ) → Proceeding φ σ Findings
  | [] => pure ⟨[], none⟩
  | policy :: rest => do
      let result ← ask host settings request policy
      settings.audit policy result
      if result.isGranted then pure ⟨[result], some (policy.name, result.reason)⟩
      else do
        let findings ← examine host settings request rest
        pure ⟨result :: findings.results, findings.granting⟩

def decideWithout (settings : Settings) : Proceeding φ σ Verdict := do
  Proceeding.report .noPolicies
  settings.countVerdict false
  pure (.denied (.text noPolicies) (some (.denied settings.checkerName (.text noPolicies))))

def conclude (settings : Settings) (findings : Findings) : Proceeding φ σ Verdict := do
  let trace : Trace := some (.ofChildren settings.checkerName .or findings.results)
  match findings.granting with
  | some (policy, reason) => do
      settings.countVerdict true
      pure (.granted policy reason trace)
  | none => do
      Proceeding.report (.noneGranted settings.shownName)
      if settings.logTraces.truthy then
        Proceeding.report (.denialTrace settings.shownName trace.render)
      settings.countVerdict false
      pure (.denied (.text allDenied) trace)

/-- The verdict of a checker about a request. -/
def evaluate (host : Host φ σ) (checker : Checker) (request : Request) :
    Proceeding φ σ Verdict := do
  let settings := checker.settings
  let policies ← Attempt.look fun hearing => hearing.stage.rosters checker.roster
  if policies.isEmpty then decideWithout settings
  else do
    Proceeding.report (.checking settings.shownName policies.length)
    let findings ← examine host settings request policies
    conclude settings findings

end Checker

end AccessDecision
