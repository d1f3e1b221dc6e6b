import AccessDecision.Checker.Hearing
import AccessDecision.Settings

/-!
# Observing decisions

Every policy that a checker evaluated is counted and audited, whether it granted access
or not, and every verdict is counted once.  A sink that fails is reported and otherwise
does not matter; only a cancellation passes through.
-/

namespace AccessDecision

namespace Settings

variable {φ σ : Type}

def countVerdict (settings : Settings) (granted : Bool) : Proceeding φ σ Unit :=
  Proceeding.collect settings.metricsEnabled.truthy "record_decision"
    (·.recordVerdict settings.shownName granted none)
    (·.verdictNotices settings.shownName granted none)

def collectorFault (settings : Settings) (observers : Observers) : Option KindFault :=
  if settings.metricsEnabled.truthy then
    observers.stranger.map fun kind => .noField kind "record_policy_evaluation"
  else none

/-- The fault of counting and auditing what a checker decided as if it were a policy. -/
def checkerFault (settings : Settings) (observers : Observers) : Option KindFault :=
  let lacks := fun (use : String) => some (KindFault.noField Policy.checkerKind use)
  (settings.collectorFault observers).or
    (if settings.metricsEnabled.truthy && observers.collector.isSome then
      lacks "policy_name"
    else if settings.auditEnabled.truthy then lacks "security_metadata"
    else none)

def countPolicy (settings : Settings) (policy : Policy φ) (result : Result) :
    Proceeding φ σ Unit :=
  Proceeding.collect settings.metricsEnabled.truthy "record_policy_evaluation"
    (·.recordPolicy policy.name.display result.isGranted) (fun _ => [])

def eventOf (settings : Settings) (policy : Policy φ) (metadata : Metadata)
    (result : Result) (observers : Observers) : AuditEvent :=
  { eventId := observers.identifiers.identifier 0
    timestamp := observers.clock
    checker := settings.checkerName
    policyName := policy.name
    outcome := result.outcome
    reason := result.reason
    category := metadata.category
    ruleName := metadata.name
    rulesetName := metadata.rulesetName
    details := .object metadata.record }

/-- Hand an event to the sink and report it if that fails. -/
def deliver (event : AuditEvent) : Proceeding φ σ Unit :=
  Attempt.orElse (Proceeding.deliver event) fun failure =>
    if failure.isCancellation then Attempt.fail failure
    else Proceeding.report (.auditFailed event failure)

def writeDown (settings : Settings) (policy : Policy φ) (metadata : Metadata)
    (result : Result) : Proceeding φ σ Unit := do
  let event ← Attempt.look fun hearing =>
    settings.eventOf policy metadata result hearing.observers
  Proceeding.observe fun observers =>
    { observers with identifiers := observers.identifiers.giveOut 1 }
  Proceeding.report (.decided event)
  deliver event

/-- Count and audit the decision of a policy.  A policy without metadata cannot be
audited. -/
def audit (settings : Settings) (policy : Policy φ) (result : Result) :
    Proceeding φ σ Unit := do
  settings.countPolicy policy result
  if settings.auditEnabled.truthy then
    match policy.metadata with
    | none => Attempt.fail (.kind (.noField (Value.kindName .null) "category"))
    | some metadata => settings.writeDown policy metadata result

end Settings

end AccessDecision
