import AccessDecision.Audit.Event

/-!
# Log records

What the library tells its host while it works.  Each record is kept by its meaning;
its source, its level and its text follow from that.
-/

namespace AccessDecision

/-- Why a line of an audit file is skipped. -/
inductive LineFault where
  | malformed
  | unusable (failure : Failure)

def LineFault.message : LineFault → String
  | .malformed => "<json error>"
  | .unusable failure => failure.message

inductive LogRecord where
  /-- A combinator is settled after some of its policies. -/
  | settled (policy : Value) (count total : Nat) (granted : Bool) (decider : Value)
  | lookupTimeout (relation seconds : Value)
  | lookupFailed (relation : Value) (failure : Failure)
  | noPolicies
  | checking (checker : String) (count : Nat)
  | noneGranted (checker : String)
  | denialTrace (checker : String) (trace : String)
  /-- A policy decided; the event says how. -/
  | decided (event : AuditEvent)
  | auditFailed (event : AuditEvent) (failure : Failure)
  | metricsDisabled
  /-- A verdict was counted; the elapsed seconds are missing if nobody measured them. -/
  | counted (checker : String) (granted : Bool) (elapsed : Option Float64)
  | skippedLine (number : Nat) (path : String) (fault : LineFault)

namespace LogRecord

/-- The part of the library that speaks. -/
def source : LogRecord → String
  | .settled .. => "gatehouse.authz.combinators"
  | .lookupTimeout .. | .lookupFailed .. => "gatehouse.authz.policies"
  | .noPolicies | .checking .. | .noneGranted .. | .denialTrace .. | .decided ..
  | .auditFailed .. => "gatehouse.authz.checker"
  | .metricsDisabled | .counted .. => "gatehouse.metrics.collector"
  | .skippedLine .. => "gatehouse.audit.logger"

def level : LogRecord → String
  | .settled .. | .noPolicies | .checking .. | .noneGranted .. | .denialTrace ..
  | .counted .. => "DEBUG"
  | .decided .. | .metricsDisabled => "INFO"
  | .lookupTimeout .. | .lookupFailed .. | .skippedLine .. => "WARNING"
  | .auditFailed .. => "ERROR"

def decisionWord (granted : Bool) : String :=
  if granted then "granted" else "denied"

def message : LogRecord → String
  | .settled policy count total granted decider =>
      policy.display ++ ": short-circuit after " ++ integerText count ++ "/" ++
        integerText total ++ " on " ++ (if granted then "grant" else "denial") ++
        " from " ++ decider.display
  | .lookupTimeout relation seconds =>
      "Relationship lookup for '" ++ relation.display ++ "' timed out after " ++
        seconds.display ++ "s"
  | .lookupFailed relation failure =>
      "Relationship lookup for '" ++ relation.display ++ "' failed: " ++ failure.message
  | .noPolicies => "No policies configured"
  | .checking checker count =>
      checker ++ ": checking access against " ++ integerText count ++ " policies"
  | .noneGranted checker => checker ++ ": no policy granted access"
  | .denialTrace checker trace => checker ++ " denial trace:\n" ++ trace
  | .decided event =>
      "Policy " ++ event.policyName.display ++ " " ++
        decisionWord event.outcome.truthy ++ " access"
  | .auditFailed event failure =>
      "Failed to write audit event for policy " ++ event.policyName.display ++ ": " ++
        failure.message
  | .metricsDisabled => "Metrics collection disabled"
  | .counted checker granted elapsed =>
      "Recorded decision: " ++ checker ++ " -> " ++ decisionWord granted ++
        elapsed.elim "" fun seconds => " in " ++ seconds.fixedText 6 ++ "s"
  | .skippedLine number path fault =>
      "Skipping malformed audit line " ++ integerText number ++ " in " ++ path ++ ": " ++
        fault.message

/-- The fields that a record carries besides its text. -/
def extra : LogRecord → Option Fields
  | .decided event =>
      some [("checker", event.checker), ("policy_name", event.policyName),
        ("category", event.category), ("outcome", event.outcome),
        ("reason", event.reason), ("security_rule", event.details)]
  | _ => none

end LogRecord

end AccessDecision
