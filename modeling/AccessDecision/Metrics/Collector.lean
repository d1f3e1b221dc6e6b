import AccessDecision.Fault.Making
import AccessDecision.Log
import AccessDecision.Metrics.Tally

/-!
# Collecting metrics

A collector counts the decisions of checkers and of single policies and keeps how long
each decision of a checker took.  A collector that is not enabled records nothing.
-/

namespace AccessDecision

/-- A name together with a decision. -/
structure Decision where
  name : String
  granted : Bool
deriving DecidableEq

namespace Decision

def word (decision : Decision) : String :=
  LogRecord.decisionWord decision.granted

end Decision

/-- What was recorded about decisions. -/
structure Collector where
  enabled : Bool
  /-- The beginning of the name of every metric. -/
  start : String
  verdicts : Tally Decision
  evaluations : Tally Decision
  /-- For each checker the seconds that its decisions took; nothing stands for those
  that nobody measured. -/
  latencies : List (String × List (Option Float64))

namespace Collector

def standardStart : String :=
  "gatehouse"

def create (enabled : Bool) (start : String) : Collector :=
  { enabled, start, verdicts := [], evaluations := [], latencies := [] }

/-- The collector that has recorded nothing and that some arguments describe.  The
beginning of the names is shown as a message would show it. -/
def ofArguments (arguments : Fields) : Except Failure Collector := do
  (checkArguments "MetricConfig" [] ["enabled", "namespace"] arguments).mapError .kind
  let enabled := (arguments.get? "enabled").getD (.bool true)
  let start := (arguments.get? "namespace").getD (.text standardStart)
  .ok (create enabled.truthy start.display)

def notices (collector : Collector) : List LogRecord :=
  if collector.enabled then [] else [.metricsDisabled]

def addLatency (checker : String) (elapsed : Option Float64) :
    List (String × List (Option Float64)) → List (String × List (Option Float64))
  | [] => [(checker, [elapsed])]
  | entry :: rest =>
      if entry.1 = checker then (checker, entry.2 ++ [elapsed]) :: rest
      else entry :: addLatency checker elapsed rest

def recordPolicy (collector : Collector) (policy : String) (granted : Bool) : Collector :=
  if collector.enabled then
    { collector with evaluations := collector.evaluations.add ⟨policy, granted⟩ }
  else collector

def seconds (elapsed : Value) : Except Failure Float64 :=
  match elapsed.quantity?, elapsed.float? with
  | none, _ => .error (.kind (.notSummand elapsed.kindName))
  | some _, none => .error (.range .beyondFloat)
  | some _, some seconds => .ok seconds

/-- Make room for the latencies of a checker. -/
def openLatencies (checker : String) :
    List (String × List (Option Float64)) → List (String × List (Option Float64))
  | [] => [(checker, [])]
  | entry :: rest =>
      if entry.1 = checker then entry :: rest else entry :: openLatencies checker rest

/-- Record how a checker decided when it turns out that how long that took cannot be
recorded. -/
def recordUntimed (collector : Collector) (checker : String) (granted : Bool) : Collector :=
  if collector.enabled then
    { collector with
      verdicts := collector.verdicts.add ⟨checker, granted⟩
      latencies := openLatencies checker collector.latencies }
  else collector

/-- Record how a checker decided and how long that took. -/
def recordVerdict (collector : Collector) (checker : String) (granted : Bool)
    (elapsed : Option Float64) : Collector :=
  if collector.enabled then
    { collector with
      verdicts := collector.verdicts.add ⟨checker, granted⟩
      latencies := addLatency checker elapsed collector.latencies }
  else collector

def verdictNotices (collector : Collector) (checker : String) (granted : Bool)
    (elapsed : Option Float64) : List LogRecord :=
  if collector.enabled then [.counted checker granted elapsed] else []

/-- Whether a latency is counted.  Only the undefined number is not, since it stays
within no bound. -/
def isCounted : Option Float64 → Bool
  | some .undefined => false
  | _ => true

/-- How many decisions of a checker were timed or could have been. -/
def latencyCount (collector : Collector) (checker : String) : Nat :=
  ((collector.latencies.lookup checker).getD []).countP isCounted

end Collector

end AccessDecision
