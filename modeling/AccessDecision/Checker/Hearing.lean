import AccessDecision.Audit.Identifier
import AccessDecision.Audit.Sink
import AccessDecision.Metrics.Collector
import AccessDecision.Policy.Stage

/-!
# Hearings

A hearing is the stage on which the policies of a checker are evaluated together with
those who watch: a sink for audit events and a collector of metrics, both of which may
be absent.  Watching also takes a clock, a source of new identifiers and the files.
-/

namespace AccessDecision

/-- Those who watch the decisions of a checker, and what they need for it. -/
structure Observers where
  sink : Option Sink
  collector : Option Collector
  /-- The kind of something else that stands in for a collector. -/
  stranger : Option String
  disk : Disk
  /-- The time that new events bear. -/
  clock : Timestamp
  /-- Where the identifiers of new events come from. -/
  identifiers : IdentifierSource

/-- Everything that a checker can see and change. -/
structure Hearing (φ σ : Type) where
  stage : Stage φ σ
  observers : Observers

abbrev Proceeding (φ σ α : Type) :=
  Attempt (Hearing φ σ) α

namespace Proceeding

variable {φ σ α : Type}

def onStage (evaluation : Evaluation φ σ α) : Proceeding φ σ α :=
  Attempt.within Hearing.stage (fun stage hearing => { hearing with stage }) evaluation

def report (record : LogRecord) : Proceeding φ σ Unit :=
  onStage (Evaluation.report record)

def observe (update : Observers → Observers) : Proceeding φ σ Unit :=
  Attempt.change fun hearing => { hearing with observers := update hearing.observers }

/-- Hand an event to the sink, if there is one; what the sink answers is handed back. -/
def deliver (event : AuditEvent) : Proceeding φ σ Unit :=
  fun hearing =>
    let observers := hearing.observers
    match observers.sink with
    | none => (.ok (), hearing)
    | some sink =>
        let (outcome, sink, disk) := sink.log event observers.disk
        (outcome, { hearing with observers := { observers with sink := some sink, disk } })

/-- Tell the collector, if there is one and metrics are wanted.  Something else that
stands in for it lacks the use that is made of a collector. -/
def collect (wanted : Bool) (use : String) (update : Collector → Collector)
    (notices : Collector → List LogRecord) : Proceeding φ σ Unit :=
  fun hearing =>
    match wanted, hearing.observers.stranger, hearing.observers.collector with
    | true, some kind, _ => (.error (.kind (.noField kind use)), hearing)
    | true, none, some collector =>
        let stage := hearing.stage
        let observers := hearing.observers
        (.ok (),
          { stage := { stage with log := stage.log ++ notices collector }
            observers := { observers with collector := some (update collector) } })
    | _, _, _ => (.ok (), hearing)

end Proceeding

end AccessDecision
