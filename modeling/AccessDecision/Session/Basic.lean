import AccessDecision.Checker.Evaluation
import AccessDecision.Machine
import AccessDecision.Session.Plan

/-!
# Sessions

A session keeps the objects that a host works with under names.  Settings, sinks,
collectors and checkers are shared: a checker goes on using the settings it was given
when their name comes to stand for something else, and sees every change of them.
-/

namespace AccessDecision

/-- A checker in a session: what it shares, by number. -/
structure SharedChecker where
  settings : Nat
  sink : Option Nat
  collector : Option Nat
  /-- The kind of something else that stands in for the collector. -/
  stranger : Option String

inductive Entry where
  | policy (policy : Policy HostCode)
  | builder (builder : PolicyBuilder HostCode)
  | resolver (resolver : Resolver HostCode)
  | settings (number : Nat)
  | sink (number : Nat)
  | collector (number : Nat)
  | checker (number : Nat)

structure Session where
  machine : Machine
  loop : EventLoop
  entries : List (String × Entry)
  /-- All settings that were ever made, by number; likewise sinks and collectors. -/
  settings : List Settings
  sinks : List Sink
  collectors : List Collector
  /-- All checkers by number, which is also the number of the roster. -/
  checkers : List SharedChecker
  /-- How many functions and policies of the host were made. -/
  functions : Nat
  stage : Stage HostCode HostCounts
  disk : Disk
  clock : Timestamp
  /-- Where the identifiers of new events come from. -/
  identifiers : IdentifierSource
  /-- The identifiers of events that the host knows. -/
  known : List Value

abbrev Work (α : Type) :=
  Attempt Session α

namespace Session

/-- A session without objects in an empty directory, on an ordinary machine whose event loop
comes some microseconds late. -/
def start (clock : Timestamp) (identifiers : IdentifierSource)
    (machine : Machine := .ordinary) (loop : EventLoop := .lagging (1 / 200000)) : Session :=
  { machine, loop, entries := [], settings := [], sinks := [], collectors := [], checkers := [],
    functions := 0, disk := [], clock, identifiers, known := []
    stage := { state := .none, rosters := fun _ => [], calls := [], log := [] } }

def kindName (session : Session) : Entry → String
  | .policy policy => policy.kindName
  | .builder _ => "PolicyBuilder"
  | .resolver (.host _) => "HostResolver"
  | .resolver (.timed ..) => "TimeoutRelationshipResolver"
  | .resolver (.standIn kind) => kind
  | .settings _ => "Config"
  | .sink number => (session.sinks[number]?).elim "AuditLogger" Sink.typeName
  | .collector _ => "MetricsCollector"
  | .checker _ => Policy.checkerKind

/-- The part of an entry of the wanted kind that has a name, for the use that is made of
it.  An entry of another kind does not have that use. -/
def find {α : Type} (view : Entry → Option α) (use name : String) (session : Session) :
    Except Failure α :=
  match session.entries.lookup name with
  | none => .error (.missingKey (.text name))
  | some entry =>
      match view entry with
      | some found => .ok found
      | none => .error (.kind (.noField (session.kindName entry) use))

/-- What has a name and is used as something only later on: the wanted part of it, or a
stand-in made from its kind. -/
def findLoosely {α : Type} (view : Entry → Option α) (standIn : String → α) (name : String)
    (session : Session) : Except Failure α :=
  match session.entries.lookup name with
  | none => .error (.missingKey (.text name))
  | some entry => .ok ((view entry).getD (standIn (session.kindName entry)))

def policyNamed : String → String → Session → Except Failure (Policy HostCode) :=
  find fun
    | .policy policy => some policy
    | _ => none

/-- The policy with a name, or what stands in for it. -/
def policyOrStranger : String → Session → Except Failure (Policy HostCode) :=
  findLoosely (fun
    | .policy policy => some policy
    | .checker number => some (.checker number)
    | _ => none) .standIn

def builderNamed : String → String → Session → Except Failure (PolicyBuilder HostCode) :=
  find fun
    | .builder builder => some builder
    | _ => none

/-- The builder with a name, for a step of building.  A guarded policy has an effect too,
but not one that can be set. -/
def builderFor (step : PolicyBuilder.Step FunctionPlan) (name : String)
    (session : Session) : Except Failure (PolicyBuilder HostCode) :=
  match step, session.entries.lookup name with
  | .effect _, some (.policy (.guarded ..)) =>
      .error (.kind (.notCallable Effect.choice.title))
  | step, _ => builderNamed step.name name session

def resolverNamed : String → String → Session → Except Failure (Resolver HostCode) :=
  find fun
    | .resolver resolver => some resolver
    | _ => none

def resolverOrStranger : String → Session → Except Failure (Resolver HostCode) :=
  findLoosely (fun
    | .resolver resolver => some resolver
    | _ => none) .standIn

def settingsNamed : String → String → Session → Except Failure Nat :=
  find fun
    | .settings number => some number
    | _ => none

def sinkNamed : String → String → Session → Except Failure Nat :=
  find fun
    | .sink number => some number
    | _ => none

def collectorNamed : String → String → Session → Except Failure Nat :=
  find fun
    | .collector number => some number
    | _ => none

/-- The number of the sink with a name, or the kind of what stands in for it. -/
def sinkOrStranger : String → Session → Except Failure (Nat ⊕ String) :=
  findLoosely (fun
    | .sink number => some (.inl number)
    | _ => none) .inr

def collectorOrStranger : String → Session → Except Failure (Nat ⊕ String) :=
  findLoosely (fun
    | .collector number => some (.inl number)
    | _ => none) .inr

def checkerNamed : String → String → Session → Except Failure Nat :=
  find fun
    | .checker number => some number
    | _ => none

def settingsAt (number : Nat) (session : Session) : Settings :=
  (session.settings[number]?).getD .standard

def settingsOf (checker : Nat) (session : Session) : Settings :=
  (session.checkers[checker]?).elim .standard fun checker =>
    session.settingsAt checker.settings

def directory (session : Session) : HostCode.Directory :=
  fun checker policy => do
    let checker ← checkerNamed "add_policy" checker session
    let policy ← policyOrStranger policy session
    .ok (checker, policy)

def host (session : Session) : Host HostCode HostCounts :=
  HostCode.host session.directory session.loop

end Session

namespace Work

variable {α : Type}

def find (lookUp : Session → Except Failure α) : Work α :=
  fun session => (lookUp session, session)

def keep (name : String) (entry : Entry) : Work Unit :=
  Attempt.change fun session =>
    { session with
      entries := (name, entry) :: session.entries.filter fun other => other.1 != name }

/-- Keep new settings under no name and give their number. -/
def addSettings (settings : Settings) : Work Nat :=
  fun session =>
    (.ok session.settings.length,
      { session with settings := session.settings ++ [settings] })

def addSink (sink : Sink) : Work Nat :=
  fun session =>
    (.ok session.sinks.length, { session with sinks := session.sinks ++ [sink] })

def addCollector (collector : Collector) : Work Nat :=
  fun session =>
    (.ok session.collectors.length,
      { session with collectors := session.collectors ++ [collector] })

/-- The number of a new function or policy of the host. -/
def nextFunction : Work Nat :=
  fun session => (.ok session.functions, { session with functions := session.functions + 1 })

def addChecker (checker : SharedChecker) : Work Nat :=
  fun session =>
    (.ok session.checkers.length,
      { session with checkers := session.checkers ++ [checker] })

def report (record : LogRecord) : Work Unit :=
  Attempt.change fun session =>
    { session with stage := { session.stage with log := session.stage.log ++ [record] } }

def onStage (evaluation : Host HostCode HostCounts → Evaluation HostCode HostCounts α) :
    Work α :=
  fun session =>
    Attempt.within Session.stage (fun stage session => { session with stage })
      (evaluation session.host) session

end Work

end AccessDecision
