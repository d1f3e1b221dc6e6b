import AccessDecision.Metrics.Exposition
import AccessDecision.Session.Building
import AccessDecision.Session.Hearing
import AccessDecision.Session.Step

/-!
# Running a session

The steps of a session are performed one after the other, also after one that failed.
A step that fails keeps no new object, but what it did on the way remains.
-/

namespace AccessDecision

namespace Work

def showChecker (number : Nat) : Work Answer :=
  find fun session => do
    let names ← (session.stage.rosters number).mapM Policy.askName
    .ok (.value (.object
      [("name", (session.settingsOf number).checkerName),
        ("len", .int names.length), ("policies", .list names)]))

def showSettings (number : Nat) : Work Answer :=
  Attempt.look fun session => .value (.object (session.settingsAt number).record)

/-- Show a policy, whose metadata must be there, and the names of the policies that it
combines. -/
def showPolicy (policy : Policy HostCode) : Work Answer := do
  let _ ← Attempt.ofExcept policy.askName
  if policy.metadata.isNone then
    Attempt.fail (.kind (.noField (Value.kindName .null) "to_dict"))
  let _ ← Attempt.ofExcept (policy.parts.mapM Policy.askName)
  pure (.policy policy)

/-- The number of a sink, for which something else can stand in. -/
def sinkNumber (name : String) : Work Nat := do
  match ← find (Session.sinkOrStranger name) with
  | .inl number => pure number
  | .inr kind => addSink (.stranger kind)

/-- The number of the settings that an entry stands for.  A checker without policies
counts as no settings at all, so the standard ones take its place. -/
def settingsNumber : Option Entry → Work Nat
  | none => addSettings .standard
  | some (.settings number) => pure number
  | some entry => do
      let empty ← Attempt.look fun session =>
        match entry with
        | .checker number => (session.stage.rosters number).isEmpty
        | _ => false
      if empty then addSettings .standard
      else find fun session =>
        .error (.kind (.noField (session.kindName entry) "validate"))

/-- Make a checker, with settings of its own unless shared ones are named. -/
def makeChecker (settings sink collector : Option String) : Work Nat := do
  let settings ← settings.mapM fun name => find (Session.find some "validate" name)
  let sink ← sink.mapM sinkNumber
  let collector ← collector.mapM fun name => find (Session.collectorOrStranger name)
  let settings ← settingsNumber settings
  let valid ← Attempt.look fun session => (session.settingsAt settings).validate
  Attempt.ofExcept valid
  addChecker
    { settings, sink, collector := collector.bind Sum.getLeft?
      stranger := collector.bind Sum.getRight? }

def logEvent (number : Nat) (event : AuditEvent) : Work Unit :=
  fun session =>
    match session.sinks[number]? with
    | none => (.ok (), session)
    | some sink =>
        let (outcome, sink, disk) := sink.log event session.disk
        (outcome, { session with sinks := session.sinks.set number sink, disk })

/-- Log events in order, up to the first that fails. -/
def logAll (number : Nat) : List AuditEvent → Work Unit
  | [] => pure ()
  | event :: rest => do
      logEvent number event
      logAll number rest

/-- Accept an identifier that can be a member of a set. -/
def checkIdentifier (identifier : Value) : Work Unit :=
  if identifier.isSetMember then pure ()
  else Attempt.fail (.kind (.unhashable identifier.kindName))

def know (identifier : Value) : Work Unit := do
  checkIdentifier identifier
  Attempt.change fun session => { session with known := identifier :: session.known }

/-- The events of a run: the decisions of numbered policies, every other one granted. -/
def numberedEvents (start : String) (count : Nat) : Work (List AuditEvent) :=
  fun session =>
    let event := fun (number : Nat) =>
      { eventId := session.identifiers.identifier number
        timestamp := session.clock, checker := .text "c"
        policyName := .text (start ++ integerText number)
        outcome := .bool (number % 2 == 0), reason := .null, category := .null
        ruleName := .null, rulesetName := .null, details := .object [] }
    (.ok ((List.range count).map event),
      { session with identifiers := session.identifiers.giveOut count })

def filterOf (query : EventQuery) : Except Failure EventFilter := do
  let first ← query.startTime.mapM AuditEvent.timestampOf
  let last ← query.endTime.mapM AuditEvent.timestampOf
  .ok { policyName := query.policyName, outcome := query.outcome
        first := first.map .fixed, last := last.map .fixed }

def selectEvents (number : Nat) (filter : EventFilter) : Work (List AuditEvent) :=
  fun session =>
    match session.sinks[number]? with
    | none => (.ok [], session)
    | some sink =>
        let (events, records) := sink.events session.machine.nesting filter session.disk
        let stage := session.stage
        (events, { session with stage := { stage with log := stage.log ++ records } })

/-- The record of an event, without its identifier and its timestamp unless the
identifier is known. -/
def shownRecord (known : List Value) (event : AuditEvent) : Fields :=
  if known.any event.eventId.partAgrees then event.record
  else event.record.filter fun field => field.1 != "event_id" && field.1 != "timestamp"

/-- The number of events, and the policies of the first and the last of them. -/
def outline (events : List AuditEvent) : Value :=
  let ends := (events.head?.toList ++ events.getLast?.toList).map (·.policyName)
  .object [("count", .int events.length), ("names", .list ends)]

/-- The answer of a sink to a query.  The identifiers of the query are known from then
on, even if the sink does not answer. -/
def answerQuery (sink : String) (query : EventQuery) : Work Answer := do
  let filter ← Attempt.ofExcept (filterOf query)
  query.identifiers.forM know
  let number ← find (Session.sinkNamed "get_events" sink)
  let events ← selectEvents number filter
  if query.brief then pure (.value (outline events))
  else do
    events.forM fun event => checkIdentifier event.eventId
    Attempt.look fun session =>
      .value (.list (events.map fun event => .object (shownRecord session.known event)))

def collect (number : Nat) (update : Collector → Collector)
    (notices : Collector → List LogRecord) : Work Unit :=
  fun session =>
    match session.collectors[number]? with
    | none => (.ok (), session)
    | some collector =>
        let stage := session.stage
        (.ok (),
          { session with
            collectors := session.collectors.set number (update collector)
            stage := { stage with log := stage.log ++ notices collector } })

/-- Record in the collector with a number how a checker decided.  What was elapsed does
not matter to a collector that is not enabled. -/
def recordVerdict (number : Nat) (checker : String) (granted : Bool) (elapsed : Value) :
    Work Unit := do
  match Collector.seconds elapsed with
  | .ok seconds =>
      collect number (·.recordVerdict checker granted (some seconds))
        (·.verdictNotices checker granted (some seconds))
  | .error failure => do
      collect number (·.recordUntimed checker granted) fun _ => []
      let enabled ← Attempt.look fun session =>
        (session.collectors[number]?).any Collector.enabled
      if enabled then Attempt.fail failure

/-- The result of a policy that is asked directly.  A policy of the host that gives none
is found out by the name that the result should have. -/
def evaluatePolicy (policy : Policy HostCode) (request : Request) : Work Result := do
  let result ← onStage fun host => policy.respond host request
  Attempt.ofExcept (Result.present "policy_name" result)

/-- Evaluate a checker or a policy for a request. -/
def evaluate (target : String) (request : Request) : Work Answer := do
  let use := "evaluate_access"
  let entry ← find (Session.find some use target)
  match entry with
  | .checker number => do
      let verdict ← settling request (hear number request)
      pure (.verdict verdict)
  | _ => do
      let policy ← find (Session.policyNamed use target)
      let result ← settling request (evaluatePolicy policy request)
      pure (.result result)

def appendOctets (path : String) (octets : ByteArray) : Work Unit :=
  fun session =>
    match session.disk.append path octets with
    | .ok disk => (.ok (), { session with disk })
    | .error fault => (.error (.file fault), session)

def fileText (path : String) : Work String :=
  find fun session =>
    match session.disk.read path with
    | .error fault => .error (.file fault)
    | .ok octets =>
        match Text.readOctets octets with
        | .complete text => .ok text
        | .broken _ => .error (.file .illFormed)

def done : Answer :=
  .value (.bool true)

def perform : Step → Work Answer
  | .policy name plan => do
      let policy ← plan.make
      let answer ← showPolicy policy
      keep name (.policy policy)
      pure answer
  | .builder name title => do
      keep name (.builder (.start title))
      pure done
  | .buildFurther name step => do
      let builder ← find (Session.builderFor step name)
      let builder ← builder.perform step
      keep name (.builder builder)
      pure done
  | .build builder name => do
      let builder ← find (Session.builderNamed "build" builder)
      let answer ← showPolicy builder.build
      keep name (.policy builder.build)
      pure answer
  | .resolver name (.stored other) => do
      let entry ← find (Session.find some "has_relationship" other)
      keep name entry
      pure done
  | .resolver name plan => do
      let resolver ← plan.make
      keep name (.resolver resolver)
      pure done
  | .resolve name subject resource relation => do
      let resolver ← find (Session.resolverNamed "has_relationship" name)
      let value ← onStage fun host =>
        resolver.hasRelationship host subject resource relation
      pure (.value value)
  | .settings name fields => do
      let settings ← Attempt.ofExcept (Settings.ofArguments fields)
      let number ← addSettings settings
      keep name (.settings number)
      showSettings number
  | .changeSetting name field value => do
      let number ← find (Session.settingsNamed "checker_name" name)
      Attempt.change fun session =>
        { session with
          settings := session.settings.modify number fun settings =>
            settings.set field value }
      showSettings number
  | .sink name type capacity path => do
      let sink ← Attempt.ofExcept (Sink.create type capacity path)
      let number ← addSink sink
      keep name (.sink number)
      pure (.value (.text sink.typeName))
  | .failingSink name numbers error => do
      let sink := Sink.failingAt numbers error
      let number ← addSink sink
      keep name (.sink number)
      pure (.value (.text sink.typeName))
  | .collector name options => do
      let collector ← Attempt.ofExcept (Collector.ofArguments options)
      collector.notices.forM report
      let number ← addCollector collector
      keep name (.collector number)
      pure done
  | .checker name settings sink collector => do
      let checker ← makeChecker settings sink collector
      keep name (.checker checker)
      showChecker checker
  | .addPolicy name plan => do
      let checker ← find (Session.checkerNamed "add_policy" name)
      let policy ← plan.make
      Attempt.change fun session =>
        { session with
          stage :=
            { session.stage with
              rosters := session.stage.rosters.add checker policy } }
      showChecker checker
  | .showChecker name => do
      let checker ← find (Session.checkerNamed "name" name)
      showChecker checker
  | .evaluate target request => evaluate target request
  | .logEvents name events => do
      let events ← Attempt.ofExcept (events.mapM AuditEvent.ofValue)
      events.forM fun event => know event.eventId
      let number ← sinkNumber name
      logAll number events
      pure (.value (.int events.length))
  | .logMany name count start => do
      let number ← sinkNumber name
      let events ← numberedEvents start count
      logAll number events
      pure (.value (.int count))
  | .events name query => answerQuery name query
  | .appendOctets path octets => do
      appendOctets path octets
      pure done
  | .fileText path => do
      let text ← fileText path
      pure (.value (.text text))
  | .recordPolicy name policy outcome => do
      let number ← find (Session.collectorNamed "record_policy_evaluation" name)
      collect number (·.recordPolicy policy.display outcome.truthy) fun _ => []
      pure (.value .null)
  | .recordVerdict name checker outcome elapsed => do
      let number ← find (Session.collectorNamed "record_decision" name)
      recordVerdict number checker.display outcome.truthy elapsed
      pure (.value .null)
  | .export name timed => do
      let number ← find (Session.collectorNamed "export" name)
      Attempt.look fun session =>
        match session.collectors[number]? with
        | some collector =>
            .value (.list ((Exposition.lines timed collector ++ [""]).map .text))
        | none => .value .null

end Work

structure StepReport where
  outcome : Except Failure Answer
  calls : List (Call HostCode)
  log : List LogRecord

namespace Session

def advance (session : Session) (step : Step) : StepReport × Session :=
  let quiet := { session with stage := { session.stage with calls := [], log := [] } }
  let (outcome, later) := Work.perform step quiet
  (⟨outcome, later.stage.calls, later.stage.log⟩, later)

def run (session : Session) : List Step → List StepReport
  | [] => []
  | step :: rest =>
      let (report, later) := session.advance step
      report :: later.run rest

/-- The reports of the steps of a new session.  Events that come up in it have
identifiers of their own, which no step mentions. -/
def reports (clock : Timestamp) (steps : List Step) : List StepReport :=
  (start clock (.avoiding (steps.flatMap Step.mentioned))).run steps

end Session

end AccessDecision
