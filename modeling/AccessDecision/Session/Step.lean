import AccessDecision.Session.Plan
import AccessDecision.Verdict

/-!
# The steps of a session

A step makes an object, changes one or asks one for something.  Objects go by their
names.
-/

namespace AccessDecision

structure EventQuery where
  policyName : Option Value
  outcome : Option Value
  startTime : Option Value
  endTime : Option Value
  /-- Identifiers that the host knows from now on. -/
  identifiers : List Value
  /-- Only the number of events and the policies of the first and the last. -/
  brief : Bool

inductive Step where
  | policy (name : String) (plan : PolicyPlan)
  | builder (name : String) (title : Value)
  | buildFurther (builder : String) (step : PolicyBuilder.Step FunctionPlan)
  | build (builder name : String)
  | resolver (name : String) (plan : ResolverPlan)
  | resolve (resolver : String) (subject resource relation : Value)
  | settings (name : String) (fields : Fields)
  | changeSetting (settings field : String) (value : Value)
  | sink (name : String) (type : Value) (capacity path : Option Value)
  | failingSink (name : String) (numbers : List Int) (error : Failure)
  | collector (name : String) (options : Fields)
  | checker (name : String) (settings sink collector : Option String)
  | addPolicy (checker : String) (plan : PolicyPlan)
  | showChecker (checker : String)
  | evaluate (target : String) (request : Request)
  | logEvents (sink : String) (events : List Value)
  | logMany (sink : String) (count : Nat) (start : String)
  | events (sink : String) (query : EventQuery)
  | appendOctets (path : String) (octets : ByteArray)
  | fileText (path : String)
  | recordPolicy (collector : String) (policy outcome : Value)
  | recordVerdict (collector : String) (checker outcome elapsed : Value)
  | export (collector : String) (timed : Bool)

def Step.mentioned : Step → List Value
  | .logEvents _ records =>
      records.filterMap fun record => record.fields?.bind (Fields.get? · "event_id")
  | .events _ query => query.identifiers
  | _ => []

inductive Answer where
  | value (value : Value)
  | policy (policy : Policy HostCode)
  | result (result : Result)
  | verdict (verdict : Verdict)

end AccessDecision
