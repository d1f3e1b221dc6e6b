import AccessDecision.Environment
import AccessDecision.Fault.Making
import AccessDecision.Text.Blank

/-!
# Settings of a checker

A checker has a name and may audit its decisions, log the traces of denials and count
what it does.  The settings are kept as they were given; only the name is examined.
-/

namespace AccessDecision

structure Settings where
  checkerName : Value
  auditEnabled : Value
  logTraces : Value
  metricsEnabled : Value

namespace Settings

def standard : Settings :=
  { checkerName := .text "PermissionChecker"
    auditEnabled := .bool true
    logTraces := .bool false
    metricsEnabled := .bool true }

def record (settings : Settings) : Fields :=
  [("checker_name", settings.checkerName), ("audit_enabled", settings.auditEnabled),
    ("log_traces", settings.logTraces), ("metrics_enabled", settings.metricsEnabled)]

def set (settings : Settings) (name : String) (value : Value) : Settings :=
  match name with
  | "checker_name" => { settings with checkerName := value }
  | "audit_enabled" => { settings with auditEnabled := value }
  | "log_traces" => { settings with logTraces := value }
  | "metrics_enabled" => { settings with metricsEnabled := value }
  | _ => settings

def ofRecord (fields : Fields) : Settings :=
  fields.foldl (fun settings field => settings.set field.1 field.2) standard

/-- The standard settings with some changed, unless one of them is no setting. -/
def ofArguments (arguments : Fields) : Except Failure Settings := do
  let known := standard.record.map (·.1)
  (checkArguments "Config" [] known arguments).mapError .kind
  .ok (ofRecord arguments)

def ofEnvironment (environment : Environment) : Settings :=
  let flag := fun key standard =>
    environment.value Environment.standardStart key standard (some .flag)
  { checkerName :=
      environment.value Environment.standardStart "checker_name" standard.checkerName none
    auditEnabled := flag "audit_enabled" standard.auditEnabled
    logTraces := flag "log_traces" standard.logTraces
    metricsEnabled := flag "metrics_enabled" standard.metricsEnabled }

def emptyName (name : Value) : Failure :=
  let given := name.present?.map fun name => ("config_value", Value.text name.display)
  .fault
    { Fault.badSettings (.text "checker_name must not be empty") with
      details := .object (("config_key", .text "checker_name") :: given.toList) }

/-- Accept settings whose name is a text that is not blank. -/
def validate (settings : Settings) : Except Failure Unit :=
  match settings.checkerName with
  | .text name =>
      if (Text.trim name).isEmpty then .error (emptyName (.text name)) else .ok ()
  | name =>
      if name.truthy then .error (.kind (.noField name.kindName "strip"))
      else .error (emptyName name)

def shownName (settings : Settings) : String :=
  settings.checkerName.display

end Settings

end AccessDecision
