import AccessDecision.Failure
import AccessDecision.Number.Reading
import AccessDecision.Text.LetterCase
import AccessDecision.Value.Basic

/-!
# Settings in the environment

An environment is an ordered list of named texts.  Settings stand in it under names
with a common beginning: all of them can be loaded at once, under the small form of the
rest of their names, or one can be looked up under the capital form of its key.
-/

namespace AccessDecision

/-- Named texts in order, no name twice. -/
abbrev Environment :=
  List (String × String)

namespace Environment

def ofList (entries : List (String × String)) : Environment :=
  Entries.ofList entries

def checkVariable (name value : String) : Except VariableFault Unit :=
  if name.toList.contains '\x00' || value.toList.contains '\x00' then .error .nullInText
  else if name.toList.contains '=' then .error .equalsInName
  else if name.isEmpty then .error .emptyName
  else .ok ()

def ofVariables (entries : List (String × String)) : Except Failure Environment := do
  (entries.forM fun (name, value) => checkVariable name value).mapError .variable
  .ok (ofList entries)

def standardStart : String :=
  "GATEHOUSE_"

/-- What follows a given start in a text that has it. -/
def afterStart? (start text : String) : Option String :=
  if start.toList.isPrefixOf text.toList then
    some (String.ofList (text.toList.drop start.length))
  else none

/-- All settings whose names have the given start. -/
def load (environment : Environment) (start : String) : Fields :=
  Entries.ofList (environment.filterMap fun (name, value) =>
    (afterStart? start name).map fun rest => (Text.smallLetters rest, .text value))

/-- All settings whose names have the given start, which must be a text as soon as there
is a name to compare it with. -/
def loadFrom (environment : Environment) : Value → Except Failure Fields
  | .text start => .ok (environment.load start)
  | other =>
      if environment.isEmpty then .ok [] else .error (.kind (.notStart other.kindName))

def get? (environment : Environment) (start key : String) : Option String :=
  environment.lookup (start ++ Text.capitals key)

end Environment

inductive Cast where
  | flag
  | integer
  | float
  | text
  | characters
deriving DecidableEq

namespace Cast

/-- The words that mean yes. -/
def yes : List String :=
  ["true", "1", "yes", "on"]

def isYes (text : String) : Bool :=
  yes.contains (Text.smallLetters (Text.trim text))

/-- The value of a text, unless it has none of the kind. -/
def apply (cast : Cast) (given : String) : Option Value :=
  match cast with
  | .flag => some (.bool (isYes given))
  | .integer => (Number.integer? given).map .int
  | .float => (Number.float? given).map .float
  | .text => some (.text given)
  | .characters =>
      some (.list (given.toList.map fun character => .text (String.singleton character)))

end Cast

namespace Environment

/-- The value of a setting.  A setting that is missing or has no value of the wanted
kind takes the standard value. -/
def value (environment : Environment) (start key : String) (standard : Value)
    (cast : Option Cast) : Value :=
  match environment.get? start key, cast with
  | none, _ => standard
  | some text, none => .text text
  | some text, some cast => (cast.apply text).getD standard

/-- The value of a setting whose key may be of any kind, but has a capital form only if
it is a text. -/
def valueOf (environment : Environment) (start key standard : Value)
    (cast : Option Cast) : Except Failure Value :=
  match key with
  | .text key => .ok (environment.value start.display key standard cast)
  | other => .error (.kind (.noField other.kindName "upper"))

end Environment

end AccessDecision
