import AccessDecision.Entries
import AccessDecision.Number.Float64
import AccessDecision.Text.Halves

/-!
# Values

The data that requests, results and audit events carry: nothing, truth values,
numbers, texts, lists and objects.  An object is an ordered list of named fields in
which no name occurs twice; setting a field again changes it in place.  Texts and names
with half a character in them are kept by their codes.
-/

namespace AccessDecision

inductive Value where
  | null
  | bool (value : Bool)
  | int (value : Int)
  | float (value : Float64)
  | text (value : String)
  /-- A text in which half a character stands alone, by its codes. -/
  | brokenText (codes : List Nat)
  | list (items : List Value)
  | object (fields : List (String × Value))
  /-- An object with a name in which half a character stands alone; all its names are
  given by codes. -/
  | brokenObject (fields : List (List Nat × Value))

instance : Inhabited Value :=
  ⟨.null⟩

namespace Value

/-- Whether a value counts as true: zero and everything empty do not. -/
def truthy : Value → Bool
  | .null => false
  | .bool value => value
  | .int value => value != 0
  | .float (.finite _ significand _) => significand != 0
  | .float _ => true
  | .text value => !value.isEmpty
  | .brokenText _ => true
  | .list items => !items.isEmpty
  | .object fields => !fields.isEmpty
  | .brokenObject _ => true

/-- The exact size of a number; truth values count as one and zero. -/
def quantity? : Value → Option Quantity
  | .bool value => some (.finite (if value then 1 else 0))
  | .int value => some (.finite value)
  | .float value => some value.quantity
  | _ => none

def float? : Value → Option Float64
  | .bool value => some (Float64.ofRatio false value.toNat 1)
  | .int value => Float64.ofInt? value
  | .float value => some value
  | _ => none

/-- The value, unless it is null. -/
def present? : Value → Option Value
  | .null => none
  | value => some value

def ofCodes (codes : List Nat) : Value :=
  match Text.ofCodes? codes with
  | some whole => .text whole
  | none => .brokenText codes

/-- The object with some fields, whose names are given by codes. -/
def ofFields (fields : List (List Nat × Value)) : Value :=
  match fields.mapM fun field => (Text.ofCodes? field.1).map (·, field.2) with
  | some whole => .object whole
  | none => .brokenObject fields

/-- The fields of an object whose names are texts. -/
def fields? : Value → Option (List (String × Value))
  | .object fields => some fields
  | .brokenObject fields =>
      some (fields.filterMap fun field => (Text.ofCodes? field.1).map (·, field.2))
  | _ => none

/-- Whether a value is the number that agrees with no number. -/
def isUndefined : Value → Bool
  | .float .undefined => true
  | _ => false

end Value

abbrev Fields :=
  List (String × Value)

namespace Fields

def get? (fields : Fields) (name : String) : Option Value :=
  fields.lookup name

end Fields

end AccessDecision
