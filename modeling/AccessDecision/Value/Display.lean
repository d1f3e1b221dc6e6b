import AccessDecision.Value.Basic
import AccessDecision.Number.Shortest
import AccessDecision.Text.Quoted

/-!
# Values in messages

A message shows a text as it is and every other value by its literal.  Inside a
literal, texts are quoted.  Some messages speak of a value by its kind only.
-/

namespace AccessDecision

def integerText (value : Int) : String :=
  let digits := Text.decimal value.natAbs
  String.ofList (if value < 0 then '-' :: digits else digits)

namespace Value

def kindName : Value → String
  | .null => "NoneType"
  | .bool _ => "bool"
  | .int _ => "int"
  | .float _ => "float"
  | .text _ => "str"
  | .brokenText _ => "str"
  | .list _ => "list"
  | .object _ => "dict"
  | .brokenObject _ => "dict"

def fieldLiteral (name value : String) : String :=
  name ++ ": " ++ value

mutual

def literal : Value → String
  | .null => "None"
  | .bool value => if value then "True" else "False"
  | .int value => integerText value
  | .float value => value.text
  | .text value => Text.quoted value
  | .brokenText codes => Text.quotedCodes codes
  | .list items => "[" ++ ", ".intercalate (literals items) ++ "]"
  | .object fields => "\x7b" ++ ", ".intercalate (fieldLiterals fields) ++ "\x7d"
  | .brokenObject fields => "\x7b" ++ ", ".intercalate (codedFieldLiterals fields) ++ "\x7d"

def literals : List Value → List String
  | [] => []
  | item :: rest => item.literal :: literals rest

def fieldLiterals : List (String × Value) → List String
  | [] => []
  | (name, value) :: rest =>
      fieldLiteral (Text.quoted name) value.literal :: fieldLiterals rest

-- Structural recursion takes one function for each type of fields.
def codedFieldLiterals : List (List Nat × Value) → List String
  | [] => []
  | (name, value) :: rest =>
      fieldLiteral (Text.quotedCodes name) value.literal :: codedFieldLiterals rest

end

/-- A value as a message shows it. -/
def display : Value → String
  | .text value => value
  | .brokenText codes => Text.ofCodes codes
  | value => value.literal

/-- What a message shows of a value that may be absent: nothing of null, and anything
else after a separator. -/
def displayAfter (separator : String) : Value → String
  | .null => ""
  | value => separator ++ value.display

end Value

end AccessDecision
