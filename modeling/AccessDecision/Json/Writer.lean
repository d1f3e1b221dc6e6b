import AccessDecision.Value.Basic
import AccessDecision.Number.Shortest
import AccessDecision.Text.Numeral

/-!
# Writing JSON

Values are written on one line in printable ASCII, with `", "` between items and `": "`
after a field name.  All other characters are written by their UTF-16 units, so one
beyond the first plane takes two escapes.
-/

namespace AccessDecision.Json

def unitEscape (unit : Nat) : List Char :=
  '\\' :: 'u' :: Text.fixedDigits 16 4 unit

/-- The escape of a character by its UTF-16 units. -/
def characterEscape (code : Nat) : List Char :=
  if code < 0x10000 then unitEscape code
  else
    unitEscape (0xd800 + (code - 0x10000) / 0x400) ++
      unitEscape (0xdc00 + (code - 0x10000) % 0x400)

def writeCharacter (character : Char) : List Char :=
  if character = '"' ∨ character = '\\' then ['\\', character]
  else if character = '\n' then ['\\', 'n']
  else if character = '\r' then ['\\', 'r']
  else if character = '\t' then ['\\', 't']
  else if character = '\x08' then ['\\', 'b']
  else if character = '\x0c' then ['\\', 'f']
  else if 0x20 ≤ character.toNat ∧ character.toNat < 0x7f then [character]
  else characterEscape character.toNat

def writeText (text : String) : List Char :=
  '"' :: (text.toList.flatMap writeCharacter ++ ['"'])

/-- A written text given by codes; half a character is a unit of its own. -/
def writeCodes (codes : List Nat) : List Char :=
  let written := codes.flatMap fun code =>
    if Text.isHalf code then unitEscape code else writeCharacter (Char.ofNat code)
  '"' :: (written ++ ['"'])

def writeInteger (value : Int) : List Char :=
  if value < 0 then '-' :: Text.decimal value.natAbs else Text.decimal value.natAbs

def writeFloat : Float64 → List Char
  | .infinite negative => (if negative then "-Infinity" else "Infinity").toList
  | .undefined => "NaN".toList
  | value => value.text.toList

def separated (parts : List (List Char)) : List Char :=
  [',', ' '].intercalate parts

def writeField (name value : List Char) : List Char :=
  name ++ ':' :: ' ' :: value

mutual

def write : Value → List Char
  | .null => "null".toList
  | .bool value => (if value then "true" else "false").toList
  | .int value => writeInteger value
  | .float value => writeFloat value
  | .text value => writeText value
  | .brokenText codes => writeCodes codes
  | .list items => '[' :: (separated (writeItems items) ++ [']'])
  | .object fields => '{' :: (separated (writeFields fields) ++ ['}'])
  | .brokenObject fields => '{' :: (separated (writeCodedFields fields) ++ ['}'])

def writeItems : List Value → List (List Char)
  | [] => []
  | item :: rest => write item :: writeItems rest

def writeFields : List (String × Value) → List (List Char)
  | [] => []
  | (name, value) :: rest => writeField (writeText name) (write value) :: writeFields rest

-- Structural recursion takes one function for each type of fields.
def writeCodedFields : List (List Nat × Value) → List (List Char)
  | [] => []
  | (name, value) :: rest => writeField (writeCodes name) (write value) :: writeCodedFields rest

end

def line (value : Value) : String :=
  String.ofList (write value)

end AccessDecision.Json
