import AccessDecision.Value.Basic
import AccessDecision.Number.Reading

/-!
# Reading JSON

A text holds one value between optional blanks.  Besides the standard grammar the
reader knows the three numbers without digits, `NaN`, `Infinity` and `-Infinity`; a
number with a fraction or an exponent is a floating-point one.  Of two fields with
the same name the later value counts.  Lists and objects can be nested only so deep.
-/

namespace AccessDecision.Json

open Number

/-- Why a text holds no value. -/
inductive ReadFault where
  | malformed
  /-- An integer with more digits than are accepted. -/
  | longInteger (digits : Nat)
  /-- A list is nested too deep. -/
  | deepList
  /-- An object is nested too deep. -/
  | deepObject
deriving DecidableEq

/-- The outcome of reading something from the front of a text. -/
abbrev Read (α : Type) :=
  Except ReadFault (α × List Char)

def isSpace (character : Char) : Bool :=
  character == ' ' || character == '\n' || character == '\r' || character == '\t'

def skipSpaces (characters : List Char) : List Char :=
  characters.dropWhile isSpace

def hexDigit? (character : Char) : Option Nat :=
  let code := character.toNat
  if 48 ≤ code ∧ code ≤ 57 then some (code - 48)
  else if 97 ≤ code ∧ code ≤ 102 then some (code - 87)
  else if 65 ≤ code ∧ code ≤ 70 then some (code - 55)
  else none

/-- The character after a backslash that is not a code escape. -/
def shortEscape? : Char → Option Nat
  | '"' => some 34
  | '\\' => some 92
  | '/' => some 47
  | 'b' => some 8
  | 'f' => some 12
  | 'n' => some 10
  | 'r' => some 13
  | 't' => some 9
  | _ => none

/-- The codes and UTF-16 units of a text up to its closing quote. -/
def readUnits : List Char → Read (List Nat)
  | [] => .error .malformed
  | '"' :: rest => .ok ([], rest)
  | '\\' :: 'u' :: first :: second :: third :: fourth :: rest =>
      match hexDigit? first, hexDigit? second, hexDigit? third, hexDigit? fourth with
      | some a, some b, some c, some d =>
          match readUnits rest with
          | .ok (units, after) => .ok ((((a * 16 + b) * 16 + c) * 16 + d) :: units, after)
          | .error fault => .error fault
      | _, _, _, _ => .error .malformed
  | '\\' :: escape :: rest =>
      match shortEscape? escape with
      | some code =>
          match readUnits rest with
          | .ok (units, after) => .ok (code :: units, after)
          | .error fault => .error fault
      | none => .error .malformed
  | character :: rest =>
      if character.toNat < 0x20 ∨ character = '\\' then .error .malformed
      else
        match readUnits rest with
        | .ok (units, after) => .ok (character.toNat :: units, after)
        | .error fault => .error fault

def readCodes (characters : List Char) : Read (List Nat) :=
  match readUnits characters with
  | .ok (units, rest) => .ok (Text.joinHalves units, rest)
  | .error fault => .error fault

/-- The exponent at the front of a text, if there is a complete one. -/
def splitExponent : List Char → Option (Int × List Char)
  | mark :: rest =>
      if mark = 'e' ∨ mark = 'E' then
        let (negative, unsigned) := splitSign rest
        let digits := unsigned.takeWhile Text.isAsciiDigit
        let size : Int := ofDigits digits
        if digits.isEmpty then none
        else some (if negative then -size else size, unsigned.dropWhile Text.isAsciiDigit)
      else none
  | [] => none

/-- The digits of a fraction at the front of a text, if there is a complete one. -/
def splitFraction : List Char → Option (List Char × List Char)
  | '.' :: rest =>
      let digits := rest.takeWhile Text.isAsciiDigit
      if digits.isEmpty then none else some (digits, rest.dropWhile Text.isAsciiDigit)
  | _ => none

/-- The integral digits at the front of a text: a zero, or digits from another one. -/
def splitWhole : List Char → Option (List Char × List Char)
  | '0' :: rest => some (['0'], rest)
  | characters =>
      let digits := characters.takeWhile Text.isAsciiDigit
      if digits.isEmpty then none else some (digits, characters.dropWhile Text.isAsciiDigit)

def readUnsigned (negative : Bool) (characters : List Char) : Read Value :=
  match splitWhole characters with
  | none => .error .malformed
  | some (whole, rest) =>
      let (fraction, rest') := (splitFraction rest).getD ([], rest)
      match splitExponent rest' with
      | some (exponent, after) =>
          .ok (.float (.ofDecimal negative (ofDigits (whole ++ fraction))
            (exponent - fraction.length)), after)
      | none =>
          if fraction.isEmpty then
            if integerDigitLimit < whole.length then .error (.longInteger whole.length)
            else
              let size : Int := ofDigits whole
              .ok (.int (if negative then -size else size), rest')
          else
            .ok (.float (.ofDecimal negative (ofDigits (whole ++ fraction))
              (-(fraction.length : Int))), rest')

/-- A value that is neither text, list nor object. -/
def readAtom : List Char → Read Value
  | 'n' :: 'u' :: 'l' :: 'l' :: rest => .ok (.null, rest)
  | 't' :: 'r' :: 'u' :: 'e' :: rest => .ok (.bool true, rest)
  | 'f' :: 'a' :: 'l' :: 's' :: 'e' :: rest => .ok (.bool false, rest)
  | 'N' :: 'a' :: 'N' :: rest => .ok (.float .undefined, rest)
  | 'I' :: 'n' :: 'f' :: 'i' :: 'n' :: 'i' :: 't' :: 'y' :: rest =>
      .ok (.float (.infinite false), rest)
  | '-' :: 'I' :: 'n' :: 'f' :: 'i' :: 'n' :: 'i' :: 't' :: 'y' :: rest =>
      .ok (.float (.infinite true), rest)
  | '-' :: rest => readUnsigned true rest
  | characters => readUnsigned false characters

mutual

/-- The value at the front of a text, with room for lists and objects nested in one
another.  Every nesting takes two steps and uses up a character, so twice the length of
the text bounds the steps, and one that is too deep is met before them. -/
def readValue : Nat → Nat → List Char → Read Value
  | 0, _, _ => .error .malformed
  | _ + 1, _, '"' :: rest =>
      match readCodes rest with
      | .ok (codes, after) => .ok (.ofCodes codes, after)
      | .error fault => .error fault
  | _ + 1, 0, '[' :: _ => .error .deepList
  | _ + 1, 0, '{' :: _ => .error .deepObject
  | depth + 1, room + 1, '[' :: rest =>
      match skipSpaces rest with
      | ']' :: after => .ok (.list [], after)
      | items =>
          match readItems depth room items with
          | .ok (values, after) => .ok (.list values, after)
          | .error fault => .error fault
  | depth + 1, room + 1, '{' :: rest =>
      match skipSpaces rest with
      | '}' :: after => .ok (.object [], after)
      | fields =>
          match readFields depth room fields with
          | .ok (entries, after) => .ok (.ofFields (Entries.ofList entries), after)
          | .error fault => .error fault
  | _ + 1, _, characters => readAtom characters

def readItems : Nat → Nat → List Char → Read (List Value)
  | 0, _, _ => .error .malformed
  | depth + 1, room, characters =>
      match readValue depth room characters with
      | .error fault => .error fault
      | .ok (value, rest) =>
          match skipSpaces rest with
          | ']' :: after => .ok ([value], after)
          | ',' :: more =>
              match readItems depth room (skipSpaces more) with
              | .ok (values, after) => .ok (value :: values, after)
              | .error fault => .error fault
          | _ => .error .malformed

/-- The fields of an object up to its end, as they are given, with the codes of their
names. -/
def readFields : Nat → Nat → List Char → Read (List (List Nat × Value))
  | depth + 1, room, '"' :: characters =>
      match readCodes characters with
      | .error fault => .error fault
      | .ok (name, rest) =>
          match skipSpaces rest with
          | ':' :: rest =>
              match readValue depth room (skipSpaces rest) with
              | .error fault => .error fault
              | .ok (value, rest) =>
                  let entry := (name, value)
                  match skipSpaces rest with
                  | '}' :: after => .ok ([entry], after)
                  | ',' :: more =>
                      match readFields depth room (skipSpaces more) with
                      | .ok (entries, after) => .ok (entry :: entries, after)
                      | .error fault => .error fault
                  | _ => .error .malformed
          | _ => .error .malformed
  | _, _, _ => .error .malformed

end

/-- The value that a text holds, with lists and objects nested up to a limit. -/
def readWithin (limit : Nat) (characters : List Char) : Except ReadFault Value :=
  match readValue (2 * characters.length + 1) limit (skipSpaces characters) with
  | .error fault => .error fault
  | .ok (value, rest) =>
      if (skipSpaces rest).isEmpty then .ok value else .error .malformed

end AccessDecision.Json
