import AccessDecision.Number.Float64
import AccessDecision.Text.Blank
import AccessDecision.Text.DecimalDigit
import AccessDecision.Text.Numeral

/-!
# Reading numbers from text

A number may be surrounded by blanks, may carry a sign, may use the digits of any
script and may group its digits by single underscores between two of them.  An
integer has at most `integerDigitLimit` digits.
-/

namespace AccessDecision.Number

open Text

def integerDigitLimit : Nat :=
  4300

/-- A character of a number in its ASCII form.  Blanks outside ASCII become spaces. -/
def asciiForm (character : Char) : Option Char :=
  if character.toNat < 0x7f then some character
  else if isBlank character then some ' '
  else (digitValue? character).map digitCharacter

/-- The blanks that may surround a number in its ASCII form. -/
def isAsciiBlank (character : Char) : Bool :=
  character == ' ' || (decide (9 ≤ character.toNat) && decide (character.toNat ≤ 13))

/-- Remove the underscores, each of which must stand between two digits.  `previous`
tells whether a digit stands directly before. -/
def ungroup (previous : Bool) : List Char → Option (List Char)
  | [] => some []
  | ['_'] => none
  | '_' :: next :: rest =>
      if previous && isAsciiDigit next then ungroup false (next :: rest) else none
  | character :: rest =>
      (ungroup (isAsciiDigit character) rest).map (character :: ·)

/-- The bare characters of a number: ASCII, trimmed and without underscores. -/
def bareForm (text : String) : Option (List Char) :=
  (text.toList.mapM asciiForm).bind fun characters =>
    ungroup false (trimWith isAsciiBlank characters)

/-- Split a leading sign off; `true` is a minus. -/
def splitSign : List Char → Bool × List Char
  | '-' :: rest => (true, rest)
  | '+' :: rest => (false, rest)
  | rest => (false, rest)

def ofDigits (digits : List Char) : Nat :=
  ofDigitValues (digits.filterMap asciiDigit?)

def signedDigits? (characters : List Char) : Option Int :=
  let (negative, digits) := splitSign characters
  if digits.isEmpty || !digits.all isAsciiDigit then none
  else if negative then some (-(ofDigits digits : Int))
  else some (ofDigits digits)

/-- Digits with an optional point and an optional exponent, as a decimal
`digits * 10 ^ exponent`. -/
def decimal? (characters : List Char) : Option (Nat × Int) :=
  let whole := characters.takeWhile isAsciiDigit
  let (fraction, rest) :=
    match characters.dropWhile isAsciiDigit with
    | '.' :: rest => (rest.takeWhile isAsciiDigit, rest.dropWhile isAsciiDigit)
    | rest => ([], rest)
  let digits := whole ++ fraction
  if digits.isEmpty then none
  else
    match rest with
    | [] => some (ofDigits digits, -(fraction.length : Int))
    | mark :: exponent =>
        if mark = 'e' ∨ mark = 'E' then
          (signedDigits? exponent).map fun power =>
            (ofDigits digits, power - fraction.length)
        else none

def integer? (text : String) : Option Int :=
  (bareForm text).bind fun characters =>
    if integerDigitLimit < (characters.filter isAsciiDigit).length then none
    else signedDigits? characters

def float? (text : String) : Option Float64 :=
  (bareForm text).bind fun characters =>
    let (negative, unsigned) := splitSign characters
    let word := String.ofList (unsigned.map Char.toLower)
    if word = "inf" ∨ word = "infinity" then some (.infinite negative)
    else if word = "nan" then some .undefined
    else (decimal? unsigned).map fun (digits, exponent) =>
      Float64.ofDecimal negative digits exponent

end AccessDecision.Number
