import AccessDecision.Text.Halves
import AccessDecision.Text.Printable
import AccessDecision.Text.Numeral

/-!
# Quoted text

Quoted text stands between single quotes, or between double quotes when it holds a
single quote and no double one.  Inside, the quote in use and the backslash are
escaped by a backslash, line feed, return and tab have short escapes, and every
other character that is not printable is written by its code in two, four or eight
hexadecimal digits.
-/

namespace AccessDecision.Text

/-- The escape of a character by its code, as short as the code allows. -/
def codeEscape (code : Nat) : List Char :=
  if code < 0x100 then '\\' :: 'x' :: fixedDigits 16 2 code
  else if code < 0x10000 then '\\' :: 'u' :: fixedDigits 16 4 code
  else '\\' :: 'U' :: fixedDigits 16 8 code

def quotedCharacter (quote character : Char) : List Char :=
  if character = quote ∨ character = '\\' then ['\\', character]
  else if character = '\n' then ['\\', 'n']
  else if character = '\r' then ['\\', 'r']
  else if character = '\t' then ['\\', 't']
  else if isPrintable character then [character]
  else codeEscape character.toNat

def quoteFor (characters : List Char) : Char :=
  if '\'' ∈ characters ∧ '"' ∉ characters then '"' else '\''

def quoted (text : String) : String :=
  let quote := quoteFor text.toList
  String.ofList (quote :: (text.toList.flatMap (quotedCharacter quote) ++ [quote]))

/-- A text given by codes between quotes.  Half a character is not printable. -/
def quotedCodes (codes : List Nat) : String :=
  let quote := quoteFor ((codes.filter fun code => !isHalf code).map Char.ofNat)
  let written := codes.flatMap fun code =>
    if isHalf code then codeEscape code else quotedCharacter quote (Char.ofNat code)
  String.ofList (quote :: (written ++ [quote]))

end AccessDecision.Text
