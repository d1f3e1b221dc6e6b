/-!
# Numerals of fixed width

Numbers written with a given count of digits, most significant first, and the
value of a run of decimal digits.  Reading what was written gives the number back
as long as it fits its width.
-/

namespace AccessDecision.Text

/-- The digit of a value below sixteen, with small letters from ten on. -/
def digitCharacter (value : Nat) : Char :=
  if value < 10 then Char.ofNat (48 + value) else Char.ofNat (87 + value)

/-- The lowest `width` digits of a number in a base, most significant first. -/
def fixedDigits (base : Nat) : Nat → Nat → List Char
  | 0, _ => []
  | width + 1, number =>
      fixedDigits base width (number / base) ++ [digitCharacter (number % base)]

def asciiDigit? (character : Char) : Option Nat :=
  if 48 ≤ character.toNat ∧ character.toNat ≤ 57 then some (character.toNat - 48) else none

def isAsciiDigit (character : Char) : Bool :=
  (asciiDigit? character).isSome

def ofDigitValues (values : List Nat) : Nat :=
  values.foldl (fun total value => 10 * total + value) 0

def decimal (number : Nat) : List Char :=
  Nat.toDigits 10 number

@[simp]
theorem fixedDigits_length (base width number : Nat) :
    (fixedDigits base width number).length = width := by
  induction width generalizing number with
  | zero => rfl
  | succ width ih => simp [fixedDigits, ih]

end AccessDecision.Text
