import AccessDecision.Number.Float64
import AccessDecision.Text.Numeral

/-!
# The text of a floating-point number

A number is written with the fewest digits that read back as it, and of several
such decimals with the nearest.  Numbers from `1e-4` up to but excluding `1e16` are
written in positional form with at least one digit on either side of the point, all
others with an exponent of at least two digits.
-/

namespace AccessDecision

namespace Float64

/-- The integral part of `numerator / denominator * 10 ^ power`. -/
def tenfold (numerator denominator : Nat) (power : Int) : Nat :=
  let fraction := descaled 10 numerator denominator (-power)
  fraction.1 / fraction.2

/-- The power of ten of the leading digit of a positive fraction. -/
def leadingPower (numerator denominator : Nat) : Int :=
  let estimate := ((numerator.log2 : Int) - denominator.log2) * 30103 / 100000 - 1
  let reaches := fun power => 1 ≤ tenfold numerator denominator (-power)
  if reaches (estimate + 2) then estimate + 2
  else if reaches (estimate + 1) then estimate + 1
  else estimate

/-- The decimal of the given count of digits nearest to a positive fraction among
those next to it that satisfy `reads`. -/
def decimalOf (reads : Nat → Int → Bool) (numerator denominator : Nat) (top : Int)
    (count : Nat) : Option (Nat × Int) :=
  let power := top + 1 - count
  let below := tenfold numerator denominator (-power)
  match reads below power, reads (below + 1) power with
  | true, true =>
      let fraction := descaled 10 numerator denominator power
      some (roundQuotient fraction.1 fraction.2, power)
  | true, false => some (below, power)
  | false, true => some (below + 1, power)
  | false, false => none

def withoutEndZeros : Nat → Nat → Int → Nat × Int
  | 0, digits, power => (digits, power)
  | fuel + 1, digits, power =>
      if digits % 10 = 0 then withoutEndZeros fuel (digits / 10) (power + 1)
      else (digits, power)

/-- The shortest decimal `digits * 10 ^ power` that reads back as a positive
number. -/
def shortest (significand : Nat) (exponent : Int) : Nat × Int :=
  let fraction := descaled 2 significand 1 (-exponent)
  let top := leadingPower fraction.1 fraction.2
  let reads := fun digits power =>
    decide (ofDecimal false digits power = .finite false significand exponent)
  let found := (List.range 17).findSome? fun count =>
    decimalOf reads fraction.1 fraction.2 top (count + 1)
  let (digits, power) := found.getD (significand, 0)
  withoutEndZeros 17 digits power

/-- The digits of a decimal around the point that stands after `point` of them. -/
def positional (digits : List Char) (point : Int) : List Char :=
  if point ≤ 0 then
    '0' :: '.' :: (List.replicate point.natAbs '0' ++ digits)
  else if (digits.length : Int) ≤ point then
    digits ++ List.replicate (point.natAbs - digits.length) '0' ++ ['.', '0']
  else digits.take point.natAbs ++ '.' :: digits.drop point.natAbs

def scientific (digits : List Char) (exponent : Int) : List Char :=
  let fraction := digits.drop 1
  let sign := if exponent < 0 then '-' else '+'
  let size := Text.decimal exponent.natAbs
  digits.take 1 ++ (if fraction.isEmpty then [] else '.' :: fraction) ++
    'e' :: sign :: (List.replicate (2 - size.length) '0' ++ size)

def unsignedText (significand : Nat) (exponent : Int) : List Char :=
  if significand = 0 then ['0', '.', '0']
  else
    let (digits, power) := shortest significand exponent
    let characters := Text.decimal digits
    let point := characters.length + power
    if -4 < point ∧ point ≤ 16 then positional characters point
    else scientific characters (point - 1)

/-- The shortest text that reads back as the number. -/
def text : Float64 → String
  | .finite negative significand exponent =>
      let unsigned := unsignedText significand exponent
      String.ofList (if negative then '-' :: unsigned else unsigned)
  | .infinite negative => if negative then "-inf" else "inf"
  | .undefined => "nan"

/-- The text of a number with a given count of digits after the point. -/
def fixedText (places : Nat) : Float64 → String
  | .finite negative significand exponent =>
      let scale := Nat.pow 10 places
      let fraction := descaled 2 (significand * scale) 1 (-exponent)
      let rounded := roundQuotient fraction.1 fraction.2
      let whole := Text.decimal (rounded / scale)
      let unsigned := whole ++ '.' :: Text.fixedDigits 10 places (rounded % scale)
      String.ofList (if negative then '-' :: unsigned else unsigned)
  | number => number.text

end Float64

end AccessDecision
