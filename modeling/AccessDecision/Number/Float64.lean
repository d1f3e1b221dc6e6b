import AccessDecision.Number.Quantity

/-!
# Binary floating-point numbers

Double-precision numbers as exact data: a sign, a significand of at most 53 bits and
a power of two.  Every result is the exact one rounded to the nearest representable
number, and of two equally near ones to that with an even significand.
-/

namespace AccessDecision

inductive Float64 where
  /-- The number `significand * 2 ^ exponent` with a sign. -/
  | finite (negative : Bool) (significand : Nat) (exponent : Int)
  | infinite (negative : Bool)
  | undefined
deriving DecidableEq

namespace Float64

def zero (negative : Bool) : Float64 :=
  .finite negative 0 (-1074)

def quantity : Float64 → Quantity
  | .finite negative significand exponent =>
      let size := (significand : Rat) * (2 : Rat) ^ exponent
      .finite (if negative then -size else size)
  | .infinite negative => .infinite negative
  | .undefined => .undefined

/-- A quotient rounded to the nearest natural number, a half to the even one. -/
def roundQuotient (numerator denominator : Nat) : Nat :=
  let quotient := numerator / denominator
  let doubled := 2 * (numerator % denominator)
  if doubled < denominator then quotient
  else if denominator < doubled then quotient + 1
  else quotient + quotient % 2

/-- The fraction `numerator / (denominator * base ^ power)` in natural numbers. -/
def descaled (base numerator denominator : Nat) (power : Int) : Nat × Nat :=
  if power < 0 then (numerator * base.pow power.natAbs, denominator)
  else (numerator, denominator * base.pow power.natAbs)

def ofRatio (negative : Bool) (numerator denominator : Nat) : Float64 :=
  if numerator = 0 then zero negative
  else
    let least := max ((numerator.log2 : Int) - denominator.log2 - 53) (-1074)
    let probe := descaled 2 numerator denominator least
    let exponent := if Nat.pow 2 53 ≤ probe.1 / probe.2 then least + 1 else least
    let scaled := descaled 2 numerator denominator exponent
    let rounded := roundQuotient scaled.1 scaled.2
    let significand := if rounded = Nat.pow 2 53 then Nat.pow 2 52 else rounded
    let exponent := if rounded = Nat.pow 2 53 then exponent + 1 else exponent
    if 971 < exponent then .infinite negative
    else .finite negative significand exponent

def ofRat (size : Rat) : Float64 :=
  ofRatio (decide (size < 0)) size.num.natAbs size.den

/-- The number nearest to `digits * 10 ^ exponent`.  Sizes that are certain to be
out of range are settled without computing the power. -/
def ofDecimal (negative : Bool) (digits : Nat) (exponent : Int) : Float64 :=
  let magnitude := (digits.log2 : Int) + exponent * 3
  if digits = 0 ∨ (exponent < 0 ∧ (digits.log2 : Int) + exponent * 3 < -1200) then
    zero negative
  else if 0 ≤ exponent ∧ 1100 < magnitude then .infinite negative
  else
    let fraction := descaled 10 digits 1 (-exponent)
    ofRatio negative fraction.1 fraction.2

/-- The nearest number to an integer, unless the integer is too large. -/
def ofInt? (value : Int) : Option Float64 :=
  match ofRatio (decide (value < 0)) value.natAbs 1 with
  | .infinite _ => none
  | number => some number

def add : Float64 → Float64 → Float64
  | .undefined, _ => .undefined
  | _, .undefined => .undefined
  | .infinite left, .infinite right => if left = right then .infinite left else .undefined
  | .infinite left, .finite .. => .infinite left
  | .finite .., .infinite right => .infinite right
  | .finite leftSign left leftExponent, .finite rightSign right rightExponent =>
      match (finite leftSign left leftExponent).quantity,
          (finite rightSign right rightExponent).quantity with
      | .finite first, .finite second =>
          if first + second = 0 then zero (leftSign && rightSign)
          else ofRat (first + second)
      | _, _ => .undefined

/-- The rounded product of a finite number and a natural one. -/
def scale (factor : Nat) : Float64 → Float64
  | .finite negative significand exponent =>
      let fraction := descaled 2 (significand * factor) 1 (-exponent)
      ofRatio negative fraction.1 fraction.2
  | number => number

end Float64

end AccessDecision
