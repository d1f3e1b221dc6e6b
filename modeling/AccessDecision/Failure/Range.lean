import AccessDecision.Value.Display

/-!
# Numbers out of range

Some operations accept only numbers of a limited size: a number that becomes a
floating-point one, a count, an index, or a length of time in days.
-/

namespace AccessDecision

/-- A number that is too large, or no number at all, for what is done with it. -/
inductive RangeFault where
  | beyondFloat
  /-- A capacity beyond the sizes that there are. -/
  | beyondSize
  /-- A repetition beyond the sizes that there are. -/
  | beyondIndex
  /-- A number of days beyond what can be counted at all. -/
  | beyondDays
  /-- A number of days beyond what a length of time may have. -/
  | days (count : Int)
  | infinite
  | undefined
deriving DecidableEq

namespace RangeFault

def dayLimit : Nat :=
  999999999

def message : RangeFault → String
  | .beyondFloat => "int too large to convert to float"
  | .beyondSize => "Python int too large to convert to C ssize_t"
  | .beyondIndex => "cannot fit 'int' into an index-sized integer"
  | .beyondDays => "Python int too large to convert to C int"
  | .days count =>
      "days=" ++ integerText count ++ "; must have magnitude <= " ++ integerText dayLimit
  | .infinite => "cannot convert float infinity to integer"
  | .undefined => "cannot convert float NaN to integer"

/-- Whether an integer fits into a word of the given number of bits, one of which is
its sign. -/
def fits (bits : Nat) (value : Int) : Bool :=
  decide (-Int.pow 2 (bits - 1) ≤ value) && decide (value < Int.pow 2 (bits - 1))

end RangeFault

end AccessDecision
