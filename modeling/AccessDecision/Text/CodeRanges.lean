/-!
# Sets of characters as code ranges

A property of characters is tabulated as a list of closed ranges of code points.
Membership is decided by looking through the ranges, so a table can be read as a
disjunction of comparisons.
-/

namespace AccessDecision.Text

abbrev CodeRanges :=
  List (Nat × Nat)

def CodeRanges.contains (ranges : CodeRanges) (character : Char) : Bool :=
  ranges.any fun range =>
    decide (range.1 ≤ character.toNat) && decide (character.toNat ≤ range.2)

end AccessDecision.Text
