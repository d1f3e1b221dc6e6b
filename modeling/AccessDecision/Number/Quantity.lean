/-!
# Quantities

The exact size of a number, whatever its form: a rational number, one of the two
infinities, or undefined.  Two quantities agree when they are the same number; an
undefined one agrees with nothing, not even with itself.
-/

namespace AccessDecision

inductive Quantity where
  | finite (size : Rat)
  | infinite (negative : Bool)
  | undefined
deriving DecidableEq

namespace Quantity

/-- Whether two quantities are the same number. -/
def agrees : Quantity → Quantity → Bool
  | .finite left, .finite right => decide (left = right)
  | .infinite left, .infinite right => left == right
  | _, _ => false

def atMost : Quantity → Quantity → Bool
  | .finite left, .finite right => decide (left ≤ right)
  | .infinite true, .finite _ => true
  | .finite _, .infinite false => true
  | .infinite left, .infinite right => left || !right
  | _, _ => false

/-- Whether the first quantity is less than the second by more than a margin. -/
def precedesBy (margin : Rat) : Quantity → Quantity → Bool
  | .finite left, .finite right => decide (left + margin < right)
  | .infinite true, .finite _ => true
  | .finite _, .infinite false => true
  | .infinite left, .infinite right => left && !right
  | _, _ => false

theorem eq_of_agrees {left right : Quantity} (agree : left.agrees right = true) :
    left = right := by
  cases left <;> cases right <;> simp_all [agrees]

theorem atMost_refl {size : Quantity} (defined : size ≠ .undefined) :
    size.atMost size = true := by
  cases size with
  | finite size => simp [atMost]
  | infinite negative => cases negative <;> rfl
  | undefined => exact absurd rfl defined

theorem atMost_trans {left middle right : Quantity} (first : left.atMost middle = true)
    (second : middle.atMost right = true) : left.atMost right = true := by
  cases left with
  | finite left =>
      cases middle with
      | finite middle =>
          cases right with
          | finite right =>
              simp only [atMost, decide_eq_true_eq] at *
              exact Rat.le_trans first second
          | infinite negative => cases negative <;> simp_all [atMost]
          | undefined => cases second
      | infinite negative => cases negative <;> cases right <;> simp_all [atMost]
      | undefined => cases first
  | infinite negative => cases negative <;> cases middle <;> cases right <;> simp_all [atMost]
  | undefined => cases first

/-- Of two numbers one is at most the other. -/
theorem atMost_of_not_atMost {left right : Quantity} (defined : left ≠ .undefined)
    (definedToo : right ≠ .undefined) (exceeds : left.atMost right = false) :
    right.atMost left = true := by
  cases left with
  | finite left =>
      cases right with
      | finite right =>
          simp only [atMost, decide_eq_true_eq, decide_eq_false_iff_not] at *
          exact Rat.le_of_lt (Rat.not_le.mp exceeds)
      | infinite negative => cases negative <;> simp_all [atMost]
      | undefined => exact absurd rfl definedToo
  | infinite negative => cases negative <;> cases right <;> simp_all [atMost]
  | undefined => exact absurd rfl defined

end Quantity

end AccessDecision
