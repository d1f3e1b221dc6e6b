/-!
# Tallies

A tally counts how often each key was recorded.  The keys stand in the order of their
first use.
-/

namespace AccessDecision

/-- The count of every key, in the order of first use. -/
abbrev Tally (κ : Type) :=
  List (κ × Nat)

namespace Tally

variable {κ : Type} [DecidableEq κ]

def add (key : κ) : Tally κ → Tally κ
  | [] => [(key, 1)]
  | entry :: rest =>
      if entry.1 = key then (key, entry.2 + 1) :: rest else entry :: add key rest

def count (key : κ) : Tally κ → Nat
  | [] => 0
  | entry :: rest => if entry.1 = key then entry.2 else count key rest

theorem count_add (key other : κ) (tally : Tally κ) :
    count other (tally.add key) = count other tally + if key = other then 1 else 0 := by
  induction tally with
  | nil => simp [add, count]
  | cons entry rest ih =>
      by_cases here : entry.1 = key
      · subst here
        by_cases same : entry.1 = other <;> simp [add, count, same]
      · by_cases same : entry.1 = other
        · subst same
          simp [add, count, here, Ne.symm here]
        · simp [add, count, here, same, ih]

end Tally

end AccessDecision
