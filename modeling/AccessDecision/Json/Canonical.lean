import AccessDecision.Json.Writer

/-!
# The canonical text of a value

The canonical text of a value is its JSON text with the fields of every object sorted
by name.  It tells numbers of different forms apart, and truth values from numbers.
-/

namespace AccessDecision

namespace Value

mutual

def sorted : Value → Value
  | .list items => .list (sortedItems items)
  | .object fields =>
      .object ((sortedFields fields).mergeSort fun left right => decide (left.1 ≤ right.1))
  | .brokenObject fields =>
      .brokenObject
        ((sortedCodedFields fields).mergeSort fun left right => decide (left.1 ≤ right.1))
  | value => value

def sortedItems : List Value → List Value
  | [] => []
  | item :: rest => item.sorted :: sortedItems rest

def sortedFields : List (String × Value) → List (String × Value)
  | [] => []
  | (name, value) :: rest => (name, value.sorted) :: sortedFields rest

def sortedCodedFields : List (List Nat × Value) → List (List Nat × Value)
  | [] => []
  | (name, value) :: rest => (name, value.sorted) :: sortedCodedFields rest

end

/-- Whether two values have the same canonical text. -/
def sameText (left right : Value) : Bool :=
  Json.write left.sorted == Json.write right.sorted

end Value

end AccessDecision
