import AccessDecision.Value.Basic

/-!
# Agreement of values

Two values agree when they are the same data.  Numbers and truth values are compared
as exact numbers, so one, one point zero and true agree; lists agree item by item, and
objects agree when they have the same names with agreeing values, in any order.  The
undefined number does not agree with itself on its own, but it does as a part of
something larger.
-/

namespace AccessDecision

namespace Value

/-- Whether the fields of an object pass the tests for the names of another, and have no
other names.  A name that occurs twice counts by its first place. -/
def fieldsAgree {κ : Type} [BEq κ] (tests : List (κ × (Value → Bool)))
    (fields : List (κ × Value)) : Bool :=
  (fields.all fun field => (tests.lookup field.1).isSome) &&
    tests.all fun test =>
      (tests.lookup test.1).any fun accepts => (fields.lookup test.1).any accepts

mutual

def agrees : Value → Value → Bool
  | .null, .null => true
  | .text left, .text right => left == right
  | .brokenText left, .brokenText right => left == right
  | .list left, .list right => itemsAgree left right
  | .object left, .object right => fieldsAgree (fieldTests left) right
  | .brokenObject left, .brokenObject right => fieldsAgree (codedFieldTests left) right
  | left, right =>
      match left.quantity?, right.quantity? with
      | some first, some second => first.agrees second
      | _, _ => false

def itemsAgree : List Value → List Value → Bool
  | [], [] => true
  | left :: lefts, right :: rights =>
      (left.isUndefined && right.isUndefined || left.agrees right) &&
        itemsAgree lefts rights
  | _, _ => false

/-- The names of fields, each with its test for a value to agree. -/
def fieldTests : List (String × Value) → List (String × (Value → Bool))
  | [] => []
  | (name, left) :: rest =>
      (name, fun right => left.isUndefined && right.isUndefined || left.agrees right) ::
        fieldTests rest

-- Structural recursion takes one function for each type of fields.
def codedFieldTests : List (List Nat × Value) → List (List Nat × (Value → Bool))
  | [] => []
  | (name, left) :: rest =>
      (name, fun right => left.isUndefined && right.isUndefined || left.agrees right) ::
        codedFieldTests rest

end

/-- Whether two values agree as parts of something larger. -/
def partAgrees (left right : Value) : Bool :=
  left.isUndefined && right.isUndefined || left.agrees right

theorem agrees_of_quantity {left right : Value} {first second : Quantity}
    (isFirst : left.quantity? = some first) (isSecond : right.quantity? = some second) :
    left.agrees right = first.agrees second := by
  cases left <;> cases isFirst <;> cases right <;> cases isSecond <;> rw [agrees] <;>
    simp [quantity?]

theorem agrees_text (value : Value) (text : String) :
    value.agrees (.text text) = true ↔ value = .text text := by
  cases value <;> simp [agrees, quantity?]

@[simp]
theorem itemsAgree_cons (left right : Value) (lefts rights : List Value) :
    itemsAgree (left :: lefts) (right :: rights) =
      (left.partAgrees right && itemsAgree lefts rights) := by
  rw [itemsAgree, partAgrees]

end Value

end AccessDecision
