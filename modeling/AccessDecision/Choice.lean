import AccessDecision.Failure
import AccessDecision.Text.LetterCase
import AccessDecision.Value.Agreement

/-!
# Choices

Some settings are a choice of one of a few members.  A member is chosen by its label; a
value that is no label of a member fails.
-/

namespace AccessDecision

/-- A choice of one of several labelled members. -/
structure Choice (α : Type) where
  title : String
  label : α → String
  members : List α

namespace Choice

variable {α : Type}

def ofValue (choice : Choice α) (value : Value) : Except Failure α :=
  match choice.members.find? fun member => value.agrees (.text (choice.label member)) with
  | some member => .ok member
  | none => .error (.notMember value choice.title)

/-- The name of a member, which is the capital form of its label. -/
def memberName (choice : Choice α) (member : α) : String :=
  Text.capitals (choice.label member)

end Choice

def ErrorCode.choice : Choice ErrorCode :=
  ⟨"ErrorCode", ErrorCode.label, [.invalidPolicy, .forbidden, .configuration, .internal]⟩

end AccessDecision
