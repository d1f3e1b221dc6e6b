/-!
# Halves of characters

UTF-16 writes a character beyond the first plane by two halves.  Where a text is given
by codes, two halves that belong together are joined.  A half on its own is no
character, so a text that holds one can be kept by its codes only.
-/

namespace AccessDecision.Text

/-- Whether a code is the first half of a character. -/
def isFirstHalf (code : Nat) : Bool :=
  decide (0xd800 ≤ code) && decide (code ≤ 0xdbff)

def isSecondHalf (code : Nat) : Bool :=
  decide (0xdc00 ≤ code) && decide (code ≤ 0xdfff)

def isHalf (code : Nat) : Bool :=
  isFirstHalf code || isSecondHalf code

def joinHalves : List Nat → List Nat
  | first :: second :: rest =>
      if isFirstHalf first && isSecondHalf second then
        (0x10000 + (first - 0xd800) * 0x400 + (second - 0xdc00)) :: joinHalves rest
      else first :: joinHalves (second :: rest)
  | codes => codes

/-- The text of some codes, unless there is a half among them. -/
def ofCodes? (codes : List Nat) : Option String :=
  if codes.any isHalf then none else some (String.ofList (codes.map Char.ofNat))

/-- The text of some codes, with the replacement character for every half. -/
def ofCodes (codes : List Nat) : String :=
  String.ofList (codes.map fun code => if isHalf code then '\ufffd' else Char.ofNat code)

end AccessDecision.Text
