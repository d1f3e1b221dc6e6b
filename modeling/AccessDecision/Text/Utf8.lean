/-!
# Text in a file of octets

A file is read in blocks.  Each block is checked before any of its lines is handed
on, so an octet that no UTF-8 text can hold at its place stops the reading at the
start of its block, and a character cut off by the end of the file stops it at the
very end.  The machine below follows the octets one at a time and finds the first
one that is refused.
-/

namespace AccessDecision.Text

/-- Where the reading stands between two octets: how many continuation octets are
owed, and between which bounds the next octet must lie. -/
structure OctetState where
  owed : Nat
  low : Nat
  high : Nat
deriving DecidableEq

def OctetState.start : OctetState :=
  ⟨0, 0, 0x7f⟩

def OctetState.opening (octet : Nat) : Option OctetState :=
  if octet ≤ 0x7f then some .start
  else if 0xc2 ≤ octet ∧ octet ≤ 0xdf then some ⟨1, 0x80, 0xbf⟩
  else if octet = 0xe0 then some ⟨2, 0xa0, 0xbf⟩
  else if octet = 0xed then some ⟨2, 0x80, 0x9f⟩
  else if 0xe1 ≤ octet ∧ octet ≤ 0xef then some ⟨2, 0x80, 0xbf⟩
  else if octet = 0xf0 then some ⟨3, 0x90, 0xbf⟩
  else if 0xf1 ≤ octet ∧ octet ≤ 0xf3 then some ⟨3, 0x80, 0xbf⟩
  else if octet = 0xf4 then some ⟨3, 0x80, 0x8f⟩
  else none

/-- The state inside half a character, which only the octet after it gives away: every
one is refused. -/
def OctetState.half : OctetState :=
  ⟨1, 1, 0⟩

/-- The state after one more octet, unless it is refused. -/
def OctetState.step (state : OctetState) (octet : Nat) : Option OctetState :=
  if state.owed = 0 then OctetState.opening octet
  else if state.low ≤ octet ∧ octet ≤ state.high then
    if state.owed = 1 then some .start else some ⟨state.owed - 1, 0x80, 0xbf⟩
  else if state.high = 0x9f ∧ 0xa0 ≤ octet ∧ octet ≤ 0xbf then some .half
  else none

inductive Reading where
  /-- The octets are the text. -/
  | complete (text : String)
  /-- The reading breaks off after this text, which earlier blocks held. -/
  | broken (text : String)
deriving DecidableEq

/-- How many octets are accepted, counted from `position`. -/
def acceptedFrom (state : OctetState) (position : Nat) : List UInt8 → Nat
  | [] => position
  | octet :: rest =>
      match state.step octet.toNat with
      | none => position
      | some next => acceptedFrom next (position + 1) rest

/-- The longest beginning of some octets that ends between two characters. -/
def wholeCharacters (state : OctetState) (pending : List UInt8) :
    List UInt8 → List UInt8
  | [] => []
  | octet :: rest =>
      match state.step octet.toNat with
      | none => []
      | some next =>
          let gathered := pending ++ [octet]
          if next.owed = 0 then gathered ++ wholeCharacters next [] rest
          else wholeCharacters next gathered rest

/-- The size of the blocks in which a file is read. -/
def blockSize : Nat :=
  8192

/-- The octets that are handed on before the reading of ill-formed octets breaks
off.  A return at the very end waits for what follows it. -/
def beforeBreak (octets : List UInt8) : List UInt8 :=
  let accepted := acceptedFrom .start 0 octets
  let checked :=
    if accepted = octets.length then octets
    else octets.take (accepted / blockSize * blockSize)
  let kept := wholeCharacters .start [] checked
  if kept.getLast? = some 13 then kept.dropLast else kept

def readOctets (octets : ByteArray) : Reading :=
  match String.fromUTF8? octets with
  | some text => .complete text
  | none =>
      .broken ((String.fromUTF8? ⟨(beforeBreak octets.toList).toArray⟩).getD "")

end AccessDecision.Text
