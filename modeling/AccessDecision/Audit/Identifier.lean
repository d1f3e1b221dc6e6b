import AccessDecision.Text.Numeral
import AccessDecision.Value.Basic

/-!
# Identifiers of new events

New events get identifiers of their own, in the form of random ones.  A source numbers
them; that they are none of those in use elsewhere is ensured by their length.
-/

namespace AccessDecision

/-- Where identifiers of new events come from. -/
structure IdentifierSource where
  /-- How many digits an identifier starts with. -/
  width : Nat
  /-- How many identifiers have been given out. -/
  issued : Nat

namespace IdentifierSource

/-- The characters of the identifier with a number, after those that were given out. -/
def characters (source : IdentifierSource) (number : Nat) : List Char :=
  List.replicate source.width '0' ++ "-0000-4000-8000-".toList ++
    Text.fixedDigits 16 12 (source.issued + number)

def identifier (source : IdentifierSource) (number : Nat) : Value :=
  .text (String.ofList (source.characters number))

def giveOut (source : IdentifierSource) (count : Nat) : IdentifierSource :=
  { source with issued := source.issued + count }

def textLength : Value → Nat
  | .text text => text.length
  | _ => 0

/-- A source whose identifiers are longer than those in use. -/
def avoiding (used : List Value) : IdentifierSource :=
  { width := used.foldr (fun value longest => max (textLength value) longest) 8
    issued := 0 }

end IdentifierSource

end AccessDecision
