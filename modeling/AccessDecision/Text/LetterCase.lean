import AccessDecision.Text.LetterCaseTables

/-!
# Letter case

Capital and small forms of a whole text.  A letter may have a longer form in the
other case, and a capital sigma becomes a final sigma exactly where it closes a
word: after a letter with case and not before one.
-/

namespace AccessDecision.Text

/-- The other-case form of a character under a list of runs and expansions. -/
def recase (expansions : List (Nat × List Nat)) (runs : List CaseRun)
    (character : Char) : List Char :=
  match expansions.lookup character.toNat with
  | some codes => codes.map Char.ofNat
  | none =>
      match runs.find? (·.covers character.toNat) with
      | some run => [Char.ofNat (character.toNat + run.offset).toNat]
      | none => [character]

def capitals (text : String) : String :=
  String.ofList (text.toList.flatMap (recase capitalExpansions capitalRuns))

/-- Whether the nearest character that is not ignorable has case. -/
def meetsCased (characters : List Char) : Bool :=
  match characters.dropWhile caseIgnorable.contains with
  | [] => false
  | character :: _ => casedLetters.contains character

/-- The small form of `characters`, which follow the reversed text `before`. -/
def smallAfter (before : List Char) : List Char → List Char
  | [] => []
  | character :: rest =>
      (if character = 'Σ' then
        [if meetsCased before && !meetsCased rest then 'ς' else 'σ']
      else recase smallExpansions smallRuns character) ++
        smallAfter (character :: before) rest

def smallLetters (text : String) : String :=
  String.ofList (smallAfter [] text.toList)

end AccessDecision.Text
