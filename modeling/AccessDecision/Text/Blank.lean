import AccessDecision.Text.CodeRanges

/-!
# Blank characters

Blanks are the spaces, line ends and separators of every script.  Trimming takes
them off both ends of a text and leaves the inside alone.
-/

namespace AccessDecision.Text

/-- The code points that count as blank. -/
def blanks : CodeRanges :=
  [(0x9, 0xd), (0x1c, 0x20), (0x85, 0x85), (0xa0, 0xa0), (0x1680, 0x1680),
    (0x2000, 0x200a), (0x2028, 0x2029), (0x202f, 0x202f), (0x205f, 0x205f),
    (0x3000, 0x3000)]

def isBlank (character : Char) : Bool :=
  blanks.contains character

def trimWith (drop : Char → Bool) (characters : List Char) : List Char :=
  ((characters.dropWhile drop).reverse.dropWhile drop).reverse

def trim (text : String) : String :=
  String.ofList (trimWith isBlank text.toList)

end AccessDecision.Text
