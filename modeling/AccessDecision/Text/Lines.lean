/-!
# Lines of a text

A line ends at a line feed, at a return, or at a return directly followed by a
line feed.  Whatever stands after the last end is a remainder, which is a line of
its own only if it is not empty.
-/

namespace AccessDecision.Text

/-- The finished lines of a text and the remainder after the last line end. -/
def splitLines : List Char → List (List Char) × List Char
  | [] => ([], [])
  | '\n' :: rest =>
      let (lines, remainder) := splitLines rest
      ([] :: lines, remainder)
  | '\r' :: '\n' :: rest =>
      let (lines, remainder) := splitLines rest
      ([] :: lines, remainder)
  | '\r' :: rest =>
      let (lines, remainder) := splitLines rest
      ([] :: lines, remainder)
  | character :: rest =>
      match splitLines rest with
      | ([], remainder) => ([], character :: remainder)
      | (line :: lines, remainder) => ((character :: line) :: lines, remainder)

/-- The lines of a text, the remainder included. -/
def linesOf (characters : List Char) : List (List Char) :=
  let (lines, remainder) := splitLines characters
  if remainder.isEmpty then lines else lines ++ [remainder]

end AccessDecision.Text
