import AccessDecision.Text.Lines
import AccessDecision.Text.Utf8

/-!
# Lines and octets of written texts

Lines that hold no line end are given back by the text that ends each of them, and a text by its
octets.
-/

namespace AccessDecision

namespace Text

theorem splitLines_cons {character : Char} (notFeed : character ≠ '\n')
    (notReturn : character ≠ '\r') (rest : List Char) :
    splitLines (character :: rest) =
      match splitLines rest with
      | ([], remainder) => ([], character :: remainder)
      | (line :: lines, remainder) => ((character :: line) :: lines, remainder) := by
  rewrite [splitLines]
  · rfl
  · exact notFeed
  · exact fun _ isReturn _ => notReturn isReturn
  · exact notReturn

theorem splitLines_line {line : List Char}
    (unbroken : ∀ character ∈ line, character ≠ '\n' ∧ character ≠ '\r') (rest : List Char) :
    splitLines (line ++ '\n' :: rest) = (line :: (splitLines rest).1, (splitLines rest).2) := by
  induction line with
  | nil => rw [List.nil_append, splitLines]
  | cons character line ih =>
      rw [List.forall_mem_cons] at unbroken
      rw [List.cons_append, splitLines_cons unbroken.1.1 unbroken.1.2, ih unbroken.2]

theorem splitLines_flatMap {lines : List (List Char)}
    (unbroken : ∀ line ∈ lines, ∀ character ∈ line, character ≠ '\n' ∧ character ≠ '\r') :
    splitLines (lines.flatMap (· ++ ['\n'])) = (lines, []) := by
  induction lines with
  | nil => rfl
  | cons line lines ih =>
      rw [List.forall_mem_cons] at unbroken
      have ended : (line :: lines).flatMap (· ++ ['\n']) =
          line ++ '\n' :: lines.flatMap (· ++ ['\n']) := by
        rw [List.flatMap_cons, List.append_assoc, List.singleton_append]
      rw [ended, splitLines_line unbroken.1, ih unbroken.2]

/-- What follows a text goes on with the unfinished line of the text. -/
theorem splitLines_append {text more line rest : List Char} {lines : List (List Char)}
    (noFeed : ∀ others, more ≠ '\n' :: others) (splits : splitLines more = (line :: lines, rest)) :
    splitLines (text ++ more) =
      ((splitLines text).1 ++ ((splitLines text).2 ++ line) :: lines, rest) := by
  fun_induction splitLines text with
  | case1 => exact splits
  | case2 others finished remainder found ih =>
      rw [List.cons_append, splitLines, ih]
      simp [found]
  | case3 others finished remainder found ih =>
      rw [List.cons_append, List.cons_append, splitLines, ih]
      simp [found]
  | case4 others notFeed finished remainder found ih =>
      rw [List.cons_append, splitLines, ih]
      · simp [found]
      · intro after same
        cases others with
        | nil => exact noFeed after same
        | cons next others =>
            rw [List.cons_append] at same
            cases same
            exact notFeed others rfl
  | case5 character others notFeed _ notReturn remainder found ih =>
      rw [List.cons_append, splitLines_cons notFeed notReturn, ih]
      simp [found]
  | case6 character others notFeed _ notReturn first finished remainder found ih =>
      rw [List.cons_append, splitLines_cons notFeed notReturn, ih]
      simp [found]

theorem linesOf_flatMap {lines : List (List Char)}
    (unbroken : ∀ line ∈ lines, ∀ character ∈ line, character ≠ '\n' ∧ character ≠ '\r') :
    linesOf (lines.flatMap (· ++ ['\n'])) = lines := by
  rw [linesOf, splitLines_flatMap unbroken]
  rfl

theorem readOctets_toUTF8 (text : String) : readOctets text.toUTF8 = .complete text := by
  have whole : String.fromUTF8? text.toUTF8 = some text := dif_pos text.isValidUTF8
  rw [readOctets, whole]

end Text

end AccessDecision
