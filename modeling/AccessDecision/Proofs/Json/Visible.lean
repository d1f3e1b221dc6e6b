import AccessDecision.Json.Writer
import AccessDecision.Proofs.Json.Escapes

/-!
# Written values are visible

Whatever a value holds, it is written with visible characters and blanks only, so on one line.
-/

namespace AccessDecision

namespace Json

theorem isVisible_of_all {characters : List Char}
    (visible : (characters.all fun character => decide (IsVisible character)) = true) :
    ∀ character ∈ characters, IsVisible character := by
  intro character member
  exact of_decide_eq_true (List.all_eq_true.mp visible character member)

theorem isVisible_decimal (number : Nat) :
    ∀ character ∈ Text.decimal number, IsVisible character := by
  intro character member
  have digit : character.isDigit = true :=
    Nat.isDigit_of_mem_toDigits (by decide) (by decide) member
  simp only [Char.isDigit, Bool.and_eq_true, decide_eq_true_eq] at digit
  have least : 48 ≤ character.toNat := digit.1
  have most : character.toNat ≤ 57 := digit.2
  exact ⟨by omega, by omega⟩

theorem isVisible_writeInteger (value : Int) :
    ∀ character ∈ writeInteger value, IsVisible character := by
  rw [writeInteger]
  split
  · rw [List.forall_mem_cons]
    exact ⟨by decide, isVisible_decimal _⟩
  · exact isVisible_decimal _

theorem isVisible_replicate (count : Nat) :
    ∀ character ∈ List.replicate count '0', IsVisible character := by
  intro character member
  rw [List.eq_of_mem_replicate member]
  decide

theorem isVisible_positional {digits : List Char}
    (visible : ∀ character ∈ digits, IsVisible character) (point : Int) :
    ∀ character ∈ Float64.positional digits point, IsVisible character := by
  rw [Float64.positional]
  split
  · simp only [List.forall_mem_cons, List.forall_mem_append]
    exact ⟨by decide, by decide, isVisible_replicate _, visible⟩
  split
  · simp only [List.forall_mem_cons, List.forall_mem_append]
    exact ⟨⟨visible, isVisible_replicate _⟩, by decide, by decide, List.forall_mem_nil _⟩
  · rw [List.forall_mem_append, List.forall_mem_cons]
    exact ⟨fun character member => visible character (List.mem_of_mem_take member), by decide,
      fun character member => visible character (List.mem_of_mem_drop member)⟩

theorem isVisible_scientific {digits : List Char}
    (visible : ∀ character ∈ digits, IsVisible character) (exponent : Int) :
    ∀ character ∈ Float64.scientific digits exponent, IsVisible character := by
  have fraction : ∀ character ∈ (if (digits.drop 1).isEmpty then [] else '.' :: digits.drop 1),
      IsVisible character := by
    split
    · exact List.forall_mem_nil _
    · rw [List.forall_mem_cons]
      exact ⟨by decide, fun character member => visible character (List.mem_of_mem_drop member)⟩
  have sign : IsVisible (if exponent < 0 then '-' else '+') := by
    split <;> decide
  simp only [Float64.scientific, List.forall_mem_append, List.forall_mem_cons]
  exact ⟨⟨fun character member => visible character (List.mem_of_mem_take member), fraction⟩,
    by decide, sign, isVisible_replicate _, isVisible_decimal _⟩

theorem isVisible_writeFloat (value : Float64) :
    ∀ character ∈ writeFloat value, IsVisible character := by
  cases value with
  | undefined => exact isVisible_of_all rfl
  | infinite negative => cases negative <;> exact isVisible_of_all rfl
  | finite negative significand exponent =>
      have unsigned : ∀ character ∈ Float64.unsignedText significand exponent,
          IsVisible character := by
        rw [Float64.unsignedText]
        split
        · exact isVisible_of_all rfl
        dsimp only
        split
        · exact isVisible_positional (isVisible_decimal _) _
        · exact isVisible_scientific (isVisible_decimal _) _
      rw [writeFloat, Float64.text, String.toList_ofList]
      · split
        · rw [List.forall_mem_cons]
          exact ⟨by decide, unsigned⟩
        · exact unsigned
      · nofun
      · nofun

theorem isVisible_writeCodes (codes : List Nat) :
    ∀ character ∈ writeCodes codes, IsVisible character := by
  rw [writeCodes, List.forall_mem_cons, List.forall_mem_append, List.forall_mem_singleton]
  refine ⟨by decide, ?_, by decide⟩
  intro written member
  obtain ⟨code, -, isWritten⟩ := List.mem_flatMap.mp member
  split at isWritten
  · exact isVisible_unitEscape code written isWritten
  · exact isVisible_writeCharacter _ written isWritten

theorem isVisible_separated {parts : List (List Char)}
    (visible : ∀ part ∈ parts, ∀ character ∈ part, IsVisible character) :
    ∀ character ∈ separated parts, IsVisible character := by
  induction parts with
  | nil => exact List.forall_mem_nil _
  | cons first rest ih =>
      rw [List.forall_mem_cons] at visible
      cases rest with
      | nil =>
          rw [separated, List.intercalate_singleton]
          exact visible.1
      | cons next rest =>
          rw [separated, List.intercalate_cons_cons, List.forall_mem_append,
            List.forall_mem_append, ← separated]
          exact ⟨⟨visible.1, isVisible_of_all rfl⟩, ih visible.2⟩

theorem isVisible_writeField {name value : List Char}
    (visibleName : ∀ character ∈ name, IsVisible character)
    (visibleValue : ∀ character ∈ value, IsVisible character) :
    ∀ character ∈ writeField name value, IsVisible character := by
  rw [writeField, List.forall_mem_append, List.forall_mem_cons, List.forall_mem_cons]
  exact ⟨visibleName, by decide, by decide, visibleValue⟩

mutual

/-- Values are written with visible characters only. -/
theorem isVisible_write : (value : Value) → ∀ character ∈ write value, IsVisible character
  | .null => isVisible_of_all rfl
  | .bool true => isVisible_of_all rfl
  | .bool false => isVisible_of_all rfl
  | .int value => by
      rw [write]
      exact isVisible_writeInteger value
  | .float value => by
      rw [write]
      exact isVisible_writeFloat value
  | .text value => by
      rw [write]
      exact isVisible_writeText value
  | .brokenText codes => by
      rw [write]
      exact isVisible_writeCodes codes
  | .list items => by
      rw [write, List.forall_mem_cons, List.forall_mem_append, List.forall_mem_singleton]
      exact ⟨by decide, isVisible_separated (isVisible_writeItems items), by decide⟩
  | .object fields => by
      rw [write, List.forall_mem_cons, List.forall_mem_append, List.forall_mem_singleton]
      exact ⟨by decide, isVisible_separated (isVisible_writeFields fields), by decide⟩
  | .brokenObject fields => by
      rw [write, List.forall_mem_cons, List.forall_mem_append, List.forall_mem_singleton]
      exact ⟨by decide, isVisible_separated (isVisible_writeCodedFields fields), by decide⟩

theorem isVisible_writeItems :
    (items : List Value) → ∀ part ∈ writeItems items, ∀ character ∈ part, IsVisible character
  | [] => List.forall_mem_nil _
  | item :: rest => by
      rw [writeItems, List.forall_mem_cons]
      exact ⟨isVisible_write item, isVisible_writeItems rest⟩

theorem isVisible_writeFields : (fields : List (String × Value)) →
    ∀ part ∈ writeFields fields, ∀ character ∈ part, IsVisible character
  | [] => List.forall_mem_nil _
  | (name, value) :: rest => by
      rw [writeFields, List.forall_mem_cons]
      exact ⟨isVisible_writeField (isVisible_writeText name) (isVisible_write value),
        isVisible_writeFields rest⟩

theorem isVisible_writeCodedFields : (fields : List (List Nat × Value)) →
    ∀ part ∈ writeCodedFields fields, ∀ character ∈ part, IsVisible character
  | [] => List.forall_mem_nil _
  | (name, value) :: rest => by
      rw [writeCodedFields, List.forall_mem_cons]
      exact ⟨isVisible_writeField (isVisible_writeCodes name) (isVisible_write value),
        isVisible_writeCodedFields rest⟩

end

end Json

end AccessDecision
