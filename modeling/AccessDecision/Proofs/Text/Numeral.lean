import AccessDecision.Text.Numeral

/-!
# Reading numerals of fixed width

A number that fits its width is given back by its digits, in base ten and in base sixteen.
-/

namespace AccessDecision

namespace Text

theorem asciiDigit?_digitCharacter :
    ∀ value < 10, asciiDigit? (digitCharacter value) = some value := by
  decide

theorem isAsciiDigit_digitCharacter {value : Nat} (isDigit : value < 10) :
    isAsciiDigit (digitCharacter value) = true := by
  rw [isAsciiDigit, asciiDigit?_digitCharacter value isDigit]
  rfl

theorem isAsciiDigit_of_mem_fixedDigits {width number : Nat} {character : Char}
    (member : character ∈ fixedDigits 10 width number) : isAsciiDigit character = true := by
  induction width generalizing number with
  | zero => cases member
  | succ width ih =>
      rw [fixedDigits, List.mem_append, List.mem_singleton] at member
      rcases member with earlier | rfl
      · exact ih earlier
      · exact isAsciiDigit_digitCharacter (Nat.mod_lt number (by decide))

theorem toNat_of_isAsciiDigit {character : Char} (isDigit : isAsciiDigit character = true) :
    48 ≤ character.toNat ∧ character.toNat ≤ 57 := by
  rw [isAsciiDigit, asciiDigit?] at isDigit
  split at isDigit
  · next within => exact within
  · cases isDigit

theorem ofDigitValues_fixedDigits {width number : Nat} (fits : number < Nat.pow 10 width) :
    ofDigitValues ((fixedDigits 10 width number).filterMap asciiDigit?) = number := by
  induction width generalizing number with
  | zero =>
      have isZero : number = 0 := Nat.lt_one_iff.mp fits
      subst isZero
      rfl
  | succ width ih =>
      have last := asciiDigit?_digitCharacter (number % 10) (Nat.mod_lt number (by decide))
      have shorter : number / 10 < Nat.pow 10 width := by
        have power : Nat.pow 10 (width + 1) = Nat.pow 10 width * 10 := rfl
        omega
      have higher := ih shorter
      simp only [ofDigitValues] at higher ⊢
      rw [fixedDigits, List.filterMap_append, List.foldl_append, higher]
      simp only [List.filterMap_cons, List.filterMap_nil, last, List.foldl_cons, List.foldl_nil]
      omega

theorem foldl_digits (total : Nat) (values : List Nat) :
    values.foldl (fun total value => 10 * total + value) total =
      total * Nat.pow 10 values.length + ofDigitValues values := by
  rw [ofDigitValues]
  induction values generalizing total with
  | nil => simp
  | cons value values ih =>
      have power : Nat.pow 10 (values.length + 1) = Nat.pow 10 values.length * 10 := rfl
      rw [List.foldl_cons, List.foldl_cons, ih, ih (10 * 0 + value), List.length_cons, power,
        ← Nat.add_assoc]
      grind

theorem ofDigitValues_append (first second : List Nat) :
    ofDigitValues (first ++ second) =
      ofDigitValues first * Nat.pow 10 second.length + ofDigitValues second := by
  rw [ofDigitValues, List.foldl_append, foldl_digits]
  rfl

theorem ofDigitValues_lt {values : List Nat} (digits : ∀ value ∈ values, value < 10) :
    ofDigitValues values < Nat.pow 10 values.length := by
  induction values with
  | nil => exact Nat.one_pos
  | cons value values ih =>
      rw [List.forall_mem_cons] at digits
      have later := ih digits.2
      have single : ofDigitValues [value] = value := by simp [ofDigitValues]
      have power : Nat.pow 10 (values.length + 1) = Nat.pow 10 values.length * 10 := rfl
      rw [← List.singleton_append, ofDigitValues_append, single, List.length_append,
        List.length_singleton, Nat.add_comm 1, power]
      have room : value * Nat.pow 10 values.length ≤ 9 * Nat.pow 10 values.length :=
        Nat.mul_le_mul_right _ (by omega)
      omega

theorem length_digitValues {characters : List Char}
    (areDigits : characters.all isAsciiDigit = true) :
    (characters.filterMap asciiDigit?).length = characters.length := by
  induction characters with
  | nil => rfl
  | cons character rest ih =>
      rw [List.all_cons, Bool.and_eq_true] at areDigits
      obtain ⟨value, isValue⟩ := Option.isSome_iff_exists.mp areDigits.1
      rw [List.filterMap_cons, isValue, List.length_cons, List.length_cons, ih areDigits.2]

theorem digitValues_lt (characters : List Char) :
    ∀ value ∈ characters.filterMap asciiDigit?, value < 10 := by
  intro value member
  obtain ⟨character, -, isValue⟩ := List.mem_filterMap.mp member
  rw [asciiDigit?] at isValue
  split at isValue
  · cases isValue
    omega
  · cases isValue

end Text

end AccessDecision
