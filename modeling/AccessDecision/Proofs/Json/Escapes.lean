import AccessDecision.Json.Reader
import AccessDecision.Json.Writer
import AccessDecision.Proofs.Text.Codes

/-!
# Reading written texts

A character is written by itself, by a short escape or by the escapes of its UTF-16 units.  The
reader gives back the units, and joining the halves among them gives back the codes.
-/

namespace AccessDecision

namespace Json

def unitsOf (code : Nat) : List Nat :=
  if code < 0x10000 then [code]
  else [0xd800 + (code - 0x10000) / 0x400, 0xdc00 + (code - 0x10000) % 0x400]

theorem hexDigit?_digitCharacter :
    ∀ value < 16, hexDigit? (Text.digitCharacter value) = some value := by
  decide

theorem readUnits_unitEscape {unit : Nat} (fits : unit < 0x10000) {rest after : List Char}
    {units : List Nat} (reads : readUnits rest = .ok (units, after)) :
    readUnits (unitEscape unit ++ rest) = .ok (unit :: units, after) := by
  have digit (value : Nat) := hexDigit?_digitCharacter (value % 16) (Nat.mod_lt _ (by decide))
  have joined : ((unit / 16 / 16 / 16 % 16 * 16 + unit / 16 / 16 % 16) * 16 + unit / 16 % 16) * 16 +
      unit % 16 = unit := by
    omega
  simp only [unitEscape, Text.fixedDigits, List.nil_append, List.cons_append, readUnits, digit,
    reads, joined]

theorem readUnits_characterEscape {code : Nat} (fits : code < 0x110000)
    {rest after : List Char} {units : List Nat} (reads : readUnits rest = .ok (units, after)) :
    readUnits (characterEscape code ++ rest) = .ok (unitsOf code ++ units, after) := by
  rw [characterEscape, unitsOf]
  by_cases short : code < 0x10000
  · rw [if_pos short, if_pos short]
    exact readUnits_unitEscape short reads
  · -- The second escape is read before the first one is put in front of it.
    rw [if_neg short, if_neg short, List.append_assoc]
    have second := readUnits_unitEscape
      (show 0xdc00 + (code - 0x10000) % 0x400 < 0x10000 by omega) reads
    exact readUnits_unitEscape (by omega) second

theorem readUnits_shortEscape {escape : Char} {code : Nat} (isShort : shortEscape? escape = some code)
    {rest after : List Char} {units : List Nat} (reads : readUnits rest = .ok (units, after)) :
    readUnits ('\\' :: escape :: rest) = .ok (code :: units, after) := by
  have notUnit : escape ≠ 'u' := by
    rintro rfl
    cases isShort
  rw [readUnits]
  · rw [isShort, reads]
  · exact fun _ _ _ _ _ isUnit _ => notUnit isUnit

theorem readUnits_plain {character : Char} (notQuote : character ≠ '"')
    (notSlash : character ≠ '\\') (visible : 0x20 ≤ character.toNat) {rest after : List Char}
    {units : List Nat} (reads : readUnits rest = .ok (units, after)) :
    readUnits (character :: rest) = .ok (character.toNat :: units, after) := by
  rw [readUnits]
  · rw [if_neg, reads]
    rintro (low | slash)
    · omega
    · exact notSlash slash
  · exact notQuote
  · exact fun _ _ _ _ _ isSlash _ => notSlash isSlash
  · exact fun _ _ isSlash _ => notSlash isSlash

theorem unitsOf_of_lt {code : Nat} (short : code < 0x10000) : unitsOf code = [code] := by
  rw [unitsOf, if_pos short]

theorem readUnits_writeCharacter (character : Char) {rest after : List Char} {units : List Nat}
    (reads : readUnits rest = .ok (units, after)) :
    readUnits (writeCharacter character ++ rest) =
      .ok (unitsOf character.toNat ++ units, after) := by
  have escaped {escape : Char} (code : Nat) (isShort : shortEscape? escape = some code)
      (isCode : character.toNat = code) (short : code < 0x10000) :
      readUnits (['\\', escape] ++ rest) = .ok (unitsOf character.toNat ++ units, after) := by
    rw [isCode, unitsOf_of_lt short]
    exact readUnits_shortEscape isShort reads
  rw [writeCharacter]
  split
  · next special =>
      rcases special with rfl | rfl
      · exact escaped 34 rfl rfl (by decide)
      · exact escaped 92 rfl rfl (by decide)
  next ordinary =>
    rw [not_or] at ordinary
    split
    · next isFeed => exact escaped 10 rfl (by rw [isFeed]; rfl) (by decide)
    split
    · next isReturn => exact escaped 13 rfl (by rw [isReturn]; rfl) (by decide)
    split
    · next isTab => exact escaped 9 rfl (by rw [isTab]; rfl) (by decide)
    split
    · next isBackspace => exact escaped 8 rfl (by rw [isBackspace]; rfl) (by decide)
    split
    · next isFormFeed => exact escaped 12 rfl (by rw [isFormFeed]; rfl) (by decide)
    split
    · next visible =>
        rw [unitsOf_of_lt (by omega)]
        exact readUnits_plain ordinary.1 ordinary.2 visible.1 reads
    · have valid : character.toNat.isValidChar := character.valid
      exact readUnits_characterEscape (by rcases valid with low | high <;> omega) reads

theorem readUnits_flatMap (characters rest : List Char) :
    readUnits (characters.flatMap writeCharacter ++ '"' :: rest) =
      .ok ((characters.map Char.toNat).flatMap unitsOf, rest) := by
  induction characters with
  | nil => rw [List.flatMap_nil, List.nil_append, readUnits]; rfl
  | cons character characters ih =>
      rw [List.flatMap_cons, List.append_assoc, List.map_cons, List.flatMap_cons]
      exact readUnits_writeCharacter character ih

theorem joinHalves_cons {code : Nat} (whole : Text.isFirstHalf code = false) (rest : List Nat) :
    Text.joinHalves (code :: rest) = code :: Text.joinHalves rest := by
  cases rest with
  | nil => rfl
  | cons next rest => rw [Text.joinHalves, whole, Bool.false_and, if_neg Bool.false_ne_true]

/-- Joining halves gives back codes that were taken apart into their units. -/
theorem joinHalves_unitsOf {code : Nat} (whole : Text.isHalf code = false)
    (fits : code < 0x110000) (rest : List Nat) :
    Text.joinHalves (unitsOf code ++ rest) = code :: Text.joinHalves rest := by
  rw [unitsOf]
  split
  · have notFirst : Text.isFirstHalf code = false := by
      rw [Text.isHalf, Bool.or_eq_false_iff] at whole
      exact whole.1
    exact joinHalves_cons notFirst rest
  · have first : Text.isFirstHalf (0xd800 + (code - 0x10000) / 0x400) = true := by
      simp only [Text.isFirstHalf, Bool.and_eq_true, decide_eq_true_eq]
      omega
    have second : Text.isSecondHalf (0xdc00 + (code - 0x10000) % 0x400) = true := by
      simp only [Text.isSecondHalf, Bool.and_eq_true, decide_eq_true_eq]
      omega
    have joined : 0x10000 + (0xd800 + (code - 0x10000) / 0x400 - 0xd800) * 0x400 +
        (0xdc00 + (code - 0x10000) % 0x400 - 0xdc00) = code := by
      omega
    rw [List.cons_append, List.cons_append, List.nil_append, Text.joinHalves, first, second,
      Bool.and_self, if_pos rfl, joined]

theorem joinHalves_flatMap (characters : List Char) :
    Text.joinHalves ((characters.map Char.toNat).flatMap unitsOf) =
      characters.map Char.toNat := by
  induction characters with
  | nil => rfl
  | cons character characters ih =>
      have valid : character.toNat.isValidChar := character.valid
      rw [List.map_cons, List.flatMap_cons,
        joinHalves_unitsOf (Text.isHalf_toNat character)
          (by rcases valid with low | high <;> omega), ih]

theorem readCodes_writeText (text : String) (rest : List Char) :
    readCodes (text.toList.flatMap writeCharacter ++ '"' :: rest) =
      .ok (Text.codes text, rest) := by
  rw [readCodes, readUnits_flatMap, Text.codes]
  dsimp only
  rw [joinHalves_flatMap]

def IsVisible (character : Char) : Prop :=
  0x20 ≤ character.toNat ∧ character.toNat < 0x7f

instance : DecidablePred IsVisible := fun character =>
  inferInstanceAs (Decidable (0x20 ≤ character.toNat ∧ character.toNat < 0x7f))

theorem isVisible_digitCharacter : ∀ value < 16, IsVisible (Text.digitCharacter value) := by
  decide

theorem isVisible_unitEscape (unit : Nat) : ∀ character ∈ unitEscape unit, IsVisible character := by
  have digit (value : Nat) := isVisible_digitCharacter (value % 16) (Nat.mod_lt _ (by decide))
  simp only [unitEscape, Text.fixedDigits, List.nil_append, List.cons_append, List.forall_mem_cons,
    digit, true_and]
  exact ⟨by decide, by decide, List.forall_mem_nil _⟩

theorem isVisible_writeCharacter (character : Char) :
    ∀ written ∈ writeCharacter character, IsVisible written := by
  have escape : IsVisible '\\' := by decide
  rw [writeCharacter]
  split
  · next special =>
      rcases special with rfl | rfl <;> simp [IsVisible]
  iterate 5
    split
    · simp [IsVisible]
  split
  · next visible => simpa [IsVisible] using visible
  · rw [characterEscape]
    split
    · exact isVisible_unitEscape _
    · rw [List.forall_mem_append]
      exact ⟨isVisible_unitEscape _, isVisible_unitEscape _⟩

theorem isVisible_writeText (text : String) :
    ∀ written ∈ writeText text, IsVisible written := by
  rw [writeText, List.forall_mem_cons, List.forall_mem_append, List.forall_mem_singleton]
  refine ⟨by decide, ?_, by decide⟩
  intro written member
  obtain ⟨character, -, isWritten⟩ := List.mem_flatMap.mp member
  exact isVisible_writeCharacter character written isWritten

end Json

end AccessDecision
