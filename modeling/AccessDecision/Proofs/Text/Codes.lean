import AccessDecision.Value.Display

/-!
# Codes of texts

A text is the sequence of the codes of its characters.  None of them is a half, so the codes of
a text give it back; the codes of a broken text do so as well.
-/

namespace AccessDecision

namespace Text

def codes (text : String) : List Nat :=
  text.toList.map Char.toNat

/-- What is shown of a code: the replacement character stands for a half. -/
def shown (code : Nat) : Char :=
  if isHalf code then '\ufffd' else Char.ofNat code

theorem isHalf_toNat (character : Char) : isHalf character.toNat = false := by
  have valid : character.toNat.isValidChar := character.valid
  rw [isHalf, isFirstHalf, isSecondHalf]
  simp only [Bool.or_eq_false_iff, Bool.and_eq_false_iff, decide_eq_false_iff_not]
  rcases valid with low | high <;> omega

@[simp]
theorem shown_toNat (character : Char) : shown character.toNat = character := by
  rw [shown, isHalf_toNat, Char.ofNat_toNat]
  rfl

@[simp]
theorem map_shown_codes (text : String) : (codes text).map shown = text.toList := by
  simp [codes, Function.comp_def]

theorem toNat_shown_codes (text : String) :
    ∀ code ∈ codes text, (shown code).toNat = code := by
  simp [codes]

@[simp]
theorem ofCodes?_codes (text : String) : ofCodes? (codes text) = some text := by
  have whole : (codes text).any isHalf = false := by
    simp [codes, isHalf_toNat]
  have characters : (codes text).map Char.ofNat = text.toList := by
    simp [codes, Function.comp_def, Char.ofNat_toNat]
  rw [ofCodes?, whole, characters, String.ofList_toList]
  rfl

theorem codes_injective {text other : String} (same : codes text = codes other) :
    text = other := by
  have whole := ofCodes?_codes text
  rw [same, ofCodes?_codes other] at whole
  exact (Option.some.inj whole).symm

end Text

namespace Value

/-- The codes that a message shows of a value. -/
def codes : Value → List Nat
  | .brokenText codes => codes
  | value => Text.codes value.display

/-- A text, whole or broken, is given back by its codes. -/
def IsText (value : Value) : Prop :=
  Value.ofCodes value.codes = value

theorem map_shown_codes (value : Value) : value.codes.map Text.shown = value.display.toList := by
  cases value with
  | brokenText codes => simp [Value.codes, display, Text.ofCodes, Text.shown]
  | _ => exact Text.map_shown_codes _

theorem toNat_shown_codes {value : Value} (whole : ∃ text, value = .text text) :
    ∀ code ∈ value.codes, (Text.shown code).toNat = code := by
  obtain ⟨text, rfl⟩ := whole
  exact Text.toNat_shown_codes text

theorem ofCodes_cases (codes : List Nat) :
    (∃ text, ofCodes codes = .text text) ∨
      ofCodes codes = .brokenText codes ∧ codes.any Text.isHalf = true := by
  rw [ofCodes, Text.ofCodes?]
  cases broken : codes.any Text.isHalf with
  | true => exact .inr ⟨rfl, rfl⟩
  | false => exact .inl ⟨_, rfl⟩

theorem isText_iff {value : Value} :
    value.IsText ↔ (∃ text, value = .text text) ∨
      ∃ codes, value = .brokenText codes ∧ codes.any Text.isHalf = true := by
  constructor
  · intro isText
    rcases ofCodes_cases value.codes with ⟨text, whole⟩ | ⟨broken, hasHalf⟩
    · exact .inl ⟨text, isText.symm.trans whole⟩
    · exact .inr ⟨value.codes, isText.symm.trans broken, hasHalf⟩
  · rintro (⟨text, rfl⟩ | ⟨codes, rfl, hasHalf⟩)
    · rw [IsText, Value.codes, display, ofCodes, Text.ofCodes?_codes]
      exact nofun
    · rw [IsText, Value.codes, ofCodes, Text.ofCodes?, hasHalf]
      rfl

theorem IsText.codes_injective {value other : Value} (isText : value.IsText)
    (isTextToo : other.IsText) (same : value.codes = other.codes) : value = other := by
  rw [← isText, ← isTextToo, same]

end Value

end AccessDecision
