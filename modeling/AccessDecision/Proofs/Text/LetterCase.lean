import AccessDecision.Text.LetterCase

/-!
# Letter case of plain texts

The characters with the first 128 codes change case among themselves: the tables move the
letters of one run and nothing else there.  On texts of such characters the capital form and
the small form undo each other, as long as the text is in the other form to begin with.
-/

namespace AccessDecision

namespace Text

/-- Whether a character is one of the first 128. -/
def IsPlain (character : Char) : Prop :=
  character.toNat < 128

/-- A text of plain characters without small letters. -/
def IsCapital (text : String) : Prop :=
  ∀ character ∈ text.toList, IsPlain character ∧ character.isLower = false

def IsSmall (text : String) : Prop :=
  ∀ character ∈ text.toList, IsPlain character ∧ character.isUpper = false

instance (character : Char) : Decidable (IsPlain character) :=
  inferInstanceAs (Decidable (character.toNat < 128))

instance (text : String) : Decidable (IsCapital text) :=
  List.decidableBAll _ text.toList

instance (text : String) : Decidable (IsSmall text) :=
  List.decidableBAll _ text.toList

namespace IsPlain

variable {character : Char}

/-- What holds of the first 128 characters one by one holds of every plain one. -/
theorem of_codes {motive : Char → Prop} (plain : IsPlain character)
    (holds : ∀ code < 128, motive (Char.ofNat code)) : motive character := by
  rw [← Char.ofNat_toNat character]
  exact holds _ plain

theorem toUpper (plain : IsPlain character) : IsPlain character.toUpper :=
  plain.of_codes (motive := fun character => IsPlain character.toUpper) (by decide +kernel)

theorem toLower (plain : IsPlain character) : IsPlain character.toLower :=
  plain.of_codes (motive := fun character => IsPlain character.toLower) (by decide +kernel)

theorem toUpper_toLower (plain : IsPlain character) (capital : character.isLower = false) :
    character.toLower.toUpper = character :=
  plain.of_codes
    (motive := fun character => character.isLower = false → character.toLower.toUpper = character)
    (by decide +kernel) capital

theorem toLower_toUpper (plain : IsPlain character) (small : character.isUpper = false) :
    character.toUpper.toLower = character :=
  plain.of_codes
    (motive := fun character => character.isUpper = false → character.toUpper.toLower = character)
    (by decide +kernel) small

end IsPlain

/-- Where everything but one run begins later, a character changes case by that run only. -/
theorem recase_of_lt {expansions : List (Nat × List Nat)} {run : CaseRun} {runs : List CaseRun}
    {limit : Nat} {character : Char} (expands : ∀ expansion ∈ expansions, limit ≤ expansion.1)
    (begins : ∀ other ∈ runs, limit ≤ other.first) (before : character.toNat < limit) :
    recase expansions (run :: runs) character =
      [if run.covers character.toNat then Char.ofNat (character.toNat + run.offset).toNat
        else character] := by
  have unexpanded : expansions.lookup character.toNat = none := by
    rw [List.lookup_eq_none_iff]
    intro expansion member
    have := expands expansion member
    simp only [bne_iff_ne]
    omega
  have uncovered : runs.find? (·.covers character.toNat) = none := by
    rw [List.find?_eq_none]
    intro other member
    have := begins other member
    simp only [CaseRun.covers, Bool.and_eq_true, decide_eq_true_eq]
    omega
  rw [recase, unexpanded, List.find?_cons, uncovered]
  cases run.covers character.toNat <;> rfl

theorem recase_capital {character : Char} (plain : IsPlain character) :
    recase capitalExpansions capitalRuns character = [character.toUpper] := by
  have first : capitalRuns = ⟨0x61, 0x7a, 1, -32⟩ :: capitalRuns.tail := rfl
  have moves := plain.of_codes (motive := fun character =>
    (if CaseRun.covers ⟨0x61, 0x7a, 1, -32⟩ character.toNat then
      Char.ofNat ((character.toNat : Int) + -32).toNat else character) = character.toUpper)
    (by decide +kernel)
  rw [first, recase_of_lt (by decide) (by decide +kernel) plain]
  exact congrArg ([·]) moves

theorem recase_small {character : Char} (plain : IsPlain character) :
    recase smallExpansions smallRuns character = [character.toLower] := by
  have first : smallRuns = ⟨0x41, 0x5a, 1, 32⟩ :: smallRuns.tail := rfl
  have moves := plain.of_codes (motive := fun character =>
    (if CaseRun.covers ⟨0x41, 0x5a, 1, 32⟩ character.toNat then
      Char.ofNat ((character.toNat : Int) + 32).toNat else character) = character.toLower)
    (by decide +kernel)
  rw [first, recase_of_lt (by decide) (by decide +kernel) plain]
  exact congrArg ([·]) moves

/-- The capital sigma is no plain character, so what stands around a character does not matter. -/
theorem smallAfter_of_plain {characters : List Char}
    (plain : ∀ character ∈ characters, IsPlain character) (before : List Char) :
    smallAfter before characters = characters.map Char.toLower := by
  induction characters generalizing before with
  | nil => rfl
  | cons character rest ih =>
      rw [List.forall_mem_cons] at plain
      have unlike : character ≠ 'Σ' := by
        rintro rfl
        exact absurd plain.1 (by decide)
      rw [smallAfter, if_neg unlike, recase_small plain.1, ih plain.2]
      rfl

section Texts

variable {text : String}

theorem toList_capitals (plain : ∀ character ∈ text.toList, IsPlain character) :
    (capitals text).toList = text.toList.map Char.toUpper := by
  rw [capitals, String.toList_ofList]
  generalize text.toList = characters at plain ⊢
  induction characters with
  | nil => rfl
  | cons character rest ih =>
      rw [List.forall_mem_cons] at plain
      rw [List.flatMap_cons, recase_capital plain.1, ih plain.2]
      rfl

theorem toList_smallLetters (plain : ∀ character ∈ text.toList, IsPlain character) :
    (smallLetters text).toList = text.toList.map Char.toLower := by
  rw [smallLetters, String.toList_ofList, smallAfter_of_plain plain]

theorem capitals_smallLetters (capital : IsCapital text) : capitals (smallLetters text) = text := by
  have small := toList_smallLetters fun character member => (capital character member).1
  have plain : ∀ character ∈ (smallLetters text).toList, IsPlain character := by
    rw [small, List.forall_mem_map]
    exact fun character member => (capital character member).1.toLower
  rw [← String.toList_inj, toList_capitals plain, small, List.map_map]
  refine (List.map_congr_left fun character member => ?_).trans (List.map_id _)
  exact (capital character member).1.toUpper_toLower (capital character member).2

theorem smallLetters_capitals (small : IsSmall text) : smallLetters (capitals text) = text := by
  have capital := toList_capitals fun character member => (small character member).1
  have plain : ∀ character ∈ (capitals text).toList, IsPlain character := by
    rw [capital, List.forall_mem_map]
    exact fun character member => (small character member).1.toUpper
  rw [← String.toList_inj, toList_smallLetters plain, capital, List.map_map]
  refine (List.map_congr_left fun character member => ?_).trans (List.map_id _)
  exact (small character member).1.toLower_toUpper (small character member).2

end Texts

end Text

end AccessDecision
