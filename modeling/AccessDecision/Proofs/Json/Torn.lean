import AccessDecision.Proofs.Json.Steps

/-!
# Objects behind torn texts

An object that is written right behind another text is read as before if that text is blank.  If
it is not, then nothing can be read: whatever the text began is never completed by the object, and
a text that is open where the object begins is closed by the first quote in it.
-/

namespace AccessDecision

namespace Json

/-- The written form of an object whose first name begins with the letter `e`. -/
def opened (rest : List Char) : List Char :=
  '{' :: '"' :: 'e' :: rest

variable {rest : List Char}

theorem suffix_tail {first : Char} {characters : List Char} (other : first ≠ '{')
    (stands : opened rest <:+ first :: characters) : opened rest <:+ characters := by
  rcases List.suffix_cons_iff.mp stands with same | within
  · exact absurd (List.cons.inj same).1.symm other
  · exact within

theorem suffix_dropWhile {holds : Char → Bool} (stops : holds '{' = false)
    {characters : List Char} (stands : opened rest <:+ characters) :
    opened rest <:+ characters.dropWhile holds := by
  induction characters with
  | nil => exact stands
  | cons first characters ih =>
      rw [List.dropWhile_cons]
      split
      · next goesOn =>
          refine ih (suffix_tail ?_ stands)
          rintro rfl
          rw [stops] at goesOn
          cases goesOn
      · exact stands

theorem suffix_skipSpaces {characters : List Char} (stands : opened rest <:+ characters) :
    opened rest <:+ skipSpaces characters :=
  suffix_dropWhile rfl stands

theorem suffix_of_append {word characters : List Char} (free : '{' ∉ word)
    (stands : opened rest <:+ word ++ characters) : opened rest <:+ characters := by
  induction word with
  | nil => exact stands
  | cons first word ih =>
      rw [List.mem_cons, not_or] at free
      exact ih free.2 (suffix_tail (Ne.symm free.1) stands)

/-- A text that ends before the object leaves it there, and one that does not is ended by the first
quote in the object. -/
theorem readUnits_torn {characters after : List Char} {units : List Nat}
    (stands : opened rest <:+ characters) (reads : readUnits characters = .ok (units, after)) :
    after = 'e' :: rest ∨ opened rest <:+ after := by
  fun_induction readUnits characters generalizing units after with
  | case2 =>
      cases reads
      exact .inr (suffix_tail (by decide) stands)
  | case3 first second third fourth characters _ _ _ _ isFourth isThird isSecond isFirst _ _ found
      ih =>
      cases reads
      have notDigit {character : Char} {digit : Nat} (isDigit : hexDigit? character = some digit) :
          character ≠ '{' := by
        rintro rfl
        cases isDigit
      have free : '{' ∉ ['\\', 'u', first, second, third, fourth] := by
        simp [(notDigit isFirst).symm, (notDigit isSecond).symm, (notDigit isThird).symm,
          (notDigit isFourth).symm]
      exact ih (suffix_of_append free stands) found
  | case6 escape characters _ _ isEscape _ _ found ih =>
      cases reads
      have notBrace : escape ≠ '{' := by
        rintro rfl
        cases isEscape
      exact ih (suffix_tail notBrace (suffix_tail (by decide) stands)) found
  | case10 character characters _ _ _ _ _ _ found ih =>
      cases reads
      rcases List.suffix_cons_iff.mp stands with same | within
      -- The text is open where the object begins, and the quote of the first name ends it.
      · cases same
        cases found
        exact .inl rfl
      · exact ih within found
  | _ => cases reads

theorem readCodes_torn {characters after : List Char} {codes : List Nat}
    (stands : opened rest <:+ characters) (reads : readCodes characters = .ok (codes, after)) :
    after = 'e' :: rest ∨ opened rest <:+ after := by
  rw [readCodes] at reads
  split at reads
  · next found =>
      cases reads
      exact readUnits_torn stands found
  · cases reads

theorem splitWhole_torn {characters whole after : List Char}
    (stands : opened rest <:+ characters) (splits : splitWhole characters = some (whole, after)) :
    opened rest <:+ after := by
  unfold splitWhole at splits
  split at splits
  · cases splits
    exact suffix_tail (by decide) stands
  · dsimp only at splits
    split at splits
    · cases splits
    · cases splits
      exact suffix_dropWhile rfl stands

theorem splitFraction_torn {characters fraction after : List Char}
    (stands : opened rest <:+ characters)
    (splits : splitFraction characters = some (fraction, after)) : opened rest <:+ after := by
  unfold splitFraction at splits
  split at splits
  · dsimp only at splits
    split at splits
    · cases splits
    · cases splits
      exact suffix_dropWhile rfl (suffix_tail (by decide) stands)
  · cases splits

theorem splitSign_torn {characters : List Char} (stands : opened rest <:+ characters) :
    opened rest <:+ (Number.splitSign characters).2 := by
  unfold Number.splitSign
  split
  · exact suffix_tail (by decide) stands
  · exact suffix_tail (by decide) stands
  · exact stands

theorem splitExponent_torn {characters after : List Char} {exponent : Int}
    (stands : opened rest <:+ characters)
    (splits : splitExponent characters = some (exponent, after)) : opened rest <:+ after := by
  unfold splitExponent at splits
  split at splits
  · next mark characters =>
      split at splits
      · next isMark =>
          dsimp only at splits
          split at splits
          · cases splits
          · cases splits
            have notBrace : mark ≠ '{' := by
              rintro rfl
              revert isMark
              decide
            exact suffix_dropWhile rfl (splitSign_torn (suffix_tail notBrace stands))
      · cases splits
  · cases splits

theorem readUnsigned_torn {negative : Bool} {characters after : List Char} {value : Value}
    (stands : opened rest <:+ characters)
    (reads : readUnsigned negative characters = .ok (value, after)) : opened rest <:+ after := by
  rw [readUnsigned] at reads
  split at reads
  · cases reads
  next whole left isWhole =>
  have wholeLeaves := splitWhole_torn stands isWhole
  have leaves : opened rest <:+ ((splitFraction left).getD ([], left)).2 := by
    cases found : splitFraction left with
    | none => exact wholeLeaves
    | some fraction => exact splitFraction_torn wholeLeaves found
  dsimp only at reads
  split at reads
  · next found =>
      cases reads
      exact splitExponent_torn leaves found
  · split at reads
    · split at reads
      · cases reads
      · cases reads
        exact leaves
    · cases reads
      exact leaves

theorem readAtom_torn {characters after : List Char} {value : Value}
    (stands : opened rest <:+ characters) (reads : readAtom characters = .ok (value, after)) :
    opened rest <:+ after := by
  unfold readAtom at reads
  split at reads
  case h_7 => exact readUnsigned_torn (suffix_tail (by decide) stands) reads
  case h_8 => exact readUnsigned_torn stands reads
  all_goals cases reads
  case h_1 => exact suffix_of_append (by decide : '{' ∉ "null".toList) stands
  case h_2 => exact suffix_of_append (by decide : '{' ∉ "true".toList) stands
  case h_3 => exact suffix_of_append (by decide : '{' ∉ "false".toList) stands
  case h_4 => exact suffix_of_append (by decide : '{' ∉ "NaN".toList) stands
  case h_5 => exact suffix_of_append (by decide : '{' ∉ "Infinity".toList) stands
  case h_6 => exact suffix_of_append (by decide : '{' ∉ "-Infinity".toList) stands

/-- An object after which nothing but blanks stands wherever it is read. -/
def Closing (rest : List Char) : Prop :=
  ∀ {steps room : Nat} {value : Value} {after : List Char},
    readValue steps room (opened rest) = .ok (value, after) → skipSpaces after = []

/-- Where the reading of a value stops if an object stands at the end of the text: after the object,
which was the value, or inside the object, or before it. -/
def Stops (rest characters after : List Char) : Prop :=
  characters = opened rest ∧ skipSpaces after = [] ∨ after = 'e' :: rest ∨ opened rest <:+ after

/-- Only before the object can a mark follow. -/
theorem Stops.suffix {characters after more : List Char} (stops : Stops rest characters after)
    {mark : Char} (isMark : mark ≠ 'e' ∧ mark ≠ '{') (follows : skipSpaces after = mark :: more) :
    opened rest <:+ more := by
  rcases stops with ⟨-, isBlank⟩ | rfl | stands
  · cases isBlank.symm.trans follows
  · exact absurd (List.cons.inj follows).1.symm isMark.1
  · have remains := suffix_skipSpaces stands
    rw [follows] at remains
    exact suffix_tail isMark.2 remains

/-- Wherever reading begins in a text with a closing object at its end, lists and objects that are
read from there are complete before that object. -/
theorem reads_torn (closing : Closing rest) {steps room : Nat} {characters after : List Char}
    (stands : opened rest <:+ characters) :
    (∀ value, readValue steps room characters = .ok (value, after) →
      Stops rest characters after) ∧
    (∀ values, readItems steps room characters = .ok (values, after) → opened rest <:+ after) ∧
    ∀ entries, readFields steps room characters = .ok (entries, after) → opened rest <:+ after := by
  induction steps generalizing room characters after with
  | zero =>
      refine ⟨nofun, nofun, fun entries reads => ?_⟩
      cases characters <;> cases reads
  | succ steps ih =>
      refine ⟨fun value reads => ?_, fun values reads => ?_, fun entries reads => ?_⟩
      · by_cases isObject : characters = opened rest
        · subst isObject
          exact .inl ⟨rfl, closing reads⟩
        refine .inr ?_
        have within {first : Char} {others : List Char} (same : characters = first :: others) :
            opened rest <:+ others := by
          subst same
          exact (List.suffix_cons_iff.mp stands).resolve_left (isObject ·.symm)
        have inside {first : Char} {others : List Char} (same : characters = first :: others) :=
          suffix_skipSpaces (within same)
        rcases valueStep_of_ok reads with reads | closes | ⟨-, reads⟩ | closes | ⟨-, reads⟩ |
          ⟨bare, reads⟩
        · exact readCodes_torn (within rfl) reads
        · exact .inr (suffix_tail (by decide) (closes ▸ inside rfl))
        · exact .inr ((ih (inside rfl)).2.1 _ reads)
        · exact .inr (suffix_tail (by decide) (closes ▸ inside rfl))
        · exact .inr ((ih (inside rfl)).2.2 _ reads)
        · exact .inr (readAtom_torn stands reads)
      · rcases itemsStep_of_ok reads with ⟨first, closes⟩ | ⟨first, goesOn, readsOn⟩
        · exact ((ih stands).1 _ first).suffix (by decide) closes
        · have more := ((ih stands).1 _ first).suffix (by decide) goesOn
          exact (ih (suffix_skipSpaces more)).2.1 _ readsOn
      -- A name that is left open ends inside the object, where no colon follows.
      · have named {quoted left more : List Char} {name : List Nat}
            (reads : readCodes quoted = .ok (name, left)) (colon : skipSpaces left = ':' :: more)
            (stands : opened rest <:+ '"' :: quoted) : opened rest <:+ skipSpaces more := by
          have stops : Stops rest quoted left :=
            .inr (readCodes_torn (suffix_tail (by decide) stands) reads)
          exact suffix_skipSpaces (stops.suffix (by decide) colon)
        rcases fieldsStep_of_ok reads with ⟨isName, colon, first, closes⟩ |
          ⟨isName, colon, first, goesOn, readsOn⟩
        · have value := named isName colon stands
          exact ((ih value).1 _ first).suffix (by decide) closes
        · have value := named isName colon stands
          have more := ((ih value).1 _ first).suffix (by decide) goesOn
          exact (ih (suffix_skipSpaces more)).2.2 _ readsOn

theorem readWithin_ok_iff {limit : Nat} {characters : List Char} {value : Value} :
    readWithin limit characters = .ok value ↔ ∃ after,
      readValue (2 * characters.length + 1) limit (skipSpaces characters) = .ok (value, after) ∧
        skipSpaces after = [] := by
  rw [readWithin]
  cases readValue (2 * characters.length + 1) limit (skipSpaces characters) with
  | error fault => simp
  | ok found =>
      obtain ⟨other, after⟩ := found
      dsimp only
      constructor
      · intro reads
        split at reads
        · next isEnd =>
            cases reads
            exact ⟨after, rfl, List.isEmpty_iff.mp isEnd⟩
        · cases reads
      · rintro ⟨_, ⟨⟩, isEnd⟩
        rw [isEnd]
        rfl

theorem skipSpaces_append_of_blank {torn : List Char} (isBlank : skipSpaces torn = [])
    (characters : List Char) : skipSpaces (torn ++ characters) = skipSpaces characters := by
  rw [skipSpaces] at isBlank
  simp [skipSpaces, List.dropWhile_append, isBlank]

theorem skipSpaces_append_of_not_blank {torn : List Char} (notBlank : skipSpaces torn ≠ [])
    (characters : List Char) : skipSpaces (torn ++ characters) = skipSpaces torn ++ characters := by
  rw [skipSpaces] at notBlank
  simp [skipSpaces, List.dropWhile_append, notBlank]

theorem readWithin_blanks {limit : Nat} {torn characters : List Char} {value : Value}
    (isBlank : skipSpaces torn = []) (reads : readWithin limit characters = .ok value) :
    readWithin limit (torn ++ characters) = .ok value := by
  obtain ⟨after, found, isEnd⟩ := readWithin_ok_iff.mp reads
  refine readWithin_ok_iff.mpr ⟨after, ?_, isEnd⟩
  have enough : 2 * characters.length + 1 ≤ 2 * (torn ++ characters).length + 1 := by
    rw [List.length_append]
    omega
  rw [skipSpaces_append_of_blank isBlank]
  exact (reads_mono enough (Nat.le_refl limit) _ _).1 value found

theorem closing_of_readWithin {limit : Nat} {object : Value}
    (reads : readWithin limit (opened rest) = .ok object) : Closing rest := by
  intro steps room value after found
  obtain ⟨isEnd, whole, isBlank⟩ := readWithin_ok_iff.mp reads
  have again := (reads_mono (Nat.le_max_left steps (2 * (opened rest).length + 1))
    (Nat.le_max_left room limit) _ _).1 value found
  have wholeAgain := (reads_mono (Nat.le_max_right steps (2 * (opened rest).length + 1))
    (Nat.le_max_right room limit) _ _).1 object whole
  cases again.symm.trans wholeAgain
  exact isBlank

/-- An object that can be read cannot be read any more behind a text that is not blank. -/
theorem readWithin_torn {limit : Nat} {torn : List Char} {object : Value}
    (notBlank : skipSpaces torn ≠ []) (reads : readWithin limit (opened rest) = .ok object)
    (value : Value) : readWithin limit (torn ++ opened rest) ≠ .ok value := by
  intro readsToo
  obtain ⟨after, found, isBlank⟩ := readWithin_ok_iff.mp readsToo
  rw [skipSpaces_append_of_not_blank notBlank] at found
  have stands : opened rest <:+ skipSpaces torn ++ opened rest := List.suffix_append _ _
  rcases (reads_torn (closing_of_readWithin reads) stands).1 value found with ⟨same, -⟩ | rfl | remains
  · exact notBlank (List.append_left_eq_self.mp same)
  · cases isBlank
  · have nothing := suffix_skipSpaces remains
    rw [isBlank] at nothing
    cases List.suffix_nil.mp nothing

end Json

end AccessDecision
