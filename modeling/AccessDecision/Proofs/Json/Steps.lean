import AccessDecision.Json.Reader

/-!
# The steps of the reader

What a single step of reading takes from the front of a text, case by case.  It follows that a
value which is read is also read with more steps and with more room for nesting.
-/

namespace AccessDecision

namespace Json

/-- What a step finds at the front of a text if it reads a value there, with room for nesting. -/
inductive ValueStep (steps : Nat) : Nat → List Char → Value → List Char → Prop where
  | text {room : Nat} {rest after : List Char} {codes : List Nat}
      (reads : readCodes rest = .ok (codes, after)) :
      ValueStep steps room ('"' :: rest) (.ofCodes codes) after
  | noItems {room : Nat} {rest after : List Char} (closes : skipSpaces rest = ']' :: after) :
      ValueStep steps (room + 1) ('[' :: rest) (.list []) after
  | items {room : Nat} {rest after : List Char} {values : List Value}
      (opens : ∀ other, skipSpaces rest ≠ ']' :: other)
      (reads : readItems steps room (skipSpaces rest) = .ok (values, after)) :
      ValueStep steps (room + 1) ('[' :: rest) (.list values) after
  | noFields {room : Nat} {rest after : List Char} (closes : skipSpaces rest = '}' :: after) :
      ValueStep steps (room + 1) ('{' :: rest) (.object []) after
  | fields {room : Nat} {rest after : List Char} {entries : List (List Nat × Value)}
      (opens : ∀ other, skipSpaces rest ≠ '}' :: other)
      (reads : readFields steps room (skipSpaces rest) = .ok (entries, after)) :
      ValueStep steps (room + 1) ('{' :: rest) (.ofFields (Entries.ofList entries)) after
  | atom {room : Nat} {first : Char} {rest after : List Char} {value : Value}
      (bare : first ≠ '"' ∧ first ≠ '[' ∧ first ≠ '{')
      (reads : readAtom (first :: rest) = .ok (value, after)) :
      ValueStep steps room (first :: rest) value after

theorem readValue_atom {first : Char} (bare : first ≠ '"' ∧ first ≠ '[' ∧ first ≠ '{')
    (steps room : Nat) (rest : List Char) :
    readValue (steps + 1) room (first :: rest) = readAtom (first :: rest) := by
  rw [readValue] <;> simp [bare]

theorem valueStep_of_ok {steps room : Nat} {characters after : List Char} {value : Value}
    (reads : readValue (steps + 1) room characters = .ok (value, after)) :
    ValueStep steps room characters value after := by
  cases characters with
  | nil => cases room <;> cases reads
  | cons first rest =>
  by_cases isQuote : first = '"'
  · subst isQuote
    rw [readValue] at reads
    split at reads
    · next codes after found =>
        cases reads
        exact .text found
    · cases reads
  by_cases isBracket : first = '['
  · subst isBracket
    cases room with
    | zero => cases reads
    | succ room =>
        rw [readValue] at reads
        split at reads
        · next after closes =>
            cases reads
            exact .noItems closes
        · next opens =>
            split at reads
            · next values after found =>
                cases reads
                exact .items opens found
            · cases reads
  by_cases isBrace : first = '{'
  · subst isBrace
    cases room with
    | zero => cases reads
    | succ room =>
        rw [readValue] at reads
        split at reads
        · next after closes =>
            cases reads
            exact .noFields closes
        · next opens =>
            split at reads
            · next entries after found =>
                cases reads
                exact .fields opens found
            · cases reads
  · have bare := And.intro isQuote (And.intro isBracket isBrace)
    rw [readValue_atom bare] at reads
    exact .atom bare reads

theorem readValue_of_step {steps room : Nat} {characters after : List Char} {value : Value}
    (step : ValueStep steps room characters value after) :
    readValue (steps + 1) room characters = .ok (value, after) := by
  cases step with
  | text reads => rw [readValue, reads]
  | noItems closes =>
      rw [readValue, closes]
      rfl
  | items opens reads =>
      rw [readValue]
      split
      · next after closes => exact absurd closes (opens after)
      · rw [reads]
  | noFields closes =>
      rw [readValue, closes]
      rfl
  | fields opens reads =>
      rw [readValue]
      split
      · next after closes => exact absurd closes (opens after)
      · rw [reads]
  | atom bare reads => rw [readValue_atom bare, reads]

inductive ItemsStep (steps room : Nat) : List Char → List Value → List Char → Prop where
  | last {characters rest after : List Char} {value : Value}
      (reads : readValue steps room characters = .ok (value, rest))
      (closes : skipSpaces rest = ']' :: after) : ItemsStep steps room characters [value] after
  | next {characters rest more after : List Char} {value : Value} {others : List Value}
      (reads : readValue steps room characters = .ok (value, rest))
      (goesOn : skipSpaces rest = ',' :: more)
      (readsOn : readItems steps room (skipSpaces more) = .ok (others, after)) :
      ItemsStep steps room characters (value :: others) after

theorem itemsStep_of_ok {steps room : Nat} {characters after : List Char} {values : List Value}
    (reads : readItems (steps + 1) room characters = .ok (values, after)) :
    ItemsStep steps room characters values after := by
  rw [readItems] at reads
  split at reads
  · cases reads
  next value rest first =>
  split at reads
  · next after closes =>
      cases reads
      exact .last first closes
  · next more goesOn =>
      split at reads
      · next others after readsOn =>
          cases reads
          exact .next first goesOn readsOn
      · cases reads
  · cases reads

theorem readItems_of_step {steps room : Nat} {characters after : List Char} {values : List Value}
    (step : ItemsStep steps room characters values after) :
    readItems (steps + 1) room characters = .ok (values, after) := by
  cases step with
  | last reads closes => simp [readItems, reads, closes]
  | next reads goesOn readsOn => simp [readItems, reads, goesOn, readsOn]

inductive FieldsStep (steps room : Nat) :
    List Char → List (List Nat × Value) → List Char → Prop where
  | last {quoted rest more left after : List Char} {name : List Nat} {value : Value}
      (named : readCodes quoted = .ok (name, rest)) (colon : skipSpaces rest = ':' :: more)
      (reads : readValue steps room (skipSpaces more) = .ok (value, left))
      (closes : skipSpaces left = '}' :: after) :
      FieldsStep steps room ('"' :: quoted) [(name, value)] after
  | next {quoted rest more left others after : List Char} {name : List Nat} {value : Value}
      {entries : List (List Nat × Value)}
      (named : readCodes quoted = .ok (name, rest)) (colon : skipSpaces rest = ':' :: more)
      (reads : readValue steps room (skipSpaces more) = .ok (value, left))
      (goesOn : skipSpaces left = ',' :: others)
      (readsOn : readFields steps room (skipSpaces others) = .ok (entries, after)) :
      FieldsStep steps room ('"' :: quoted) ((name, value) :: entries) after

theorem fieldsStep_of_ok {steps room : Nat} {characters after : List Char}
    {entries : List (List Nat × Value)}
    (reads : readFields (steps + 1) room characters = .ok (entries, after)) :
    FieldsStep steps room characters entries after := by
  unfold readFields at reads
  split at reads
  · next same =>
      cases same
      split at reads
      · cases reads
      next name rest named =>
      split at reads
      · next more colon =>
          split at reads
          · cases reads
          next value left first =>
          dsimp only at reads
          split at reads
          · next after closes =>
              cases reads
              exact .last named colon first closes
          · next others goesOn =>
              split at reads
              · next entries after readsOn =>
                  cases reads
                  exact .next named colon first goesOn readsOn
              · cases reads
          · cases reads
      · cases reads
  · cases reads

theorem readFields_of_step {steps room : Nat} {characters after : List Char}
    {entries : List (List Nat × Value)} (step : FieldsStep steps room characters entries after) :
    readFields (steps + 1) room characters = .ok (entries, after) := by
  cases step with
  | last named colon reads closes => simp [readFields, named, colon, reads, closes]
  | next named colon reads goesOn readsOn =>
      simp [readFields, named, colon, reads, goesOn, readsOn]

/-- What is read is also read with more steps and with more room. -/
theorem reads_mono {steps enough : Nat} (moreSteps : steps ≤ enough) {room wide : Nat}
    (moreRoom : room ≤ wide) (characters after : List Char) :
    (∀ value, readValue steps room characters = .ok (value, after) →
      readValue enough wide characters = .ok (value, after)) ∧
    (∀ values, readItems steps room characters = .ok (values, after) →
      readItems enough wide characters = .ok (values, after)) ∧
    ∀ entries, readFields steps room characters = .ok (entries, after) →
      readFields enough wide characters = .ok (entries, after) := by
  -- Every nested reading takes a step and some of the room, so both bounds change along the way.
  induction steps generalizing enough room wide characters after with
  | zero =>
      refine ⟨nofun, nofun, fun entries reads => ?_⟩
      cases characters <;> cases reads
  | succ steps ih =>
      obtain ⟨enough, rfl⟩ : ∃ fewer, enough = fewer + 1 := ⟨enough - 1, by omega⟩
      have fewer : steps ≤ enough := by omega
      refine ⟨fun value reads => ?_, fun values reads => ?_, fun entries reads => ?_⟩
      · apply readValue_of_step
        rcases valueStep_of_ok reads with reads | closes | ⟨opens, reads⟩ | closes | ⟨opens, reads⟩ |
          ⟨bare, reads⟩
        · exact .text reads
        · obtain ⟨wide, rfl⟩ : ∃ less, wide = less + 1 := ⟨wide - 1, by omega⟩
          exact .noItems closes
        · obtain ⟨wide, rfl⟩ : ∃ less, wide = less + 1 := ⟨wide - 1, by omega⟩
          exact .items opens ((ih fewer (by omega) _ _).2.1 _ reads)
        · obtain ⟨wide, rfl⟩ : ∃ less, wide = less + 1 := ⟨wide - 1, by omega⟩
          exact .noFields closes
        · obtain ⟨wide, rfl⟩ : ∃ less, wide = less + 1 := ⟨wide - 1, by omega⟩
          exact .fields opens ((ih fewer (by omega) _ _).2.2 _ reads)
        · exact .atom bare reads
      · apply readItems_of_step
        rcases itemsStep_of_ok reads with ⟨first, closes⟩ | ⟨first, goesOn, readsOn⟩
        · exact .last ((ih fewer moreRoom _ _).1 _ first) closes
        · exact .next ((ih fewer moreRoom _ _).1 _ first) goesOn
            ((ih fewer moreRoom _ _).2.1 _ readsOn)
      · apply readFields_of_step
        rcases fieldsStep_of_ok reads with ⟨named, colon, first, closes⟩ |
          ⟨named, colon, first, goesOn, readsOn⟩
        · exact .last named colon ((ih fewer moreRoom _ _).1 _ first) closes
        · exact .next named colon ((ih fewer moreRoom _ _).1 _ first) goesOn
            ((ih fewer moreRoom _ _).2.2 _ readsOn)

end Json

end AccessDecision
