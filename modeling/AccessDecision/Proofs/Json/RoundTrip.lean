import AccessDecision.Proofs.Entries
import AccessDecision.Proofs.Json.Escapes

/-!
# Reading written values

A value without numbers, in whose objects no name occurs twice, is given back when it is written
and read again, whatever follows it, as long as it is not nested too deep.
-/

namespace AccessDecision

namespace Value

/-- Values without numbers whose lists and objects are nested at most so deep; no name occurs
twice in an object. -/
inductive Plain : Nat → Value → Prop where
  | null (room : Nat) : Plain room .null
  | bool (room : Nat) (value : Bool) : Plain room (.bool value)
  | text (room : Nat) (value : String) : Plain room (.text value)
  | list {room : Nat} {items : List Value} (parts : ∀ item ∈ items, Plain room item) :
      Plain (room + 1) (.list items)
  | object {room : Nat} {fields : Fields} (distinct : (fields.map Prod.fst).Nodup)
      (parts : ∀ field ∈ fields, Plain room field.2) : Plain (room + 1) (.object fields)

/-- An object is given back by its fields when their names are given by codes. -/
theorem ofFields_codes {fields : Fields} (distinct : (fields.map Prod.fst).Nodup) :
    ofFields (Entries.ofList (fields.map fun field => (Text.codes field.1, field.2))) =
      .object fields := by
  have named : ((fields.map fun field => (Text.codes field.1, field.2)).map Prod.fst).Nodup := by
    rw [List.map_map]
    rw [List.Nodup, List.pairwise_map] at distinct ⊢
    exact distinct.imp fun differ same => differ (Text.codes_injective same)
  have whole : (fields.map fun field => (Text.codes field.1, field.2)).mapM
      (fun field => (Text.ofCodes? field.1).map (·, field.2)) = some fields := by
    clear named distinct
    induction fields with
    | nil => rfl
    | cons field rest ih => simp [ih]
  rw [Entries.ofList_of_nodup named, ofFields, whole]

end Value

namespace Json

open Value

/-- A written value begins with no blank and closes no list. -/
theorem write_head {room : Nat} {value : Value} (plain : Plain room value) :
    ∃ first rest, write value = first :: rest ∧ isSpace first = false ∧ first ≠ ']' := by
  cases plain with
  | null => exact ⟨'n', _, rfl, rfl, by decide⟩
  | bool _ value => cases value <;> exact ⟨_, _, rfl, rfl, by decide⟩
  | text => exact ⟨'"', _, by rw [write, writeText], rfl, by decide⟩
  | list => exact ⟨'[', _, by rw [write], rfl, by decide⟩
  | object => exact ⟨'{', _, by rw [write], rfl, by decide⟩

theorem skipSpaces_cons {first : Char} (visible : isSpace first = false) (rest : List Char) :
    skipSpaces (first :: rest) = first :: rest := by
  rw [skipSpaces, List.dropWhile_cons, visible]
  rfl

theorem skipSpaces_write {room : Nat} {value : Value} (plain : Plain room value)
    (rest : List Char) : skipSpaces (write value ++ rest) = write value ++ rest := by
  obtain ⟨first, tail, isWritten, visible, -⟩ := write_head plain
  rw [isWritten, List.cons_append, skipSpaces_cons visible]

/-- Whether a value is read back within a room for nesting, by steps that its length bounds. -/
def ReadsBack (room : Nat) (value : Value) : Prop :=
  ∀ (steps : Nat) (rest : List Char), 2 * (write value).length ≤ steps →
    readValue steps room (write value ++ rest) = .ok (value, rest)

theorem separated_cons_cons (first next : List Char) (rest : List (List Char)) :
    separated (first :: next :: rest) = first ++ ',' :: ' ' :: separated (next :: rest) := by
  rw [separated, List.intercalate_cons_cons, List.append_assoc]
  rfl

theorem separated_append (first : List Char) (rest : List (List Char)) :
    ∃ more, separated (first :: rest) = first ++ more := by
  cases rest with
  | nil => exact ⟨[], by rw [separated, List.intercalate_singleton, List.append_nil]⟩
  | cons next rest => exact ⟨_, separated_cons_cons first next rest⟩

theorem writeItems_head {room : Nat} {item : Value} {items : List Value}
    (plain : ∀ value ∈ item :: items, Plain room value) :
    ∃ first rest, separated (writeItems (item :: items)) = first :: rest ∧ first ≠ ']' := by
  obtain ⟨first, tail, begins, -, notClosing⟩ := write_head (plain item List.mem_cons_self)
  obtain ⟨more, isWritten⟩ := separated_append (write item) (writeItems items)
  rw [← writeItems, begins, List.cons_append] at isWritten
  exact ⟨first, tail ++ more, isWritten, notClosing⟩

theorem skipSpaces_blank (rest : List Char) : skipSpaces (' ' :: rest) = skipSpaces rest :=
  rfl

theorem skipSpaces_writeItems {room : Nat} {item : Value} (plain : Plain room item)
    (items : List Value) (rest : List Char) :
    skipSpaces (separated (writeItems (item :: items)) ++ rest) =
      separated (writeItems (item :: items)) ++ rest := by
  obtain ⟨more, isWritten⟩ := separated_append (write item) (writeItems items)
  rw [writeItems, isWritten, List.append_assoc, skipSpaces_write plain]

def readOnItems (steps room : Nat) (item : Value) : List Char → Read (List Value)
  | ']' :: after => .ok ([item], after)
  | ',' :: more =>
      match readItems steps room (skipSpaces more) with
      | .ok (items, after) => .ok (item :: items, after)
      | .error fault => .error fault
  | _ => .error .malformed

theorem readItems_item {room steps : Nat} {item : Value} (readsBack : ReadsBack room item)
    (enough : 2 * (write item).length ≤ steps) (rest : List Char) :
    readItems (steps + 1) room (write item ++ rest) =
      readOnItems steps room item (skipSpaces rest) := by
  rw [readItems, readsBack steps rest enough]
  rfl

theorem readItems_writeItems {room : Nat} {item : Value} {items : List Value}
    (plain : ∀ value ∈ item :: items, Plain room value)
    (members : ∀ value ∈ item :: items, ReadsBack room value) (steps : Nat) (rest : List Char)
    (enough : 2 * (separated (writeItems (item :: items))).length + 1 ≤ steps) :
    readItems steps room (separated (writeItems (item :: items)) ++ ']' :: rest) =
      .ok (item :: items, rest) := by
  induction items generalizing item steps with
  | nil =>
      obtain ⟨steps, rfl⟩ : ∃ fewer, steps = fewer + 1 := ⟨steps - 1, by omega⟩
      rw [List.forall_mem_singleton] at members
      have only : separated (writeItems [item]) = write item := List.intercalate_singleton
      rw [only] at enough ⊢
      rw [readItems_item members (by omega), skipSpaces_cons (by rfl)]
      rfl
  | cons next items ih =>
      obtain ⟨steps, rfl⟩ : ∃ fewer, steps = fewer + 1 := ⟨steps - 1, by omega⟩
      rw [writeItems, writeItems, separated_cons_cons, ← writeItems] at enough ⊢
      simp only [List.length_append, List.length_cons] at enough
      rw [List.forall_mem_cons] at plain members
      have later := ih plain.2 members.2 steps (by omega)
      have noBlank := skipSpaces_writeItems (plain.2 next List.mem_cons_self) items (']' :: rest)
      rw [List.append_assoc, List.cons_append, List.cons_append,
        readItems_item members.1 (by omega), skipSpaces_cons (by rfl), readOnItems,
        skipSpaces_blank, noBlank, later]

theorem separated_writeFields (field next : String × Value) (rest : Fields) :
    separated (writeFields (field :: next :: rest)) =
      writeText field.1 ++ ':' :: ' ' ::
        (write field.2 ++ ',' :: ' ' :: separated (writeFields (next :: rest))) := by
  rw [writeFields, writeFields, separated_cons_cons, ← writeFields, writeField,
    List.append_assoc, List.cons_append, List.cons_append]

theorem writeFields_append (field : String × Value) (fields : Fields) :
    ∃ rest, separated (writeFields (field :: fields)) = '"' :: rest := by
  obtain ⟨more, isWritten⟩ :=
    separated_append (writeField (writeText field.1) (write field.2)) (writeFields fields)
  rw [writeField, writeText, List.cons_append, List.cons_append] at isWritten
  exact ⟨_, isWritten⟩

theorem skipSpaces_writeFields (field : String × Value) (fields : Fields) (rest : List Char) :
    skipSpaces (separated (writeFields (field :: fields)) ++ rest) =
      separated (writeFields (field :: fields)) ++ rest := by
  obtain ⟨more, isWritten⟩ := writeFields_append field fields
  rw [isWritten, List.cons_append, skipSpaces_cons (by rfl)]

def entryOf (field : String × Value) : List Nat × Value :=
  (Text.codes field.1, field.2)

def readOnFields (steps room : Nat) (entry : List Nat × Value) :
    List Char → Read (List (List Nat × Value))
  | '}' :: after => .ok ([entry], after)
  | ',' :: more =>
      match readFields steps room (skipSpaces more) with
      | .ok (entries, after) => .ok (entry :: entries, after)
      | .error fault => .error fault
  | _ => .error .malformed

theorem readFields_name (steps room : Nat) (name : String) (rest : List Char) :
    readFields (steps + 1) room (writeText name ++ ':' :: ' ' :: rest) =
      match readValue steps room (skipSpaces rest) with
      | .ok (value, after) => readOnFields steps room (Text.codes name, value) (skipSpaces after)
      | .error fault => .error fault := by
  have codes := readCodes_writeText name (':' :: ' ' :: rest)
  rw [writeText, List.cons_append, List.append_assoc, List.singleton_append, readFields, codes]
  have colon : skipSpaces (':' :: ' ' :: rest) = ':' :: ' ' :: rest := rfl
  dsimp only
  split
  · next after follows =>
      rw [colon] at follows
      obtain ⟨-, rfl⟩ := List.cons.inj follows
      rw [skipSpaces_blank]
      cases readValue steps room (skipSpaces rest) <;> rfl
  · next other => exact absurd colon (other _)

theorem readFields_field {room steps : Nat} {field : String × Value}
    (plain : Plain room field.2) (readsBack : ReadsBack room field.2)
    (enough : 2 * (write field.2).length ≤ steps) (rest : List Char) :
    readFields (steps + 1) room (writeText field.1 ++ ':' :: ' ' :: (write field.2 ++ rest)) =
      readOnFields steps room (entryOf field) (skipSpaces rest) := by
  rw [readFields_name, skipSpaces_write plain, readsBack steps rest enough]
  rfl

theorem readFields_writeFields {room : Nat} {field : String × Value} {fields : Fields}
    (plain : ∀ entry ∈ field :: fields, Plain room entry.2)
    (members : ∀ entry ∈ field :: fields, ReadsBack room entry.2) (steps : Nat)
    (rest : List Char)
    (enough : 2 * (separated (writeFields (field :: fields))).length + 1 ≤ steps) :
    readFields steps room (separated (writeFields (field :: fields)) ++ '}' :: rest) =
      .ok ((field :: fields).map entryOf, rest) := by
  induction fields generalizing field steps with
  | nil =>
      obtain ⟨steps, rfl⟩ : ∃ fewer, steps = fewer + 1 := ⟨steps - 1, by omega⟩
      rw [List.forall_mem_singleton] at plain members
      have only :
          separated (writeFields [field]) = writeField (writeText field.1) (write field.2) :=
        List.intercalate_singleton
      rw [only, writeField] at enough ⊢
      simp only [List.length_append, List.length_cons] at enough
      rw [List.append_assoc, List.cons_append, List.cons_append,
        readFields_field plain members (by omega), skipSpaces_cons (by rfl)]
      rfl
  | cons next fields ih =>
      obtain ⟨steps, rfl⟩ : ∃ fewer, steps = fewer + 1 := ⟨steps - 1, by omega⟩
      rw [separated_writeFields] at enough ⊢
      simp only [List.length_append, List.length_cons] at enough
      rw [List.forall_mem_cons] at plain members
      have later := ih plain.2 members.2 steps (by omega)
      have noBlank := skipSpaces_writeFields next fields ('}' :: rest)
      simp only [List.append_assoc, List.cons_append]
      rw [readFields_field plain.1 members.1 (by omega), skipSpaces_cons (by rfl), readOnFields,
        skipSpaces_blank, noBlank, later]
      rfl

theorem readsBack_text (room : Nat) (text : String) : ReadsBack room (.text text) := by
  intro steps rest enough
  rw [write, writeText, List.length_cons] at enough
  obtain ⟨steps, rfl⟩ : ∃ fewer, steps = fewer + 1 := ⟨steps - 1, by omega⟩
  have reads := readCodes_writeText text rest
  rw [write, writeText, List.cons_append, List.append_assoc, List.singleton_append, readValue,
    reads]
  dsimp only
  rw [ofCodes, Text.ofCodes?_codes]

theorem readsBack_list {room : Nat} {items : List Value}
    (plain : ∀ item ∈ items, Plain room item) (members : ∀ item ∈ items, ReadsBack room item) :
    ReadsBack (room + 1) (.list items) := by
  intro steps rest enough
  rw [write, List.length_cons, List.length_append, List.length_singleton] at enough
  obtain ⟨steps, rfl⟩ : ∃ fewer, steps = fewer + 1 := ⟨steps - 1, by omega⟩
  rw [write, List.cons_append, List.append_assoc, List.singleton_append, readValue]
  cases items with
  | nil => rfl
  | cons item items =>
      have reads := readItems_writeItems plain members steps rest (by omega)
      have noBlank := skipSpaces_writeItems (plain item List.mem_cons_self) items (']' :: rest)
      obtain ⟨first, more, begins, notClosing⟩ := writeItems_head plain
      rw [noBlank]
      rw [begins, List.cons_append] at reads ⊢
      split
      · next closes => exact absurd (List.cons.inj closes).1 notClosing
      · rw [reads]

theorem readsBack_object {room : Nat} {fields : Fields}
    (distinct : (fields.map Prod.fst).Nodup) (plain : ∀ field ∈ fields, Plain room field.2)
    (members : ∀ field ∈ fields, ReadsBack room field.2) :
    ReadsBack (room + 1) (.object fields) := by
  intro steps rest enough
  rw [write, List.length_cons, List.length_append, List.length_singleton] at enough
  obtain ⟨steps, rfl⟩ : ∃ fewer, steps = fewer + 1 := ⟨steps - 1, by omega⟩
  rw [write, List.cons_append, List.append_assoc, List.singleton_append, readValue]
  cases fields with
  | nil => rfl
  | cons field fields =>
      have reads := readFields_writeFields plain members steps rest (by omega)
      have noBlank := skipSpaces_writeFields field fields ('}' :: rest)
      obtain ⟨more, begins⟩ := writeFields_append field fields
      rw [noBlank]
      rw [begins, List.cons_append] at reads ⊢
      split
      · next closes => cases closes
      · rw [reads]
        dsimp only
        rw [show entryOf = fun field : String × Value => (Text.codes field.1, field.2) from rfl,
          ofFields_codes distinct]

theorem readsBack_of_plain {room : Nat} {value : Value} (plain : Plain room value) :
    ReadsBack room value := by
  induction plain with
  | null room =>
      intro steps rest enough
      cases steps with
      | zero => cases enough
      | succ steps => simp [write, readValue, readAtom]
  | bool room value =>
      intro steps rest enough
      cases steps with
      | zero => cases value <;> cases enough
      | succ steps => cases value <;> simp [write, readValue, readAtom]
  | text room value => exact readsBack_text room value
  | list parts ih => exact readsBack_list parts ih
  | object distinct parts ih => exact readsBack_object distinct parts ih

/-- A plain value is given back by the text that it is written to. -/
theorem readWithin_write {limit : Nat} {value : Value} (plain : Plain limit value) :
    readWithin limit (write value) = .ok value := by
  have noBlank := skipSpaces_write plain []
  have reads := readsBack_of_plain plain (2 * (write value).length + 1) [] (by omega)
  rw [List.append_nil] at noBlank reads
  rw [readWithin, noBlank, reads]
  rfl

end Json

end AccessDecision
