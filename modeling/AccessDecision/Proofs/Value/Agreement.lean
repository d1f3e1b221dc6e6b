import AccessDecision.Value.Agreement

/-!
# Agreement is an equality

Values that agree as parts of something larger are alike in form: numbers have the same exact size,
lists have agreeing items at the same places, and objects have agreeing values, or none, under the
same names.  Read in this way agreement is an equivalence, by induction on the parts of one of the
values, and values that agree count as the same truth value.
-/

namespace AccessDecision

theorem Float64.quantity_eq_zero (negative : Bool) (significand : Nat) (exponent : Int) :
    (Float64.finite negative significand exponent).quantity = .finite 0 ↔ significand = 0 := by
  have positive : (0 : Rat) < 2 ^ exponent := Rat.zpow_pos (by decide)
  have scaled : (significand : Rat) * 2 ^ exponent = 0 ↔ significand = 0 := by
    rw [Rat.mul_eq_zero, Rat.natCast_eq_zero_iff]
    exact or_iff_left (Rat.ne_of_gt positive)
  rw [quantity, Quantity.finite.injEq, ← scaled]
  cases negative with
  | false => rfl
  | true =>
      rw [if_pos rfl]
      grind

namespace Value

/-- The values that a value is made of. -/
def parts : Value → List Value
  | .list items => items
  | .object fields => fields.map Prod.snd
  | .brokenObject fields => fields.map Prod.snd
  | _ => []

theorem sizeOf_part_lt {value part : Value} (isPart : part ∈ value.parts) :
    sizeOf part < sizeOf value := by
  cases value with
  | list items =>
      have smaller : sizeOf part < sizeOf items := List.sizeOf_lt_of_mem isPart
      simp only [list.sizeOf_spec]
      omega
  | object fields =>
      obtain ⟨⟨name, kept⟩, isField, rfl⟩ := List.mem_map.mp isPart
      have smaller := List.sizeOf_lt_of_mem isField
      simp only [object.sizeOf_spec, Prod.mk.sizeOf_spec] at *
      omega
  | brokenObject fields =>
      obtain ⟨⟨name, kept⟩, isField, rfl⟩ := List.mem_map.mp isPart
      have smaller := List.sizeOf_lt_of_mem isField
      simp only [brokenObject.sizeOf_spec, Prod.mk.sizeOf_spec] at *
      omega
  | _ => cases isPart

/-- Induction on the parts of a value. -/
@[elab_as_elim]
theorem inductionOnParts {motive : Value → Prop}
    (step : ∀ value, (∀ part ∈ value.parts, motive part) → motive value) (value : Value) :
    motive value :=
  step value fun part _ => inductionOnParts step part
termination_by sizeOf value
decreasing_by exact sizeOf_part_lt ‹_›

/-- Parts at the same place: none on either side, or two that agree. -/
abbrev PartsAgree : Option Value → Option Value → Prop :=
  Option.Rel fun left right => left.partAgrees right = true

theorem isSome_of_partsAgree {left right : Option Value} (agree : PartsAgree left right) :
    left.isSome = right.isSome := by
  cases agree <;> rfl

section Fields

variable {κ : Type} [BEq κ]

def tests (fields : List (κ × Value)) : List (κ × (Value → Bool)) :=
  fields.map fun field => (field.1, field.2.partAgrees)

theorem fieldTests_eq (fields : Fields) : fieldTests fields = tests fields := by
  induction fields with
  | nil => rfl
  | cons field rest ih => rw [fieldTests, ih]; rfl

theorem codedFieldTests_eq (fields : List (List Nat × Value)) :
    codedFieldTests fields = tests fields := by
  induction fields with
  | nil => rfl
  | cons field rest ih => rw [codedFieldTests, ih]; rfl

theorem lookup_tests (fields : List (κ × Value)) (name : κ) :
    (tests fields).lookup name = (fields.lookup name).map partAgrees := by
  induction fields with
  | nil => rfl
  | cons field rest ih =>
      rw [tests, List.map_cons, List.lookup_cons, List.lookup_cons, ← tests, ih]
      split <;> rfl

variable [LawfulBEq κ]

theorem lookup_isSome_of_mem {fields : List (κ × Value)} {field : κ × Value}
    (isField : field ∈ fields) : (fields.lookup field.1).isSome = true :=
  List.lookup_isSome_iff.mpr ⟨field, isField, beq_self_eq_true field.1⟩

theorem mem_of_lookup {fields : List (κ × Value)} {name : κ} {value : Value}
    (found : fields.lookup name = some value) : (name, value) ∈ fields := by
  obtain ⟨before, after, rfl, -⟩ := List.lookup_eq_some_iff.mp found
  exact List.mem_append_right before List.mem_cons_self

/-- Two objects agree if under every name they have agreeing values, or none. -/
theorem fields_agree_iff {lefts rights : List (κ × Value)} :
    fieldsAgree (tests lefts) rights = true ↔
      ∀ name, PartsAgree (lefts.lookup name) (rights.lookup name) := by
  rw [fieldsAgree, Bool.and_eq_true, List.all_eq_true, List.all_eq_true]
  simp only [lookup_tests, Option.isSome_map]
  constructor
  · rintro ⟨known, agree⟩ name
    cases found : lefts.lookup name with
    | some left =>
        have same := agree (name, left.partAgrees)
          (List.mem_map.mpr ⟨(name, left), mem_of_lookup found, rfl⟩)
        rw [found, Option.map_some, Option.any_some, Option.any_eq_true] at same
        obtain ⟨right, foundToo, same⟩ := same
        rw [foundToo]
        exact .some same
    | none =>
        cases foundToo : rights.lookup name with
        | none => exact .none
        | some right =>
            have isSome := known (name, right) (mem_of_lookup foundToo)
            rw [found] at isSome
            cases isSome
  · intro agree
    constructor
    · intro field isField
      rw [isSome_of_partsAgree (agree field.1)]
      exact lookup_isSome_of_mem isField
    · intro test isTest
      obtain ⟨field, isField, rfl⟩ := List.mem_map.mp isTest
      have same := agree field.1
      obtain ⟨left, found⟩ := Option.isSome_iff_exists.mp (lookup_isSome_of_mem isField)
      rw [found] at same ⊢
      rw [Option.map_some, Option.any_some, Option.any_eq_true]
      generalize rights.lookup field.1 = right at same ⊢
      cases same with
      | some agrees => exact ⟨_, rfl, agrees⟩

end Fields

theorem items_agree_iff {lefts rights : List Value} :
    itemsAgree lefts rights = true ↔ ∀ index : Nat, PartsAgree lefts[index]? rights[index]? := by
  induction lefts generalizing rights with
  | nil =>
      cases rights with
      | nil => simp [itemsAgree]
      | cons right rights =>
          refine ⟨fun agree => ?_, fun agree => ?_⟩
          · simp [itemsAgree] at agree
          · cases isSome_of_partsAgree (agree 0)
  | cons left lefts ih =>
      cases rights with
      | nil =>
          refine ⟨fun agree => ?_, fun agree => ?_⟩
          · simp [itemsAgree] at agree
          · cases isSome_of_partsAgree (agree 0)
      | cons right rights =>
          rw [itemsAgree_cons, Bool.and_eq_true, ih]
          constructor
          · rintro ⟨first, later⟩ (_ | index)
            · exact .some first
            · exact later index
          · intro agree
            refine ⟨?_, fun index => agree (index + 1)⟩
            cases agree 0 with
            | some first => exact first

/-- Two values that agree as parts, one level deep. -/
inductive Same : Value → Value → Prop where
  | null : Same .null .null
  | undefined : Same (.float .undefined) (.float .undefined)
  | number {left right : Value} {size : Quantity} (isLeft : left.quantity? = some size)
      (isRight : right.quantity? = some size) (defined : size ≠ .undefined) : Same left right
  | text (text : String) : Same (.text text) (.text text)
  | brokenText (codes : List Nat) : Same (.brokenText codes) (.brokenText codes)
  | list {lefts rights : List Value}
      (items : ∀ index : Nat, PartsAgree lefts[index]? rights[index]?) :
      Same (.list lefts) (.list rights)
  | object {lefts rights : Fields}
      (fields : ∀ name, PartsAgree (lefts.lookup name) (rights.lookup name)) :
      Same (.object lefts) (.object rights)
  | brokenObject {lefts rights : List (List Nat × Value)}
      (fields : ∀ name, PartsAgree (lefts.lookup name) (rights.lookup name)) :
      Same (.brokenObject lefts) (.brokenObject rights)

theorem same_of_agrees {left right : Value} (agree : left.agrees right = true) :
    Same left right := by
  rw [agrees.eq_def] at agree
  split at agree
  · exact .null
  · rw [eq_of_beq agree]
    exact .text _
  · rw [eq_of_beq agree]
    exact .brokenText _
  · exact .list (items_agree_iff.mp agree)
  · rw [fieldTests_eq] at agree
    exact .object (fields_agree_iff.mp agree)
  · rw [codedFieldTests_eq] at agree
    exact .brokenObject (fields_agree_iff.mp agree)
  · split at agree
    · rename_i first second isFirst isSecond
      have equal := Quantity.eq_of_agrees agree
      subst equal
      refine .number isFirst isSecond ?_
      rintro rfl
      cases agree
    · cases agree

theorem agrees_of_quantity_eq {left right : Value} {size : Quantity}
    (isLeft : left.quantity? = some size) (isRight : right.quantity? = some size)
    (defined : size ≠ .undefined) : left.agrees right = true := by
  rw [agrees_of_quantity isLeft isRight]
  cases size with
  | finite size => exact decide_eq_true rfl
  | infinite negative => exact beq_self_eq_true negative
  | undefined => exact absurd rfl defined

theorem partAgrees_iff {left right : Value} : left.partAgrees right = true ↔ Same left right := by
  constructor
  · intro agree
    rw [partAgrees, Bool.or_eq_true, Bool.and_eq_true] at agree
    rcases agree with ⟨isLeft, isRight⟩ | agree
    · have undefined {value : Value} (isUndefined : value.isUndefined = true) :
          value = .float .undefined := by
        rw [Value.isUndefined.eq_def] at isUndefined
        split at isUndefined
        · rfl
        · cases isUndefined
      rw [undefined isLeft, undefined isRight]
      exact .undefined
    · exact same_of_agrees agree
  · intro same
    rw [partAgrees, Bool.or_eq_true]
    cases same with
    | undefined => exact .inl rfl
    | number isLeft isRight defined => exact .inr (agrees_of_quantity_eq isLeft isRight defined)
    | null => exact .inr (by rw [agrees])
    | text text => exact .inr (by rw [agrees, beq_self_eq_true])
    | brokenText codes => exact .inr (by rw [agrees, beq_self_eq_true])
    | list items => exact .inr (by rw [agrees, items_agree_iff.mpr items])
    | object fields => exact .inr (by rw [agrees, fieldTests_eq, fields_agree_iff.mpr fields])
    | brokenObject fields =>
        exact .inr (by rw [agrees, codedFieldTests_eq, fields_agree_iff.mpr fields])

theorem partAgrees_of_agrees {left right : Value} (agree : left.agrees right = true) :
    left.partAgrees right = true := by
  rw [partAgrees, agree, Bool.or_true]

section Equivalence

theorem mem_parts_of_lookup {κ : Type} [BEq κ] [LawfulBEq κ] {fields : List (κ × Value)} {name : κ}
    {value : Value} (found : fields.lookup name = some value) :
    value ∈ fields.map Prod.snd :=
  List.mem_map.mpr ⟨(name, value), mem_of_lookup found, rfl⟩

theorem partsAgree_refl {part : Option Value}
    (agree : ∀ value, part = some value → value.partAgrees value = true) :
    PartsAgree part part := by
  cases part with
  | none => exact .none
  | some value => exact .some (agree value rfl)

theorem partsAgree_symm {left right : Option Value}
    (swap : ∀ value, left = some value → ∀ other, value.partAgrees other = true →
      other.partAgrees value = true) (agree : PartsAgree left right) : PartsAgree right left := by
  cases agree with
  | none => exact .none
  | some same => exact .some (swap _ rfl _ same)

theorem partsAgree_trans {left middle right : Option Value}
    (follow : ∀ value, left = some value → ∀ other last, value.partAgrees other = true →
      other.partAgrees last = true → value.partAgrees last = true)
    (agree : PartsAgree left middle) (agreeToo : PartsAgree middle right) :
    PartsAgree left right := by
  cases agree with
  | none => exact agreeToo
  | some same =>
      cases agreeToo with
      | some sameToo => exact .some (follow _ rfl _ _ same sameToo)

theorem partAgrees_refl (value : Value) : value.partAgrees value = true := by
  induction value using inductionOnParts with
  | step value ih =>
  rw [partAgrees_iff]
  cases value with
  | null => exact .null
  | bool value => exact .number rfl rfl nofun
  | int value => exact .number rfl rfl nofun
  | float value =>
      cases value with
      | finite negative significand exponent => exact .number rfl rfl nofun
      | infinite negative => exact .number rfl rfl nofun
      | undefined => exact .undefined
  | text text => exact .text text
  | brokenText codes => exact .brokenText codes
  | list items =>
      exact .list fun index => partsAgree_refl fun part found =>
        ih part (List.mem_of_getElem? found)
  | object fields =>
      exact .object fun name => partsAgree_refl fun part found => ih part (mem_parts_of_lookup found)
  | brokenObject fields =>
      exact .brokenObject fun name => partsAgree_refl fun part found =>
        ih part (mem_parts_of_lookup found)

theorem partAgrees_symm {left right : Value} (agree : left.partAgrees right = true) :
    right.partAgrees left = true := by
  induction left using inductionOnParts generalizing right with
  | step left ih =>
  rw [partAgrees_iff] at agree ⊢
  cases agree with
  | null => exact .null
  | undefined => exact .undefined
  | number isLeft isRight defined => exact .number isRight isLeft defined
  | text text => exact .text text
  | brokenText codes => exact .brokenText codes
  | list items =>
      exact .list fun index => partsAgree_symm
        (fun part found _ same => ih part (List.mem_of_getElem? found) same) (items index)
  | object fields =>
      exact .object fun name => partsAgree_symm
        (fun part found _ same => ih part (mem_parts_of_lookup found) same) (fields name)
  | brokenObject fields =>
      exact .brokenObject fun name => partsAgree_symm
        (fun part found _ same => ih part (mem_parts_of_lookup found) same) (fields name)

theorem partAgrees_trans {left middle right : Value} (agree : left.partAgrees middle = true)
    (agreeToo : middle.partAgrees right = true) : left.partAgrees right = true := by
  induction left using inductionOnParts generalizing middle right with
  | step left ih =>
  rw [partAgrees_iff] at agree agreeToo ⊢
  cases agree with
  | null => exact agreeToo
  | undefined => exact agreeToo
  | text text => exact agreeToo
  | brokenText codes => exact agreeToo
  | number isLeft isMiddle defined =>
      -- The value in the middle has a size, so the one on the right is no text, list or object.
      cases agreeToo with
      | number isMiddleToo isRight _ =>
          cases isMiddle.symm.trans isMiddleToo
          exact .number isLeft isRight defined
      | undefined =>
          cases isMiddle
          exact absurd rfl defined
      | _ => cases isMiddle
  | list items =>
      cases agreeToo with
      | number isMiddle => cases isMiddle
      | list itemsToo =>
          exact .list fun index => partsAgree_trans
            (fun part found _ _ same sameToo => ih part (List.mem_of_getElem? found) same sameToo)
            (items index) (itemsToo index)
  | object fields =>
      cases agreeToo with
      | number isMiddle => cases isMiddle
      | object fieldsToo =>
          exact .object fun name => partsAgree_trans
            (fun part found _ _ same sameToo => ih part (mem_parts_of_lookup found) same sameToo)
            (fields name) (fieldsToo name)
  | brokenObject fields =>
      cases agreeToo with
      | number isMiddle => cases isMiddle
      | brokenObject fieldsToo =>
          exact .brokenObject fun name => partsAgree_trans
            (fun part found _ _ same sameToo => ih part (mem_parts_of_lookup found) same sameToo)
            (fields name) (fieldsToo name)

end Equivalence

section Truth

theorem truthy_of_quantity {value : Value} {size : Quantity}
    (isSize : value.quantity? = some size) : value.truthy = decide (size ≠ .finite 0) := by
  cases value with
  | bool value =>
      cases isSize
      cases value <;> rfl
  | int value =>
      cases isSize
      rw [truthy, Bool.eq_iff_iff]
      simp
  | float value =>
      cases isSize
      cases value with
      | finite negative significand exponent =>
          rw [truthy, Bool.eq_iff_iff, bne_iff_ne, decide_eq_true_iff, ne_eq, ne_eq,
            Float64.quantity_eq_zero]
      | infinite negative => rfl
      | undefined => rfl
  | _ => cases isSize

theorem isEmpty_iff_lookup {κ : Type} [BEq κ] [LawfulBEq κ] {fields : List (κ × Value)} :
    fields.isEmpty = true ↔ ∀ name, (fields.lookup name).isSome = false := by
  cases fields with
  | nil => exact ⟨fun _ _ => rfl, fun _ => rfl⟩
  | cons field rest =>
      refine ⟨nofun, fun missing => ?_⟩
      have isField : field ∈ field :: rest := List.mem_cons_self
      have found := lookup_isSome_of_mem isField
      rw [missing] at found
      cases found

theorem isEmpty_of_fields {κ : Type} [BEq κ] [LawfulBEq κ] {lefts rights : List (κ × Value)}
    (agree : ∀ name, PartsAgree (lefts.lookup name) (rights.lookup name)) :
    lefts.isEmpty = rights.isEmpty := by
  rw [Bool.eq_iff_iff, isEmpty_iff_lookup, isEmpty_iff_lookup]
  simp only [fun name => isSome_of_partsAgree (agree name)]

theorem truthy_of_partAgrees {left right : Value} (agree : left.partAgrees right = true) :
    left.truthy = right.truthy := by
  cases partAgrees_iff.mp agree with
  | number isLeft isRight _ => rw [truthy_of_quantity isLeft, truthy_of_quantity isRight]
  | @list lefts rights items =>
      have first := isSome_of_partsAgree (items 0)
      cases lefts <;> cases rights <;> first | rfl | cases first
  | object fields => exact congrArg not (isEmpty_of_fields fields)
  | _ => rfl

end Truth

end Value

end AccessDecision
