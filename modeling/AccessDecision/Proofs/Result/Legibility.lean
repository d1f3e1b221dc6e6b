import AccessDecision.Proofs.Result.Codes
import AccessDecision.Proofs.Text.Splitting

/-!
# Rendered results can be read

A rendered result has no brackets: what belongs to a node is told by the indentation of the
lines that follow it.  Every line of a node that stands below another one is indented deeper, and
a combination has at least one such line, which no decision of a single policy has.  A line is
taken apart by its mark, which tells the outcome, and by the words that stand behind the name.
-/

namespace AccessDecision

namespace Value

structure IsLine (value : Value) : Prop where
  isText : value.IsText
  unbroken : 10 ∉ value.codes

theorem IsLine.ne_null {value : Value} (isLine : value.IsLine) : value ≠ .null := by
  rintro rfl
  cases isLine.isText

theorem unbroken_codesAfter {value : Value} (isReason : value = .null ∨ value.IsLine) :
    10 ∉ value.codesAfter ": " := by
  rcases isReason with rfl | isLine
  · exact List.not_mem_nil
  · have separator : 10 ∉ Text.codes ": " := by decide
    rw [codesAfter_of_ne_null ": " isLine.ne_null, List.mem_append, not_or]
    exact ⟨separator, isLine.unbroken⟩

theorem codesAfter_injective {value other : Value} (isReason : value = .null ∨ value.IsLine)
    (isReasonToo : other = .null ∨ other.IsLine)
    (same : value.codesAfter ": " = other.codesAfter ": ") : value = other := by
  rcases isReason with rfl | isLine
  · rcases isReasonToo with rfl | isLineToo
    · rfl
    · rw [codesAfter_of_ne_null ": " isLineToo.ne_null] at same
      cases same
  · rcases isReasonToo with rfl | isLineToo
    · rw [codesAfter_of_ne_null ": " isLine.ne_null] at same
      cases same
    · rw [codesAfter_of_ne_null ": " isLine.ne_null,
        codesAfter_of_ne_null ": " isLineToo.ne_null] at same
      exact isLine.isText.codes_injective isLineToo.isText (List.append_cancel_left same)

end Value

namespace Result

/-- A result that the constructors give, whose names and reasons are lines, where the name of
the policy does not contain what is shown after it. -/
inductive Legible : Result → Prop where
  | granted {policy reason : Value} (isName : policy.IsLine)
      (unmarked : ¬ Text.codes " GRANTED" <:+: policy.codes)
      (isReason : reason = .null ∨ reason.IsLine) : Legible (.granted policy reason)
  | denied {policy reason : Value} (isName : policy.IsLine)
      (unmarked : ¬ Text.codes " DENIED:" <:+: policy.codes)
      (isReason : reason.IsLine) : Legible (.denied policy reason)
  | combined {policy : Value} {operation : Connective} {children : List Result}
      {declared outcome : Value} (isName : policy.IsLine)
      (made : declare policy operation children declared =
        .ok (.combined policy operation children outcome))
      (parts : ∀ child ∈ children, Legible child) :
      Legible (.combined policy operation children outcome)

mutual

/-- The same tree: at every position the same kind of node with the same name, reason,
connective and truth of the outcome. -/
inductive Alike : Result → Result → Prop where
  | granted (policy reason : Value) : Alike (.granted policy reason) (.granted policy reason)
  | denied (policy reason : Value) : Alike (.denied policy reason) (.denied policy reason)
  | combined {children others : List Result} {outcome other : Value} (policy : Value)
      (operation : Connective) (truth : outcome.truthy = other.truthy)
      (parts : AlikeParts children others) :
      Alike (.combined policy operation children outcome)
        (.combined policy operation others other)

inductive AlikeParts : List Result → List Result → Prop where
  | nil : AlikeParts [] []
  | cons {child other : Result} {children others : List Result} (first : Alike child other)
      (rest : AlikeParts children others) : AlikeParts (child :: children) (other :: others)

end

mutual

/-- Trees that are the same are rendered in the same way. -/
theorem Alike.codes_eq (width : Nat) :
    ∀ {result other : Result}, Alike result other → result.codes width = other.codes width
  | _, _, .granted .. => rfl
  | _, _, .denied .. => rfl
  | _, _, @Alike.combined children others outcome other policy operation truth parts => by
      have below := parts.codesBelow_eq (width + 2)
      have granted : (Result.combined policy operation children outcome).isGranted =
          (Result.combined policy operation others other).isGranted := truth
      rw [codes, codes, below, nodeCodes, nodeCodes, granted]
      rfl

theorem AlikeParts.codesBelow_eq (width : Nat) :
    ∀ {children others : List Result}, AlikeParts children others →
      codesBelow width children = codesBelow width others
  | _, _, .nil => rfl
  | _, _, .cons first rest => by
      rw [codesBelow, codesBelow, first.codes_eq width, rest.codesBelow_eq width]

end

theorem children_ne_nil {policy : Value} {operation : Connective} {children : List Result}
    {declared outcome : Value}
    (made : declare policy operation children declared =
      .ok (.combined policy operation children outcome)) : children ≠ [] := by
  rintro rfl
  cases operation <;> cases made

theorem Legible.children {result : Result} (legible : result.Legible) :
    ∀ child ∈ result.children, child.Legible := by
  cases legible with
  | granted _ _ _ => exact nofun
  | denied _ _ _ => exact nofun
  | combined _ _ parts => exact parts

theorem Legible.unbroken {result : Result} (legible : result.Legible) :
    10 ∉ result.labelCodes := by
  cases legible with
  | granted isName _ isReason =>
      have word : 10 ∉ Text.codes " GRANTED" := by decide
      have after := Value.unbroken_codesAfter isReason
      simp [labelCodes, isName.unbroken, word, after]
  | denied isName _ isReason =>
      have word : 10 ∉ Text.codes " DENIED:" := by decide
      simp [labelCodes, isName.unbroken, isReason.unbroken, word]
  | @combined policy operation children declared outcome isName made parts =>
      have word : 10 ∉ Text.codes (" (" ++ operation.label ++ ")") := by
        cases operation <;> decide
      simp only [labelCodes, List.mem_append, not_or]
      exact ⟨isName.unbroken, word⟩

theorem Legible.unbroken_nodeCodes {result : Result} (legible : result.Legible) (width : Nat) :
    ∀ code ∈ nodeCodes width result, code ≠ 10 := by
  have label := legible.unbroken
  have outcome : (mark result.isGranted).toNat ≠ 10 := by
    cases result.isGranted <;> decide
  rintro code member rfl
  rw [nodeCodes, List.mem_append, List.mem_replicate, List.mem_cons, List.mem_cons] at member
  rcases member with ⟨-, equal⟩ | equal | equal | member
  · cases equal
  · exact outcome equal.symm
  · cases equal
  · exact label member

theorem of_nodeCodes_eq {width : Nat} {first second : Result}
    (same : nodeCodes width first = nodeCodes width second) :
    first.isGranted = second.isGranted ∧ first.labelCodes = second.labelCodes := by
  have line := List.append_cancel_left same
  rw [List.cons.injEq, List.cons.injEq] at line
  obtain ⟨marks, -, labels⟩ := line
  refine ⟨?_, labels⟩
  cases granted : first.isGranted <;> cases grantedToo : second.isGranted <;>
    first | rfl | (rw [granted, grantedToo] at marks; exact absurd marks (by decide))

theorem operation_unique {name other : List Nat} {operation another : Connective}
    (same : name ++ Text.codes (" (" ++ operation.label ++ ")") =
      other ++ Text.codes (" (" ++ another.label ++ ")")) :
    name = other ∧ operation = another := by
  have last := congrArg (List.take 4 ∘ List.reverse) same
  simp only [Function.comp_apply, List.reverse_append] at last
  have operations : operation = another := by
    cases operation <;> cases another <;>
      first
        | rfl
        | exact absurd last (by simp [Text.codes, Connective.label])
  subst operations
  exact ⟨List.append_cancel_right same, rfl⟩

theorem codes_granted : Text.codes " GRANTED" = [32, 71, 82, 65, 78, 84, 69, 68] := by
  decide

theorem codes_denied : Text.codes " DENIED:" = [32, 68, 69, 78, 73, 69, 68, 58] := by
  decide

/-- Nodes whose lines are the same stand for the same decision, if their parts do. -/
theorem alike_of_nodeCodes {width : Nat} {first second : Result} (legible : first.Legible)
    (legibleToo : second.Legible) (same : nodeCodes width first = nodeCodes width second)
    (parts : AlikeParts first.children second.children) : Alike first second := by
  obtain ⟨outcome, label⟩ := of_nodeCodes_eq same
  cases legible with
  | granted isName unmarked isReason =>
      cases legibleToo with
      | granted isNameToo unmarkedToo isReasonToo =>
          rw [labelCodes, labelCodes, codes_granted] at label
          rw [codes_granted] at unmarked unmarkedToo
          obtain ⟨names, after⟩ := Text.marker_unique (by decide) unmarked unmarkedToo label
          have name := isName.isText.codes_injective isNameToo.isText names
          have reason := Value.codesAfter_injective isReason isReasonToo after
          subst name reason
          exact .granted _ _
      | denied _ _ _ => cases outcome
      | combined _ made _ =>
          cases parts
          exact absurd rfl (children_ne_nil made)
  | denied isName unmarked isReason =>
      cases legibleToo with
      | granted _ _ _ => cases outcome
      | denied isNameToo unmarkedToo isReasonToo =>
          rw [labelCodes, labelCodes, codes_denied] at label
          rw [codes_denied] at unmarked unmarkedToo
          obtain ⟨names, after⟩ := Text.marker_unique (by decide) unmarked unmarkedToo label
          have name := isName.isText.codes_injective isNameToo.isText names
          have reason := isReason.isText.codes_injective isReasonToo.isText
            (List.cons.inj after).2
          subst name reason
          exact .denied _ _
      | combined _ made _ =>
          cases parts
          exact absurd rfl (children_ne_nil made)
  | combined isName made _ =>
      cases legibleToo with
      | granted _ _ _ =>
          cases parts
          exact absurd rfl (children_ne_nil made)
      | denied _ _ _ =>
          cases parts
          exact absurd rfl (children_ne_nil made)
      | combined isNameToo _ _ =>
          obtain ⟨names, operation⟩ := operation_unique label
          have name := isName.isText.codes_injective isNameToo.isText names
          subst name operation
          exact .combined _ _ outcome parts

/-- What may follow a tree whose lines stand at an indentation: nothing, or a line that is
not indented deeper. -/
def Ends (width : Nat) (rest : List Nat) : Prop :=
  rest = [] ∨ ∃ indent ≤ width, ∃ symbol later, symbol ≠ 32 ∧
    rest = 10 :: (List.replicate indent 32 ++ symbol :: later)

theorem Ends.mono {width wider : Nat} {rest : List Nat} (ends : Ends width rest)
    (wide : width ≤ wider) : Ends wider rest := by
  rcases ends with rfl | ⟨indent, within, line⟩
  · exact .inl rfl
  · exact .inr ⟨indent, by omega, line⟩

theorem Ends.head? {width : Nat} {rest : List Nat} (ends : Ends width rest) :
    ∀ code ∈ rest.head?, ¬ code ≠ 10 := by
  rcases ends with rfl | ⟨indent, -, symbol, later, -, rfl⟩ <;> simp

theorem mark_ne_space (granted : Bool) : (mark granted).toNat ≠ 32 := by
  cases granted <;> decide

theorem codesBelow_cons (width : Nat) (child : Result) (children : List Result)
    (rest : List Nat) :
    ∃ later, codesBelow width (child :: children) ++ rest =
      10 :: (List.replicate width 32 ++ (mark child.isGranted).toNat :: later) := by
  rw [codesBelow, child.codes_eq, nodeCodes]
  simp only [List.cons_append, List.append_assoc]
  exact ⟨_, rfl⟩

/-- The children of a node end what stands before them at their own indentation. -/
theorem ends_codesBelow {width narrower : Nat} {children : List Result} {rest : List Nat}
    (ends : Ends narrower rest) (within : narrower ≤ width) :
    Ends width (codesBelow width children ++ rest) := by
  cases children with
  | nil => exact ends.mono within
  | cons child children =>
      obtain ⟨later, line⟩ := codesBelow_cons width child children rest
      exact .inr ⟨width, Nat.le_refl width, _, later, mark_ne_space _, line⟩

theorem Ends.ne_deeper {width deeper : Nat} {rest other : List Nat} {child : Result}
    {children : List Result} (ends : Ends width rest) (isDeeper : width < deeper) :
    rest ≠ codesBelow deeper (child :: children) ++ other := by
  obtain ⟨later, line⟩ := codesBelow_cons deeper child children other
  rw [line]
  rcases ends with rfl | ⟨indent, within, symbol, tail, visible, rfl⟩
  · exact nofun
  · intro same
    have spaces (count : Nat) : ∀ code ∈ List.replicate count 32, code = 32 :=
      fun code member => List.eq_of_mem_replicate member
    obtain ⟨equal, -⟩ := Text.append_unique (spaces indent) (spaces deeper) (by simpa using visible)
      (by simpa using mark_ne_space _) (List.cons.inj same).2
    have indents := congrArg List.length equal
    rw [List.length_replicate, List.length_replicate] at indents
    omega

/-- A result can be read off its lines and what follows them. -/
def Readable (result : Result) : Prop :=
  ∀ (other : Result) (width : Nat) (rest left : List Nat), other.Legible → Ends width rest →
    Ends width left → result.codes width ++ rest = other.codes width ++ left →
    Alike result other ∧ rest = left

theorem alikeParts_of_codesBelow {children others : List Result} {width narrower : Nat}
    {rest left : List Nat} (members : ∀ child ∈ children, child.Readable)
    (legible : ∀ other ∈ others, other.Legible) (ends : Ends narrower rest)
    (endsToo : Ends narrower left) (within : narrower < width)
    (same : codesBelow width children ++ rest = codesBelow width others ++ left) :
    AlikeParts children others ∧ rest = left := by
  induction children generalizing others with
  | nil =>
      cases others with
      | nil => exact ⟨.nil, same⟩
      | cons other others =>
          -- A child on one side only would stand deeper than what follows on the other.
          exact absurd same (ends.ne_deeper within)
  | cons child children ih =>
      cases others with
      | nil => exact absurd same.symm (endsToo.ne_deeper within)
      | cons other others =>
          rw [List.forall_mem_cons] at members legible
          simp only [codesBelow, List.cons_append, List.append_assoc] at same
          obtain ⟨first, later⟩ := members.1 other width _ _ legible.1
            (ends_codesBelow ends (Nat.le_of_lt within))
            (ends_codesBelow endsToo (Nat.le_of_lt within)) (List.cons.inj same).2
          obtain ⟨parts, last⟩ := ih members.2 legible.2 later
          exact ⟨.cons first parts, last⟩

theorem readable_of_children {result : Result} (legible : result.Legible)
    (members : ∀ child ∈ result.children, child.Readable) : result.Readable := by
  intro other width rest left legibleToo ends endsToo same
  rw [codes_eq, codes_eq, List.append_assoc, List.append_assoc] at same
  obtain ⟨line, below⟩ := Text.append_unique (legible.unbroken_nodeCodes width)
    (legibleToo.unbroken_nodeCodes width)
    (ends_codesBelow ends (Nat.le_add_right width 2)).head?
    (ends_codesBelow endsToo (Nat.le_add_right width 2)).head? same
  obtain ⟨parts, last⟩ := alikeParts_of_codesBelow members legibleToo.children ends endsToo
    (by omega) below
  exact ⟨alike_of_nodeCodes legible legibleToo line parts, last⟩

/-- Every legible result can be read off its lines. -/
theorem Legible.readable {result : Result} (legible : result.Legible) : result.Readable := by
  induction legible with
  | granted isName unmarked isReason =>
      exact readable_of_children (.granted isName unmarked isReason) nofun
  | denied isName unmarked isReason =>
      exact readable_of_children (.denied isName unmarked isReason) nofun
  | combined isName made parts ih =>
      exact readable_of_children (.combined isName made parts) ih

/-- Rendering loses nothing: two legible results whose lines are the same by their codes are the
same tree, and so are two legible results of whole texts that are rendered as the same text. -/
theorem render_unambiguous (first second : Result) (legible : first.Legible)
    (legibleToo : second.Legible) :
    (∀ (result : Result) (width : Nat),
      result.render width = Text.ofCodes (result.codes width)) ∧
    (∀ width, first.codes width = second.codes width ↔ Alike first second) ∧
    (first.IsWhole → second.IsWhole → ∀ indent : Int, 0 ≤ indent →
      (first.render indent = second.render indent ↔ Alike first second)) := by
  have readsOff (width : Nat) : first.codes width = second.codes width ↔ Alike first second := by
    constructor
    · intro same
      have ends : Ends width [] := .inl rfl
      exact (legible.readable second width [] [] legibleToo ends ends (by rw [same])).1
    · intro alike
      exact alike.codes_eq width
  have shown (result : Result) (width : Nat) :
      result.render width = Text.ofCodes (result.codes width) := by
    rw [render, ← map_shown_resultCodes]
    rfl
  refine ⟨shown, readsOff, ?_⟩
  intro whole wholeToo indent nonnegative
  obtain ⟨width, rfl⟩ := Int.eq_ofNat_of_zero_le nonnegative
  constructor
  · intro same
    have characters : first.characters width = second.characters width :=
      String.ofList_injective same
    exact (readsOff width).mp (codes_eq_of_characters_eq whole wholeToo characters)
  · intro alike
    rw [shown, shown, alike.codes_eq width]

def declaredResult (outcome : Value) : Result :=
  .combined (.text "some GRANTED") .or
    [.denied (.text "role") (.text "no: role"), .granted (.text "owner") (.text "")] outcome

theorem isLine_text {text : String} (unbroken : 10 ∉ Text.codes text) :
    (Value.text text).IsLine :=
  ⟨Value.isText_iff.mpr (.inl ⟨text, rfl⟩), unbroken⟩

theorem legible_declaredResult (declared : Value) {outcome : Value}
    (made : declare (.text "some GRANTED") .or (declaredResult outcome).children declared =
      .ok (declaredResult outcome)) : (declaredResult outcome).Legible := by
  refine .combined (isLine_text (by decide)) made ?_
  rw [List.forall_mem_cons, List.forall_mem_singleton]
  constructor
  · exact .denied (isLine_text (by decide)) (by decide) (isLine_text (by decide))
  · exact .granted (isLine_text (by decide)) (by decide) (.inr (isLine_text (by decide)))

theorem isWhole_declaredResult (outcome : Value) : (declaredResult outcome).IsWhole := by
  intro value member
  simp only [declaredResult, texts, textsOfAll, Value.present?, Option.toList_some,
    List.cons_append, List.nil_append, List.append_nil, List.mem_cons, List.not_mem_nil,
    or_false] at member
  rcases member with rfl | rfl | rfl | rfl | rfl <;> exact ⟨_, rfl⟩

theorem render_unambiguous_declared :
    (declaredResult (.bool true)).Legible ∧ (declaredResult (.int 1)).Legible ∧
    (declaredResult (.bool true)).IsWhole ∧ (declaredResult (.int 1)).IsWhole ∧
    (declaredResult (.bool true)).render 4 = (declaredResult (.int 1)).render 4 ∧
    Alike (declaredResult (.bool true)) (declaredResult (.int 1)) := by
  have computed : (declaredResult (.bool true)).Legible :=
    legible_declaredResult .null rfl
  have declared : (declaredResult (.int 1)).Legible :=
    legible_declaredResult (.int 1) rfl
  have whole := isWhole_declaredResult (.bool true)
  have wholeToo := isWhole_declaredResult (.int 1)
  have same : (declaredResult (.bool true)).render 4 = (declaredResult (.int 1)).render 4 := rfl
  have alike := ((render_unambiguous _ _ computed declared).2.2 whole wholeToo 4 (by decide)).mp
    same
  exact ⟨computed, declared, whole, wholeToo, same, alike⟩

end Result

end AccessDecision
