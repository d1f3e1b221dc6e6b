import AccessDecision.Proofs.Result.Legibility
import AccessDecision.Proofs.Value.Agreement
import AccessDecision.Result.Agreement
import Mathlib.Data.List.Forall2

/-!
# Agreement of results

Results agree if they are the same tree with agreeing names, reasons and outcomes.  This is an
equivalence that relates no two classes.  Results that agree have the same truth value and, if their
names and reasons are texts, the same lines: they can differ only in the form of their outcomes, and
a line shows nothing of an outcome but its truth value.
-/

namespace AccessDecision

namespace Result

abbrev PartsAgree : List Result → List Result → Prop :=
  List.Forall₂ fun child other => child.agrees other = true

abbrev RootsAgree : Option Result → Option Result → Prop :=
  Option.Rel fun first second => first.agrees second = true

/-- Two results that agree, one level deep. -/
inductive Same : Result → Result → Prop where
  | granted {policy policy' reason reason' : Value} (names : policy.partAgrees policy' = true)
      (reasons : reason.partAgrees reason' = true) :
      Same (.granted policy reason) (.granted policy' reason')
  | denied {policy policy' reason reason' : Value} (names : policy.partAgrees policy' = true)
      (reasons : reason.partAgrees reason' = true) :
      Same (.denied policy reason) (.denied policy' reason')
  | combined {policy policy' outcome outcome' : Value} {operation : Connective}
      {children children' : List Result} (names : policy.partAgrees policy' = true)
      (parts : PartsAgree children children') (outcomes : outcome.partAgrees outcome' = true) :
      Same (.combined policy operation children outcome)
        (.combined policy' operation children' outcome')

def SameClass : Result → Result → Prop
  | .granted .., .granted .. | .denied .., .denied .. | .combined .., .combined .. => True
  | _, _ => False

theorem childrenAgree_iff {children others : List Result} :
    childrenAgree children others = true ↔ PartsAgree children others := by
  induction children generalizing others with
  | nil => cases others <;> simp [childrenAgree]
  | cons child rest ih => cases others <;> simp [childrenAgree, ih]

theorem agrees_iff {first second : Result} : first.agrees second = true ↔ Same first second := by
  constructor
  · intro agree
    rw [agrees.eq_def] at agree
    split at agree
    · rw [Bool.and_eq_true] at agree
      exact .granted agree.1 agree.2
    · rw [Bool.and_eq_true] at agree
      exact .denied agree.1 agree.2
    · simp only [Bool.and_eq_true, beq_iff_eq, childrenAgree_iff] at agree
      obtain ⟨⟨⟨names, rfl⟩, parts⟩, outcomes⟩ := agree
      exact .combined names parts outcomes
    · cases agree
  · intro same
    cases same with
    | granted names reasons => rw [agrees, names, reasons, Bool.and_self]
    | denied names reasons => rw [agrees, names, reasons, Bool.and_self]
    | combined names parts outcomes =>
        simp only [agrees, names, childrenAgree_iff.mpr parts, outcomes, beq_self_eq_true,
          Bool.and_self]

section Equivalence

theorem agrees_refl (result : Result) : result.agrees result = true := by
  induction result using inductionOnParts with
  | granted policy reason =>
      exact agrees_iff.mpr (.granted policy.partAgrees_refl reason.partAgrees_refl)
  | denied policy reason =>
      exact agrees_iff.mpr (.denied policy.partAgrees_refl reason.partAgrees_refl)
  | combined policy operation children outcome ih =>
      exact agrees_iff.mpr
        (.combined policy.partAgrees_refl (List.forall₂_same.mpr ih) outcome.partAgrees_refl)

theorem partsAgree_symm {children others : List Result}
    (swap : ∀ child ∈ children, ∀ other, child.agrees other = true → other.agrees child = true)
    (parts : PartsAgree children others) : PartsAgree others children := by
  induction parts with
  | nil => exact .nil
  | cons agree _ ih =>
      rw [List.forall_mem_cons] at swap
      exact .cons (swap.1 _ agree) (ih swap.2)

theorem agrees_symm {first second : Result} (agree : first.agrees second = true) :
    second.agrees first = true := by
  induction first using inductionOnParts generalizing second with
  | granted policy reason =>
      cases agrees_iff.mp agree with
      | granted names reasons =>
          exact agrees_iff.mpr
            (.granted (Value.partAgrees_symm names) (Value.partAgrees_symm reasons))
  | denied policy reason =>
      cases agrees_iff.mp agree with
      | denied names reasons =>
          exact agrees_iff.mpr
            (.denied (Value.partAgrees_symm names) (Value.partAgrees_symm reasons))
  | combined policy operation children outcome ih =>
      cases agrees_iff.mp agree with
      | combined names parts outcomes =>
          exact agrees_iff.mpr (.combined (Value.partAgrees_symm names)
            (partsAgree_symm (fun child isChild _ => ih child isChild) parts)
            (Value.partAgrees_symm outcomes))

theorem partsAgree_trans {children others last : List Result}
    (follow : ∀ child ∈ children, ∀ other third, child.agrees other = true →
      other.agrees third = true → child.agrees third = true)
    (parts : PartsAgree children others) (partsToo : PartsAgree others last) :
    PartsAgree children last := by
  induction parts generalizing last with
  | nil => exact partsToo
  | cons agree _ ih =>
      rw [List.forall_mem_cons] at follow
      cases partsToo with
      | cons agreeToo rest => exact .cons (follow.1 _ _ agree agreeToo) (ih follow.2 rest)

theorem agrees_trans {first second third : Result} (agree : first.agrees second = true)
    (agreeToo : second.agrees third = true) : first.agrees third = true := by
  induction first using inductionOnParts generalizing second third with
  | granted policy reason =>
      cases agrees_iff.mp agree with
      | granted names reasons =>
          cases agrees_iff.mp agreeToo with
          | granted namesToo reasonsToo =>
              exact agrees_iff.mpr (.granted (Value.partAgrees_trans names namesToo)
                (Value.partAgrees_trans reasons reasonsToo))
  | denied policy reason =>
      cases agrees_iff.mp agree with
      | denied names reasons =>
          cases agrees_iff.mp agreeToo with
          | denied namesToo reasonsToo =>
              exact agrees_iff.mpr (.denied (Value.partAgrees_trans names namesToo)
                (Value.partAgrees_trans reasons reasonsToo))
  | combined policy operation children outcome ih =>
      cases agrees_iff.mp agree with
      | combined names parts outcomes =>
          cases agrees_iff.mp agreeToo with
          | combined namesToo partsToo outcomesToo =>
              exact agrees_iff.mpr (.combined (Value.partAgrees_trans names namesToo)
                (partsAgree_trans (fun child isChild _ _ => ih child isChild) parts partsToo)
                (Value.partAgrees_trans outcomes outcomesToo))

theorem sameClass_of_agrees {first second : Result} (agree : first.agrees second = true) :
    first.SameClass second := by
  cases agrees_iff.mp agree <;> exact trivial

theorem isGranted_of_agrees {first second : Result} (agree : first.agrees second = true) :
    first.isGranted = second.isGranted := by
  cases agrees_iff.mp agree with
  | granted _ _ => rfl
  | denied _ _ => rfl
  | combined _ _ outcomes => exact Value.truthy_of_partAgrees outcomes

theorem map_isGranted_of_partsAgree {children others : List Result}
    (parts : PartsAgree children others) : children.map isGranted = others.map isGranted := by
  induction parts with
  | nil => rfl
  | cons agree _ ih => rw [List.map_cons, List.map_cons, isGranted_of_agrees agree, ih]

end Equivalence

section Rendering

/-- A result whose names and reasons are texts.  A reason may be absent. -/
def Worded (result : Result) : Prop :=
  ∀ value ∈ result.texts, value = .null ∨ value.IsText

theorem eq_of_worded {value other : Value} (worded : value = .null ∨ value.IsText)
    (agree : value.partAgrees other = true) : value = other := by
  rw [Value.isText_iff] at worded
  have same := Value.partAgrees_iff.mp agree
  rcases worded with rfl | ⟨text, rfl⟩ | ⟨codes, rfl, -⟩
  · cases same with
    | null => rfl
    | number isSize => cases isSize
  · cases same with
    | text => rfl
    | number isSize => cases isSize
  · cases same with
    | brokenText => rfl
    | number isSize => cases isSize

theorem worded_present {value : Value}
    (worded : ∀ part ∈ value.present?.toList, part = .null ∨ part.IsText) :
    value = .null ∨ value.IsText := by
  by_cases isNull : value = .null
  · exact .inl isNull
  · exact worded value (Value.mem_present? isNull)

theorem alikeParts_of_partsAgree {children others : List Result}
    (members : ∀ child ∈ children, ∀ other, child.agrees other = true → Alike child other)
    (parts : PartsAgree children others) : AlikeParts children others := by
  induction parts with
  | nil => exact .nil
  | cons agree _ ih =>
      rw [List.forall_mem_cons] at members
      exact .cons (members.1 _ agree) (ih members.2)

/-- Results of texts that agree differ in nothing but the form of their outcomes. -/
theorem alike_of_agrees {first second : Result} (worded : first.Worded)
    (agree : first.agrees second = true) : Alike first second := by
  induction first using inductionOnParts generalizing second with
  | granted policy reason =>
      rw [Worded, texts, List.forall_mem_cons] at worded
      cases agrees_iff.mp agree with
      | granted names reasons =>
          cases eq_of_worded worded.1 names
          cases eq_of_worded (worded_present worded.2) reasons
          exact .granted policy reason
  | denied policy reason =>
      rw [Worded, texts, List.forall_mem_cons, List.forall_mem_singleton] at worded
      cases agrees_iff.mp agree with
      | denied names reasons =>
          cases eq_of_worded worded.1 names
          cases eq_of_worded worded.2 reasons
          exact .denied policy reason
  | combined policy operation children outcome ih =>
      rw [Worded, texts, List.forall_mem_cons] at worded
      cases agrees_iff.mp agree with
      | combined names parts outcomes =>
          cases eq_of_worded worded.1 names
          refine .combined policy operation (Value.truthy_of_partAgrees outcomes)
            (alikeParts_of_partsAgree (fun child isChild other => ih child isChild ?_) parts)
          exact fun value isText => worded.2 value (mem_textsOfAll isChild isText)

mutual

theorem Alike.characters_eq (indent : Int) :
    ∀ {result other : Result}, Alike result other →
      result.characters indent = other.characters indent
  | _, _, .granted .. => rfl
  | _, _, .denied .. => rfl
  | _, _, @Alike.combined children others outcome other policy operation truth parts => by
      have below := parts.charactersBelow_eq (indent + 2)
      have granted : (Result.combined policy operation children outcome).isGranted =
          (Result.combined policy operation others other).isGranted := truth
      rw [characters, characters, below, nodeLine, nodeLine, granted]
      rfl

theorem AlikeParts.charactersBelow_eq (indent : Int) :
    ∀ {children others : List Result}, AlikeParts children others →
      charactersBelow indent children = charactersBelow indent others
  | _, _, .nil => rfl
  | _, _, .cons first rest => by
      rw [charactersBelow, charactersBelow, first.characters_eq indent,
        rest.charactersBelow_eq indent]

end

theorem render_of_agrees {first second : Result} (worded : first.Worded)
    (agree : first.agrees second = true) (indent : Int) :
    first.render indent = second.render indent := by
  rw [render, render, (alike_of_agrees worded agree).characters_eq indent]

theorem renderAt_of_agrees {first second : Result} (worded : first.Worded)
    (agree : first.agrees second = true) (indent : Value) (widest : Int) :
    first.renderAt indent widest = second.renderAt indent widest := by
  simp only [renderAt, render_of_agrees worded agree]

end Rendering

end Result

end AccessDecision
