import AccessDecision.Proofs.Text.Codes
import AccessDecision.Result.Rendering

/-!
# Codes of rendered results

A result is rendered by the codes of its texts, which tell apart also what is shown in the same
way: half a character and the replacement character.  Where all texts are whole, the codes are
those of the characters that are shown.
-/

namespace AccessDecision

namespace Value

/-- The codes that a message shows of a value after a separator, and none of null. -/
def codesAfter (separator : String) : Value → List Nat
  | .null => []
  | value => Text.codes separator ++ value.codes

theorem codesAfter_of_ne_null {value : Value} (separator : String) (present : value ≠ .null) :
    value.codesAfter separator = Text.codes separator ++ value.codes := by
  cases value <;> first | rfl | exact absurd rfl present

theorem mem_present? {value : Value} (present : value ≠ .null) :
    value ∈ value.present?.toList := by
  cases value <;> first | exact absurd rfl present | exact List.mem_singleton_self _

theorem toNat_shown_codesAfter {value : Value} (separator : String)
    (whole : value ≠ .null → ∃ text, value = .text text) :
    ∀ code ∈ value.codesAfter separator, (Text.shown code).toNat = code := by
  by_cases isNull : value = .null
  · subst isNull
    exact fun _ member => absurd member List.not_mem_nil
  · rw [codesAfter_of_ne_null separator isNull, List.forall_mem_append]
    exact ⟨Text.toNat_shown_codes separator, toNat_shown_codes (whole isNull)⟩

theorem displayAfter_of_ne_null {value : Value} (separator : String) (present : value ≠ .null) :
    value.displayAfter separator = separator ++ value.display := by
  cases value <;> first | rfl | exact absurd rfl present

theorem map_shown_codesAfter (separator : String) (value : Value) :
    (value.codesAfter separator).map Text.shown = (value.displayAfter separator).toList := by
  by_cases isNull : value = .null
  · subst isNull
    rfl
  · rw [codesAfter_of_ne_null separator isNull, displayAfter_of_ne_null separator isNull,
      List.map_append, map_shown_codes, Text.map_shown_codes, String.toList_append]

end Value

namespace Result

@[elab_as_elim]
theorem inductionOnParts {motive : Result → Prop}
    (granted : ∀ policy reason, motive (.granted policy reason))
    (denied : ∀ policy reason, motive (.denied policy reason))
    (combined : ∀ policy operation children outcome, (∀ child ∈ children, motive child) →
      motive (.combined policy operation children outcome))
    (result : Result) : motive result :=
  match result with
  | .granted policy reason => granted policy reason
  | .denied policy reason => denied policy reason
  | .combined policy operation children outcome =>
      combined policy operation children outcome fun child _ =>
        inductionOnParts granted denied combined child

/-- The codes of what a node shows of itself. -/
def labelCodes : Result → List Nat
  | .granted policy reason => policy.codes ++ (Text.codes " GRANTED" ++ reason.codesAfter ": ")
  | .denied policy reason => policy.codes ++ (Text.codes " DENIED:" ++ 32 :: reason.codes)
  | .combined policy operation _ _ => policy.codes ++ Text.codes (" (" ++ operation.label ++ ")")

def nodeCodes (width : Nat) (result : Result) : List Nat :=
  List.replicate width 32 ++ (mark result.isGranted).toNat :: 32 :: result.labelCodes

mutual

def codes (width : Nat) : Result → List Nat
  | .granted policy reason => nodeCodes width (.granted policy reason)
  | .denied policy reason => nodeCodes width (.denied policy reason)
  | .combined policy operation children outcome =>
      nodeCodes width (.combined policy operation children outcome) ++
        codesBelow (width + 2) children

/-- The codes of the lines of the children of a node, each after a line end. -/
def codesBelow (width : Nat) : List Result → List Nat
  | [] => []
  | child :: rest => 10 :: (child.codes width ++ codesBelow width rest)

end

theorem codes_eq (width : Nat) (result : Result) :
    result.codes width = nodeCodes width result ++ codesBelow (width + 2) result.children := by
  cases result <;> simp [codes, children, codesBelow]

theorem map_shown_labelCodes (result : Result) :
    result.labelCodes.map Text.shown = result.label.toList := by
  cases result with
  | granted policy reason =>
      simp [labelCodes, label, Value.map_shown_codes, Value.map_shown_codesAfter]
  | denied policy reason =>
      simp [labelCodes, label, Value.map_shown_codes]
      rfl
  | combined policy operation children outcome =>
      simp [labelCodes, label, Value.map_shown_codes]

theorem map_shown_nodeCodes (width : Nat) (result : Result) :
    (nodeCodes width result).map Text.shown = nodeLine width result := by
  have space : Text.shown 32 = ' ' := rfl
  simp [nodeCodes, nodeLine, map_shown_labelCodes, space]

theorem map_shown_codesBelow {children : List Result} (width : Nat)
    (members : ∀ child ∈ children,
      (child.codes width).map Text.shown = child.characters width) :
    (codesBelow width children).map Text.shown = charactersBelow width children := by
  induction children with
  | nil => simp [codesBelow, charactersBelow]
  | cons child rest ih =>
      rw [List.forall_mem_cons] at members
      have lineEnd : Text.shown 10 = '\n' := rfl
      rw [codesBelow, charactersBelow, List.map_cons, List.map_append, members.1, ih members.2,
        lineEnd]

/-- A result is rendered as its codes are shown. -/
theorem map_shown_resultCodes (result : Result) (width : Nat) :
    (result.codes width).map Text.shown = result.characters width := by
  induction result using inductionOnParts generalizing width with
  | granted policy reason => exact map_shown_nodeCodes width _
  | denied policy reason => exact map_shown_nodeCodes width _
  | combined policy operation children outcome ih =>
      have below := map_shown_codesBelow (width + 2) fun child member => ih child member _
      rw [codes, characters, List.map_append, map_shown_nodeCodes, below]
      rfl

mutual

/-- The texts of a result: names, and the reasons that are given. -/
def texts : Result → List Value
  | .granted policy reason => policy :: reason.present?.toList
  | .denied policy reason => [policy, reason]
  | .combined policy _ children _ => policy :: textsOfAll children

def textsOfAll : List Result → List Value
  | [] => []
  | child :: rest => child.texts ++ textsOfAll rest

end

def IsWhole (result : Result) : Prop :=
  ∀ value ∈ result.texts, ∃ text, value = .text text

theorem toNat_shown_labelCodes {result : Result} (whole : result.IsWhole) :
    ∀ code ∈ result.labelCodes, (Text.shown code).toNat = code := by
  cases result with
  | granted policy reason =>
      have name := Value.toNat_shown_codes (whole policy (by simp [texts]))
      have word := Text.toNat_shown_codes " GRANTED"
      have after := Value.toNat_shown_codesAfter ": " fun present =>
        whole reason (by simp [texts, Value.mem_present? present])
      rw [labelCodes, List.forall_mem_append, List.forall_mem_append]
      exact ⟨name, word, after⟩
  | denied policy reason =>
      have name := Value.toNat_shown_codes (whole policy (by simp [texts]))
      have word := Text.toNat_shown_codes " DENIED:"
      have after := Value.toNat_shown_codes (whole reason (by simp [texts]))
      rw [labelCodes, List.forall_mem_append, List.forall_mem_append, List.forall_mem_cons]
      exact ⟨name, word, rfl, after⟩
  | combined policy operation children outcome =>
      have name := Value.toNat_shown_codes (whole policy (by simp [texts]))
      rw [labelCodes, List.forall_mem_append]
      exact ⟨name, Text.toNat_shown_codes _⟩

theorem toNat_shown_nodeCodes {result : Result} (whole : result.IsWhole) (width : Nat) :
    ∀ code ∈ nodeCodes width result, (Text.shown code).toNat = code := by
  rw [nodeCodes, List.forall_mem_append, List.forall_mem_cons, List.forall_mem_cons]
  refine ⟨?_, by simp, rfl, toNat_shown_labelCodes whole⟩
  intro code member
  rw [List.eq_of_mem_replicate member]
  rfl

theorem mem_textsOfAll {children : List Result} {child : Result} (isChild : child ∈ children)
    {value : Value} (isText : value ∈ child.texts) : value ∈ textsOfAll children := by
  induction children with
  | nil => cases isChild
  | cons first rest ih =>
      rw [textsOfAll, List.mem_append]
      rcases List.mem_cons.mp isChild with rfl | isLater
      · exact .inl isText
      · exact .inr (ih isLater)

theorem mem_codesBelow {children : List Result} {width code : Nat}
    (member : code ∈ codesBelow width children) :
    code = 10 ∨ ∃ child ∈ children, code ∈ child.codes width := by
  induction children with
  | nil => cases member
  | cons first rest ih =>
      rw [codesBelow, List.mem_cons, List.mem_append] at member
      rcases member with isEnd | isFirst | isLater
      · exact .inl isEnd
      · exact .inr ⟨first, List.mem_cons_self, isFirst⟩
      · rcases ih isLater with isEnd | ⟨child, isChild, isCode⟩
        · exact .inl isEnd
        · exact .inr ⟨child, List.mem_cons_of_mem first isChild, isCode⟩

theorem toNat_shown_of_isWhole {result : Result} (whole : result.IsWhole) (width : Nat) :
    ∀ code ∈ result.codes width, (Text.shown code).toNat = code := by
  induction result using inductionOnParts generalizing width with
  | granted policy reason => exact toNat_shown_nodeCodes whole width
  | denied policy reason => exact toNat_shown_nodeCodes whole width
  | combined policy operation children outcome ih =>
      rw [codes, List.forall_mem_append]
      refine ⟨toNat_shown_nodeCodes whole width, ?_⟩
      intro code member
      rcases mem_codesBelow member with rfl | ⟨child, isChild, isCode⟩
      · rfl
      · have childWhole : child.IsWhole := fun value isText =>
          whole value (List.mem_cons_of_mem policy (mem_textsOfAll isChild isText))
        exact ih child isChild childWhole (width + 2) code isCode

/-- Whole results are shown in the same way only if their codes are the same. -/
theorem codes_eq_of_characters_eq {first second : Result} (whole : first.IsWhole)
    (wholeToo : second.IsWhole) {width : Nat}
    (same : first.characters width = second.characters width) :
    first.codes width = second.codes width := by
  have given {result : Result} (whole : result.IsWhole) :
      (result.characters width).map Char.toNat = result.codes width := by
    rw [← map_shown_resultCodes, List.map_map]
    exact (List.map_congr_left (toNat_shown_of_isWhole whole width)).trans (List.map_id' _)
  rw [← given whole, ← given wholeToo, same]

end Result

end AccessDecision
