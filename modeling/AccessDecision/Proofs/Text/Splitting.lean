/-!
# Splitting texts

A text that was put together of parts can be taken apart again where the first part has a
property that what follows it lacks at once, and where a marker stands that does not occur in
the first part.
-/

namespace AccessDecision

namespace Text

variable {α : Type}

theorem append_unique {holds : α → Prop} {first second rest other : List α}
    (inside : ∀ symbol ∈ first, holds symbol) (insideToo : ∀ symbol ∈ second, holds symbol)
    (stops : ∀ symbol ∈ rest.head?, ¬ holds symbol)
    (stopsToo : ∀ symbol ∈ other.head?, ¬ holds symbol)
    (same : first ++ rest = second ++ other) : first = second ∧ rest = other := by
  induction first generalizing second with
  | nil =>
      cases second with
      | nil => exact ⟨rfl, same⟩
      | cons symbol second =>
          have starts : symbol ∈ rest.head? := by
            rw [List.nil_append] at same
            simp [same]
          exact absurd (insideToo symbol List.mem_cons_self) (stops symbol starts)
  | cons symbol first ih =>
      cases second with
      | nil =>
          have starts : symbol ∈ other.head? := by
            rw [List.nil_append] at same
            simp [← same]
          exact absurd (inside symbol List.mem_cons_self) (stopsToo symbol starts)
      | cons another second =>
          obtain ⟨rfl, rejoins⟩ := List.cons.inj same
          rw [List.forall_mem_cons] at inside insideToo
          obtain ⟨rfl, rest⟩ := ih inside.2 insideToo.2 rejoins
          exact ⟨rfl, rest⟩

/-- A marker does not begin within a text that it follows, unless it occurs in what was taken
for the text. -/
theorem infix_of_marker {mark : α} {marker ending rest other : List α} (unmarked : mark ∉ marker)
    (same : mark :: marker ++ rest = ending ++ (mark :: marker ++ other))
    (isEnding : ending ≠ []) : mark :: marker <:+: ending := by
  cases ending with
  | nil => exact absurd rfl isEnding
  | cons symbol ending =>
      simp only [List.cons_append, List.cons.injEq] at same
      obtain ⟨rfl, same⟩ := same
      -- The rest of the marker lies within the text, or reaches over its end; then the marker
      -- would begin once more inside itself.
      rcases List.append_eq_append_iff.mp same with ⟨after, rfl, -⟩ | ⟨left, rfl, other⟩
      · exact ⟨[], after, by simp⟩
      · cases left with
        | nil => exact ⟨[], [], by simp⟩
        | cons symbol left =>
            rw [List.cons_append, List.cons.injEq] at other
            obtain ⟨rfl, -⟩ := other
            simp at unmarked

/-- A marker separates what stands before it from what stands after it, if it does not occur
before and its first symbol occurs in it only once. -/
theorem marker_unique {mark : α} {marker first second rest other : List α}
    (unmarked : mark ∉ marker) (absent : ¬ mark :: marker <:+: first)
    (absentToo : ¬ mark :: marker <:+: second)
    (same : first ++ (mark :: marker ++ rest) = second ++ (mark :: marker ++ other)) :
    first = second ∧ rest = other := by
  induction first generalizing second with
  | nil =>
      by_cases isEmpty : second = []
      · subst isEmpty
        exact ⟨rfl, List.append_cancel_left same⟩
      · exact absurd (infix_of_marker unmarked same isEmpty) absentToo
  | cons symbol first ih =>
      cases second with
      | nil =>
          have found := infix_of_marker unmarked same.symm (List.cons_ne_nil symbol first)
          exact absurd found absent
      | cons another second =>
          obtain ⟨rfl, rejoins⟩ := List.cons.inj same
          have absentLater : ¬ mark :: marker <:+: first := fun within =>
            absent (List.infix_cons within)
          have absentLaterToo : ¬ mark :: marker <:+: second := fun within =>
            absentToo (List.infix_cons within)
          obtain ⟨rfl, rest⟩ := ih absentLater absentLaterToo rejoins
          exact ⟨rfl, rest⟩

end Text

end AccessDecision
