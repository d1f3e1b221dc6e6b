/-!
# Named entries

A name of an ordered list is set in its place if it is there and at the end otherwise, so no
name occurs twice in a list that was made in this way.
-/

namespace AccessDecision

namespace Entries

variable {κ α : Type} [DecidableEq κ]

/-- Set an entry: in its place if there is one of the name, at the end otherwise. -/
def set (name : κ) (value : α) : List (κ × α) → List (κ × α)
  | [] => [(name, value)]
  | entry :: rest =>
      if entry.1 = name then (name, value) :: rest else entry :: set name value rest

/-- Entries given one after the other, a later one replacing an earlier one of the same
name. -/
def ofList (given : List (κ × α)) : List (κ × α) :=
  given.foldl (fun whole entry => set entry.1 entry.2 whole) []

theorem names_set (name : κ) (value : α) (entries : List (κ × α)) :
    (set name value entries).map Prod.fst =
      if name ∈ entries.map Prod.fst then entries.map Prod.fst
      else entries.map Prod.fst ++ [name] := by
  induction entries with
  | nil => rfl
  | cons entry rest ih =>
      by_cases here : entry.1 = name
      · simp [set, here]
      · have elsewhere : name ≠ entry.1 := Ne.symm here
        simp only [set, here, if_false, List.map_cons, ih, List.mem_cons, elsewhere, false_or]
        split <;> rfl

theorem nodup_set {entries : List (κ × α)} (distinct : (entries.map Prod.fst).Nodup)
    (name : κ) (value : α) : ((set name value entries).map Prod.fst).Nodup := by
  rw [names_set]
  split
  · exact distinct
  · next isNew =>
      rw [List.nodup_append]
      refine ⟨distinct, by simp, fun other isOld _ isName => ?_⟩
      rintro rfl
      exact isNew (List.mem_singleton.mp isName ▸ isOld)

/-- No name occurs twice in entries that were set one after the other. -/
theorem nodup_ofList (entries : List (κ × α)) : ((ofList entries).map Prod.fst).Nodup := by
  have distinct (given : List (κ × α)) (before : (given.map Prod.fst).Nodup) :
      ((entries.foldl (fun whole entry => set entry.1 entry.2 whole) given).map
        Prod.fst).Nodup := by
    induction entries generalizing given with
    | nil => exact before
    | cons entry rest ih => exact ih _ (nodup_set before entry.1 entry.2)
  exact distinct [] List.nodup_nil

variable [BEq κ] [LawfulBEq κ]

theorem lookup_cons (entry : κ × α) (entries : List (κ × α)) (name : κ) :
    (entry :: entries).lookup name =
      if name = entry.1 then some entry.2 else entries.lookup name := by
  rw [List.lookup_cons]
  by_cases same : name = entry.1
  · simp [same]
  · have differs : (name == entry.1) = false := by simpa using same
    rw [differs, if_neg same]

theorem lookup_set (name : κ) (value : α) (entries : List (κ × α)) (other : κ) :
    (set name value entries).lookup other =
      if other = name then some value else entries.lookup other := by
  induction entries with
  | nil => rw [set, lookup_cons]
  | cons entry rest ih =>
      by_cases here : entry.1 = name
      · subst here
        simp only [set, if_true, lookup_cons]
        split <;> rfl
      · rw [set, if_neg here, lookup_cons, ih, lookup_cons]
        by_cases same : other = entry.1
        · subst same
          simp [here]
        · simp [same]

end Entries

end AccessDecision
