import AccessDecision.Entries
import Mathlib.Data.List.Nodup

/-!
# Entries laid over others

Setting entries one after the other lays them over those that are there: a name keeps its first
place and takes its last value.
-/

namespace AccessDecision

namespace Entries

section Distinct

variable {κ α : Type} [DecidableEq κ]

theorem set_of_not_mem {name : κ} {entries : List (κ × α)}
    (isNew : name ∉ entries.map Prod.fst) (value : α) :
    set name value entries = entries ++ [(name, value)] := by
  induction entries with
  | nil => rfl
  | cons entry rest ih =>
      rw [List.map_cons, List.mem_cons, not_or] at isNew
      rw [set, if_neg (Ne.symm isNew.1), ih isNew.2, List.cons_append]

theorem ofList_of_nodup {entries : List (κ × α)}
    (distinct : (entries.map Prod.fst).Nodup) : ofList entries = entries := by
  have appends (given : List (κ × α)) (new : (given ++ entries |>.map Prod.fst).Nodup) :
      entries.foldl (fun whole entry => set entry.1 entry.2 whole) given = given ++ entries := by
    clear distinct
    induction entries generalizing given with
    | nil => rw [List.foldl_nil, List.append_nil]
    | cons entry rest ih =>
        have isNew : entry.1 ∉ given.map Prod.fst := by
          rw [List.map_append, List.map_cons, List.nodup_append] at new
          intro isOld
          exact new.2.2 entry.1 isOld entry.1 List.mem_cons_self rfl
        rw [List.foldl_cons, set_of_not_mem isNew, ih, List.append_assoc]
        · rfl
        · rw [List.append_assoc]
          exact new
  exact appends [] distinct

end Distinct

variable {κ α : Type} [BEq κ]

theorem lookup_append (entries others : List (κ × α)) (name : κ) :
    (entries ++ others).lookup name = (entries.lookup name).or (others.lookup name) := by
  simp only [List.lookup_eq_findSome?, List.findSome?_append]

theorem lookup_of_mem [LawfulBEq κ] {entries : List (κ × α)} {name : κ} {value : α}
    (distinct : (entries.map Prod.fst).Nodup) (member : (name, value) ∈ entries) :
    entries.lookup name = some value := by
  obtain ⟨before, after, rfl⟩ := List.append_of_mem member
  refine List.lookup_eq_some_iff.mpr ⟨before, after, rfl, fun entry earlier => ?_⟩
  rw [List.map_append, List.nodup_append] at distinct
  have differs := distinct.2.2 entry.1 (List.mem_map_of_mem earlier) name (by simp)
  simpa using Ne.symm differs

/-- What entries become when others are laid over them.  Names that are there keep their places,
new ones follow in order, and a value that is laid over takes precedence, the last one of its
name. -/
structure Overlaid (entries added whole : List (κ × α)) : Prop where
  names : whole.map Prod.fst =
    entries.map Prod.fst ++ ((added.map Prod.fst).removeAll (entries.map Prod.fst)).eraseDups
  values : ∀ name, whole.lookup name = (added.reverse.lookup name).or (entries.lookup name)

variable [LawfulBEq κ] {entries added middle more whole : List (κ × α)}

namespace Overlaid

theorem refl (entries : List (κ × α)) : Overlaid entries [] entries :=
  ⟨by simp [List.removeAll], fun _ => rfl⟩

theorem append (first : Overlaid entries added middle) (onwards : Overlaid middle more whole) :
    Overlaid entries (added ++ more) whole where
  names := by
    have new : (more.map Prod.fst).removeAll (middle.map Prod.fst) =
        ((more.map Prod.fst).removeAll (entries.map Prod.fst)).removeAll
          ((added.map Prod.fst).removeAll (entries.map Prod.fst)) := by
      simp only [first.names, List.removeAll, List.filter_filter, List.elem_eq_mem]
      refine List.filter_congr fun name _ => ?_
      by_cases old : name ∈ entries.map Prod.fst <;> simp [old]
    have joins : ((added ++ more).map Prod.fst).removeAll (entries.map Prod.fst) =
        (added.map Prod.fst).removeAll (entries.map Prod.fst) ++
          (more.map Prod.fst).removeAll (entries.map Prod.fst) := by
      simp only [List.removeAll, List.map_append, List.filter_append]
    rw [onwards.names, new, first.names, joins, List.eraseDups_append, List.append_assoc]
  values name := by
    rw [onwards.values, first.values, List.reverse_append, lookup_append, Option.or_assoc]

end Overlaid

variable [DecidableEq κ]

theorem overlaid_set (name : κ) (value : α) (entries : List (κ × α)) :
    Overlaid entries [(name, value)] (set name value entries) where
  names := by
    rw [names_set]
    by_cases old : name ∈ entries.map Prod.fst
    · simp only [List.mem_map] at old
      simp [List.removeAll, old]
    · simp only [List.mem_map] at old
      simp [List.removeAll, old, List.eraseDups_cons]
  values other := by
    rw [lookup_set, List.reverse_singleton, lookup_cons]
    split <;> rfl

def setAll (added entries : List (κ × α)) : List (κ × α) :=
  added.foldl (fun entries entry => set entry.1 entry.2 entries) entries

theorem overlaid_setAll (entries added : List (κ × α)) :
    Overlaid entries added (setAll added entries) := by
  induction added generalizing entries with
  | nil => exact .refl entries
  | cons entry rest ih => exact (overlaid_set entry.1 entry.2 entries).append (ih _)

theorem overlaid_ofList (entries : List (κ × α)) : Overlaid [] entries (ofList entries) :=
  overlaid_setAll [] entries

theorem set_of_lookup {name : κ} {value : α} (held : entries.lookup name = some value) :
    set name value entries = entries := by
  induction entries with
  | nil => cases held
  | cons entry rest ih =>
      rw [lookup_cons] at held
      by_cases here : entry.1 = name
      · rw [if_pos here.symm, Option.some.injEq] at held
        rw [set, if_pos here, ← here, ← held]
      · rw [if_neg (Ne.symm here)] at held
        rw [set, if_neg here, ih held]

/-- Entries stay as they are exactly if they hold all that is laid over them. -/
theorem setAll_eq_self_iff (distinct : (added.map Prod.fst).Nodup) :
    setAll added entries = entries ↔ ∀ entry ∈ added, entries.lookup entry.1 = some entry.2 := by
  constructor
  · intro stays entry member
    have values := (overlaid_setAll entries added).values entry.1
    have reversed : (added.reverse.map Prod.fst).Nodup := by
      rwa [List.map_reverse, List.nodup_reverse]
    rw [stays, lookup_of_mem reversed (List.mem_reverse.mpr member)] at values
    exact values
  · intro held
    induction added with
    | nil => rfl
    | cons entry rest ih =>
        rw [List.map_cons, List.nodup_cons] at distinct
        rw [List.forall_mem_cons] at held
        rw [setAll, List.foldl_cons, set_of_lookup held.1]
        exact ih distinct.2 held.2

end Entries

end AccessDecision
