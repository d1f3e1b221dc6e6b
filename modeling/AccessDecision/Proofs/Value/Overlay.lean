import AccessDecision.Proofs.Entries
import AccessDecision.Proofs.Text.Codes

/-!
# Fields laid over others

Objects take fields by their names, whichever way these are kept.  Fields that are set one after
the other are laid over those that are there.
-/

namespace AccessDecision

namespace Value

inductive IsObject : Value → Prop where
  | object (fields : Fields) : IsObject (.object fields)
  | brokenObject (fields : List (List Nat × Value)) : IsObject (.brokenObject fields)

/-- Fields with their names by codes. -/
def byCodes (fields : Fields) : List (List Nat × Value) :=
  fields.map fun field => (Text.codes field.1, field.2)

def held? (name : String) : Value → Option Value
  | .object fields => Fields.get? fields name
  | .brokenObject fields => fields.lookup (Text.codes name)
  | _ => none

/-- What an object becomes when fields are laid over its own. -/
inductive Overlaid (added : Fields) : Value → Value → Prop where
  | object {fields whole : Fields} (overlaid : Entries.Overlaid fields added whole) :
      Overlaid added (.object fields) (.object whole)
  | brokenObject {fields whole : List (List Nat × Value)}
      (overlaid : Entries.Overlaid fields (byCodes added) whole) :
      Overlaid added (.brokenObject fields) (.brokenObject whole)

def overlay (added : Fields) : Value → Value
  | .object fields => .object (Entries.setAll added fields)
  | .brokenObject fields => .brokenObject (Entries.setAll (byCodes added) fields)
  | other => other

variable {added : Fields} {given : Value}

theorem IsObject.overlay (isObject : given.IsObject) (added : Fields) :
    (given.overlay added).IsObject := by
  cases isObject <;> constructor

theorem overlay_nil (isObject : given.IsObject) : given.overlay [] = given := by
  cases isObject <;> rfl

theorem overlay_overlay (first second : Fields) (given : Value) :
    (given.overlay first).overlay second = given.overlay (first ++ second) := by
  cases given <;> simp [Value.overlay, Entries.setAll, byCodes]

theorem overlaid_overlay (isObject : given.IsObject) (added : Fields) :
    Overlaid added given (given.overlay added) := by
  cases isObject with
  | object fields => exact .object (Entries.overlaid_setAll fields added)
  | brokenObject fields => exact .brokenObject (Entries.overlaid_setAll fields (byCodes added))

theorem nodup_byCodes (distinct : (added.map Prod.fst).Nodup) :
    ((byCodes added).map Prod.fst).Nodup := by
  have codes : ((added.map Prod.fst).map Text.codes).Nodup :=
    distinct.map fun _ _ same => Text.codes_injective same
  simpa [byCodes, Function.comp_def] using codes

/-- An object stays as it is exactly if it holds all fields that are laid over it. -/
theorem overlay_eq_self_iff (isObject : given.IsObject)
    (distinct : (added.map Prod.fst).Nodup) :
    given.overlay added = given ↔ ∀ entry ∈ added, given.held? entry.1 = some entry.2 := by
  cases isObject with
  | object fields =>
      rw [Value.overlay, Value.object.injEq, Entries.setAll_eq_self_iff distinct]
      rfl
  | brokenObject fields =>
      rw [Value.overlay, Value.brokenObject.injEq,
        Entries.setAll_eq_self_iff (nodup_byCodes distinct)]
      exact List.forall_mem_map

end Value

end AccessDecision
