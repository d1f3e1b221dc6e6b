import AccessDecision.Fault.Making
import AccessDecision.Proofs.Value.Overlay

/-!
# Details of faults

Whatever details a caller hands in, the record of a fault shows them with the fields of the fault
laid over.  Details that hold a field stay shared with the fault, so the caller finds these fields
in them as well; empty details stay empty.
-/

namespace AccessDecision

/-- What is given for an argument, which is null if it is left out. -/
def Fields.argument (arguments : Fields) (name : String) : Value :=
  (arguments.get? name).getD .null

namespace FaultKind

/-- The fields that a fault adds to its details. -/
def additions (arguments : Fields) : FaultKind → Fields
  | .general | .accessDenied => []
  | .emptyPolicySet => [("combinator", arguments.argument "combinator")]
  | .configuration =>
      (if (arguments.argument "config_key").truthy then
          [("config_key", arguments.argument "config_key")]
        else []) ++
      ((arguments.argument "config_value").present?.map fun value =>
        ("config_value", Value.text value.display)).toList

theorem nodup_additions (kind : FaultKind) (arguments : Fields) :
    ((kind.additions arguments).map Prod.fst).Nodup := by
  cases kind with
  | general | emptyPolicySet | accessDenied => simp [additions]
  | configuration =>
      rw [additions]
      cases (arguments.argument "config_value").present? <;> split <;> simp

/-- Arguments that a fault can be made from. -/
structure Suits (kind : FaultKind) (arguments : Fields) : Prop where
  known : ∀ argument ∈ arguments, argument.1 ∈ kind.parameters
  needed : ∀ name ∈ kind.parameters.take 1, (arguments.get? name).isSome
  code : ∀ given, arguments.get? "error_code" = some given →
    ∃ code, ErrorCode.choice.ofValue given = .ok code

theorem Suits.checkArguments {kind : FaultKind} {arguments : Fields}
    (suits : kind.Suits arguments) :
    checkArguments kind.label (kind.parameters.take 1) kind.parameters arguments = .ok () := by
  have known : (arguments.find? fun argument => !kind.parameters.contains argument.1) = none := by
    simpa using fun name value => suits.known (name, value)
  have needed : ((kind.parameters.take 1).find? fun name => (arguments.get? name).isNone) =
      none := by
    rw [List.find?_eq_none]
    intro name member
    rw [Option.isNone_eq_false_iff.mpr (suits.needed name member)]
    exact Bool.false_ne_true
  rw [AccessDecision.checkArguments, known, needed]

end FaultKind

namespace Fault

variable {details : Value}

theorem ownDetails_eq_self (isObject : details.IsObject) : ownDetails details = details := by
  rw [ownDetails]
  split
  · rfl
  · next falsy =>
      cases isObject with
      | object fields =>
          cases fields with
          | nil => rfl
          | cons => exact absurd rfl falsy
      | brokenObject => exact absurd rfl falsy

theorem addDetail_eq_ok (isObject : details.IsObject) (name : String) (value : Value) :
    addDetail name value details = .ok (details.overlay [(name, value)]) := by
  cases isObject <;> rfl

theorem configuration_eq_ok (isObject : details.IsObject) (message key value : Value) :
    configuration message key value details =
      .ok { badSettings message with
        details := details.overlay
          ((if key.truthy then [("config_key", key)] else []) ++
            (value.present?.map fun value => ("config_value", .text value.display)).toList) } := by
  have keyed := isObject.overlay [("config_key", key)]
  rw [configuration, ownDetails_eq_self isObject]
  by_cases truthy : key.truthy
  · rw [if_pos truthy, if_pos truthy, addDetail_eq_ok isObject]
    cases value with
    | null => rfl
    | _ =>
        simp only [bind, Except.bind, addDetail_eq_ok keyed, Value.overlay_overlay]
        rfl
  · rw [if_neg truthy, if_neg truthy]
    cases value with
    | null =>
        rw [Value.present?, Option.map_none, Option.toList_none, List.append_nil,
          Value.overlay_nil isObject]
        rfl
    | _ =>
        simp only [bind, Except.bind, addDetail_eq_ok isObject]
        rfl

theorem ofArguments_eq {kind : FaultKind} {arguments : Fields} (suits : kind.Suits arguments)
    (cause : Option String) :
    ∃ code, ofArguments kind arguments cause = Except.mapError Failure.kind
      (match kind with
      | .general =>
          .ok (general (arguments.argument "message") code (arguments.argument "details") cause)
      | .emptyPolicySet =>
          emptyPolicySet (arguments.argument "combinator") (arguments.argument "details")
      | .configuration =>
          configuration (arguments.argument "message") (arguments.argument "config_key")
            (arguments.argument "config_value") (arguments.argument "details")
      | .accessDenied =>
          .ok (accessDenied (arguments.argument "reason") (arguments.argument "details"))) := by
  rw [ofArguments]
  cases given : arguments.get? "error_code" with
  | none =>
      refine ⟨.internal, ?_⟩
      simp only [bind, Except.bind, suits.checkArguments]
      rfl
  | some label =>
      obtain ⟨code, isCode⟩ := suits.code label given
      refine ⟨code, ?_⟩
      simp only [bind, Except.bind, suits.checkArguments, isCode]
      rfl

/-- The details of a fault are those that were handed in with the fields of the fault laid over
them. -/
theorem exists_ofArguments {kind : FaultKind} {arguments : Fields} (suits : kind.Suits arguments)
    (isGiven : arguments.get? "details" = some details) (isObject : details.IsObject)
    (cause : Option String) :
    ∃ fault, ofArguments kind arguments cause = .ok fault ∧
      fault.details = details.overlay (kind.additions arguments) := by
  have isDetails : arguments.argument "details" = details := by
    rw [Fields.argument, isGiven, Option.getD_some]
  have own : ownDetails details = details.overlay [] := by
    rw [ownDetails_eq_self isObject, Value.overlay_nil isObject]
  obtain ⟨code, makes⟩ := ofArguments_eq suits cause
  rw [makes, isDetails]
  cases kind with
  | general | accessDenied => exact ⟨_, rfl, own⟩
  | emptyPolicySet =>
      rw [emptyPolicySet, ownDetails_eq_self isObject, addDetail_eq_ok isObject]
      exact ⟨_, rfl, rfl⟩
  | configuration =>
      rw [configuration_eq_ok isObject]
      exact ⟨_, rfl, rfl⟩

/-- A fault that is made with an object for its details records that object with the fields of the
fault laid over it.  The caller finds them in the object too, unless it is empty, so the object
stays as it was exactly if it is empty or holds all these fields. -/
theorem details_overlaid (kind : FaultKind) (arguments : Fields) (cause : Option String)
    (details : Value) (suits : kind.Suits arguments)
    (isGiven : arguments.get? "details" = some details) (isObject : details.IsObject) :
    ∃ fault whole, ofArguments kind arguments cause = .ok fault ∧
      fault.record.get? "details" = some whole ∧
      Value.Overlaid (kind.additions arguments) details whole ∧
      fault.callerDetails details = (if details.truthy then whole else details) ∧
      (fault.callerDetails details = details ↔ details.truthy = false ∨
        ∀ entry ∈ kind.additions arguments, details.held? entry.1 = some entry.2) := by
  obtain ⟨fault, makes, overlaid⟩ := exists_ofArguments suits isGiven isObject cause
  refine ⟨fault, fault.details, makes, rfl, ?_, rfl, ?_⟩
  · rw [overlaid]
    exact Value.overlaid_overlay isObject _
  · have stays := Value.overlay_eq_self_iff isObject (kind.nodup_additions arguments)
    rw [callerDetails, overlaid]
    cases truthy : details.truthy <;> simp [stays]

def heldDetails : Value :=
  .object [("a", .int 1)]

def heldArguments : Fields :=
  [("combinator", .text "x"), ("details", heldDetails)]

theorem suits_heldArguments : FaultKind.emptyPolicySet.Suits heldArguments where
  known := by simp [heldArguments, FaultKind.parameters]
  needed := by simp [heldArguments, FaultKind.parameters, Fields.get?]
  code := nofun

theorem details_overlaid_held :
    FaultKind.emptyPolicySet.Suits heldArguments ∧ heldDetails.IsObject ∧
    ∃ fault whole, ofArguments .emptyPolicySet heldArguments none = .ok fault ∧
      fault.record.get? "details" = some whole ∧
      Value.Overlaid [("combinator", .text "x")] heldDetails whole ∧
      fault.callerDetails heldDetails = whole := by
  have isObject : heldDetails.IsObject := .object _
  obtain ⟨fault, whole, makes, records, overlaid, caller, -⟩ :=
    details_overlaid .emptyPolicySet heldArguments none heldDetails suits_heldArguments rfl isObject
  exact ⟨suits_heldArguments, isObject, fault, whole, makes, records, overlaid, caller⟩

/-- The caller's details do not stay as they were. -/
theorem details_changed_held :
    ∃ fault, ofArguments .emptyPolicySet heldArguments none = .ok fault ∧
      fault.callerDetails heldDetails ≠ heldDetails := by
  refine ⟨_, rfl, fun stays => ?_⟩
  have fields : [("a", Value.int 1), ("combinator", .text "x")] = [("a", .int 1)] :=
    Value.object.inj stays
  exact absurd (congrArg List.length fields) (by decide)

end Fault

end AccessDecision
