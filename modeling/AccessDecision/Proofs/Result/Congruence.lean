import AccessDecision.Proofs.Result.Agreement
import AccessDecision.Proofs.Result.Construction
import AccessDecision.Verdict

/-!
# Agreement of results is a congruence

In a description one result may take the place of another that agrees with it: the description fails
in the same way, or gives a result that agrees.  Building a result looks at the outcomes of its
children only for their truth values, which results that agree share.
-/

namespace AccessDecision

namespace Description

/-- Two attempts that fail in the same way, or give what is the same up to a relation. -/
inductive EndsAlike {α β : Type} (same : α → β → Prop) : Except Failure α → Except Failure β → Prop
  | failed (failure : Failure) : EndsAlike same (.error failure) (.error failure)
  | built {first : α} {second : β} (agree : same first second) :
      EndsAlike same (.ok first) (.ok second)

theorem EndsAlike.bind {α β γ δ : Type} {same : α → β → Prop} {sameToo : γ → δ → Prop}
    {attempt : Except Failure α} {other : Except Failure β} {next : α → Except Failure γ}
    {otherNext : β → Except Failure δ} (alike : EndsAlike same attempt other)
    (continues : ∀ first second, same first second →
      EndsAlike sameToo (next first) (otherNext second)) :
    EndsAlike sameToo (attempt >>= next) (other >>= otherNext) := by
  cases alike with
  | failed failure => exact .failed failure
  | built agree => exact continues _ _ agree

theorem EndsAlike.map {α β γ δ : Type} {same : α → β → Prop} {sameToo : γ → δ → Prop}
    {attempt : Except Failure α} {other : Except Failure β} {change : α → γ} {otherChange : β → δ}
    (alike : EndsAlike same attempt other)
    (keeps : ∀ first second, same first second → sameToo (change first) (otherChange second)) :
    EndsAlike sameToo (attempt.map change) (other.map otherChange) := by
  cases alike with
  | failed failure => exact .failed failure
  | built agree => exact .built (keeps _ _ agree)

def BuildAlike (first second : Description) : Prop :=
  EndsAlike Result.RootsAgree first.build second.build

theorem buildAlike_refl (description : Description) : description.BuildAlike description := by
  rw [BuildAlike]
  cases description.build with
  | error failure => exact .failed failure
  | ok built =>
      cases built with
      | none => exact .built .none
      | some result => exact .built (.some result.agrees_refl)

theorem buildAll_alike {children others : List Description}
    (parts : List.Forall₂ BuildAlike children others) :
    EndsAlike (List.Forall₂ Result.RootsAgree) (buildAll children) (buildAll others) := by
  induction parts with
  | nil => exact .built .nil
  | cons first _ ih =>
      rw [buildAll, buildAll]
      refine first.bind fun built builtToo agree => ih.bind fun rest restToo agreeToo => ?_
      exact .built (.cons agree agreeToo)

theorem present_alike (use : String) {built other : Option Result}
    (same : Result.RootsAgree built other) :
    EndsAlike (fun first second => first.agrees second = true) (Result.present use built)
      (Result.present use other) := by
  cases same with
  | none => exact .failed _
  | some agree => exact .built agree

theorem mapM_present_alike (use : String) {built others : List (Option Result)}
    (parts : List.Forall₂ Result.RootsAgree built others) :
    EndsAlike Result.PartsAgree (built.mapM (Result.present use))
      (others.mapM (Result.present use)) := by
  induction parts with
  | nil => exact .built .nil
  | cons first _ ih =>
      rw [List.mapM_cons, List.mapM_cons]
      refine (present_alike use first).bind fun result other agree => ?_
      exact ih.bind fun results others agreeToo => .built (.cons agree agreeToo)

/-- Children count by their truth values when an outcome is declared over them. -/
theorem declare_alike (policy : Value) (operation : Connective) (declared : Value)
    {children others : List Result} (parts : Result.PartsAgree children others) :
    EndsAlike (fun first second => first.agrees second = true)
      (Result.declare policy operation children declared)
      (Result.declare policy operation others declared) := by
  have outcomes := Result.map_isGranted_of_partsAgree parts
  have length := parts.length_eq
  by_cases takes : operation.Takes children.length
  · have takesToo := length ▸ takes
    by_cases agrees : declared = .null ∨
        declared.truthy = operation.combine (children.map Result.isGranted)
    · rw [Result.declare_of_agrees policy takes agrees,
        Result.declare_of_agrees policy takesToo (outcomes ▸ agrees), outcomes]
      exact .built (Result.agrees_iff.mpr
        (.combined policy.partAgrees_refl parts (Value.partAgrees_refl _)))
    · rw [not_or] at agrees
      rw [Result.declare_of_differs policy takes agrees.1 agrees.2,
        Result.declare_of_differs policy takesToo agrees.1 (outcomes ▸ agrees.2), outcomes]
      exact .failed _
  · rw [Result.declare, Result.declare, Result.checkCount_of_not_takes policy takes,
      Result.checkCount_of_not_takes policy (length ▸ takes), length]
    exact .failed _

theorem buildAlike_combined (policy operation outcome : Value) {children others : List Description}
    (parts : List.Forall₂ BuildAlike children others) :
    (combined policy operation (some children) outcome).BuildAlike
      (combined policy operation (some others) outcome) := by
  rw [BuildAlike, build, build]
  refine (buildAll_alike parts).bind fun built builtToo agree => ?_
  rw [Connective.ofValue_eq]
  cases Connective.named? operation with
  | none => exact .failed _
  | some connective =>
      dsimp only [bind, Except.bind]
      rw [agree.length_eq]
      cases Result.checkCount policy connective builtToo.length with
      | error failure => exact .failed failure
      | ok _ =>
          refine (mapM_present_alike "outcome" agree).bind fun results others agreeToo => ?_
          exact (declare_alike policy connective outcome agreeToo).map fun _ _ same => .some same

inductive Context where
  | place
  | combined (policy operation : Value) (before : List Description) (inner : Context)
      (after : List Description) (outcome : Value)

/-- The description with another one at the place that is left open. -/
def Context.fill : Context → Description → Description
  | .place, description => description
  | .combined policy operation before inner after outcome, description =>
      .combined policy operation (some (before ++ inner.fill description :: after)) outcome

theorem Context.fill_alike (context : Context) {first second : Description}
    (alike : first.BuildAlike second) : (context.fill first).BuildAlike (context.fill second) := by
  induction context with
  | place => exact alike
  | combined policy operation before inner after outcome ih =>
      have itself (children : List Description) : List.Forall₂ BuildAlike children children :=
        List.forall₂_same.mpr fun child _ => child.buildAlike_refl
      exact buildAlike_combined policy operation outcome
        (List.rel_append (itself before) (.cons ih (itself after)))

theorem eq_nothing_of_build {description : Description} (builds : description.build = .ok none) :
    description = .nothing := by
  have ends := description.build_ends
  rw [builds] at ends
  cases ends with
  | built gives =>
      cases gives
      rfl

/-- A description in which results that agree take the same place fails in the same way for both,
or gives results that agree. -/
theorem Context.fill_congr (context : Context) {place other : Description} {first second : Result}
    (builds : place.build = .ok (some first)) (buildsToo : other.build = .ok (some second))
    (agree : first.agrees second = true) :
    (∃ failure, (context.fill place).build = .error failure ∧
      (context.fill other).build = .error failure) ∨
    ∃ result another, (context.fill place).build = .ok (some result) ∧
      (context.fill other).build = .ok (some another) ∧ result.agrees another = true := by
  have alike : place.BuildAlike other := by
    rw [BuildAlike, builds, buildsToo]
    exact .built (.some agree)
  have filled := context.fill_alike alike
  rw [BuildAlike] at filled
  generalize outcome : (context.fill place).build = attempt at filled
  generalize (context.fill other).build = otherAttempt at filled
  cases filled with
  | failed failure => exact .inl ⟨failure, rfl, rfl⟩
  | built same =>
      cases same with
      | some same => exact .inr ⟨_, _, rfl, rfl, same⟩
      | none =>
          have isNothing := eq_nothing_of_build outcome
          cases context with
          | place =>
              cases isNothing
              cases builds
          | combined => cases isNothing

end Description

namespace Trace

theorem agrees_iff {trace other : Trace} :
    trace.agrees other = true ↔ Result.RootsAgree trace other := by
  constructor
  · intro agree
    cases trace <;> cases other <;> first | exact .none | exact .some agree | cases agree
  · intro same
    cases same with
    | none => rfl
    | some agree => exact agree

theorem render_of_agrees {trace other : Trace} (worded : ∀ root ∈ trace, root.Worded)
    (agree : trace.agrees other = true) : trace.render = other.render := by
  cases agrees_iff.mp agree with
  | none => rfl
  | some agree => exact Result.render_of_agrees (worded _ rfl) agree 0

end Trace

namespace Result

/-- Kept outcomes that are numbers are the same if they are of the same exact size. -/
theorem agrees_outcome_iff (policy : Value) (operation : Connective) (children : List Result)
    {outcome other : Value} {size otherSize : Quantity} (isSize : outcome.quantity? = some size)
    (isOtherSize : other.quantity? = some otherSize) (defined : size ≠ .undefined) :
    (combined policy operation children outcome).agrees
      (combined policy operation children other) = true ↔ size = otherSize := by
  rw [agrees_iff]
  constructor
  · intro same
    cases same with
    | combined _ _ outcomes =>
        cases Value.partAgrees_iff.mp outcomes with
        | number isLeft isRight _ =>
            cases isSize.symm.trans isLeft
            cases isOtherSize.symm.trans isRight
            rfl
        | undefined =>
            cases isSize
            exact absurd rfl defined
        | _ => cases isSize
  · rintro rfl
    exact .combined policy.partAgrees_refl
      (List.forall₂_same.mpr fun child _ => child.agrees_refl)
      (Value.partAgrees_iff.mpr (.number isSize isOtherSize defined))

/-- Agreement of results is an equivalence that compares numbers by their exact sizes.  Results that
agree are of the same class and have the same truth value; if their names and reasons are texts they
are rendered in the same way; and either may take the place of the other in any description.  Traces
agree if their results do, and are then rendered in the same way too. -/
theorem agrees_congruence :
    (∀ result : Result, result.agrees result = true) ∧
    (∀ first second : Result, first.agrees second = second.agrees first) ∧
    (∀ first second third : Result, first.agrees second = true → second.agrees third = true →
      first.agrees third = true) ∧
    (∀ (policy : Value) (operation : Connective) (children : List Result) (outcome other : Value)
      (size otherSize : Quantity), outcome.quantity? = some size →
      other.quantity? = some otherSize → size ≠ .undefined →
        ((combined policy operation children outcome).agrees
          (combined policy operation children other) = true ↔ size = otherSize)) ∧
    (∀ first second : Result, first.agrees second = true →
      first.SameClass second ∧ first.isGranted = second.isGranted ∧
      (first.Worded → ∀ (indent : Value) (widest : Int),
        first.renderAt indent widest = second.renderAt indent widest) ∧
      (∀ (context : Description.Context) (place other : Description),
        place.build = .ok (some first) → other.build = .ok (some second) →
        (∃ failure, (context.fill place).build = .error failure ∧
          (context.fill other).build = .error failure) ∨
        ∃ result another, (context.fill place).build = .ok (some result) ∧
          (context.fill other).build = .ok (some another) ∧ result.agrees another = true)) ∧
    ∀ trace other : Trace,
      (trace.agrees other = true ↔ RootsAgree trace other) ∧
      (trace.agrees other = true → (∀ root ∈ trace, root.Worded) →
        trace.render = other.render) := by
  refine ⟨agrees_refl, ?_, fun _ _ _ => agrees_trans, ?_, ?_, ?_⟩
  · intro first second
    exact Bool.eq_iff_iff.mpr ⟨agrees_symm, agrees_symm⟩
  · intro policy operation children outcome other size otherSize isSize isOtherSize defined
    exact agrees_outcome_iff policy operation children isSize isOtherSize defined
  · intro first second agree
    refine ⟨sameClass_of_agrees agree, isGranted_of_agrees agree, ?_, ?_⟩
    · exact fun worded => renderAt_of_agrees worded agree
    · exact fun context _ _ builds buildsToo => context.fill_congr builds buildsToo agree
  · exact fun trace other =>
      ⟨Trace.agrees_iff, fun agree worded => Trace.render_of_agrees worded agree⟩

/-- A disjunction of one result that grants access, with an outcome of its own. -/
def keptDescription (outcome : Value) : Description :=
  .combined (.text "some") (.text "OR") (some [.granted (.text "owner") .null]) outcome

def keptResult (outcome : Value) : Result :=
  .combined (.text "some") .or [.granted (.text "owner") .null] outcome

/-- Any list that is not empty may be kept for an outcome that is true. -/
theorem build_keptDescription (first : Value) (rest : List Value) :
    (keptDescription (.list (first :: rest))).build =
      .ok (some (keptResult (.list (first :: rest)))) := by
  have owner : (Description.granted (.text "owner") .null).build =
      .ok (some (.granted (.text "owner") .null)) := by
    rw [Description.build]
  exact (Description.build_combined rfl (.cons owner .nil)).trans rfl

def countedOutcome : Value :=
  .list [.int 1, .object [("x", .int 0), ("y", .null)]]

/-- The same outcome spelled with truth values, and with its fields in another order. -/
def judgedOutcome : Value :=
  .list [.bool true, .object [("y", .null), ("x", .bool false)]]

theorem counted_agrees_judged : countedOutcome.partAgrees judgedOutcome = true := by
  have fields : Value.Same (.object [("x", .int 0), ("y", .null)])
      (.object [("y", .null), ("x", .bool false)]) := by
    refine .object fun name => ?_
    by_cases isX : name = "x"
    · subst isX
      exact .some (Value.partAgrees_iff.mpr (.number rfl rfl nofun))
    by_cases isY : name = "y"
    · subst isY
      exact .some (Value.partAgrees_iff.mpr .null)
    · simp only [List.lookup_cons, beq_false_of_ne isX, beq_false_of_ne isY]
      exact .none
  have first : (Value.int 1).partAgrees (.bool true) = true :=
    Value.partAgrees_iff.mpr (.number rfl rfl nofun)
  refine Value.partAgrees_iff.mpr (.list (Value.items_agree_iff.mp ?_))
  rw [Value.itemsAgree_cons, Value.itemsAgree_cons, first, Value.partAgrees_iff.mpr fields,
    Value.itemsAgree]
  rfl

def negation : Description.Context :=
  .combined (.text "root") (.text "NOT") [] .place [] .null

theorem agrees_congruence_kept :
    (keptResult countedOutcome).agrees (keptResult judgedOutcome) = true ∧
    (keptResult countedOutcome).Worded ∧
    (keptResult countedOutcome).renderAt (.int 3) = (keptResult judgedOutcome).renderAt (.int 3) ∧
    ∃ result another, (negation.fill (keptDescription countedOutcome)).build = .ok (some result) ∧
      (negation.fill (keptDescription judgedOutcome)).build = .ok (some another) ∧
      result.agrees another = true := by
  have agree : (keptResult countedOutcome).agrees (keptResult judgedOutcome) = true :=
    agrees_iff.mpr (.combined (Value.partAgrees_refl _)
      (List.forall₂_same.mpr fun child _ => child.agrees_refl) counted_agrees_judged)
  have worded : (keptResult countedOutcome).Worded := by
    have isText (text : String) : (Value.text text).IsText :=
      Value.isText_iff.mpr (.inl ⟨text, rfl⟩)
    intro value member
    simp only [keptResult, texts, textsOfAll, Value.present?, Option.toList_none, List.append_nil,
      List.mem_cons, List.not_mem_nil, or_false] at member
    rcases member with rfl | rfl <;> exact .inr (isText _)
  have builds : (keptDescription countedOutcome).build = _ := build_keptDescription _ _
  have buildsToo : (keptDescription judgedOutcome).build = _ := build_keptDescription _ _
  have succeeds : (negation.fill (keptDescription countedOutcome)).build =
      .ok (some (.combined (.text "root") .not [keptResult countedOutcome] (.bool false))) :=
    (Description.build_combined rfl (.cons builds .nil)).trans rfl
  obtain ⟨-, -, -, -, congruent, -⟩ := agrees_congruence
  obtain ⟨-, -, lines, fills⟩ := congruent _ _ agree
  refine ⟨agree, worded, lines worded (.int 3) _, ?_⟩
  rcases fills negation _ _ builds buildsToo with ⟨failure, fails, -⟩ | same
  · cases succeeds.symm.trans fails
  · exact same

/-- Names that agree without being texts are not shown in the same way: one and true agree. -/
theorem agrees_not_rendered :
    (granted (.int 1) .null).agrees (granted (.bool true) .null) = true ∧
    (granted (.int 1) .null).render 0 = "✓ 1 GRANTED" ∧
    (granted (.bool true) .null).render 0 = "✓ True GRANTED" := by
  refine ⟨?_, rfl, rfl⟩
  exact agrees_iff.mpr (.granted (Value.partAgrees_iff.mpr (.number rfl rfl nofun))
    (Value.partAgrees_refl _))

end Result

end AccessDecision
