import AccessDecision.Proofs.Result.Truth
import AccessDecision.Result.Description
import Mathlib.Data.List.Forall2

/-!
# Constructing results

A result is built from its description exactly if every node of the description fits: its
operation is a connective that takes as many children as there are, the children are there, and
a declared outcome has the truth value that the children come to.  Otherwise the fault is that
of the first node from below that does not fit.

What the children come to is said by a formula over the leaves alone.  A node is only compared
with the outcomes that its children declare, which may be values of any kind; that those agree
with the formula is what the induction carries from the leaves to the root.
-/

namespace AccessDecision

namespace Connective

def named? : Value → Option Connective
  | .text characters =>
      if characters = "AND" then some .and
      else if characters = "OR" then some .or
      else if characters = "NOT" then some .not
      else none
  | _ => none

def Takes : Connective → Nat → Prop
  | .not, count => count = 1
  | _, count => count ≠ 0

def countFault (policy : Value) (count : Nat) : Connective → Failure
  | .not => .result (.childCount policy count)
  | _ => .fault (.noPolicies policy)

/-- A connective is chosen by its name alone. -/
theorem ofValue_eq (value : Value) :
    choice.ofValue value =
      match named? value with
      | some operation => .ok operation
      | none => .error (.notMember value "CombineOp") := by
  cases value with
  | text characters =>
      by_cases isAnd : characters = "AND"
      · simp [Choice.ofValue, choice, Value.agrees, named?, label, isAnd]
      by_cases isOr : characters = "OR"
      · simp [Choice.ofValue, choice, Value.agrees, named?, label, isOr]
      by_cases isNot : characters = "NOT"
      · simp [Choice.ofValue, choice, Value.agrees, named?, label, isNot]
      · simp [Choice.ofValue, choice, Value.agrees, named?, label, isAnd, isOr, isNot]
  | _ => simp [Choice.ofValue, choice, Value.agrees, Value.quantity?, named?]

end Connective

namespace Result

/-- The outcome that a node keeps: the declared one, or what its children come to. -/
def keep (declared : Value) (computed : Bool) : Value :=
  match declared with
  | .null => .bool computed
  | declared => declared

theorem keep_of_ne_null {declared : Value} (declares : declared ≠ .null) (computed : Bool) :
    keep declared computed = declared := by
  cases declared <;> first | rfl | exact absurd rfl declares

theorem truthy_keep {declared : Value} {computed : Bool}
    (agrees : declared = .null ∨ declared.truthy = computed) :
    (keep declared computed).truthy = computed := by
  by_cases isNull : declared = .null
  · rw [isNull]
    rfl
  · rw [keep_of_ne_null isNull]
    exact agrees.resolve_left isNull

theorem checkCount_of_takes (policy : Value) {operation : Connective} {count : Nat}
    (takes : operation.Takes count) : checkCount policy operation count = .ok () := by
  cases operation with
  | not => exact if_pos takes
  | _ => exact if_neg takes

theorem checkCount_of_not_takes (policy : Value) {operation : Connective} {count : Nat}
    (refuses : ¬ operation.Takes count) :
    checkCount policy operation count = .error (operation.countFault policy count) := by
  cases operation with
  | not => exact if_neg refuses
  | _ => exact if_pos (Classical.not_not.mp refuses)

theorem declare_of_agrees (policy : Value) {operation : Connective} {children : List Result}
    {declared : Value} (takes : operation.Takes children.length)
    (agrees : declared = .null ∨
      declared.truthy = operation.combine (children.map isGranted)) :
    declare policy operation children declared =
      .ok (.combined policy operation children
        (keep declared (operation.combine (children.map isGranted)))) := by
  rw [declare, checkCount_of_takes policy takes]
  by_cases isNull : declared = .null
  · rw [isNull]
    rfl
  · have same := agrees.resolve_left isNull
    rw [keep_of_ne_null isNull]
    cases declared <;> first | exact absurd rfl isNull | exact if_pos same

theorem declare_of_differs (policy : Value) {operation : Connective} {children : List Result}
    {declared : Value} (takes : operation.Takes children.length) (declares : declared ≠ .null)
    (differs : declared.truthy ≠ operation.combine (children.map isGranted)) :
    declare policy operation children declared =
      .error (.result (.outcome operation.label policy declared
        (operation.combine (children.map isGranted)))) := by
  rw [declare, checkCount_of_takes policy takes]
  cases declared <;> first | exact absurd rfl declares | exact if_neg differs

theorem truthy_of_declare {policy declared outcome : Value} {operation : Connective}
    {children : List Result}
    (declares : declare policy operation children declared =
      .ok (.combined policy operation children outcome)) :
    outcome.truthy = operation.combine (children.map isGranted) := by
  by_cases takes : operation.Takes children.length
  · by_cases agrees : declared = .null ∨
        declared.truthy = operation.combine (children.map isGranted)
    · cases declares.symm.trans (declare_of_agrees policy takes agrees)
      exact truthy_keep agrees
    · rw [not_or] at agrees
      cases declares.symm.trans (declare_of_differs policy takes agrees.1 agrees.2)
  · rw [declare, checkCount_of_not_takes policy takes] at declares
    cases declares

theorem mapM_present (use : String) (results : List Result) :
    (results.map some).mapM (present use) = .ok results := by
  induction results with
  | nil => rfl
  | cons first rest ih =>
      rw [List.map_cons, List.mapM_cons, ih]
      rfl

theorem mapM_present_of_missing (use : String) {results : List (Option Result)}
    (missing : none ∈ results) :
    results.mapM (present use) = .error (.kind (.noField (Value.kindName .null) use)) := by
  induction results with
  | nil => cases missing
  | cons first rest ih =>
      rw [List.mapM_cons]
      cases first with
      | none => rfl
      | some result =>
          rw [ih (by simpa using missing)]
          rfl

end Result

namespace Description

mutual

/-- The formula of a description over the outcomes of its leaves. -/
def formula : Description → Formula Bool
  | .nothing => .constant false
  | .granted _ _ => .atom true
  | .denied _ _ => .atom false
  | .combined _ _ none _ => .constant false
  | .combined _ operation (some children) _ =>
      match Connective.named? operation with
      | some connective => .joinAll connective (formulas children)
      | none => .constant false

def formulas : List Description → List (Formula Bool)
  | [] => []
  | first :: rest => first.formula :: formulas rest

end

mutual

/-- All nodes of a description in the order in which they are built, which is from below. -/
def nodes : Description → List Description
  | .nothing => [.nothing]
  | .granted policy reason => [.granted policy reason]
  | .denied policy reason => [.denied policy reason]
  | .combined policy operation none outcome => [.combined policy operation none outcome]
  | .combined policy operation (some children) outcome =>
      nodesBelow children ++ [.combined policy operation (some children) outcome]

def nodesBelow : List Description → List Description
  | [] => []
  | first :: rest => first.nodes ++ nodesBelow rest

end

/-- What some descriptions come to by their leaves. -/
def worths (children : List Description) : List Bool :=
  children.map fun child => child.formula.value id

/-- A node whose own parts fit together, whatever is below its children. -/
inductive Fits : Description → Prop where
  | nothing : Fits .nothing
  | granted (policy reason : Value) : Fits (.granted policy reason)
  | denied (policy reason : Value) : Fits (.denied policy reason)
  | combined {policy operation outcome : Value} {connective : Connective}
      {children : List Description} (named : Connective.named? operation = some connective)
      (takes : connective.Takes children.length) (whole : .nothing ∉ children)
      (agrees : outcome = .null ∨ outcome.truthy = connective.combine (worths children)) :
      Fits (.combined policy operation (some children) outcome)

/-- The fault of a node whose own parts do not fit together: the first one of its operation,
the lack of a list of children, their count, a child that is no result, and the declared
outcome. -/
inductive Fails : Description → Failure → Prop where
  | operation {policy operation outcome : Value} {children : Option (List Description)}
      (unnamed : Connective.named? operation = none) :
      Fails (.combined policy operation children outcome) (.notMember operation "CombineOp")
  | childless {policy operation outcome : Value} {connective : Connective}
      (named : Connective.named? operation = some connective) :
      Fails (.combined policy operation none outcome)
        (.kind (.notIterable (Value.kindName .null)))
  | count {policy operation outcome : Value} {connective : Connective}
      {children : List Description} (named : Connective.named? operation = some connective)
      (refuses : ¬ connective.Takes children.length) :
      Fails (.combined policy operation (some children) outcome)
        (connective.countFault policy children.length)
  | missing {policy operation outcome : Value} {connective : Connective}
      {children : List Description} (named : Connective.named? operation = some connective)
      (takes : connective.Takes children.length) (missing : .nothing ∈ children) :
      Fails (.combined policy operation (some children) outcome)
        (.kind (.noField (Value.kindName .null) "outcome"))
  | outcome {policy operation outcome : Value} {connective : Connective}
      {children : List Description} (named : Connective.named? operation = some connective)
      (takes : connective.Takes children.length) (whole : .nothing ∉ children)
      (declares : outcome ≠ .null)
      (differs : outcome.truthy ≠ connective.combine (worths children)) :
      Fails (.combined policy operation (some children) outcome)
        (.result (.outcome connective.label policy outcome
          (connective.combine (worths children))))

/-- The fault of the first node that does not fit. -/
inductive FirstFault : List Description → Failure → Prop where
  | here {node : Description} {rest : List Description} {failure : Failure}
      (fails : node.Fails failure) : FirstFault (node :: rest) failure
  | later {node : Description} {rest : List Description} {failure : Failure}
      (fits : node.Fits) (first : FirstFault rest failure) : FirstFault (node :: rest) failure

/-- A result has the shape, the names and the reasons of a description, and keeps the
outcomes that it declares. -/
inductive Draws : Description → Result → Prop where
  | granted (policy reason : Value) : Draws (.granted policy reason) (.granted policy reason)
  | denied (policy reason : Value) : Draws (.denied policy reason) (.denied policy reason)
  | combined {policy operation outcome : Value} {connective : Connective}
      {children : List Description} {results : List Result}
      (named : Connective.named? operation = some connective)
      (parts : List.Forall₂ Draws children results) :
      Draws (.combined policy operation (some children) outcome)
        (.combined policy connective results
          (Result.keep outcome (connective.combine (results.map Result.isGranted))))

theorem Fits.not_fails {node : Description} {failure : Failure} (fits : node.Fits) :
    ¬ node.Fails failure := by
  intro fails
  cases fits <;> cases fails <;> simp_all

theorem Fails.unique {node : Description} {failure other : Failure} (fails : node.Fails failure)
    (failsToo : node.Fails other) : failure = other := by
  cases fails <;> cases failsToo <;> simp_all

namespace FirstFault

variable {nodes others : List Description} {failure other : Failure}

theorem append (first : FirstFault nodes failure) (others : List Description) :
    FirstFault (nodes ++ others) failure := by
  induction first with
  | here fails => exact .here fails
  | later fits _ ih => exact .later fits ih

theorem after (fit : ∀ node ∈ nodes, node.Fits) (first : FirstFault others failure) :
    FirstFault (nodes ++ others) failure := by
  induction nodes with
  | nil => exact first
  | cons node rest ih =>
      rw [List.forall_mem_cons] at fit
      exact .later fit.1 (ih fit.2)

theorem not_fit (first : FirstFault nodes failure) : ¬ ∀ node ∈ nodes, node.Fits := by
  intro fit
  induction first with
  | here fails => exact (fit _ List.mem_cons_self).not_fails fails
  | later _ _ ih => exact ih (List.forall_mem_cons.mp fit).2

theorem unique (first : FirstFault nodes failure) (firstToo : FirstFault nodes other) :
    failure = other := by
  induction first with
  | here fails =>
      cases firstToo with
      | here failsToo => exact fails.unique failsToo
      | later fits _ => exact absurd fails fits.not_fails
  | later fits _ ih =>
      cases firstToo with
      | here failsToo => exact absurd failsToo fits.not_fails
      | later _ rest => exact ih rest

end FirstFault

theorem formulas_eq (children : List Description) :
    formulas children = children.map formula := by
  induction children with
  | nil => rfl
  | cons first rest ih => rw [formulas, ih, List.map_cons]

theorem nodesBelow_eq (children : List Description) :
    nodesBelow children = children.flatMap nodes := by
  induction children with
  | nil => rfl
  | cons first rest ih => rw [nodesBelow, ih, List.flatMap_cons]

@[elab_as_elim]
theorem inductionOnParts {motive : Description → Prop} (nothing : motive .nothing)
    (granted : ∀ policy reason, motive (.granted policy reason))
    (denied : ∀ policy reason, motive (.denied policy reason))
    (childless : ∀ policy operation outcome, motive (.combined policy operation none outcome))
    (combined : ∀ policy operation children outcome, (∀ child ∈ children, motive child) →
      motive (.combined policy operation (some children) outcome))
    (description : Description) : motive description :=
  match description with
  | .nothing => nothing
  | .granted policy reason => granted policy reason
  | .denied policy reason => denied policy reason
  | .combined policy operation none outcome => childless policy operation outcome
  | .combined policy operation (some children) outcome =>
      combined policy operation children outcome fun child _ =>
        inductionOnParts nothing granted denied childless combined child

/-- The formula of a result does not depend on the outcomes that its nodes declare. -/
theorem Draws.formula_eq {description : Description} {result : Result}
    (draws : description.Draws result) : result.formula = description.formula := by
  induction description using inductionOnParts generalizing result with
  | nothing => cases draws
  | granted policy reason =>
      cases draws
      rfl
  | denied policy reason =>
      cases draws
      rfl
  | childless policy operation outcome => cases draws
  | combined policy operation children outcome ih =>
      cases draws with
      | @combined _ _ _ connective _ results named parts =>
          have same : results.map Result.formula = children.map formula := by
            clear named
            induction parts with
            | nil => rfl
            | cons first rest restIH =>
                rw [List.forall_mem_cons] at ih
                rw [List.map_cons, List.map_cons, ih.1 first, restIH ih.2]
          rw [Result.formula, formula, named, Result.formulas_eq, same, formulas_eq]

/-- A description whose nodes all fit gives a result that it draws, or none if it describes
none. -/
inductive Gives : Description → Option Result → Prop where
  | nothing : Gives .nothing none
  | result {description : Description} {result : Result}
      (fit : ∀ node ∈ description.nodes, node.Fits) (draws : description.Draws result)
      (truthful : result.Truthful) : Gives description (some result)

/-- How building a description ends. -/
inductive Ends (description : Description) : Except Failure (Option Result) → Prop where
  | built {built : Option Result} (gives : description.Gives built) : Ends description (.ok built)
  | broken {failure : Failure} (first : FirstFault description.nodes failure) :
      Ends description (.error failure)

theorem Gives.fit {description : Description} {built : Option Result}
    (gives : description.Gives built) : ∀ node ∈ description.nodes, node.Fits := by
  cases gives with
  | nothing =>
      intro node member
      rw [List.mem_singleton.mp member]
      exact .nothing
  | result fit => exact fit

theorem buildAll_ends {children : List Description}
    (members : ∀ child ∈ children, child.Ends child.build) :
    (∃ built, buildAll children = .ok built ∧ List.Forall₂ Gives children built) ∨
      ∃ failure, buildAll children = .error failure ∧
        FirstFault (nodesBelow children) failure := by
  induction children with
  | nil => exact .inl ⟨[], rfl, .nil⟩
  | cons first rest ih =>
      rw [List.forall_mem_cons] at members
      have ⟨ends, others⟩ := members
      rw [buildAll, nodesBelow]
      rcases builds : first.build with failure | built
      · rw [builds] at ends
        cases ends with
        | broken fault => exact .inr ⟨failure, rfl, fault.append _⟩
      · rw [builds] at ends
        cases ends with
        | built gives =>
            rcases ih others with ⟨later, buildsLater, givesLater⟩ | ⟨failure, fails, fault⟩
            · exact .inl ⟨built :: later, by rw [buildsLater]; rfl, .cons gives givesLater⟩
            · exact .inr ⟨failure, by rw [fails]; rfl, fault.after gives.fit⟩

section Children

variable {children : List Description} {built : List (Option Result)}

theorem fit_of_gives (gives : List.Forall₂ Gives children built) :
    ∀ node ∈ nodesBelow children, node.Fits := by
  induction gives with
  | nil => simp [nodesBelow]
  | cons first _ ih =>
      rw [nodesBelow, List.forall_mem_append]
      exact ⟨first.fit, ih⟩

theorem none_mem_of_gives (gives : List.Forall₂ Gives children built)
    (missing : .nothing ∈ children) : none ∈ built := by
  induction gives with
  | nil => cases missing
  | cons first _ ih =>
      rcases List.mem_cons.mp missing with rfl | later
      · cases first with
        | nothing => exact List.mem_cons_self
        | result _ draws => cases draws
      · exact List.mem_cons_of_mem _ (ih later)

theorem results_of_gives (gives : List.Forall₂ Gives children built)
    (whole : .nothing ∉ children) :
    ∃ results, built = results.map some ∧ List.Forall₂ Draws children results ∧
      ∀ result ∈ results, result.Truthful := by
  induction gives with
  | nil => exact ⟨[], rfl, .nil, by simp⟩
  | cons first _ ih =>
      rw [List.mem_cons, not_or] at whole
      obtain ⟨results, rfl, draw, truthful⟩ := ih whole.2
      cases first with
      | nothing => exact absurd rfl whole.1
      | @result _ result _ draws isTruthful =>
          refine ⟨result :: results, rfl, .cons draws draw, ?_⟩
          rw [List.forall_mem_cons]
          exact ⟨isTruthful, truthful⟩

/-- Truthful results are worth what their descriptions come to. -/
theorem isGranted_of_draws {results : List Result} (draw : List.Forall₂ Draws children results)
    (truthful : ∀ result ∈ results, result.Truthful) :
    results.map Result.isGranted = worths children := by
  induction draw with
  | nil => rfl
  | cons first _ ih =>
      rw [List.forall_mem_cons] at truthful
      rw [List.map_cons, ih truthful.2, truthful.1.isGranted_eq, first.formula_eq]
      rfl

end Children

/-- A node whose children are built is built, or fails by its own fault. -/
theorem build_ends_of_children {children : List Description} {built : List (Option Result)}
    (policy operation outcome : Value) (builds : buildAll children = .ok built)
    (gives : List.Forall₂ Gives children built) :
    (combined policy operation (some children) outcome).Ends
      (combined policy operation (some children) outcome).build := by
  have below := fit_of_gives gives
  have fails {failure : Failure}
      (fault : (combined policy operation (some children) outcome).Fails failure) :
      (combined policy operation (some children) outcome).Ends (.error failure) := by
    refine .broken ?_
    rw [nodes]
    exact .after below (.here fault)
  rw [build, builds]
  simp only [bind, Except.bind]
  rw [Connective.ofValue_eq]
  rcases named : Connective.named? operation with - | connective
  · exact fails (.operation named)
  simp only [← gives.length_eq]
  by_cases takes : connective.Takes children.length
  case neg =>
    rw [Result.checkCount_of_not_takes policy takes]
    exact fails (.count named takes)
  rw [Result.checkCount_of_takes policy takes]
  by_cases missing : .nothing ∈ children
  · simp only [Result.mapM_present_of_missing _ (none_mem_of_gives gives missing)]
    exact fails (.missing named takes missing)
  obtain ⟨results, rfl, draw, truthful⟩ := results_of_gives gives missing
  have same := isGranted_of_draws draw truthful
  have takesToo : connective.Takes results.length := draw.length_eq ▸ takes
  simp only [Result.mapM_present]
  by_cases agrees : outcome = .null ∨ outcome.truthy = connective.combine (worths children)
  · rw [← same] at agrees
    rw [Result.declare_of_agrees policy takesToo agrees]
    refine .built (.result ?_ (.combined named draw) ?_)
    · rw [nodes, List.forall_mem_append, List.forall_mem_singleton]
      exact ⟨below, .combined named takes missing (same ▸ agrees)⟩
    · exact Result.truthful_combined truthful (Result.truthy_keep agrees)
  · rw [not_or] at agrees
    rw [Result.declare_of_differs policy takesToo agrees.1 (same ▸ agrees.2), same]
    exact fails (.outcome named takes missing agrees.1 agrees.2)

/-- A description is built if all its nodes fit, and fails by the fault of the first that does
not. -/
theorem build_ends (description : Description) : description.Ends description.build := by
  induction description using inductionOnParts with
  | nothing => exact .built .nothing
  | granted policy reason =>
      refine .built (.result ?_ (.granted policy reason) (Result.truthful_granted policy reason))
      rw [nodes, List.forall_mem_singleton]
      exact .granted policy reason
  | denied policy reason =>
      refine .built (.result ?_ (.denied policy reason) (Result.truthful_denied policy reason))
      rw [nodes, List.forall_mem_singleton]
      exact .denied policy reason
  | childless policy operation outcome =>
      rw [build, Connective.ofValue_eq]
      rcases named : Connective.named? operation with - | connective
      · exact .broken (.here (.operation named))
      · exact .broken (.here (.childless named))
  | combined policy operation children outcome ih =>
      rcases buildAll_ends ih with ⟨built, builds, gives⟩ | ⟨failure, fails, fault⟩
      · exact build_ends_of_children policy operation outcome builds gives
      · rw [build, fails]
        refine .broken ?_
        rw [nodes]
        exact fault.append _

theorem buildAll_of_build {children : List Description} {results : List Result}
    (builds : List.Forall₂ (fun child result => build child = .ok (some result)) children results) :
    buildAll children = .ok (results.map some) := by
  induction builds with
  | nil => rfl
  | cons first _ ih =>
      rw [buildAll, first, ih]
      rfl

theorem build_combined {policy operation outcome : Value} {connective : Connective}
    {children : List Description} {results : List Result}
    (named : Connective.named? operation = some connective)
    (builds : List.Forall₂ (fun child result => build child = .ok (some result)) children results) :
    (combined policy operation (some children) outcome).build =
      (Result.declare policy connective results outcome).map some := by
  rw [build, buildAll_of_build builds, Connective.ofValue_eq, named]
  simp only [bind, Except.bind, List.length_map, Result.mapM_present]
  -- The count is checked once more when the outcome is declared.
  cases counts : Result.checkCount policy connective results.length with
  | error failure =>
      rw [Result.declare, counts]
      rfl
  | ok _ => rfl

/-- Building a description succeeds exactly if each of its nodes fits.  Otherwise it fails by
the fault of the first node from below that does not.  The result that is built has the shape
of the description and keeps what that declares, and every node of it grants access exactly if
the formula of the leaves below it says so. -/
theorem builds_or_fails_at_first_misfit (description : Description) :
    ((∃ built, description.build = .ok built) ↔ ∀ node ∈ description.nodes, node.Fits) ∧
    (∀ failure, description.build = .error failure ↔
      FirstFault description.nodes failure) ∧
    (description.build = .ok none → description = .nothing) ∧
    ∀ result, description.build = .ok (some result) →
      description.Draws result ∧
        ∀ node ∈ result.nodes, node.isGranted = node.formula.value id := by
  have ends := description.build_ends
  generalize description.build = attempt at ends
  cases ends with
  | @built built gives =>
      refine ⟨⟨fun _ => gives.fit, fun _ => ⟨built, rfl⟩⟩, fun failure => ⟨?_, ?_⟩, ?_, ?_⟩
      · rintro ⟨⟩
      · intro first
        exact absurd gives.fit first.not_fit
      · rintro ⟨⟩
        cases gives
        rfl
      · rintro result ⟨⟩
        cases gives with
        | result _ draws truthful => exact ⟨draws, truthful⟩
  | @broken failure first =>
      refine ⟨⟨?_, fun fit => absurd fit first.not_fit⟩, fun other => ⟨?_, ?_⟩, ?_, ?_⟩
      · rintro ⟨built, ⟨⟩⟩
      · rintro ⟨⟩
        exact first
      · intro firstToo
        rw [first.unique firstToo]
      · rintro ⟨⟩
      · rintro result ⟨⟩

/-- A declared outcome is kept as it is and counts by its truth. -/
example :
    (combined (.text "root") (.text "NOT")
      (some [combined (.text "inner") (.text "OR") (some [.granted (.text "leaf") .null])
        (.text "yes")]) .null).build =
      .ok (some (.combined (.text "root") .not
        [.combined (.text "inner") .or [.granted (.text "leaf") .null] (.text "yes")]
        (.bool false))) := by
  cbv

end Description

end AccessDecision
