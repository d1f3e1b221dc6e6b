import AccessDecision.Proofs.Policy.Polling
import AccessDecision.Proofs.Policy.Valuation

/-!
# Granting by roles

A policy by roles makes a set of what one function requires and then a set of what another one
says is held, and grants access if the two sets share a member.  Sets know neither order nor
repetition, so it matters only which members there are, and more of them never take a grant
away.

Members are the same if they agree as values.  The undefined number agrees with nothing, not even
with itself, but a set finds the very object that it holds; undefined numbers are one object, so
they are shared all the same.
-/

namespace AccessDecision

/-- What making a set of a value comes to: it takes a collection, and the first element that
cannot be a member fails. -/
inductive Value.Gathers (value : Value) : Except Failure (List Value) → Prop where
  | notIterable (single : value.elements? = none) :
      Gathers value (.error (.kind (.notIterable value.kindName)))
  | unhashable {before after : List Value} {element : Value}
      (elements : value.elements? = some (before ++ element :: after))
      (members : ∀ other ∈ before, other.isSetMember = true)
      (refused : element.isSetMember = false) :
      Gathers value (.error (.kind (.unhashable element.kindName)))
  | gathered {elements : List Value} (collects : value.elements? = some elements)
      (members : ∀ element ∈ elements, element.isSetMember = true) :
      Gathers value (.ok elements)

theorem Value.exists_gathers (value : Value) : ∃ outcome, value.Gathers outcome := by
  rcases collects : value.elements? with - | elements
  · exact ⟨_, .notIterable collects⟩
  · rcases search : elements.find? (!·.isSetMember) with - | element
    · refine ⟨_, .gathered collects fun element member => ?_⟩
      simpa using List.find?_eq_none.mp search element member
    · obtain ⟨refused, before, after, rfl, members⟩ := List.find?_eq_some_iff_append.mp search
      exact ⟨_, .unhashable collects (by simpa using members) (by simpa using refused)⟩

theorem Value.Gathers.eq {value : Value} {outcome : Except Failure (List Value)}
    (gathers : value.Gathers outcome) : value.setMembers = outcome := by
  rw [setMembers]
  cases gathers with
  | notIterable single => rw [single]
  | @unhashable before after element elements members refused =>
      have search : (before ++ element :: after).find? (!·.isSetMember) = some element :=
        List.find?_eq_some_iff_append.mpr
          ⟨by simpa using refused, before, after, rfl, by simpa using members⟩
      rw [elements]
      dsimp only
      rw [search]
  | @gathered elements collects members =>
      have search : elements.find? (!·.isSetMember) = none :=
        List.find?_eq_none.mpr (by simpa using members)
      rw [collects]
      dsimp only
      rw [search]

/-- Two collections share a member: two values that agree, or the undefined number. -/
def Shares (needed owned : List Value) : Prop :=
  ∃ first ∈ needed, ∃ second ∈ owned,
    first.agrees second = true ∨ first.isUndefined = true ∧ second.isUndefined = true

theorem intersect_iff_shares (needed owned : List Value) :
    intersect needed owned = true ↔ Shares needed owned := by
  simp only [intersect, Shares, List.any_eq_true, Value.partAgrees, Bool.or_eq_true,
    Bool.and_eq_true, or_comm]

theorem Shares.mono {needed owned neededToo ownedToo : List Value} (shares : Shares needed owned)
    (more : needed ⊆ neededToo) (moreToo : owned ⊆ ownedToo) : Shares neededToo ownedToo := by
  obtain ⟨first, isNeeded, second, isOwned, same⟩ := shares
  exact ⟨first, more isNeeded, second, moreToo isOwned, same⟩

namespace Policy

variable {φ σ : Type}

inductive Collects (host : Host φ σ) (code : φ) (arguments : List Value) (stage : Stage φ σ) :
    Except Failure (List Value) → Stage φ σ → Prop where
  | failed {failure : Failure} {later : Stage φ σ}
      (fails : Evaluation.callFunction host code arguments stage = (.error failure, later)) :
      Collects host code arguments stage (.error failure) later
  | answered {value : Value} {outcome : Except Failure (List Value)} {later : Stage φ σ}
      (answers : Evaluation.callFunction host code arguments stage = (.ok value, later))
      (gathers : value.Gathers outcome) : Collects host code arguments stage outcome later

section Collecting

variable {host : Host φ σ} {code : φ} {arguments : List Value} {stage later : Stage φ σ}
  {outcome : Except Failure (List Value)}

theorem Collects.eq (collects : Collects host code arguments stage outcome later) :
    callForSet host code arguments stage = (outcome, later) := by
  rw [callForSet]
  cases collects with
  | failed fails => exact Attempt.bind_of_error fails
  | answered answers gathers =>
      rw [Attempt.bind_of_ok answers, gathers.eq]
      rfl

theorem exists_collects (host : Host φ σ) (code : φ) (arguments : List Value)
    (stage : Stage φ σ) :
    ∃ outcome later, Collects host code arguments stage outcome later := by
  rcases ends : Evaluation.callFunction host code arguments stage with ⟨failure | value, later⟩
  · exact ⟨_, later, .failed ends⟩
  · obtain ⟨outcome, gathers⟩ := value.exists_gathers
    exact ⟨outcome, later, .answered ends gathers⟩

theorem Collects.calls_eq (collects : Collects host code arguments stage outcome later) :
    later.calls = stage.calls ++ [.function code arguments] := by
  cases collects with
  | failed fails => exact Evaluation.calls_of_callFunction fails
  | answered answers gathers => exact Evaluation.calls_of_callFunction answers

end Collecting

/-- How a policy by roles comes to its result, with the calls that it makes.  What is required is
gathered before anything else is asked. -/
inductive Compares (host : Host φ σ) (request : Request) (required held : φ) (name : Value)
    (stage : Stage φ σ) : List (Call φ) → Except Failure Result → Stage φ σ → Prop where
  | notRequired {failure : Failure} {later : Stage φ σ}
      (first : Collects host required [request.resource, request.action] stage
        (.error failure) later) :
      Compares host request required held name stage
        [.function required [request.resource, request.action]] (.error failure) later
  | notHeld {needed : List Value} {failure : Failure} {middle later : Stage φ σ}
      (first : Collects host required [request.resource, request.action] stage
        (.ok needed) middle)
      (second : Collects host held [request.subject] middle (.error failure) later) :
      Compares host request required held name stage
        [.function required [request.resource, request.action],
          .function held [request.subject]] (.error failure) later
  | shared {needed owned : List Value} {middle later : Stage φ σ}
      (first : Collects host required [request.resource, request.action] stage
        (.ok needed) middle)
      (second : Collects host held [request.subject] middle (.ok owned) later)
      (shares : Shares needed owned) :
      Compares host request required held name stage
        [.function required [request.resource, request.action],
          .function held [request.subject]]
        (.ok (.granted name (.text "User has required role"))) later
  | apart {needed owned : List Value} {middle later : Stage φ σ}
      (first : Collects host required [request.resource, request.action] stage
        (.ok needed) middle)
      (second : Collects host held [request.subject] middle (.ok owned) later)
      (differ : ¬ Shares needed owned) :
      Compares host request required held name stage
        [.function required [request.resource, request.action],
          .function held [request.subject]]
        (.ok (.denied name (.text "User doesn't have required role"))) later

/-- The functions of a policy by roles give certain members one after the other. -/
def Finds (host : Host φ σ) (request : Request) (required held : φ) (stage : Stage φ σ)
    (needed owned : List Value) : Prop :=
  ∃ middle later,
    Collects host required [request.resource, request.action] stage (.ok needed) middle ∧
    Collects host held [request.subject] middle (.ok owned) later

section Roles

variable {host : Host φ σ} {request : Request} {required held : φ} {name : Value}
  {stage : Stage φ σ}

theorem exists_compares (host : Host φ σ) (request : Request) (required held : φ) (name : Value)
    (stage : Stage φ σ) :
    ∃ calls outcome later,
      Compares host request required held name stage calls outcome later := by
  obtain ⟨failure | needed, middle, first⟩ :=
    exists_collects host required [request.resource, request.action] stage
  · exact ⟨_, _, middle, .notRequired first⟩
  obtain ⟨failure | owned, later, second⟩ :=
    exists_collects host held [request.subject] middle
  · exact ⟨_, _, later, .notHeld first second⟩
  by_cases shares : Shares needed owned
  · exact ⟨_, _, later, .shared first second shares⟩
  · exact ⟨_, _, later, .apart first second shares⟩

theorem Compares.calls_eq {calls : List (Call φ)} {outcome : Except Failure Result}
    {later : Stage φ σ}
    (compares : Compares host request required held name stage calls outcome later) :
    later.calls = stage.calls ++ calls := by
  cases compares with
  | notRequired first => exact first.calls_eq
  | notHeld first second | shared first second | apart first second =>
      rw [second.calls_eq, first.calls_eq, List.append_assoc, List.singleton_append]

/-- A policy by roles compares what its functions give. -/
theorem Compares.evaluate_eq {calls : List (Call φ)} {outcome : Except Failure Result}
    {later : Stage φ σ}
    (compares : Compares host request required held name stage calls outcome later)
    (metadata : Metadata) :
    (Policy.roles required held name metadata).evaluate host request stage =
      (outcome, later) := by
  rw [evaluate]
  cases compares with
  | notRequired first => exact Attempt.bind_of_error first.eq
  | notHeld first second =>
      rw [Attempt.bind_of_ok first.eq]
      exact Attempt.bind_of_error second.eq
  | shared first second shares =>
      rw [Attempt.bind_of_ok first.eq, Attempt.bind_of_ok second.eq,
        if_pos ((intersect_iff_shares _ _).mpr shares)]
      rfl
  | apart first second differ =>
      rw [Attempt.bind_of_ok first.eq, Attempt.bind_of_ok second.eq,
        if_neg (mt (intersect_iff_shares _ _).mp differ)]
      rfl

/-- A policy by roles gives a result by the members that its functions give. -/
theorem Finds.gives {needed owned : List Value}
    (finds : Finds host request required held stage needed owned) (name : Value)
    (metadata : Metadata) :
    ∃ granted, (Policy.roles required held name metadata).Gives host request stage granted ∧
      (granted = true ↔ Shares needed owned) := by
  obtain ⟨middle, later, first, second⟩ := finds
  by_cases shares : Shares needed owned
  · have compares : Compares host request required held name stage _ _ later :=
      .shared first second shares
    exact ⟨true, ⟨_, later, compares.evaluate_eq metadata, rfl⟩, by simpa using shares⟩
  · have compares : Compares host request required held name stage _ _ later :=
      .apart first second shares
    exact ⟨false, ⟨_, later, compares.evaluate_eq metadata, rfl⟩, by simpa using shares⟩

/-- A policy by roles that grants access still does if more is required or held. -/
theorem Finds.grants_of_subset {τ : Type} {other : Host φ τ} {question : Request}
    {there : Stage φ τ} {needed owned neededToo ownedToo : List Value} {metadata : Metadata}
    (finds : Finds host request required held stage needed owned)
    (findsToo : Finds other question required held there neededToo ownedToo)
    (more : needed ⊆ neededToo) (moreToo : owned ⊆ ownedToo)
    (grants : (Policy.roles required held name metadata).Gives host request stage true) :
    (Policy.roles required held name metadata).Gives other question there true := by
  obtain ⟨granted, gives, isShared⟩ := finds.gives name metadata
  obtain ⟨grantedToo, givesToo, isSharedToo⟩ := findsToo.gives name metadata
  have shares : Shares needed owned := isShared.mp (gives.unique grants)
  rwa [isSharedToo.mpr (shares.mono more moreToo)] at givesToo

end Roles

/-- A policy by roles gathers what is required and then what is held, each with one call, and fails
where one of the functions fails or gives no set.  Otherwise it grants access if the two sets
share a member, so it denies access if one of them is empty.  More members never take a grant
away, the same members in another order or number come to the same, and the context does not
matter. -/
theorem evaluate_byRoles (host : Host φ σ) (request : Request) (required held : φ) (name : Value)
    (metadata : Metadata) :
    (∀ stage, ∃ calls outcome later,
      Compares host request required held name stage calls outcome later ∧
      (Policy.roles required held name metadata).evaluate host request stage =
        (outcome, later) ∧
      later.calls = stage.calls ++ calls) ∧
    (∀ stage needed owned, Finds host request required held stage needed owned →
      ∃ granted, (Policy.roles required held name metadata).Gives host request stage granted ∧
        (granted = true ↔ Shares needed owned) ∧
        (needed = [] ∨ owned = [] → granted = false)) ∧
    (∀ {τ : Type} (other : Host φ τ) (question : Request) (stage : Stage φ σ)
      (there : Stage φ τ) (needed owned neededToo ownedToo : List Value),
      Finds host request required held stage needed owned →
      Finds other question required held there neededToo ownedToo →
      (needed ⊆ neededToo → owned ⊆ ownedToo →
        (Policy.roles required held name metadata).Gives host request stage true →
        (Policy.roles required held name metadata).Gives other question there true) ∧
      ((∀ member, member ∈ needed ↔ member ∈ neededToo) →
        (∀ member, member ∈ owned ↔ member ∈ ownedToo) →
        ∀ granted, (Policy.roles required held name metadata).Gives host request stage granted ↔
          (Policy.roles required held name metadata).Gives other question there granted)) ∧
    ∀ context, (Policy.roles required held name metadata).evaluate host
        { request with context } =
      (Policy.roles required held name metadata).evaluate host request := by
  refine ⟨?_, ?_, ?_, fun context => rfl⟩
  · intro stage
    obtain ⟨calls, outcome, later, compares⟩ :=
      exists_compares host request required held name stage
    exact ⟨calls, outcome, later, compares, compares.evaluate_eq metadata, compares.calls_eq⟩
  · intro stage needed owned finds
    obtain ⟨granted, gives, isShared⟩ := finds.gives name metadata
    refine ⟨granted, gives, isShared, fun isEmpty => Bool.eq_false_iff.mpr fun grants => ?_⟩
    obtain ⟨first, isNeeded, second, isOwned, -⟩ := isShared.mp grants
    rcases isEmpty with rfl | rfl
    · cases isNeeded
    · cases isOwned
  · intro τ other question stage there needed owned neededToo ownedToo finds findsToo
    refine ⟨finds.grants_of_subset findsToo, fun same sameToo granted => ?_⟩
    obtain ⟨here, gives, isShared⟩ := finds.gives name metadata
    obtain ⟨elsewhere, givesToo, isSharedToo⟩ := findsToo.gives name metadata
    have agree : here = elsewhere := by
      rw [Bool.eq_iff_iff, isShared, isSharedToo]
      exact ⟨fun shares => shares.mono (fun _ => (same _).mp) fun _ => (sameToo _).mp,
        fun shares => shares.mono (fun _ => (same _).mpr) fun _ => (sameToo _).mpr⟩
    subst agree
    exact ⟨fun given => gives.unique given ▸ givesToo,
      fun given => givesToo.unique given ▸ gives⟩

def rolesHost (required held : Value) : Host Bool Unit where
  delay _ _ _ := .finite 0
  function isRequired _ state := ⟨.ok (if isRequired then required else held), state, []⟩
  policy _ _ state := ⟨.ok none, state, []⟩

theorem finds_rolesHost (needed owned : List Value)
    (members : ∀ element ∈ needed ++ owned, element.isSetMember = true) :
    Finds (rolesHost (.list needed) (.list owned)) emptyRequest true false (Stage.bare ()) needed
      owned := by
  rw [List.forall_mem_append] at members
  exact ⟨_, _, .answered rfl (.gathered rfl members.1), .answered rfl (.gathered rfl members.2)⟩

theorem evaluate_byRoles_numbers :
    Finds (rolesHost (.list [.int 1]) (.list [.null, .bool true])) emptyRequest true false
      (Stage.bare ()) [.int 1] [.null, .bool true] ∧
    Finds (rolesHost (.list [.text "a", .int 1]) (.list [.bool true, .null])) emptyRequest true
      false (Stage.bare ()) [.text "a", .int 1] [.bool true, .null] ∧
    (Policy.roles true false .null .empty).Gives
      (rolesHost (.list [.int 1]) (.list [.null, .bool true])) emptyRequest (Stage.bare ())
      true ∧
    (Policy.roles true false .null .empty).Gives
      (rolesHost (.list [.text "a", .int 1]) (.list [.bool true, .null])) emptyRequest
      (Stage.bare ()) true := by
  have finds := finds_rolesHost [.int 1] [.null, .bool true] (by decide)
  have findsToo := finds_rolesHost [.text "a", .int 1] [.bool true, .null] (by decide)
  obtain ⟨-, results, laws, -⟩ := evaluate_byRoles
    (rolesHost (.list [.int 1]) (.list [.null, .bool true])) emptyRequest true false .null .empty
  obtain ⟨granted, gives, isShared, -⟩ := results _ _ _ finds
  have shares : Shares [.int 1] [.null, .bool true] := by
    refine ⟨.int 1, by simp, .bool true, by simp, .inl ?_⟩
    rw [Value.agrees_of_quantity rfl rfl]
    decide
  rw [isShared.mpr shares] at gives
  refine ⟨finds, findsToo, gives, ?_⟩
  exact (laws _ _ _ _ _ _ _ _ finds findsToo).1 (by simp) (by simp) gives

/-- The undefined number is shared by two collections although no elements of theirs agree. -/
theorem evaluate_byRoles_undefined :
    Finds (rolesHost (.list [.float .undefined]) (.list [.float .undefined])) emptyRequest true
      false (Stage.bare ()) [.float .undefined] [.float .undefined] ∧
    (Policy.roles true false .null .empty).Gives
      (rolesHost (.list [.float .undefined]) (.list [.float .undefined])) emptyRequest
      (Stage.bare ()) true ∧
    ¬ ∃ first ∈ [Value.float .undefined], ∃ second ∈ [Value.float .undefined],
      first.agrees second = true := by
  refine ⟨finds_rolesHost [.float .undefined] [.float .undefined] (by decide), ?_, ?_⟩
  · exact ⟨_, _, rfl, rfl⟩
  · rintro ⟨first, isFirst, second, isSecond, agree⟩
    rw [List.mem_singleton.mp isFirst, List.mem_singleton.mp isSecond] at agree
    rw [Value.agrees_of_quantity rfl rfl] at agree
    exact absurd agree (by decide)

end Policy

end AccessDecision
