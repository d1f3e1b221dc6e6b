import AccessDecision.Proofs.Formula

/-!
# The truth of results

A node of a result keeps an outcome of its own, which may be a value of any kind.  What it ought
to be worth is said by a formula over the leaves below it, which knows nothing of the outcomes
that are kept on the way.  A result is truthful if every node of it is worth what its formula
says.
-/

namespace AccessDecision

namespace Formula

variable {α : Type}

def joinAll (operation : Connective) : List (Formula α) → Formula α
  | [] => .constant (operation.combine [])
  | first :: rest => join operation first (joinAll operation rest)

theorem value_joinAll (operation : Connective) (valuation : α → Bool)
    (formulas : List (Formula α)) :
    (joinAll operation formulas).value valuation =
      operation.combine (formulas.map (value valuation)) := by
  induction formulas with
  | nil => rfl
  | cons first rest ih =>
      cases operation with
      | and =>
          rw [joinAll, join, value, ih]
          rfl
      | or =>
          rw [joinAll, join, value, ih]
          rfl
      | not => rfl

end Formula

namespace Result

mutual

/-- The formula of a result over the outcomes of its leaves. -/
def formula : Result → Formula Bool
  | .granted _ _ => .atom true
  | .denied _ _ => .atom false
  | .combined _ operation children _ => .joinAll operation (formulas children)

def formulas : List Result → List (Formula Bool)
  | [] => []
  | first :: rest => first.formula :: formulas rest

end

mutual

/-- All nodes of a result, each before those below it. -/
def nodes : Result → List Result
  | .granted policy reason => [.granted policy reason]
  | .denied policy reason => [.denied policy reason]
  | .combined policy operation children outcome =>
      .combined policy operation children outcome :: nodesBelow children

def nodesBelow : List Result → List Result
  | [] => []
  | first :: rest => first.nodes ++ nodesBelow rest

end

/-- A result whose nodes all have the outcome that the leaves below them come to. -/
def Truthful (result : Result) : Prop :=
  ∀ node ∈ result.nodes, node.isGranted = node.formula.value id

theorem formulas_eq (children : List Result) : formulas children = children.map formula := by
  induction children with
  | nil => rfl
  | cons first rest ih => rw [formulas, ih, List.map_cons]

theorem nodesBelow_eq (children : List Result) :
    nodesBelow children = children.flatMap nodes := by
  induction children with
  | nil => rfl
  | cons first rest ih => rw [nodesBelow, ih, List.flatMap_cons]

theorem mem_nodes (result : Result) : result ∈ result.nodes := by
  cases result <;> simp [nodes]

theorem Truthful.isGranted_eq {result : Result} (truthful : result.Truthful) :
    result.isGranted = result.formula.value id :=
  truthful result result.mem_nodes

theorem truthful_granted (policy reason : Value) : (granted policy reason).Truthful := by
  intro node member
  rw [nodes, List.mem_singleton] at member
  rw [member]
  rfl

theorem truthful_denied (policy reason : Value) : (denied policy reason).Truthful := by
  intro node member
  rw [nodes, List.mem_singleton] at member
  rw [member]
  rfl

/-- A node is truthful if its outcome is what its truthful children declare. -/
theorem truthful_combined {policy outcome : Value} {operation : Connective}
    {children : List Result} (below : ∀ child ∈ children, child.Truthful)
    (agrees : outcome.truthy = operation.combine (children.map isGranted)) :
    (combined policy operation children outcome).Truthful := by
  intro node member
  rw [nodes, List.mem_cons, nodesBelow_eq, List.mem_flatMap] at member
  rcases member with rfl | ⟨child, isChild, isNode⟩
  · have same : children.map isGranted = children.map fun child => child.formula.value id :=
      List.map_congr_left fun child isChild => (below child isChild).isGranted_eq
    rw [formula, formulas_eq, Formula.value_joinAll, List.map_map]
    exact agrees.trans (congrArg operation.combine same)
  · exact below child isChild node isNode

end Result

end AccessDecision
