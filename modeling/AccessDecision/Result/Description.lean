import AccessDecision.Result.Basic

/-!
# Describing results

A description names the parts of a result without promising that they fit together, or
stands for no result at all.  A result is built from it bottom-up, the children of a node
one after the other before the node itself, so the first node that cannot be built gives
the failure.
-/

namespace AccessDecision

inductive Description where
  | nothing
  | granted (policy reason : Value)
  | denied (policy reason : Value)
  /-- A combination; the children may be missing altogether. -/
  | combined (policy operation : Value) (children : Option (List Description))
      (outcome : Value)

namespace Description

mutual

/-- The result that a description gives, if there is one. -/
def build : Description → Except Failure (Option Result)
  | .nothing => .ok none
  | .granted policy reason => .ok (some (.granted policy reason))
  | .denied policy reason => .ok (some (.denied policy reason))
  | .combined _ operation none _ => do
      let _ ← Connective.choice.ofValue operation
      .error (.kind (.notIterable (Value.kindName .null)))
  | .combined policy operation (some children) outcome => do
      let children ← buildAll children
      let operation ← Connective.choice.ofValue operation
      Result.checkCount policy operation children.length
      let children ← children.mapM (Result.present "outcome")
      (Result.declare policy operation children outcome).map some

def buildAll : List Description → Except Failure (List (Option Result))
  | [] => .ok []
  | first :: rest => do
      let first ← first.build
      let rest ← buildAll rest
      .ok (first :: rest)

end

end Description

end AccessDecision
