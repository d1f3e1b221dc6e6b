import AccessDecision.Machine
import AccessDecision.Result.Basic

/-!
# Rendering results

A result is rendered as a tree with one node to a line.  A node shows a mark for its
outcome, the name of its policy and either the decision with its reason or the
connective; the children of a node stand below it, indented by two more spaces.
-/

namespace AccessDecision

namespace Result

def mark (granted : Bool) : Char :=
  if granted then '✓' else '✗'

def label : Result → String
  | .granted policy reason =>
      policy.display ++ " GRANTED" ++ reason.displayAfter ": "
  | .denied policy reason => policy.display ++ " DENIED: " ++ reason.display
  | .combined policy operation _ _ => policy.display ++ " (" ++ operation.label ++ ")"

/-- The line of a node.  A negative indentation gives no spaces. -/
def nodeLine (indent : Int) (result : Result) : List Char :=
  List.replicate indent.toNat ' ' ++ mark result.isGranted :: ' ' :: result.label.toList

mutual

def characters (indent : Int) : Result → List Char
  | .granted policy reason => nodeLine indent (.granted policy reason)
  | .denied policy reason => nodeLine indent (.denied policy reason)
  | .combined policy operation children outcome =>
      nodeLine indent (.combined policy operation children outcome) ++
        charactersBelow (indent + 2) children

/-- The lines of the children of a node, each after a line end. -/
def charactersBelow (indent : Int) : List Result → List Char
  | [] => []
  | child :: rest => '\n' :: (child.characters indent ++ charactersBelow indent rest)

end

/-- A result as a tree with the given indentation. -/
def render (indent : Int) (result : Result) : String :=
  String.ofList (result.characters indent)

/-- A result as a tree, with an indentation that may be of any kind but not too wide. -/
def renderAt (indent : Value) (result : Result)
    (widest : Int := Machine.ordinary.indentation) : Except Failure String :=
  let indented := fun (width : Int) =>
    if !RangeFault.fits 64 width then .error (.range .beyondIndex)
    else if widest < width then .error .noRoom
    else .ok (result.render width)
  match indent with
  | .int width => indented width
  | .bool width => indented width.toNat
  | other => .error (.kind (.notCount other.kindName))

mutual

def literal : Result → String
  | .granted policy reason =>
      "Granted(policy_name=" ++ policy.literal ++ ", reason=" ++ reason.literal ++ ")"
  | .denied policy reason =>
      "Denied(policy_name=" ++ policy.literal ++ ", reason=" ++ reason.literal ++ ")"
  | .combined policy operation children outcome =>
      "Combined(policy_name=" ++ policy.literal ++ ", operation=<CombineOp." ++
        operation.label ++ ": '" ++ operation.label ++ "'>, children=(" ++
        literals children ++ "), outcome=" ++ outcome.literal ++ ")"

/-- The literals of several results; a single one is followed by a comma. -/
def literals : List Result → String
  | [] => ""
  | [child] => child.literal ++ ","
  | [first, second] => first.literal ++ ", " ++ second.literal
  | child :: rest => child.literal ++ ", " ++ literals rest

end

end Result

end AccessDecision
