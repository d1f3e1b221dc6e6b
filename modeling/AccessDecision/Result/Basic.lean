import AccessDecision.Choice

/-!
# Results of policies

A policy answers a request by a result: access is granted or denied by one policy, or a
combination records the results of several policies that were evaluated one after the
other.  Names of policies and reasons are kept as they are given, texts as a rule; a
null reason is none.  The outcome of a combination follows from its children; it may be declared as
any value of the same truth and is then kept as declared.
-/

namespace AccessDecision

/-- How the outcomes of several policies are combined. -/
inductive Connective where
  | and
  | or
  | not
deriving DecidableEq

namespace Connective

def label : Connective → String
  | .and => "AND"
  | .or => "OR"
  | .not => "NOT"

def choice : Choice Connective :=
  ⟨"CombineOp", label, [.and, .or, .not]⟩

/-- The combination of some outcomes.  A negation concerns the first. -/
def combine : Connective → List Bool → Bool
  | .and, outcomes => outcomes.all id
  | .or, outcomes => outcomes.any id
  | .not, outcomes => !outcomes.headD false

end Connective

inductive Result where
  | granted (policy reason : Value)
  | denied (policy reason : Value)
  | combined (policy : Value) (operation : Connective) (children : List Result)
      (outcome : Value)

instance : Inhabited Result :=
  ⟨.denied .null .null⟩

namespace Result

def policyName : Result → Value
  | .granted policy _ => policy
  | .denied policy _ => policy
  | .combined policy _ _ _ => policy

def outcome : Result → Value
  | .granted _ _ => .bool true
  | .denied _ _ => .bool false
  | .combined _ _ _ outcome => outcome

def isGranted (result : Result) : Bool :=
  result.outcome.truthy

/-- The reason that a single policy gave. -/
def reason : Result → Value
  | .granted _ reason => reason
  | .denied _ reason => reason
  | .combined .. => .null

def children : Result → List Result
  | .combined _ _ children _ => children
  | _ => []

/-- The combination of results whose outcome is computed. -/
def ofChildren (policy : Value) (operation : Connective) (children : List Result) :
    Result :=
  .combined policy operation children
    (.bool (operation.combine (children.map isGranted)))

/-- Whether a connective applies to a count of children. -/
def checkCount (policy : Value) (operation : Connective) (count : Nat) :
    Except Failure Unit :=
  match operation with
  | .not => if count = 1 then .ok () else .error (.result (.childCount policy count))
  | _ => if count = 0 then .error (.fault (.noPolicies policy)) else .ok ()

/-- A result that must be there for the use that is made of it. -/
def present (use : String) : Option Result → Except Failure Result
  | some result => .ok result
  | none => .error (.kind (.noField (Value.kindName .null) use))

/-- The combination of results with a declared outcome, which is computed if it is
null. -/
def declare (policy : Value) (operation : Connective) (children : List Result)
    (declared : Value) : Except Failure Result := do
  checkCount policy operation children.length
  let computed := operation.combine (children.map isGranted)
  match declared with
  | .null => .ok (ofChildren policy operation children)
  | outcome =>
      if outcome.truthy = computed then .ok (.combined policy operation children outcome)
      else .error (.result (.outcome operation.label policy outcome computed))

@[simp]
theorem isGranted_granted (policy reason : Value) :
    (granted policy reason).isGranted = true :=
  rfl

@[simp]
theorem isGranted_denied (policy reason : Value) :
    (denied policy reason).isGranted = false :=
  rfl

@[simp]
theorem isGranted_ofChildren (policy : Value) (operation : Connective)
    (children : List Result) :
    (ofChildren policy operation children).isGranted =
      operation.combine (children.map isGranted) :=
  rfl

@[simp]
theorem children_ofChildren (policy : Value) (operation : Connective)
    (children : List Result) :
    (ofChildren policy operation children).children = children :=
  rfl

end Result

end AccessDecision
