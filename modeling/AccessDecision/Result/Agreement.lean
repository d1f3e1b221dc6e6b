import AccessDecision.Result.Basic
import AccessDecision.Value.Agreement

/-!
# Agreement of results

Two results agree when they are the same tree: nodes of the same form with the same
connectives, and with policy names, reasons and outcomes that agree as values.
-/

namespace AccessDecision

namespace Result

mutual

def agrees : Result → Result → Bool
  | .granted policy reason, .granted policy' reason' =>
      policy.partAgrees policy' && reason.partAgrees reason'
  | .denied policy reason, .denied policy' reason' =>
      policy.partAgrees policy' && reason.partAgrees reason'
  | .combined policy operation children outcome,
      .combined policy' operation' children' outcome' =>
      policy.partAgrees policy' && operation == operation' &&
        childrenAgree children children' && outcome.partAgrees outcome'
  | _, _ => false

/-- Whether two lists of results agree one by one. -/
def childrenAgree : List Result → List Result → Bool
  | [], [] => true
  | child :: rest, child' :: rest' => child.agrees child' && childrenAgree rest rest'
  | _, _ => false

end

end Result

end AccessDecision
