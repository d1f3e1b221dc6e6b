import AccessDecision.Metadata
import AccessDecision.Verdict

/-!
# Comparing

Results, traces, verdicts and metadata can be compared with one another.  Things of
different kinds never agree, not even a trace and the result that it holds.
-/

namespace AccessDecision

inductive Comparand where
  | nothing
  | result (result : Result)
  | trace (trace : Trace)
  | verdict (verdict : Verdict)
  | metadata (metadata : Metadata)

namespace Comparand

def ofOption {α : Type} (kind : α → Comparand) (item : Option α) : Comparand :=
  item.elim .nothing kind

def agrees : Comparand → Comparand → Bool
  | .nothing, .nothing => true
  | .result left, .result right => left.agrees right
  | .trace left, .trace right => left.agrees right
  | .verdict left, .verdict right => left.agrees right
  | .metadata left, .metadata right => left.agrees right
  | _, _ => false

end Comparand

end AccessDecision
