import AccessDecision.Proofs.Policy.Isolation

/-!
# Consulting policies

Policies are consulted when they are evaluated one after the other and each of them gives a
result.  What a policy of the host is asked shows in the calls: it is called for the request
at hand, once for each time that it is consulted.
-/

namespace AccessDecision

/-- Policies are evaluated for a request one after the other and give their results;
between them nothing changes but the log. -/
inductive Consulted {φ σ : Type} (host : Host φ σ) (request : Request) :
    Stage φ σ → List (Policy φ × Result) → Stage φ σ → Prop where
  | done {stage later : Stage φ σ} (quiet : later.silenced = stage.silenced) :
      Consulted host request stage [] later
  | next {stage begun middle later : Stage φ σ} {policy : Policy φ} {result : Result}
      {others : List (Policy φ × Result)} (quiet : begun.silenced = stage.silenced)
      (gives : policy.evaluate host request begun = (.ok result, middle))
      (rest : Consulted host request middle others later) :
      Consulted host request stage ((policy, result) :: others) later

namespace Consulted

variable {φ σ : Type} {host : Host φ σ} {request : Request}

theorem single {policy : Policy φ} {result : Result} {stage later : Stage φ σ}
    (gives : policy.evaluate host request stage = (.ok result, later)) :
    Consulted host request stage [(policy, result)] later :=
  .next rfl gives (.done rfl)

theorem after_quiet {stage begun later : Stage φ σ} {entries : List (Policy φ × Result)}
    (quiet : begun.silenced = stage.silenced)
    (consulted : Consulted host request begun entries later) :
    Consulted host request stage entries later := by
  cases consulted with
  | done unchanged => exact .done (unchanged.trans quiet)
  | next unchanged gives rest => exact .next (unchanged.trans quiet) gives rest

theorem trans {stage middle later : Stage φ σ} {first second : List (Policy φ × Result)}
    (consulted : Consulted host request stage first middle)
    (onwards : Consulted host request middle second later) :
    Consulted host request stage (first ++ second) later := by
  induction consulted with
  | done quiet => exact onwards.after_quiet quiet
  | next quiet gives _ ih => exact .next quiet gives (ih onwards)

end Consulted

/-- The policy of the host that a call asks, with the request. -/
def Call.summons? {φ : Type} : Call φ → Option (φ × Request)
  | .policy code request => some (code, request)
  | .function .. => none

def Stage.summons {φ σ : Type} (stage : Stage φ σ) : List (φ × Request) :=
  stage.calls.filterMap Call.summons?

theorem Stage.summons_eq_of_silenced {φ σ : Type} {stage other : Stage φ σ}
    (same : stage.silenced = other.silenced) : stage.summons = other.summons := by
  rw [summons, calls_eq_of_silenced same, summons]

namespace Policy

variable {φ σ : Type}

def summons (request : Request) : Policy φ → List (φ × Request)
  | .host code _ _ => [(code, request)]
  | _ => []

theorem summons_evaluate_host (host : Host φ σ) (request : Request) (code : φ) (name : Value)
    (metadata : Option Metadata) (stage : Stage φ σ) :
    ((Policy.host code name metadata).evaluate host request stage).2.summons =
      stage.summons ++ [(code, request)] := by
  have asked : (Evaluation.callPolicy host code request stage).2.summons =
      stage.summons ++ [(code, request)] := by
    change (stage.calls ++ [Call.policy code request]).filterMap Call.summons? = _
    rw [List.filterMap_append]
    rfl
  rw [evaluate]
  rcases ending : Evaluation.callPolicy host code request stage with ⟨failure | result, later⟩
  · rw [ending] at asked
    rw [Attempt.bind_of_error ending]
    exact asked
  · rw [ending] at asked
    rw [Attempt.bind_of_ok ending]
    exact asked

/-- A leaf asks no policy of the host but itself. -/
theorem summons_evaluate_leaf (host : Host φ σ) (request : Request) {policy : Policy φ}
    (leaf : policy.isLeaf = true) (stage : Stage φ σ) :
    (policy.evaluate host request stage).2.summons =
      stage.summons ++ policy.summons request := by
  by_cases isHost : ∃ code name metadata, policy = .host code name metadata
  · obtain ⟨code, name, metadata, rfl⟩ := isHost
    exact summons_evaluate_host host request code name metadata stage
  · have isolated : Evaluation.Isolated (fun call => call.summons? = none)
        (policy.evaluate host request) :=
      isolated_evaluate_leaf (fun _ _ => rfl) host request leaf
        fun code name metadata same => absurd ⟨code, name, metadata, same⟩ isHost
    obtain ⟨outcome, later, modest, runs⟩ := isolated stage.state
    have none : policy.summons request = [] := by
      cases policy with
      | host code name metadata => exact absurd ⟨code, name, metadata, rfl⟩ isHost
      | _ => rfl
    have quiet : later.calls.filterMap Call.summons? = [] :=
      List.filterMap_eq_nil_iff.mpr modest.calls
    rw [runs stage rfl, none, Stage.summons, Stage.append_calls, List.filterMap_append, quiet]
    rfl

end Policy

namespace Consulted

variable {φ σ : Type} {host : Host φ σ} {request : Request}

/-- The policies of the host are asked once for each leaf that is one of them. -/
theorem summons_eq {stage later : Stage φ σ} {entries : List (Policy φ × Result)}
    (consulted : Consulted host request stage entries later)
    (leaves : ∀ entry ∈ entries, entry.1.isLeaf = true) :
    later.summons = stage.summons ++ entries.flatMap fun entry => entry.1.summons request := by
  induction consulted with
  | done quiet =>
      rw [Stage.summons_eq_of_silenced quiet]
      simp
  | @next stage begun middle later policy result others quiet gives rest ih =>
      have asked := Policy.summons_evaluate_leaf host request
        (leaves (policy, result) (by simp)) begun
      rw [gives] at asked
      rw [ih fun entry member => leaves entry (by simp [member]), asked,
        Stage.summons_eq_of_silenced quiet]
      simp

end Consulted

end AccessDecision
