import AccessDecision.Proofs.Policy.Composition

/-!
# Evaluations in isolation

What the evaluation of a policy comes to depends on the state of the host alone.  The
rosters, the calls and the log that it finds are never read, and what it adds to them is the
same wherever it takes place.  So an evaluation can be studied on a bare stage and carried
over to any other one.
-/

namespace AccessDecision

namespace Rosters

variable {φ : Type}

theorem addAll_apply (rosters : Rosters φ) (additions : List (Nat × Policy φ))
    (checker : Nat) :
    rosters.addAll additions checker =
      rosters checker ++
        (additions.filter fun addition => addition.1 = checker).map Prod.snd := by
  induction additions generalizing rosters with
  | nil => simp [addAll]
  | cons addition rest ih =>
      change (rosters.add addition.1 addition.2).addAll rest checker = _
      rw [ih]
      by_cases same : addition.1 = checker
      · subst same
        simp
      · simp [add_of_ne rosters addition.2 (Ne.symm same), same]

end Rosters

namespace Stage

variable {φ σ : Type}

/-- A stage on which nothing happened yet. -/
def bare (state : σ) : Stage φ σ :=
  { state, rosters := fun _ => [], calls := [], log := [] }

def append (stage later : Stage φ σ) : Stage φ σ :=
  { state := later.state
    rosters := fun checker => stage.rosters checker ++ later.rosters checker
    calls := stage.calls ++ later.calls
    log := stage.log ++ later.log }

/-- A stage without its log. -/
def silenced (stage : Stage φ σ) : Stage φ σ :=
  { stage with log := [] }

@[simp]
theorem append_state (stage later : Stage φ σ) : (stage.append later).state = later.state :=
  rfl

@[simp]
theorem append_calls (stage later : Stage φ σ) :
    (stage.append later).calls = stage.calls ++ later.calls :=
  rfl

@[simp]
theorem append_log (stage later : Stage φ σ) :
    (stage.append later).log = stage.log ++ later.log :=
  rfl

@[simp]
theorem append_bare (stage : Stage φ σ) : stage.append (bare stage.state) = stage := by
  simp [append, bare]

theorem append_assoc (first second third : Stage φ σ) :
    (first.append second).append third = first.append (second.append third) := by
  simp [append, List.append_assoc]

theorem silenced_append (stage later : Stage φ σ) :
    (stage.append later).silenced = stage.silenced.append later.silenced :=
  rfl

theorem state_eq_of_silenced {stage other : Stage φ σ}
    (same : stage.silenced = other.silenced) : stage.state = other.state := by
  injection same

theorem calls_eq_of_silenced {stage other : Stage φ σ}
    (same : stage.silenced = other.silenced) : stage.calls = other.calls := by
  injection same

end Stage

/-- A stage on which only calls of one kind were made and nothing was logged but what
policies log. -/
structure Stage.Modest {φ σ : Type} (allowed : Call φ → Prop) (stage : Stage φ σ) : Prop where
  calls : ∀ call ∈ stage.calls, allowed call
  records : ∀ record ∈ stage.log, record.isEvaluation = true

namespace Stage.Modest

variable {φ σ : Type} {allowed : Call φ → Prop}

theorem of_quiet {stage : Stage φ σ} (calls : stage.calls = []) (log : stage.log = []) :
    stage.Modest allowed :=
  ⟨by simp [calls], by simp [log]⟩

theorem append {stage later : Stage φ σ} (first : stage.Modest allowed)
    (second : later.Modest allowed) : (stage.append later).Modest allowed where
  calls call member := (List.mem_append.mp member).elim (first.calls call) (second.calls call)
  records record member :=
    (List.mem_append.mp member).elim (first.records record) (second.records record)

end Stage.Modest

/-- An evaluation that comes to the same on all stages with the same state, makes calls of
one kind only and logs nothing but what policies log. -/
def Evaluation.Isolated {φ σ α : Type} (allowed : Call φ → Prop)
    (evaluation : Evaluation φ σ α) : Prop :=
  ∀ state, ∃ outcome later, later.Modest allowed ∧
    ∀ stage, stage.state = state → evaluation stage = (outcome, stage.append later)

namespace Evaluation

variable {φ σ α β : Type} {allowed : Call φ → Prop}

theorem isolated_ofExcept (value : Except Failure α) :
    Isolated allowed (Attempt.ofExcept value : Evaluation φ σ α) := by
  intro state
  refine ⟨value, .bare state, .of_quiet rfl rfl, ?_⟩
  rintro stage rfl
  simp

theorem isolated_pure (value : α) : Isolated allowed (pure value : Evaluation φ σ α) :=
  isolated_ofExcept (.ok value)

theorem isolated_look (view : σ → α) :
    Isolated allowed (Attempt.look fun stage : Stage φ σ => view stage.state) := by
  intro state
  refine ⟨.ok (view state), .bare state, .of_quiet rfl rfl, ?_⟩
  rintro stage rfl
  simp

theorem isolated_report {record : LogRecord} (evaluates : record.isEvaluation = true) :
    Isolated allowed (report record : Evaluation φ σ Unit) := by
  intro state
  refine ⟨.ok (), { Stage.bare state with log := [record] },
    ⟨by simp [Stage.bare], by simp [evaluates]⟩, ?_⟩
  rintro stage rfl
  simp [report, Stage.append, Stage.bare]

theorem isolated_noteCall {call : Call φ} (isAllowed : allowed call) :
    Isolated allowed (noteCall call : Evaluation φ σ Unit) := by
  intro state
  refine ⟨.ok (), { Stage.bare state with calls := [call] },
    ⟨by simp [isAllowed], by simp [Stage.bare]⟩, ?_⟩
  rintro stage rfl
  simp [noteCall, Stage.append, Stage.bare]

theorem isolated_accept (reply : σ → Reply φ σ α) : Isolated allowed (accept reply) := by
  intro state
  refine ⟨(reply state).outcome,
    { Stage.bare (reply state).state with
      rosters := Rosters.addAll (fun _ => []) (reply state).additions },
    .of_quiet rfl rfl, ?_⟩
  rintro stage rfl
  simp only [accept, Stage.append, Stage.bare, List.append_nil, Prod.mk.injEq, true_and,
    Stage.mk.injEq, and_true]
  funext checker
  rw [Rosters.addAll_apply, Rosters.addAll_apply (fun _ => []), List.nil_append]

theorem Isolated.bind {evaluation : Evaluation φ σ α} {next : α → Evaluation φ σ β}
    (first : Isolated allowed evaluation) (second : ∀ value, Isolated allowed (next value)) :
    Isolated allowed (evaluation >>= next) := by
  intro state
  obtain ⟨outcome, middle, modest, runs⟩ := first state
  cases outcome with
  | error failure =>
      refine ⟨.error failure, middle, modest, ?_⟩
      intro stage same
      exact Attempt.bind_of_error (runs stage same)
  | ok value =>
      obtain ⟨outcome, later, modestLater, goesOn⟩ := second value middle.state
      refine ⟨outcome, middle.append later, modest.append modestLater, ?_⟩
      intro stage same
      rw [Attempt.bind_of_ok (runs stage same), goesOn (stage.append middle) rfl,
        Stage.append_assoc]

theorem Isolated.orElse {evaluation : Evaluation φ σ α}
    {handler : Failure → Evaluation φ σ α} (first : Isolated allowed evaluation)
    (second : ∀ failure, Isolated allowed (handler failure)) :
    Isolated allowed (evaluation.orElse handler) := by
  intro state
  obtain ⟨outcome, middle, modest, runs⟩ := first state
  cases outcome with
  | ok value =>
      refine ⟨.ok value, middle, modest, ?_⟩
      intro stage same
      exact Attempt.orElse_of_ok (runs stage same)
  | error failure =>
      obtain ⟨outcome, later, modestLater, goesOn⟩ := second failure middle.state
      refine ⟨outcome, middle.append later, modest.append modestLater, ?_⟩
      intro stage same
      rw [Attempt.orElse_of_error (runs stage same), goesOn (stage.append middle) rfl,
        Stage.append_assoc]

theorem Isolated.same_effect {evaluation : Evaluation φ σ α}
    (isolated : Isolated allowed evaluation) {stage other : Stage φ σ}
    (same : stage.state = other.state) :
    ∃ outcome later, later.Modest allowed ∧
      evaluation stage = (outcome, stage.append later) ∧
      evaluation other = (outcome, other.append later) := by
  obtain ⟨outcome, later, modest, runs⟩ := isolated other.state
  exact ⟨outcome, later, modest, runs stage same, runs other rfl⟩

theorem Isolated.of_silenced {evaluation : Evaluation φ σ α}
    (isolated : Isolated allowed evaluation) {stage other later : Stage φ σ}
    {outcome : Except Failure α} (same : other.silenced = stage.silenced)
    (ends : evaluation stage = (outcome, later)) :
    ∃ last, evaluation other = (outcome, last) ∧ last.silenced = later.silenced := by
  obtain ⟨_, effect, -, runs, runsThere⟩ :=
    isolated.same_effect (Stage.state_eq_of_silenced same).symm
  cases ends.symm.trans runs
  exact ⟨_, runsThere, by rw [Stage.silenced_append, Stage.silenced_append, same]⟩

end Evaluation

section Policies

variable {φ σ : Type} {allowed : Call φ → Prop}

theorem Evaluation.isolated_callFunction (host : Host φ σ) {code : φ} {arguments : List Value}
    (isAllowed : allowed (.function code arguments)) :
    Isolated allowed (callFunction host code arguments) :=
  (isolated_noteCall isAllowed).bind fun _ => isolated_accept _

theorem Resolver.isolated_lookup_host (host : Host φ σ) {code : φ}
    {subject resource relation : Value} (limit : Option Timeout)
    (isAllowed : allowed (.function code [subject, resource, relation])) :
    Evaluation.Isolated allowed
      ((Resolver.host code).lookup host subject resource relation limit) := by
  rw [lookup]
  refine (Evaluation.isolated_noteCall isAllowed).bind fun _ => ?_
  refine (Evaluation.isolated_look _).bind fun delay => ?_
  split
  · exact Evaluation.isolated_pure none
  · exact (Evaluation.isolated_accept _).bind fun _ => Evaluation.isolated_pure _

/-- Isolation passes from parts to the whole. -/
theorem Evaluation.compositional_isolated (host : Host φ σ) (allowed : Call φ → Prop) :
    Compositional host allowed (Isolated allowed) where
  ofExcept := isolated_ofExcept
  bind := Isolated.bind
  orElse := Isolated.orElse
  report := isolated_report
  callFunction _ _ isAllowed := isolated_callFunction host isAllowed
  callPolicy _ _ isAllowed := (isolated_noteCall isAllowed).bind fun _ => isolated_accept _
  lookup _ _ _ _ limit isAllowed := Resolver.isolated_lookup_host host limit isAllowed

namespace Policy

theorem isolated_evaluate_leaf (functions : Call.AllowsFunctions allowed) (host : Host φ σ)
    (request : Request) {policy : Policy φ} (leaf : policy.isLeaf = true)
    (asks : ∀ code name metadata, policy = .host code name metadata →
      allowed (.policy code request)) :
    Evaluation.Isolated allowed (policy.evaluate host request) :=
  (Evaluation.compositional_isolated host allowed).evaluate_leaf functions request leaf asks

/-- Every policy is evaluated in isolation, and the policies of the host that it asks are
asked for the same request. -/
theorem isolated_evaluate (functions : Call.AllowsFunctions allowed) (host : Host φ σ)
    (request : Request) (asks : ∀ code, allowed (.policy code request))
    (policy : Policy φ) :
    Evaluation.Isolated allowed (policy.evaluate host request) :=
  (Evaluation.compositional_isolated host allowed).evaluate functions request asks policy

theorem isolated (host : Host φ σ) (request : Request) (policy : Policy φ) :
    Evaluation.Isolated (fun _ => True) (policy.evaluate host request) :=
  policy.isolated_evaluate (fun _ _ => trivial) host request fun _ => trivial

theorem evaluate_of_silenced (host : Host φ σ) (request : Request) {policy : Policy φ}
    {stage other later : Stage φ σ} {outcome : Except Failure Result}
    (same : other.silenced = stage.silenced)
    (ends : policy.evaluate host request stage = (outcome, later)) :
    ∃ last, policy.evaluate host request other = (outcome, last) ∧
      last.silenced = later.silenced :=
  (policy.isolated host request).of_silenced same ends

end Policy

end Policies

end AccessDecision
