import AccessDecision.Proofs.Policy.Isolation

/-!
# Policies that host code adds

While a policy is evaluated host code may add policies to any checker.  The calls that are made
account for it: each of them is answered, unless it is a lookup that its limit interrupts, and each
reply adds its policies at the end of the rosters, in order.  Nothing else changes a roster.
-/

namespace AccessDecision

variable {φ σ : Type}

namespace Rosters

def joining (checker : Nat) (additions : List (Nat × Policy φ)) : List (Policy φ) :=
  (additions.filter fun addition => addition.1 = checker).map Prod.snd

theorem addAll_eq_joining (rosters : Rosters φ) (additions : List (Nat × Policy φ))
    (checker : Nat) :
    rosters.addAll additions checker = rosters checker ++ joining checker additions :=
  addAll_apply rosters additions checker

theorem addAll_append (rosters : Rosters φ) (first second : List (Nat × Policy φ)) :
    rosters.addAll (first ++ second) = (rosters.addAll first).addAll second :=
  List.foldl_append

end Rosters

/-- Something that host code is called for.  Only a lookup stands within a limit. -/
inductive Errand (φ : Type) where
  | direct (call : Call φ)
  | lookup (code : φ) (subject resource relation : Value) (limit : Option Timeout)

def Errand.made : Errand φ → Call φ
  | .direct call => call
  | .lookup code subject resource relation _ => .function code [subject, resource, relation]

namespace Host

variable (host : Host φ σ)

/-- The state that a call of host code leaves behind, and the policies that it adds. -/
def answer (state : σ) : Call φ → σ × List (Nat × Policy φ)
  | .function code arguments =>
      let reply := host.function code arguments state
      (reply.state, reply.additions)
  | .policy code request =>
      let reply := host.policy code request state
      (reply.state, reply.additions)

/-- What an errand leaves behind: nothing new if it is a lookup that its limit interrupts, and
otherwise the state of its reply and the policies that this adds. -/
def serve (state : σ) : Errand φ → σ × List (Nat × Policy φ)
  | .direct call => host.answer state call
  | .lookup code subject resource relation limit =>
      if Resolver.interrupts host.loop limit
          (host.delay code [subject, resource, relation] state) then (state, [])
      else host.answer state (.function code [subject, resource, relation])

def serveAll (state : σ) : List (Errand φ) → σ × List (Nat × Policy φ)
  | [] => (state, [])
  | errand :: rest =>
      let (next, added) := host.serve state errand
      let (last, others) := serveAll next rest
      (last, added ++ others)

theorem serveAll_append (state : σ) (first second : List (Errand φ)) :
    host.serveAll state (first ++ second) =
      ((host.serveAll (host.serveAll state first).1 second).1,
        (host.serveAll state first).2 ++
          (host.serveAll (host.serveAll state first).1 second).2) := by
  induction first generalizing state with
  | nil => rfl
  | cons errand rest ih => simp [serveAll, ih]

end Host

/-- Between two stages host code was called for some errands, which are all the calls that were
made and account for its state and for the policies of every checker. -/
structure Stage.Grown (host : Host φ σ) (stage : Stage φ σ) (errands : List (Errand φ))
    (later : Stage φ σ) : Prop where
  state : later.state = (host.serveAll stage.state errands).1
  rosters : later.rosters = stage.rosters.addAll (host.serveAll stage.state errands).2
  calls : later.calls = stage.calls ++ errands.map Errand.made

namespace Stage.Grown

variable {host : Host φ σ} {stage middle later : Stage φ σ} {errands others : List (Errand φ)}

theorem of_silenced (same : later.silenced = stage.silenced) : stage.Grown host [] later := by
  injection same with state rosters calls
  exact ⟨state, rosters, by rw [calls, List.map_nil, List.append_nil]⟩

theorem trans (grown : stage.Grown host errands middle)
    (onwards : middle.Grown host others later) :
    stage.Grown host (errands ++ others) later := by
  have both := host.serveAll_append stage.state errands others
  rw [← grown.state] at both
  refine ⟨?_, ?_, ?_⟩
  · rw [onwards.state, both]
  · rw [onwards.rosters, grown.rosters, both, Rosters.addAll_append]
  · rw [onwards.calls, grown.calls, List.map_append, List.append_assoc]

end Stage.Grown

/-- An evaluation that changes rosters only by what host code adds. -/
def Evaluation.Grows {α : Type} (host : Host φ σ) (evaluation : Evaluation φ σ α) : Prop :=
  ∀ stage : Stage φ σ, ∃ errands, stage.Grown host errands (evaluation stage).2

namespace Evaluation

variable {host : Host φ σ} {α β : Type}

theorem Grows.bind {evaluation : Evaluation φ σ α} {next : α → Evaluation φ σ β}
    (first : Grows host evaluation) (second : ∀ value, Grows host (next value)) :
    Grows host (evaluation >>= next) := by
  intro stage
  obtain ⟨errands, grown⟩ := first stage
  rcases runs : evaluation stage with ⟨failure | value, middle⟩
  · rw [runs] at grown
    rw [Attempt.bind_of_error runs]
    exact ⟨errands, grown⟩
  · rw [runs] at grown
    rw [Attempt.bind_of_ok runs]
    obtain ⟨others, onwards⟩ := second value middle
    exact ⟨errands ++ others, grown.trans onwards⟩

theorem Grows.orElse {evaluation : Evaluation φ σ α} {handler : Failure → Evaluation φ σ α}
    (first : Grows host evaluation) (second : ∀ failure, Grows host (handler failure)) :
    Grows host (evaluation.orElse handler) := by
  intro stage
  obtain ⟨errands, grown⟩ := first stage
  rcases runs : evaluation stage with ⟨failure | value, middle⟩
  · rw [runs] at grown
    rw [Attempt.orElse_of_error runs]
    obtain ⟨others, onwards⟩ := second failure middle
    exact ⟨errands ++ others, grown.trans onwards⟩
  · rw [runs] at grown
    rw [Attempt.orElse_of_ok runs]
    exact ⟨errands, grown⟩

theorem grows_ofExcept (value : Except Failure α) :
    Grows host (Attempt.ofExcept value : Evaluation φ σ α) :=
  fun _ => ⟨[], .of_silenced rfl⟩

theorem grown_errand (stage : Stage φ σ) (errand : Errand φ) :
    stage.Grown host [errand]
      { state := (host.serve stage.state errand).1
        rosters := stage.rosters.addAll (host.serve stage.state errand).2
        calls := stage.calls ++ [errand.made], log := stage.log } where
  state := rfl
  rosters := by simp [Host.serveAll]
  calls := rfl

theorem grows_lookup_host (code : φ) (subject resource relation : Value)
    (limit : Option Timeout) :
    Grows host ((Resolver.host code).lookup host subject resource relation limit) := by
  intro stage
  let errand : Errand φ := .lookup code subject resource relation limit
  have leaves : ((Resolver.host code).lookup host subject resource relation limit stage).2 =
      { state := (host.serve stage.state errand).1
        rosters := stage.rosters.addAll (host.serve stage.state errand).2
        calls := stage.calls ++ [errand.made], log := stage.log } := by
    rw [Resolver.lookup]
    cases interrupted : Resolver.interrupts host.loop limit
        (host.delay code [subject, resource, relation] stage.state) with
    | true =>
        simp [bind, noteCall, Attempt.change, Attempt.look, interrupted, errand, Host.serve,
          Errand.made, Rosters.addAll]
    | false =>
        rcases replies : host.function code [subject, resource, relation] stage.state with
          ⟨failure | value, state, additions⟩ <;>
          simp [bind, noteCall, Attempt.change, Attempt.look, interrupted, errand, accept,
            Host.serve, Host.answer, Errand.made, replies, Pure.pure]
  rw [leaves]
  exact ⟨[errand], grown_errand stage errand⟩

theorem compositional_grows (host : Host φ σ) :
    Compositional host (fun _ => True) (Grows host) where
  ofExcept := grows_ofExcept
  bind := Grows.bind
  orElse := Grows.orElse
  report _ _ := ⟨[], .of_silenced rfl⟩
  callFunction code arguments _ stage := 
    ⟨_, grown_errand stage (.direct (.function code arguments))⟩
  callPolicy code request _ stage := 
    ⟨_, grown_errand stage (.direct (.policy code request))⟩
  lookup code subject resource relation limit _ :=
    grows_lookup_host code subject resource relation limit

end Evaluation

/-- Every policy grows the rosters by what host code adds while it is evaluated. -/
theorem Policy.grows_evaluate (host : Host φ σ) (request : Request) (policy : Policy φ) :
    Evaluation.Grows host (policy.evaluate host request) :=
  (Evaluation.compositional_grows host).evaluate (fun _ _ => trivial) request
    (fun _ => trivial) policy

end AccessDecision
