import AccessDecision.Policy.Builder
import AccessDecision.Proofs.Policy.Polling
import AccessDecision.Proofs.Policy.Valuation

/-!
# Built policies

A builder can be called in any order and as often as one likes.  What it builds depends on what
each of its methods was last called with, and a call with an effect that does not exist fails.

A built policy asks its guards in a fixed order until one of them fails or does not hold.  It
decides like the conjunction of policies that were built with one guard each, in that order.
-/

namespace AccessDecision

namespace Effect

theorem ofValue_label (effect : Effect) : choice.ofValue (.text effect.label) = .ok effect := by
  cases effect <;> simp [Choice.ofValue, choice, label, Value.agrees_text]

theorem ofValue_of_ne {value : Value} (unlike : ∀ effect : Effect, value ≠ .text effect.label) :
    choice.ofValue value = .error (.notMember value "Effect") := by
  have allow := unlike .allow
  have deny := unlike .deny
  simp_all [Choice.ofValue, choice, label, Value.agrees_text]

end Effect

namespace PolicyBuilder

variable {φ σ : Type}

def Step.guard? (part : RequestPart) : Step φ → Option (Option φ)
  | .guard other code => if other = part then some code else none
  | _ => none

def Step.effect? : Step φ → Option Effect
  | .effect value => (Effect.choice.ofValue value).toOption
  | _ => none

def Step.metadata? : Step φ → Option (Option Metadata)
  | .metadata fields => (fields.mapM Metadata.ofArguments).toOption
  | _ => none

def last {α : Type} (read : Step φ → Option α) (calls : List (Step φ)) : Option α :=
  calls.reverse.findSome? read

theorem last_singleton {α : Type} (read : Step φ → Option α) (call : Step φ) :
    last read [call] = read call := by
  simp [last]

theorem last_cons {α : Type} (read : Step φ → Option α) (call : Step φ)
    (calls : List (Step φ)) :
    last read (call :: calls) = (last read calls).or (read call) := by
  simp [last, List.findSome?_append]

/-- The parts of a request in the order in which their guards are asked. -/
def order : List RequestPart :=
  [.subject, .action, .resource, .context, .whole]

def guardFor (builder : PolicyBuilder φ) : RequestPart → Option φ
  | .subject => builder.subject
  | .action => builder.action
  | .resource => builder.resource
  | .context => builder.context
  | .whole => builder.whole

theorem guardFor_setGuard (builder : PolicyBuilder φ) (code : Option φ)
    (part other : RequestPart) :
    (builder.setGuard code part).guardFor other =
      if part = other then code else builder.guardFor other := by
  cases part <;> cases other <;> rfl

theorem guards_eq (builder : PolicyBuilder φ) :
    builder.guards = order.filterMap fun part => (builder.guardFor part).map (Guard.mk part) :=
  rfl

/-- The policy that some calls build: what was last given to each method, or what a builder
starts with. -/
def normalForm (name : Value) (calls : List (Step φ)) : Policy φ :=
  .guarded
    (order.filterMap fun part => ((last (Step.guard? part) calls).getD none).map (Guard.mk part))
    ((last Step.effect? calls).getD .allow) name
    ((last Step.metadata? calls).getD (some .empty))

/-- A builder that some calls made from an earlier one. -/
structure Overlays (earlier : PolicyBuilder φ) (calls : List (Step φ))
    (later : PolicyBuilder φ) : Prop where
  name : later.name = earlier.name
  guards : ∀ part, later.guardFor part =
    (last (Step.guard? part) calls).getD (earlier.guardFor part)
  effect : later.effect = (last Step.effect? calls).getD earlier.effect
  metadata : later.metadata = (last Step.metadata? calls).getD earlier.metadata

namespace Overlays

variable {earlier middle later : PolicyBuilder φ} {call : Step φ} {calls : List (Step φ)}

theorem refl (builder : PolicyBuilder φ) : Overlays builder [] builder :=
  ⟨rfl, fun _ => rfl, rfl, rfl⟩

theorem cons (first : Overlays earlier [call] middle) (rest : Overlays middle calls later) :
    Overlays earlier (call :: calls) later where
  name := rest.name.trans first.name
  guards part := by
    rw [rest.guards, first.guards, last_cons (Step.guard? part) call calls, Option.getD_or,
      last_singleton]
  effect := by
    rw [rest.effect, first.effect, last_cons Step.effect? call calls, Option.getD_or,
      last_singleton]
  metadata := by
    rw [rest.metadata, first.metadata, last_cons Step.metadata? call calls, Option.getD_or,
      last_singleton]

theorem build_eq {name : Value} (overlays : Overlays (start name) calls later) :
    later.build = normalForm name calls := by
  have unset (part : RequestPart) : (start name : PolicyBuilder φ).guardFor part = none := by
    cases part <;> rfl
  rw [build, guards_eq, overlays.name, overlays.effect, overlays.metadata, normalForm]
  simp only [overlays.guards, unset]
  rfl

end Overlays

/-- A call that fails: with an effect that does not exist, or with a field that metadata do not
have. -/
inductive Step.Refused : Step φ → Failure → Prop where
  | effect {value : Value} (unlike : ∀ effect : Effect, value ≠ .text effect.label) :
      Refused (.effect value) (.notMember value "Effect")
  | metadata {fields : Fields} {failure : Failure}
      (fails : Metadata.ofArguments fields = .error failure) :
      Refused (.metadata (some fields)) failure

def Step.Accepted (call : Step φ) : Prop :=
  ∀ failure, ¬ call.Refused failure

section Calls

variable {builder : PolicyBuilder φ} {call : Step φ} {before after calls : List (Step φ)}
  {failure : Failure}

theorem step_of_refused (refused : call.Refused failure) :
    builder.step call = .error failure := by
  cases refused with
  | effect unlike =>
      rw [step, Effect.ofValue_of_ne unlike]
      rfl
  | @metadata fields failure fails =>
      have made : (some fields).mapM Metadata.ofArguments = .error failure := by
        rw [Option.mapM_some, fails]
        rfl
      rw [step, made]
      rfl

theorem step_of_accepted (builder : PolicyBuilder φ) (accepted : call.Accepted) :
    ∃ later, builder.step call = .ok later ∧ Overlays builder [call] later := by
  cases call with
  | guard part code =>
      refine ⟨builder.setGuard code part, rfl, ?_⟩
      refine ⟨by cases part <;> rfl, fun other => ?_, by cases part <;> rfl,
        by cases part <;> rfl⟩
      rw [guardFor_setGuard, last_singleton, Step.guard?]
      split <;> rfl
  | effect value =>
      by_cases unlike : ∀ effect : Effect, value ≠ .text effect.label
      · exact absurd (.effect unlike) (accepted _)
      · obtain ⟨effect, alike⟩ := Classical.not_forall.mp unlike
        obtain rfl := Classical.not_not.mp alike
        have reads := Effect.ofValue_label effect
        refine ⟨{ builder with effect }, by rw [step, reads]; rfl, rfl, fun part => ?_, ?_, rfl⟩
        · cases part <;> rfl
        · rw [last_singleton, Step.effect?, reads]
          rfl
  | metadata fields =>
      rcases made : fields.mapM Metadata.ofArguments with failure | metadata
      · cases fields with
        | none => cases made
        | some fields =>
            have fails : Metadata.ofArguments fields = .error failure := by
              rcases ofArguments : Metadata.ofArguments fields with other | metadata
              · simp only [Option.mapM_some, ofArguments] at made
                cases made
                rfl
              · simp only [Option.mapM_some, ofArguments] at made
                cases made
            exact absurd (.metadata fails) (accepted _)
      · refine ⟨{ builder with metadata }, by rw [step, made]; rfl, rfl, fun part => ?_, rfl, ?_⟩
        · cases part <;> rfl
        · rw [last_singleton, Step.metadata?, made]
          rfl

theorem steps_of_accepted (builder : PolicyBuilder φ)
    (accepted : ∀ call ∈ calls, call.Accepted) :
    ∃ later, builder.steps calls = .ok later ∧ Overlays builder calls later := by
  induction calls generalizing builder with
  | nil => exact ⟨builder, rfl, .refl builder⟩
  | cons call rest ih =>
      rw [List.forall_mem_cons] at accepted
      obtain ⟨middle, steps, first⟩ := step_of_accepted builder accepted.1
      obtain ⟨later, onwards, others⟩ := ih middle accepted.2
      refine ⟨later, ?_, first.cons others⟩
      rw [PolicyBuilder.steps, steps]
      exact onwards

/-- Of several calls the first that is refused decides. -/
theorem steps_of_refused (builder : PolicyBuilder φ)
    (accepted : ∀ call ∈ before, call.Accepted) (refused : call.Refused failure) :
    builder.steps (before ++ call :: after) = .error failure := by
  induction before generalizing builder with
  | nil =>
      rw [List.nil_append, steps, step_of_refused refused]
  | cons first rest ih =>
      rw [List.forall_mem_cons] at accepted
      obtain ⟨middle, steps, -⟩ := step_of_accepted builder accepted.1
      rw [List.cons_append, PolicyBuilder.steps, steps]
      exact ih middle accepted.2

theorem accepted_or_refused (calls : List (Step φ)) :
    (∀ call ∈ calls, call.Accepted) ∨
      ∃ before call after failure, calls = before ++ call :: after ∧
        (∀ earlier ∈ before, earlier.Accepted) ∧ call.Refused failure := by
  induction calls with
  | nil => exact .inl (by simp)
  | cons call rest ih =>
      by_cases refused : ∃ failure, call.Refused failure
      · obtain ⟨failure, refused⟩ := refused
        exact .inr ⟨[], call, rest, failure, rfl, by simp, refused⟩
      · have accepted : call.Accepted := fun failure isRefused => refused ⟨failure, isRefused⟩
        rcases ih with others | ⟨before, later, after, failure, rfl, earlier, isRefused⟩
        · exact .inl (List.forall_mem_cons.mpr ⟨accepted, others⟩)
        · exact .inr ⟨call :: before, later, after, failure, rfl,
            List.forall_mem_cons.mpr ⟨accepted, earlier⟩, isRefused⟩

end Calls

/-- A policy that was built with one guard and allows what the guard allows. -/
def Singly (guard : Guard φ) (policy : Policy φ) : Prop :=
  ∃ name calls built, (start name).steps calls = .ok built ∧ built.guards = [guard] ∧
    built.effect = .allow ∧ policy = built.build

/-- Each guard can stand alone in a policy. -/
theorem singly_setGuard (name : Value) (guard : Guard φ) :
    Singly guard ((start name).setGuard (some guard.code) guard.part).build := by
  refine ⟨name, [.guard guard.part (some guard.code)], _, rfl, ?_, ?_, rfl⟩ <;>
    (obtain ⟨part, code⟩ := guard; cases part <;> rfl)

end PolicyBuilder

namespace Guard

variable {φ : Type}

/-- The call that asks a guard about a request. -/
def call (guard : Guard φ) (request : Request) : Call φ :=
  .function guard.code (guard.part.arguments request)

/-- A guard of one part is called with that part alone, and the guard of the whole request with
the subject, the action, the resource and the context. -/
inductive Asks (request : Request) : Guard φ → Call φ → Prop where
  | subject (code : φ) : Asks request ⟨.subject, code⟩ (.function code [request.subject])
  | action (code : φ) : Asks request ⟨.action, code⟩ (.function code [request.action])
  | resource (code : φ) : Asks request ⟨.resource, code⟩ (.function code [request.resource])
  | context (code : φ) : Asks request ⟨.context, code⟩ (.function code [request.context])
  | whole (code : φ) : Asks request ⟨.whole, code⟩
      (.function code [request.subject, request.action, request.resource, request.context])

theorem asks_call (guard : Guard φ) (request : Request) :
    guard.Asks request (guard.call request) := by
  obtain ⟨part, code⟩ := guard
  cases part with
  | subject => exact .subject code
  | action => exact .action code
  | resource => exact .resource code
  | context => exact .context code
  | whole => exact .whole code

end Guard

namespace Policy

variable {φ σ : Type}

/-- Asking guards in order, each on the stage that the ones before left, until one of them fails
or does not hold. -/
inductive Questioned (host : Host φ σ) (request : Request) :
    List (Guard φ) → Stage φ σ → List (Guard φ) → Ending → Stage φ σ → Prop where
  | exhausted (stage : Stage φ σ) : Questioned host request [] stage [] .exhausted stage
  | failed {guard : Guard φ} {rest : List (Guard φ)} {stage later : Stage φ σ}
      {failure : Failure}
      (fails : Evaluation.callFunction host guard.code (guard.part.arguments request) stage =
        (.error failure, later)) :
      Questioned host request (guard :: rest) stage [guard] (.failed failure) later
  | settled {guard : Guard φ} {rest : List (Guard φ)} {stage later : Stage φ σ} {value : Value}
      (answers : Evaluation.callFunction host guard.code (guard.part.arguments request) stage =
        (.ok value, later))
      (falsy : value.truthy = false) :
      Questioned host request (guard :: rest) stage [guard] .settled later
  | next {guard : Guard φ} {rest asked : List (Guard φ)} {stage middle later : Stage φ σ}
      {value : Value} {ending : Ending}
      (answers : Evaluation.callFunction host guard.code (guard.part.arguments request) stage =
        (.ok value, middle))
      (truthy : value.truthy = true)
      (others : Questioned host request rest middle asked ending later) :
      Questioned host request (guard :: rest) stage (guard :: asked) ending later

/-- What a guarded policy says by the way in which its guards end. -/
def Ending.verdict (name : Value) (effect : Effect) : Ending → Except Failure Result
  | .exhausted => .ok (guardedResult name effect true)
  | .settled => .ok (guardedResult name effect false)
  | .failed failure => .error failure

theorem isGranted_guardedResult (name : Value) (effect : Effect) (hold : Bool) :
    (guardedResult name effect hold).isGranted = (hold && effect == .allow) := by
  cases hold <;> cases effect <;> rfl

theorem Ending.isGranted_verdict (name : Value) (ending : Ending) :
    (ending.verdict name .allow).map Result.isGranted = ending.worth .and := by
  cases ending <;> rfl

section Questions

variable {host : Host φ σ} {request : Request} {guards asked : List (Guard φ)}
  {stage later : Stage φ σ} {ending : Ending}

theorem exists_questioned (host : Host φ σ) (request : Request) (guards : List (Guard φ))
    (stage : Stage φ σ) :
    ∃ asked ending later, Questioned host request guards stage asked ending later := by
  induction guards generalizing stage with
  | nil => exact ⟨_, _, _, .exhausted stage⟩
  | cons guard rest ih =>
      rcases ends : Evaluation.callFunction host guard.code (guard.part.arguments request) stage
        with ⟨failure | value, middle⟩
      · exact ⟨_, _, _, .failed ends⟩
      cases truthy : value.truthy with
      | false => exact ⟨_, _, _, .settled ends truthy⟩
      | true =>
          obtain ⟨asked, ending, later, questioned⟩ := ih middle
          exact ⟨_, _, _, .next ends truthy questioned⟩

namespace Questioned

/-- The guards that are asked are the first ones, and all of them if all hold. -/
theorem asked_prefix (questioned : Questioned host request guards stage asked ending later) :
    asked <+: guards ∧ (ending = .exhausted → asked = guards) := by
  induction questioned with
  | exhausted => exact ⟨List.prefix_rfl, fun _ => rfl⟩
  | failed => exact ⟨⟨_, rfl⟩, nofun⟩
  | settled => exact ⟨⟨_, rfl⟩, nofun⟩
  | next _ _ _ ih =>
      exact ⟨List.cons_prefix_cons.mpr ⟨rfl, ih.1⟩, fun exhausts => by rw [ih.2 exhausts]⟩

/-- Each guard that is asked is called once, with its own part of the request. -/
theorem calls_eq (questioned : Questioned host request guards stage asked ending later) :
    later.calls = stage.calls ++ asked.map (·.call request) := by
  induction questioned with
  | exhausted => simp
  | failed fails => exact Evaluation.calls_of_callFunction fails
  | settled answers => exact Evaluation.calls_of_callFunction answers
  | next answers _ _ ih =>
      rw [ih, Evaluation.calls_of_callFunction answers]
      simp [Guard.call]

theorem evaluate_eq (questioned : Questioned host request guards stage asked ending later)
    (effect : Effect) (name : Value) (metadata : Option Metadata) :
    (Policy.guarded guards effect name metadata).evaluate host request stage =
      (ending.verdict name effect, later) := by
  rw [evaluate]
  induction questioned with
  | exhausted => rfl
  | failed fails =>
      rw [guardsHold]
      exact Attempt.bind_of_error (Attempt.bind_of_error fails)
  | settled answers falsy =>
      rw [guardsHold, bind_assoc, Attempt.bind_of_ok answers, falsy]
      rfl
  | next answers truthy _ ih =>
      rw [guardsHold, bind_assoc, Attempt.bind_of_ok answers, truthy]
      exact ih

theorem gives_iff (questioned : Questioned host request guards stage asked ending later)
    (effect : Effect) (name : Value) (metadata : Option Metadata) :
    (Policy.guarded guards effect name metadata).Gives host request stage true ↔
      effect = .allow ∧ ending = .exhausted := by
  constructor
  · rintro ⟨result, last, gives, granted⟩
    rw [questioned.evaluate_eq] at gives
    cases ending with
    | failed failure => cases gives
    | exhausted =>
        cases gives
        rw [isGranted_guardedResult] at granted
        exact ⟨by simpa using granted, rfl⟩
    | settled =>
        cases gives
        rw [isGranted_guardedResult] at granted
        cases granted
  · rintro ⟨rfl, rfl⟩
    exact ⟨_, _, questioned.evaluate_eq .allow name metadata, rfl⟩

end Questioned

theorem evaluate_singly {guard : Guard φ} {policy : Policy φ}
    (singly : PolicyBuilder.Singly guard policy)
    (questioned : Questioned host request [guard] stage asked ending later) :
    ∃ name, policy.evaluate host request stage = (ending.verdict name .allow, later) := by
  obtain ⟨name, calls, built, -, guards, effect, rfl⟩ := singly
  refine ⟨built.name, ?_⟩
  rw [PolicyBuilder.build, guards, effect]
  exact questioned.evaluate_eq .allow built.name built.metadata

namespace Questioned

/-- To ask guards is to poll policies that were built with one guard each. -/
theorem polled (questioned : Questioned host request guards stage asked ending later)
    {single : Guard φ → Policy φ}
    (singly : ∀ guard ∈ guards, PolicyBuilder.Singly guard (single guard)) :
    ∃ polls results,
      Polled host request .and (guards.map single) stage polls results ending later := by
  induction questioned with
  | exhausted stage => exact ⟨_, _, .exhausted stage⟩
  | @failed guard rest _ _ _ fails =>
      obtain ⟨name, gives⟩ := evaluate_singly (singly guard (by simp)) (.failed fails)
      exact ⟨_, _, .failed gives⟩
  | @settled guard rest _ _ _ answers falsy =>
      obtain ⟨name, gives⟩ := evaluate_singly (singly guard (by simp)) (.settled answers falsy)
      exact ⟨_, _, .settled gives rfl⟩
  | @next guard rest _ _ middle _ _ _ answers truthy _ ih =>
      rw [List.forall_mem_cons] at singly
      obtain ⟨polls, results, polled⟩ := ih singly.2
      obtain ⟨name, gives⟩ :=
        evaluate_singly singly.1 (.next answers truthy (.exhausted middle))
      exact ⟨_, _, .next gives rfl polled⟩

/-- A guarded policy that allows decides like the conjunction of policies with one guard each. -/
theorem concurs (questioned : Questioned host request guards stage asked ending later)
    {single : Guard φ → Policy φ}
    (singly : ∀ guard ∈ guards, PolicyBuilder.Singly guard (single guard))
    (nonempty : guards ≠ []) (name : Value) (title : Option Value)
    (metadata : Option Metadata) :
    ∃ joint, allOf (guards.map single) title metadata = .ok joint ∧
      Concur (ending.verdict name .allow, later) (joint.evaluate host request stage) := by
  have made : allOf (guards.map single) title metadata =
      .ok (.all (guards.map single) (nameOr "AndPolicy" title) (metadata.getD .empty)) := by
    rw [allOf, combinator, if_neg (by simpa using nonempty)]
  obtain ⟨polls, results, polled⟩ := questioned.polled singly
  obtain ⟨last, quiet, -, joins⟩ := polled.evaluate_joint (.all made)
  refine ⟨_, made, ?_⟩
  rw [joins]
  refine ⟨?_, quiet.symm⟩
  rw [polled.isGranted_answer (by decide)]
  exact ending.isGranted_verdict name

end Questioned

end Questions

end Policy

/-- What some calls of a builder come to.  The first call with an effect that does not exist, or
with metadata that cannot be made, fails.  Otherwise the built policy has what was last given to
each method.  It calls its guards in a fixed order, each with its own part of the request, until
one of them fails or does not hold, and grants access if all hold and the effect is to allow.  If
it allows and has guards, it decides like the conjunction of policies with one guard each. -/
theorem PolicyBuilder.evaluate_built {φ : Type} (name : Value)
    (calls : List (PolicyBuilder.Step φ)) :
    (∃ before call after failure, calls = before ++ call :: after ∧
      (∀ earlier ∈ before, earlier.Accepted) ∧ call.Refused failure ∧
      (PolicyBuilder.start name).steps calls = .error failure) ∨
    ∃ built, (PolicyBuilder.start name).steps calls = .ok built ∧
      (∀ call ∈ calls, call.Accepted) ∧
      built.build = PolicyBuilder.normalForm name calls ∧
      ∀ {σ : Type} (host : Host φ σ) (request : Request) (stage : Stage φ σ),
        ∃ asked ending later,
          Policy.Questioned host request built.guards stage asked ending later ∧
          asked <+: built.guards ∧ (ending = .exhausted → asked = built.guards) ∧
          built.build.evaluate host request stage =
            (ending.verdict built.name built.effect, later) ∧
          later.calls = stage.calls ++ asked.map (·.call request) ∧
          (∀ guard ∈ asked, guard.Asks request (guard.call request)) ∧
          (built.build.Gives host request stage true ↔
            built.effect = .allow ∧ ending = .exhausted) ∧
          ∀ single : Guard φ → Policy φ,
            (∀ guard ∈ built.guards, PolicyBuilder.Singly guard (single guard)) →
            built.effect = .allow → built.guards ≠ [] →
            ∀ (title : Option Value) (metadata : Option Metadata), ∃ joint,
              Policy.allOf (built.guards.map single) title metadata = .ok joint ∧
              Policy.Concur (built.build.evaluate host request stage)
                (joint.evaluate host request stage) := by
  rcases accepted_or_refused calls with accepted | ⟨before, call, after, failure, rfl, earlier,
    refused⟩
  · obtain ⟨built, steps, overlays⟩ := steps_of_accepted (start name) accepted
    refine .inr ⟨built, steps, accepted, overlays.build_eq, fun host request stage => ?_⟩
    obtain ⟨asked, ending, later, questioned⟩ :=
      Policy.exists_questioned host request built.guards stage
    have evaluates : built.build.evaluate host request stage =
        (ending.verdict built.name built.effect, later) :=
      questioned.evaluate_eq built.effect built.name built.metadata
    refine ⟨asked, ending, later, questioned, questioned.asked_prefix.1,
      questioned.asked_prefix.2, evaluates, questioned.calls_eq,
      fun guard _ => guard.asks_call request, questioned.gives_iff _ _ _,
      fun single singly allows nonempty title metadata => ?_⟩
    rw [evaluates, allows]
    exact questioned.concurs singly nonempty built.name title metadata
  · exact .inl ⟨before, call, after, failure, rfl, earlier, refused,
      steps_of_refused (start name) earlier refused⟩

def Policy.trustingHost : Host String Unit where
  delay _ _ _ := .finite 0
  function _ _ state := ⟨.ok (.bool true), state, []⟩
  policy _ _ state := ⟨.ok none, state, []⟩

/-- Calls of a builder that leave two guards behind. -/
def PolicyBuilder.hesitantCalls : List (PolicyBuilder.Step String) :=
  [.guard .whole (some "agrees"), .effect (.text Effect.deny.label), .guard .action (some "reads"),
    .guard .subject (some "knows"), .guard .action none, .effect (.text Effect.allow.label)]

theorem PolicyBuilder.evaluate_built_twice :
    ∃ built joint later,
      (PolicyBuilder.start .null).steps hesitantCalls = .ok built ∧
      built.guards = [⟨.subject, "knows"⟩, ⟨.whole, "agrees"⟩] ∧
      built.build.evaluate Policy.trustingHost ⟨.text "alice", .text "read", .text "report", .null⟩
        (Stage.bare ()) = (.ok (Policy.guardedResult .null .allow true), later) ∧
      later.calls = [.function "knows" [.text "alice"],
        .function "agrees" [.text "alice", .text "read", .text "report", .null]] ∧
      Policy.allOf (built.guards.map fun guard =>
        ((start .null).setGuard (some guard.code) guard.part).build) none none = .ok joint ∧
      Policy.Concur
        (built.build.evaluate Policy.trustingHost
          ⟨.text "alice", .text "read", .text "report", .null⟩ (Stage.bare ()))
        (joint.evaluate Policy.trustingHost ⟨.text "alice", .text "read", .text "report", .null⟩
          (Stage.bare ())) := by
  have steps : (PolicyBuilder.start .null).steps hesitantCalls =
      .ok { PolicyBuilder.start .null with subject := some "knows", whole := some "agrees" } := by
    simp [hesitantCalls, PolicyBuilder.steps, step, Effect.ofValue_label, setGuard, start,
      Except.map]
  rcases evaluate_built .null hesitantCalls with
    ⟨before, call, after, failure, -, -, -, fails⟩ | ⟨built, makes, -, -, runs⟩
  · rw [steps] at fails
    cases fails
  · cases steps.symm.trans makes
    obtain ⟨asked, ending, later, -, -, exhausts, evaluates, made, -, gives, conjoins⟩ :=
      runs Policy.trustingHost ⟨.text "alice", .text "read", .text "report", .null⟩
        (Stage.bare ())
    have holds : ending = .exhausted := (gives.mp ⟨_, _, rfl, rfl⟩).2
    obtain ⟨joint, isMade, concurs⟩ := conjoins _ (fun guard _ => singly_setGuard .null guard) rfl
      (by simp [guards]) none none
    rw [exhausts holds] at made
    rw [holds] at evaluates
    exact ⟨_, joint, later, steps, rfl, evaluates, made, isMade, concurs⟩

end AccessDecision
