import AccessDecision.Proofs.Checker.Examination

/-!
# Checkers side by side

Two checkers of the same name that examine the same policies keep in step if the host is in the
same state and they are watched alike.  Policies do not see more than the state of the host, and
those who watch stop both checkers at the same place or neither of them.  What their collectors
counted makes no difference.
-/

namespace AccessDecision

namespace Stage

variable {φ σ : Type} {stage middle later effect onwards : Stage φ σ}

/-- A stage becomes another by an effect, except for what is logged. -/
def Becomes (stage effect later : Stage φ σ) : Prop :=
  later.silenced = (stage.append effect).silenced

theorem becomes_bare (stage : Stage φ σ) : stage.Becomes (bare stage.state) stage := by
  rw [Becomes, append_bare]

theorem Becomes.state_eq (becomes : stage.Becomes effect later) : later.state = effect.state := by
  have same := state_eq_of_silenced becomes
  rwa [append_state] at same

theorem Becomes.of_quiet (becomes : stage.Becomes effect middle)
    (quiet : later.silenced = middle.silenced) : stage.Becomes effect later :=
  quiet.trans becomes

theorem becomes_bare_of_quiet (quiet : later.silenced = stage.silenced) :
    stage.Becomes (bare stage.state) later :=
  stage.becomes_bare.of_quiet quiet

theorem Becomes.after_quiet (quiet : middle.silenced = stage.silenced)
    (becomes : middle.Becomes effect later) : stage.Becomes effect later := by
  rw [Becomes, silenced_append] at becomes ⊢
  rw [becomes, quiet]

theorem Becomes.trans (becomes : stage.Becomes effect middle)
    (goesOn : middle.Becomes onwards later) : stage.Becomes (effect.append onwards) later := by
  rw [Becomes, silenced_append] at goesOn
  rw [Becomes, ← append_assoc, silenced_append, goesOn, becomes]

end Stage

def Observers.uncounted (observers : Observers) : Observers :=
  { observers with collector := none }

/-- Observers that differ in their collectors at most, which are collectors indeed. -/
structure Observers.Alike (first second : Observers) : Prop where
  same : first.uncounted = second.uncounted
  collects : first.stranger = none

namespace Observers.Alike

variable {first second third : Observers}

theorem stranger_eq (alike : first.Alike second) : second.stranger = none := by
  have same := congrArg Observers.stranger alike.same
  exact same.symm.trans alike.collects

theorem symm (alike : first.Alike second) : second.Alike first :=
  ⟨alike.same.symm, alike.stranger_eq⟩

theorem trans (alike : first.Alike second) (onwards : second.Alike third) : first.Alike third :=
  ⟨alike.same.trans onwards.same, alike.collects⟩

theorem harmless (alike : first.Alike second) (safe : first.Harmless) : second.Harmless := by
  have same := congrArg Observers.sink alike.same
  refine ⟨alike.stranger_eq, fun sink isSink => safe.sink sink ?_⟩
  exact same.trans isSink

end Observers.Alike

namespace Proceeding

variable {φ σ α β : Type}

/-- Two proceedings are in step if observers that are alike see the same of them and are left
alike. -/
def InStep (first second : Proceeding φ σ α) : Prop :=
  ∀ ⦃hearing other : Hearing φ σ⦄, hearing.observers.Alike other.observers →
    ∃ outcome later last, first hearing = (outcome, later) ∧ second other = (outcome, last) ∧
      later.observers.Alike last.observers

theorem inStep_ofExcept (value : Except Failure α) :
    InStep (Attempt.ofExcept value : Proceeding φ σ α) (Attempt.ofExcept value) :=
  fun hearing other alike => ⟨value, hearing, other, rfl, rfl, alike⟩

theorem inStep_report (record other : LogRecord) :
    InStep (report record : Proceeding φ σ Unit) (report other) :=
  fun _ _ alike => ⟨_, _, _, rfl, rfl, alike⟩

theorem inStep_look {view viewToo : Hearing φ σ → α}
    (same : ∀ ⦃hearing other : Hearing φ σ⦄, hearing.observers.Alike other.observers →
      view hearing = viewToo other) :
    InStep (Attempt.look view) (Attempt.look viewToo) := by
  intro hearing other alike
  refine ⟨_, _, _, rfl, ?_, alike⟩
  rw [same alike]
  rfl

theorem InStep.bind {first second : Proceeding φ σ α} {next nextToo : α → Proceeding φ σ β}
    (begins : InStep first second) (goesOn : ∀ value, InStep (next value) (nextToo value)) :
    InStep (first >>= next) (second >>= nextToo) := by
  intro hearing other alike
  obtain ⟨failure | value, middle, middleToo, runs, runsToo, alikeThen⟩ := begins alike
  · exact ⟨_, _, _, Attempt.bind_of_error runs, Attempt.bind_of_error runsToo, alikeThen⟩
  · rw [Attempt.bind_of_ok runs, Attempt.bind_of_ok runsToo]
    exact goesOn value alikeThen

theorem InStep.orElse {first second : Proceeding φ σ α}
    {handler handlerToo : Failure → Proceeding φ σ α} (begins : InStep first second)
    (goesOn : ∀ failure, InStep (handler failure) (handlerToo failure)) :
    InStep (first.orElse handler) (second.orElse handlerToo) := by
  intro hearing other alike
  obtain ⟨failure | value, middle, middleToo, runs, runsToo, alikeThen⟩ := begins alike
  · rw [Attempt.orElse_of_error runs, Attempt.orElse_of_error runsToo]
    exact goesOn failure alikeThen
  · exact ⟨_, _, _, Attempt.orElse_of_ok runs, Attempt.orElse_of_ok runsToo, alikeThen⟩

theorem inStep_giveOut (count : Nat) :
    InStep
      (observe fun observers =>
        { observers with identifiers := observers.identifiers.giveOut count } :
        Proceeding φ σ Unit)
      (observe fun observers =>
        { observers with identifiers := observers.identifiers.giveOut count }) := by
  rintro ⟨_, ⟨sink, _, stranger, disk, clock, identifiers⟩⟩ ⟨_, _⟩ ⟨same, collects⟩
  cases same
  exact ⟨_, _, _, rfl, rfl, rfl, collects⟩

theorem inStep_deliver (event : AuditEvent) :
    InStep (deliver event : Proceeding φ σ Unit) (deliver event) := by
  rintro ⟨_, ⟨sink, _, stranger, disk, clock, identifiers⟩⟩ ⟨_, ⟨_, _, _, _, _, _⟩⟩
    ⟨same, collects⟩
  cases same
  cases sink with
  | none => exact ⟨_, _, _, rfl, rfl, rfl, collects⟩
  | some sink => exact ⟨_, _, _, rfl, rfl, rfl, collects⟩

/-- Counting succeeds and changes nothing but the collector. -/
theorem exists_collect (wanted : Bool) (use : String) (update : Collector → Collector)
    (notices : Collector → List LogRecord) {hearing : Hearing φ σ}
    (collects : hearing.observers.stranger = none) :
    ∃ later, collect wanted use update notices hearing = (.ok (), later) ∧
      hearing.observers.Alike later.observers := by
  rcases hearing with ⟨stage, sink, collector, stranger, disk, clock, identifiers⟩
  cases collects
  cases wanted <;> cases collector <;> exact ⟨_, rfl, rfl, rfl⟩

theorem inStep_collect (wanted wantedToo : Bool) (use useToo : String)
    (update updateToo : Collector → Collector)
    (notices noticesToo : Collector → List LogRecord) :
    InStep (collect wanted use update notices : Proceeding φ σ Unit)
      (collect wantedToo useToo updateToo noticesToo) := by
  intro hearing other alike
  obtain ⟨later, counts, left⟩ := exists_collect wanted use update notices alike.collects
  obtain ⟨last, countsToo, leftToo⟩ :=
    exists_collect wantedToo useToo updateToo noticesToo alike.stranger_eq
  exact ⟨_, later, last, counts, countsToo, left.symm.trans (alike.trans leftToo)⟩

end Proceeding

/-- How two checkers are watched: both audit or neither does, by observers that are alike, or
nothing is called off in either of them. -/
inductive Settings.WatchedAlike (settings other : Settings) (observers others : Observers) :
    Prop where
  | same (audit : settings.auditEnabled.truthy = other.auditEnabled.truthy)
      (alike : observers.Alike others)
  | harmless (safe : observers.Harmless) (safeToo : others.Harmless)

namespace Settings.WatchedAlike

variable {settings other third : Settings} {observers others thirds later last : Observers}

theorem collects (alike : settings.WatchedAlike other observers others) :
    observers.stranger = none ∧ others.stranger = none := by
  cases alike with
  | same _ alike => exact ⟨alike.collects, alike.stranger_eq⟩
  | harmless safe safeToo => exact ⟨safe.collects, safeToo.collects⟩

theorem symm (alike : settings.WatchedAlike other observers others) :
    other.WatchedAlike settings others observers := by
  cases alike with
  | same audit alike => exact .same audit.symm alike.symm
  | harmless safe safeToo => exact .harmless safeToo safe

theorem trans (alike : settings.WatchedAlike other observers others)
    (onwards : other.WatchedAlike third others thirds) :
    settings.WatchedAlike third observers thirds := by
  cases alike with
  | same audit alike =>
      cases onwards with
      | same auditToo alikeToo => exact .same (audit.trans auditToo) (alike.trans alikeToo)
      | harmless safe safeToo => exact .harmless (alike.symm.harmless safe) safeToo
  | harmless safe safeToo =>
      cases onwards with
      | same _ alikeToo => exact .harmless safe (alikeToo.harmless safeToo)
      | harmless _ safeThen => exact .harmless safe safeThen

theorem count (alike : settings.WatchedAlike other observers others)
    (counts : observers.Alike later) (countsToo : others.Alike last) :
    settings.WatchedAlike other later last := by
  have first : settings.WatchedAlike settings later observers := .same rfl counts.symm
  have second : other.WatchedAlike other others last := .same rfl countsToo
  exact first.trans (alike.trans second)

end Settings.WatchedAlike

namespace Settings

variable {φ σ : Type} {settings other : Settings}

theorem inStep_writeDown (sameName : settings.checkerName = other.checkerName)
    (policy : Policy φ) (metadata : Metadata) (result : Result) :
    Proceeding.InStep (settings.writeDown policy metadata result : Proceeding φ σ Unit)
      (other.writeDown policy metadata result) := by
  refine (Proceeding.inStep_look ?_).bind fun event => ?_
  · intro hearing hearingToo alike
    have clock := congrArg Observers.clock alike.same
    have identifiers := congrArg Observers.identifiers alike.same
    simp only [Observers.uncounted] at clock identifiers
    rw [eventOf, eventOf, clock, identifiers, sameName]
  refine (Proceeding.inStep_giveOut 1).bind fun _ => ?_
  refine (Proceeding.inStep_report _ _).bind fun _ => ?_
  refine (Proceeding.inStep_deliver event).orElse fun failure => ?_
  split
  · exact Proceeding.inStep_ofExcept _
  · exact Proceeding.inStep_report _ _

theorem inStep_audit (sameName : settings.checkerName = other.checkerName)
    (audit : settings.auditEnabled.truthy = other.auditEnabled.truthy) (policy : Policy φ)
    (result : Result) :
    Proceeding.InStep (settings.audit policy result : Proceeding φ σ Unit)
      (other.audit policy result) := by
  refine (Proceeding.inStep_collect _ _ _ _ _ _ _ _).bind fun _ => ?_
  rw [audit]
  split
  · split
    · exact Proceeding.inStep_ofExcept _
    · exact inStep_writeDown sameName policy _ result
  · exact Proceeding.inStep_ofExcept _

end Settings

/-- Two proceedings keep abreast if they end in the same way and do the same to the host wherever
that is in the same state and they are watched alike, which they still are afterwards. -/
def Proceeding.Abreast {φ σ α : Type} (settings other : Settings)
    (first second : Proceeding φ σ α) : Prop :=
  ∀ ⦃hearing hearingToo : Hearing φ σ⦄, hearing.stage.state = hearingToo.stage.state →
    settings.WatchedAlike other hearing.observers hearingToo.observers →
      ∃ outcome effect later last, first hearing = (outcome, later) ∧
        second hearingToo = (outcome, last) ∧ hearing.stage.Becomes effect later.stage ∧
        hearingToo.stage.Becomes effect last.stage ∧
        settings.WatchedAlike other later.observers last.observers

namespace Proceeding

variable {φ σ α β : Type} {settings other : Settings}

theorem abreast_pure (value : α) :
    Abreast settings other (pure value : Proceeding φ σ α) (pure value) := by
  intro hearing hearingToo sameState alike
  refine ⟨.ok value, _, hearing, hearingToo, rfl, rfl, hearing.stage.becomes_bare, ?_, alike⟩
  rw [sameState]
  exact hearingToo.stage.becomes_bare

theorem Abreast.bind {first second : Proceeding φ σ α} {next nextToo : α → Proceeding φ σ β}
    (begins : Abreast settings other first second)
    (goesOn : ∀ value, Abreast settings other (next value) (nextToo value)) :
    Abreast settings other (first >>= next) (second >>= nextToo) := by
  intro hearing hearingToo sameState alike
  obtain ⟨failure | value, effect, middle, middleToo, runs, runsToo, becomes, becomesToo,
    alikeThen⟩ := begins sameState alike
  · exact ⟨_, effect, _, _, Attempt.bind_of_error runs, Attempt.bind_of_error runsToo, becomes,
      becomesToo, alikeThen⟩
  · have sameThen : middle.stage.state = middleToo.stage.state :=
      becomes.state_eq.trans becomesToo.state_eq.symm
    obtain ⟨outcome, onwards, later, last, rest, restToo, left, leftToo, alikeLater⟩ :=
      goesOn value sameThen alikeThen
    refine ⟨outcome, effect.append onwards, later, last, ?_, ?_, becomes.trans left,
      becomesToo.trans leftToo, alikeLater⟩
    · rw [Attempt.bind_of_ok runs, rest]
    · rw [Attempt.bind_of_ok runsToo, restToo]

end Proceeding

section Examinations

variable {φ σ : Type} {settings other : Settings}

theorem Settings.abreast_audit (sameName : settings.checkerName = other.checkerName)
    {policy : Policy φ} (carries : policy.metadata.isSome = true) (result : Result) :
    Proceeding.Abreast settings other (settings.audit policy result : Proceeding φ σ Unit)
      (other.audit policy result) := by
  intro hearing hearingToo sameState alike
  rcases runs : settings.audit policy result hearing with ⟨outcome, later⟩
  rcases runsToo : other.audit policy result hearingToo with ⟨outcomeToo, last⟩
  have quiet := settings.quiet_audit policy result hearing
  have quietToo := other.quiet_audit policy result hearingToo
  rw [runs] at quiet
  rw [runsToo] at quietToo
  have becomes := Stage.becomes_bare_of_quiet quiet
  have becomesToo := Stage.becomes_bare_of_quiet quietToo
  rw [← sameState] at becomesToo
  cases alike with
  | same audit alike =>
      obtain ⟨_, _, _, audits, auditsToo, alikeThen⟩ :=
        inStep_audit sameName audit policy result alike
      cases runs.symm.trans audits
      cases runsToo.symm.trans auditsToo
      exact ⟨_, _, _, _, rfl, rfl, becomes, becomesToo, .same audit alikeThen⟩
  | harmless safe safeToo =>
      obtain ⟨rfl, -, stillSafe⟩ := settings.harmless_of_audit carries safe runs
      obtain ⟨rfl, -, stillSafeToo⟩ := other.harmless_of_audit carries safeToo runsToo
      exact ⟨_, _, _, _, rfl, rfl, becomes, becomesToo, .harmless stillSafe stillSafeToo⟩

namespace Checker

variable (host : Host φ σ) (request : Request)

/-- A policy with metadata answers the same wherever the host is in the same state. -/
theorem abreast_ask {policy : Policy φ} (carries : policy.metadata.isSome = true) :
    Proceeding.Abreast settings other (ask host settings request policy)
      (ask host other request policy) := by
  intro hearing hearingToo sameState alike
  obtain ⟨outcome, effect, -, runs, runsToo⟩ :=
    (policy.isolated host request).same_effect sameState
  refine ⟨outcome, effect, { hearing with stage := hearing.stage.append effect },
    { hearingToo with stage := hearingToo.stage.append effect }, ?_, ?_, rfl, rfl, alike⟩
  · rw [ask_eq_evaluate host settings request carries alike.collects.1, Proceeding.onStage,
      Attempt.within, runs]
  · rw [ask_eq_evaluate host other request carries alike.collects.2, Proceeding.onStage,
      Attempt.within, runsToo]

/-- Two checkers of the same name that are watched alike examine policies with the same findings
or the same failure. -/
theorem abreast_examine (sameName : settings.checkerName = other.checkerName)
    {policies : List (Policy φ)} (carry : ∀ policy ∈ policies, policy.metadata.isSome = true) :
    Proceeding.Abreast settings other (examine host settings request policies)
      (examine host other request policies) := by
  induction policies with
  | nil => exact Proceeding.abreast_pure _
  | cons policy rest ih =>
      rw [List.forall_mem_cons] at carry
      refine (abreast_ask host request carry.1).bind fun result => ?_
      refine (Settings.abreast_audit sameName carry.1 result).bind fun _ => ?_
      split
      · exact Proceeding.abreast_pure _
      · exact (ih carry.2).bind fun findings => Proceeding.abreast_pure _

end Checker

end Examinations

end AccessDecision
