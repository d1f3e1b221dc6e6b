import AccessDecision.Checker.Evaluation
import AccessDecision.Proofs.Checker.Watching

/-!
# The progress of an examination

A checker asks its policies one after the other and audits what each of them answers.  It goes
on like this until a policy grants access, something fails or no policy is left, whoever
watches and whatever the policies carry.  Asking evaluates a policy; everything else leaves the
stage alone but for what is logged.
-/

namespace AccessDecision

/-- A proceeding that leaves what is seen of a hearing as it is. -/
def Proceeding.Keeps {φ σ α τ : Type} (view : Hearing φ σ → τ)
    (proceeding : Proceeding φ σ α) : Prop :=
  ∀ hearing, view (proceeding hearing).2 = view hearing

/-- A proceeding that changes nothing on the stage but the log. -/
abbrev Proceeding.Quiet {φ σ α : Type} (proceeding : Proceeding φ σ α) : Prop :=
  proceeding.Keeps fun hearing => hearing.stage.silenced

namespace Proceeding

variable {φ σ α β τ : Type} {view : Hearing φ σ → τ}

theorem keeps_ofExcept (value : Except Failure α) :
    Keeps view (Attempt.ofExcept value : Proceeding φ σ α) :=
  fun _ => rfl

theorem keeps_look (look : Hearing φ σ → α) : Keeps view (Attempt.look look) :=
  fun _ => rfl

theorem Keeps.bind {proceeding : Proceeding φ σ α} {next : α → Proceeding φ σ β}
    (first : Keeps view proceeding) (second : ∀ value, Keeps view (next value)) :
    Keeps view (proceeding >>= next) := by
  intro hearing
  have begins := first hearing
  rcases runs : proceeding hearing with ⟨failure | value, middle⟩
  · rw [runs] at begins
    rw [Attempt.bind_of_error runs]
    exact begins
  · rw [runs] at begins
    rw [Attempt.bind_of_ok runs]
    exact (second value middle).trans begins

theorem Keeps.orElse {proceeding : Proceeding φ σ α} {handler : Failure → Proceeding φ σ α}
    (first : Keeps view proceeding) (second : ∀ failure, Keeps view (handler failure)) :
    Keeps view (proceeding.orElse handler) := by
  intro hearing
  have begins := first hearing
  rcases runs : proceeding hearing with ⟨failure | value, middle⟩
  · rw [runs] at begins
    rw [Attempt.orElse_of_error runs]
    exact (second failure middle).trans begins
  · rw [runs] at begins
    rw [Attempt.orElse_of_ok runs]
    exact begins

theorem quiet_deliver (event : AuditEvent) : Quiet (deliver event : Proceeding φ σ Unit) := by
  intro hearing
  rw [deliver]
  dsimp only
  split <;> rfl

theorem quiet_collect (wanted : Bool) (use : String) (update : Collector → Collector)
    (notices : Collector → List LogRecord) :
    Quiet (collect wanted use update notices : Proceeding φ σ Unit) := by
  intro hearing
  rcases hearing with ⟨stage, sink, collector, stranger, disk, clock, identifiers⟩
  cases wanted <;> cases stranger <;> cases collector <;> rfl

end Proceeding

namespace Settings

variable {φ σ : Type} (settings : Settings)

theorem quiet_countVerdict (granted : Bool) :
    Proceeding.Quiet (settings.countVerdict granted : Proceeding φ σ Unit) :=
  Proceeding.quiet_collect _ _ _ _

/-- What is seen of a hearing stays while a result is written down if it takes in neither what
is logged nor what writing down needs. -/
theorem keeps_writeDown {τ : Type} {view : Hearing φ σ → τ}
    (reports : ∀ record, Proceeding.Keeps view (Proceeding.report record))
    (gives : ∀ identifiers : Observers → IdentifierSource, Proceeding.Keeps view
      (Proceeding.observe fun observers =>
        { observers with identifiers := identifiers observers }))
    (delivers : ∀ event, Proceeding.Keeps view (Proceeding.deliver event))
    (policy : Policy φ) (metadata : Metadata) (result : Result) :
    Proceeding.Keeps view (settings.writeDown policy metadata result) := by
  refine (Proceeding.keeps_look _).bind fun event => (gives _).bind fun _ => ?_
  refine (reports _).bind fun _ => (delivers event).orElse fun failure => ?_
  split
  · exact Proceeding.keeps_ofExcept _
  · exact reports _

theorem quiet_audit (policy : Policy φ) (result : Result) :
    Proceeding.Quiet (settings.audit policy result : Proceeding φ σ Unit) := by
  refine (Proceeding.quiet_collect _ _ _ _).bind fun _ => ?_
  split
  · split
    · exact Proceeding.keeps_ofExcept _
    · exact settings.keeps_writeDown (fun _ _ => rfl) (fun _ _ => rfl)
        Proceeding.quiet_deliver policy _ result
  · exact Proceeding.keeps_ofExcept _

end Settings

namespace Checker

variable {φ σ : Type}

variable (host : Host φ σ) (settings : Settings) (request : Request)

/-- Asking a policy evaluates it and changes the stage only.  What it gives is what the policy
gave, and it fails if the policy did. -/
theorem ask_spec (policy : Policy φ) (hearing : Hearing φ σ) :
    ∃ given stage outcome, policy.evaluate host request hearing.stage = (given, stage) ∧
      ask host settings request policy hearing = (outcome, { hearing with stage }) ∧
      ((∃ result, given = .ok result ∧ outcome = .ok result) ∨
        ∃ fault failure, given = .error fault ∧ outcome = .error failure) := by
  by_cases refers : ∃ number, policy = .checker number
  · obtain ⟨number, rfl⟩ := refers
    exact ⟨_, _, _, rfl, rfl, .inr ⟨_, _, rfl, rfl⟩⟩
  · have asks : ask host settings request policy = (do
        let result ← Proceeding.onStage (policy.respond host request)
        takeResult settings result) := by
      cases policy <;> first | rfl | exact absurd ⟨_, rfl⟩ refers
    rw [asks, policy.evaluate_eq_respond]
    rcases answers : policy.respond host request hearing.stage with ⟨failure | answer, stage⟩
    · have stops : Proceeding.onStage (policy.respond host request) hearing =
          (.error failure, { hearing with stage }) := by
        simp [Proceeding.onStage, Attempt.within, answers]
      exact ⟨_, _, _, Attempt.bind_of_error answers, Attempt.bind_of_error stops,
        .inr ⟨_, _, rfl, rfl⟩⟩
    · have goesOn : Proceeding.onStage (policy.respond host request) hearing =
          (.ok answer, { hearing with stage }) := by
        simp [Proceeding.onStage, Attempt.within, answers]
      rw [Attempt.bind_of_ok answers, Attempt.bind_of_ok goesOn, takeResult,
        Attempt.bind_of_ok (Attempt.look_apply _ _)]
      cases answer with
      | some result => exact ⟨_, _, _, rfl, rfl, .inl ⟨result, rfl, rfl⟩⟩
      | none =>
          cases settings.collectorFault hearing.observers with
          | some fault => exact ⟨_, _, _, rfl, rfl, .inr ⟨_, _, rfl, rfl⟩⟩
          | none => exact ⟨_, _, _, rfl, rfl, .inr ⟨_, _, rfl, rfl⟩⟩

variable {host settings request}

theorem evaluate_of_ask_ok {policy : Policy φ} {hearing later : Hearing φ σ} {result : Result}
    (asks : ask host settings request policy hearing = (.ok result, later)) :
    ∃ stage, policy.evaluate host request hearing.stage = (.ok result, stage) ∧
      later = { hearing with stage } := by
  obtain ⟨given, stage, outcome, evaluates, same, ⟨_, rfl, rfl⟩ | ⟨_, _, rfl, rfl⟩⟩ :=
    ask_spec host settings request policy hearing
  · cases asks.symm.trans same
    exact ⟨stage, evaluates, rfl⟩
  · cases asks.symm.trans same

theorem evaluate_of_ask_error {policy : Policy φ} {hearing later : Hearing φ σ}
    {failure : Failure}
    (asks : ask host settings request policy hearing = (.error failure, later)) :
    ∃ fault stage, policy.evaluate host request hearing.stage = (.error fault, stage) ∧
      later = { hearing with stage } := by
  obtain ⟨given, stage, outcome, evaluates, same, ⟨_, rfl, rfl⟩ | ⟨fault, _, rfl, rfl⟩⟩ :=
    ask_spec host settings request policy hearing
  · cases asks.symm.trans same
  · cases asks.symm.trans same
    exact ⟨fault, stage, evaluates, rfl⟩

variable (host settings request)

/-- How examining some policies goes on, with the policies that gave results: in each round
the next policy fails, or auditing its result does, or it grants access, or the others follow. -/
inductive Progress : List (Policy φ) → Hearing φ σ → List (Policy φ × Result) →
    Except Failure Findings → Hearing φ σ → Prop where
  | exhausted (hearing : Hearing φ σ) : Progress [] hearing [] (.ok ⟨[], none⟩) hearing
  | failed {policy : Policy φ} {rest : List (Policy φ)} {hearing later : Hearing φ σ}
      {failure : Failure}
      (asks : ask host settings request policy hearing = (.error failure, later)) :
      Progress (policy :: rest) hearing [] (.error failure) later
  | interrupted {policy : Policy φ} {rest : List (Policy φ)}
      {hearing middle later : Hearing φ σ} {result : Result} {failure : Failure}
      (asks : ask host settings request policy hearing = (.ok result, middle))
      (stops : settings.audit policy result middle = (.error failure, later)) :
      Progress (policy :: rest) hearing [(policy, result)] (.error failure) later
  | granted {policy : Policy φ} {rest : List (Policy φ)} {hearing middle later : Hearing φ σ}
      {result : Result}
      (asks : ask host settings request policy hearing = (.ok result, middle))
      (audits : settings.audit policy result middle = (.ok (), later))
      (grants : result.isGranted = true) :
      Progress (policy :: rest) hearing [(policy, result)]
        (.ok ⟨[result], some (policy.name, result.reason)⟩) later
  | denied {policy : Policy φ} {rest : List (Policy φ)}
      {hearing middle audited later : Hearing φ σ} {result : Result}
      {completed : List (Policy φ × Result)} {outcome : Except Failure Findings}
      (asks : ask host settings request policy hearing = (.ok result, middle))
      (audits : settings.audit policy result middle = (.ok (), audited))
      (denies : result.isGranted = false)
      (others : Progress rest audited completed outcome later) :
      Progress (policy :: rest) hearing ((policy, result) :: completed)
        (outcome.map fun findings => ⟨result :: findings.results, findings.granting⟩) later

theorem progress_examine (policies : List (Policy φ)) (hearing : Hearing φ σ) :
    ∃ completed, Progress host settings request policies hearing completed
      (examine host settings request policies hearing).1
      (examine host settings request policies hearing).2 := by
  induction policies generalizing hearing with
  | nil => exact ⟨[], .exhausted hearing⟩
  | cons policy rest ih =>
      rw [examine]
      rcases asks : ask host settings request policy hearing with ⟨failure | result, middle⟩
      · rw [Attempt.bind_of_error asks]
        exact ⟨[], .failed asks⟩
      rw [Attempt.bind_of_ok asks]
      rcases audits : settings.audit policy result middle with ⟨failure | ⟨⟩, audited⟩
      · rw [Attempt.bind_of_error audits]
        exact ⟨_, .interrupted asks audits⟩
      rw [Attempt.bind_of_ok audits]
      by_cases grants : result.isGranted = true
      · rw [if_pos grants]
        exact ⟨_, .granted asks audits grants⟩
      · rw [if_neg grants]
        have denies : result.isGranted = false := Bool.not_eq_true _ ▸ grants
        obtain ⟨completed, others⟩ := ih audited
        rcases goesOn : examine host settings request rest audited with
          ⟨failure | findings, later⟩
        · rw [Attempt.bind_of_error goesOn]
          rw [goesOn] at others
          exact ⟨_, .denied asks audits denies others⟩
        · rw [Attempt.bind_of_ok goesOn]
          rw [goesOn] at others
          exact ⟨_, .denied asks audits denies others⟩

end Checker

end AccessDecision
