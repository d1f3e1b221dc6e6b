import AccessDecision.Proofs.Checker.Heard

/-!
# Examinations

A checker examines its policies round by round: it evaluates a policy, audits the result and
goes on unless access was granted.  An examination says of each round what came of it, so
that a statement about all examinations is an induction with one case for each way in which
a round can end.
-/

namespace AccessDecision

namespace Checker

variable {φ σ : Type} (host : Host φ σ) (settings : Settings) (request : Request)

theorem ask_eq_evaluate_of_ne {policy : Policy φ} (unlike : ∀ number, policy ≠ .checker number)
    {hearing : Hearing φ σ} (collects : hearing.observers.stranger = none) :
    ask host settings request policy hearing =
      Proceeding.onStage (policy.evaluate host request) hearing := by
  have asks : ask host settings request policy = (do
      let result ← Proceeding.onStage (policy.respond host request)
      takeResult settings result) := by
    cases policy <;> first | rfl | exact absurd rfl (unlike _)
  have unfaulted (later : Stage φ σ) :
      settings.collectorFault { hearing with stage := later }.observers = none := by
    simp [Settings.collectorFault, collects]
  rw [asks, policy.evaluate_eq_respond]
  rcases answers : policy.respond host request hearing.stage with ⟨failure | answer, later⟩
  · have stops : Proceeding.onStage (policy.respond host request) hearing =
        (.error failure, { hearing with stage := later }) := by
      simp [Proceeding.onStage, Attempt.within, answers]
    rw [Attempt.bind_of_error stops, Proceeding.onStage, Attempt.within,
      Attempt.bind_of_error answers]
  · have goesOn : Proceeding.onStage (policy.respond host request) hearing =
        (.ok answer, { hearing with stage := later }) := by
      simp [Proceeding.onStage, Attempt.within, answers]
    rw [Attempt.bind_of_ok goesOn, Proceeding.onStage, Attempt.within,
      Attempt.bind_of_ok answers, takeResult, Attempt.bind_of_ok (Attempt.look_apply _ _),
      unfaulted later]
    cases answer <;> rfl

theorem ask_eq_evaluate {policy : Policy φ} (carries : policy.metadata.isSome = true)
    {hearing : Hearing φ σ} (collects : hearing.observers.stranger = none) :
    ask host settings request policy hearing =
      Proceeding.onStage (policy.evaluate host request) hearing := by
  refine ask_eq_evaluate_of_ne host settings request (fun number isChecker => ?_) collects
  rw [isChecker] at carries
  cases carries

/-- What comes of examining some policies, by the way in which the first round ends. -/
inductive Examination :
    List (Policy φ) → Hearing φ σ → Except Failure Findings → Hearing φ σ → Prop where
  | exhausted (hearing : Hearing φ σ) : Examination [] hearing (.ok ⟨[], none⟩) hearing
  | failed {policy : Policy φ} {rest : List (Policy φ)} {hearing : Hearing φ σ}
      {failure : Failure} {stage : Stage φ σ}
      (fails : policy.evaluate host request hearing.stage = (.error failure, stage)) :
      Examination (policy :: rest) hearing (.error failure) { hearing with stage }
  | interrupted {policy : Policy φ} {rest : List (Policy φ)} {hearing later : Hearing φ σ}
      {result : Result} {stage : Stage φ σ} {failure : Failure}
      (gives : policy.evaluate host request hearing.stage = (.ok result, stage))
      (stops : settings.audit policy result { hearing with stage } = (.error failure, later)) :
      Examination (policy :: rest) hearing (.error failure) later
  | granted {policy : Policy φ} {rest : List (Policy φ)} {hearing later : Hearing φ σ}
      {result : Result} {stage : Stage φ σ}
      (gives : policy.evaluate host request hearing.stage = (.ok result, stage))
      (audits : settings.audit policy result { hearing with stage } = (.ok (), later))
      (grants : result.isGranted = true) :
      Examination (policy :: rest) hearing
        (.ok ⟨[result], some (policy.name, result.reason)⟩) later
  | denied {policy : Policy φ} {rest : List (Policy φ)} {hearing middle later : Hearing φ σ}
      {result : Result} {stage : Stage φ σ} {outcome : Except Failure Findings}
      (gives : policy.evaluate host request hearing.stage = (.ok result, stage))
      (audits : settings.audit policy result { hearing with stage } = (.ok (), middle))
      (denies : result.isGranted = false)
      (others : Examination rest middle outcome later) :
      Examination (policy :: rest) hearing
        (outcome.map fun findings => ⟨result :: findings.results, findings.granting⟩) later

/-- Policies with metadata are examined by evaluating them. -/
theorem Progress.examination {policies : List (Policy φ)} {hearing later : Hearing φ σ}
    {completed : List (Policy φ × Result)} {outcome : Except Failure Findings}
    (progress : Progress host settings request policies hearing completed outcome later)
    (carry : ∀ policy ∈ policies, policy.metadata.isSome = true)
    (collects : hearing.observers.stranger = none) :
    Examination host settings request policies hearing outcome later := by
  induction progress with
  | exhausted hearing => exact .exhausted hearing
  | @failed policy rest hearing later failure asks =>
      rw [ask_eq_evaluate host settings request (carry _ List.mem_cons_self) collects,
        Proceeding.onStage, Attempt.within] at asks
      rcases gives : policy.evaluate host request hearing.stage with ⟨given, stage⟩
      rw [gives] at asks
      cases asks
      exact .failed gives
  | interrupted asks stops =>
      obtain ⟨stage, gives, rfl⟩ := evaluate_of_ask_ok asks
      exact .interrupted gives stops
  | granted asks audits grants =>
      obtain ⟨stage, gives, rfl⟩ := evaluate_of_ask_ok asks
      exact .granted gives audits grants
  | denied asks audits denies _ ih =>
      obtain ⟨stage, gives, rfl⟩ := evaluate_of_ask_ok asks
      obtain ⟨_, watched, -⟩ := settings.audit_spec (carry _ List.mem_cons_self) audits collects
      have others := ih (fun policy member => carry policy (by simp [member]))
        (watched.stranger.trans collects)
      exact .denied gives audits denies others

theorem Examination.stranger {policies : List (Policy φ)} {hearing later : Hearing φ σ}
    {outcome : Except Failure Findings}
    (examination : Examination host settings request policies hearing outcome later)
    (carry : ∀ policy ∈ policies, policy.metadata.isSome = true)
    (collects : hearing.observers.stranger = none) : later.observers.stranger = none := by
  induction examination with
  | exhausted => exact collects
  | failed => exact collects
  | interrupted gives stops =>
      obtain ⟨_, watched, -⟩ := settings.audit_spec (carry _ List.mem_cons_self) stops collects
      exact watched.stranger.trans collects
  | granted gives audits =>
      obtain ⟨_, watched, -⟩ := settings.audit_spec (carry _ List.mem_cons_self) audits collects
      exact watched.stranger.trans collects
  | denied gives audits denies others ih =>
      obtain ⟨_, watched, -⟩ := settings.audit_spec (carry _ List.mem_cons_self) audits collects
      exact ih (fun policy member => carry policy (by simp [member]))
        (watched.stranger.trans collects)

variable (host : Host φ σ) (checker : Checker) (request : Request) {hearing : Hearing φ σ}

theorem evaluate_of_nil (lacks : hearing.stage.rosters checker.roster = [])
    (collects : hearing.observers.stranger = none) :
    ∃ later, checker.evaluate host request hearing =
        (.ok (verdictWithout checker.settings), later) ∧ Watched hearing [] later := by
  obtain ⟨completed, heard⟩ := heard_evaluate host checker request hearing
  rcases runs : checker.evaluate host request hearing with ⟨outcome, later⟩
  rw [runs] at heard
  cases heard with
  | broken filled => exact absurd lacks filled
  | found filled => exact absurd lacks filled
  | without _ logged pronounces =>
      obtain ⟨rfl, onwards⟩ :=
        watched_of_pronounce (logged.watched.stranger.trans collects) pronounces
      exact ⟨later, rfl, logged.watched.trans onwards⟩

/-- A checker with policies examines them, and the findings are its verdict. -/
theorem evaluate_spec {policies : List (Policy φ)}
    (holds : hearing.stage.rosters checker.roster = policies) (some : policies ≠ [])
    (carry : ∀ policy ∈ policies, policy.metadata.isSome = true)
    (collects : hearing.observers.stranger = none) :
    ∃ started ending finished later,
      Watched hearing [] started ∧
      Examination host checker.settings request policies started ending finished ∧
      checker.evaluate host request hearing =
        (ending.map (Findings.verdict checker.settings), later) ∧
      Watched finished [] later := by
  obtain ⟨completed, heard⟩ := heard_evaluate host checker request hearing
  rcases runs : checker.evaluate host request hearing with ⟨outcome, later⟩
  rw [runs] at heard
  subst holds
  cases heard with
  | without lacks => exact absurd lacks some
  | broken filled logged progress =>
      have before := logged.watched.stranger.trans collects
      have examination := progress.examination _ _ _ carry before
      exact ⟨_, _, later, later, logged.watched, examination, rfl, .refl later⟩
  | @found begun finished noted _ _ findings _ filled logged progress loggedToo pronounces =>
      have before := logged.watched.stranger.trans collects
      have examination := progress.examination _ _ _ carry before
      have after := loggedToo.watched.stranger.trans (examination.stranger _ _ _ carry before)
      obtain ⟨rfl, onwards⟩ := watched_of_pronounce after pronounces
      exact ⟨begun, _, finished, later, logged.watched, examination, rfl,
        loggedToo.watched.trans onwards⟩

end Checker

end AccessDecision
