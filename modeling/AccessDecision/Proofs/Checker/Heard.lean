import AccessDecision.Proofs.Checker.Progress

/-!
# How checkers hear requests

Around the examination of its policies a checker only logs and counts.  It pronounces a denial
if it holds no policies, and otherwise the verdict that its findings amount to, unless the
examination broke off.
-/

namespace AccessDecision

/-- Between two hearings nothing happened but logging, and nothing about audit events. -/
structure Hearing.Logged {φ σ : Type} (hearing later : Hearing φ σ) : Prop where
  quiet : later.stage.silenced = hearing.stage.silenced
  records : later.stage.auditRecords = hearing.stage.auditRecords
  observers : later.observers = hearing.observers

namespace Hearing

variable {φ σ : Type}

def logging (hearing : Hearing φ σ) (record : LogRecord) : Hearing φ σ :=
  { hearing with stage := { hearing.stage with log := hearing.stage.log ++ [record] } }

theorem logged_logging (hearing : Hearing φ σ) {record : LogRecord}
    (unaudited : record.isAudit = false) : hearing.Logged (hearing.logging record) where
  quiet := rfl
  records := by simp [logging, Stage.auditRecords, unaudited]
  observers := rfl

variable {hearing middle later : Hearing φ σ}

theorem Logged.trans (logged : hearing.Logged middle) (onwards : middle.Logged later) :
    hearing.Logged later where
  quiet := onwards.quiet.trans logged.quiet
  records := onwards.records.trans logged.records
  observers := onwards.observers.trans logged.observers

theorem Logged.watched (logged : hearing.Logged later) : Watched hearing [] later where
  quiet := logged.quiet
  stranger := congrArg Observers.stranger logged.observers
  records := by simp [logged.records]
  delivered := by
    rw [logged.observers]
    exact .done _ _

theorem report_bind {α : Type} (hearing : Hearing φ σ) (record : LogRecord)
    (next : Unit → Proceeding φ σ α) :
    (Proceeding.report record >>= next) hearing = next () (hearing.logging record) :=
  rfl

end Hearing

def Findings.verdict (settings : Settings) (findings : Findings) : Verdict :=
  let trace : Trace := some (.ofChildren settings.checkerName .or findings.results)
  match findings.granting with
  | some (policy, reason) => .granted policy reason trace
  | none => .denied (.text Checker.allDenied) trace

theorem Findings.isGranted_verdict (settings : Settings) (findings : Findings) :
    (findings.verdict settings).isGranted = findings.granting.isSome := by
  rcases findings with ⟨results, - | ⟨policy, reason⟩⟩ <;> rfl

theorem Findings.trace_verdict (settings : Settings) (findings : Findings) :
    (findings.verdict settings).trace =
      some (.ofChildren settings.checkerName .or findings.results) := by
  rcases findings with ⟨results, - | ⟨policy, reason⟩⟩ <;> rfl

theorem Findings.verdict_congr {settings other : Settings} {findings : Findings}
    (same : settings.checkerName = other.checkerName) :
    findings.verdict settings = findings.verdict other := by
  rw [Findings.verdict, Findings.verdict, same]

namespace Checker

variable {φ σ : Type}

def verdictWithout (settings : Settings) : Verdict :=
  .denied (.text noPolicies) (some (.denied settings.checkerName (.text noPolicies)))

def pronounce (settings : Settings) (verdict : Verdict) : Proceeding φ σ Verdict := do
  settings.countVerdict verdict.isGranted
  pure verdict

theorem pronounce_cases (settings : Settings) (verdict : Verdict) (hearing : Hearing φ σ) :
    ∃ later, (∃ failure,
        settings.countVerdict verdict.isGranted hearing = (.error failure, later) ∧
        pronounce settings verdict hearing = (.error failure, later)) ∨
      settings.countVerdict verdict.isGranted hearing = (.ok (), later) ∧
        pronounce settings verdict hearing = (.ok verdict, later) := by
  rcases counts : settings.countVerdict verdict.isGranted hearing with ⟨failure | ⟨⟩, later⟩
  · exact ⟨later, .inl ⟨failure, rfl, Attempt.bind_of_error counts⟩⟩
  · exact ⟨later, .inr ⟨rfl, Attempt.bind_of_ok counts⟩⟩

theorem watched_of_pronounce {settings : Settings} {verdict : Verdict} {noted later : Hearing φ σ}
    {outcome : Except Failure Verdict} (collects : noted.observers.stranger = none)
    (pronounces : pronounce settings verdict noted = (outcome, later)) :
    outcome = .ok verdict ∧ Watched noted [] later := by
  have discreet : Proceeding.Discreet (pronounce settings verdict : Proceeding φ σ Verdict)
      verdict :=
    (settings.discreet_countVerdict _).bind (Proceeding.discreet_pure _)
  obtain ⟨last, counts, watched⟩ := discreet noted collects
  cases pronounces.symm.trans counts
  exact ⟨rfl, watched⟩

theorem decideWithout_spec (settings : Settings) (hearing : Hearing φ σ) :
    ∃ noted, hearing.Logged noted ∧
      decideWithout settings hearing = pronounce settings (verdictWithout settings) noted :=
  ⟨hearing.logging .noPolicies, hearing.logged_logging rfl, hearing.report_bind _ _⟩

theorem conclude_spec (settings : Settings) (findings : Findings) (hearing : Hearing φ σ) :
    ∃ noted, hearing.Logged noted ∧
      conclude settings findings hearing =
        pronounce settings (findings.verdict settings) noted := by
  rcases findings with ⟨results, - | ⟨policy, reason⟩⟩
  · let noted := hearing.logging (.noneGranted settings.shownName)
    have logged : hearing.Logged noted := hearing.logged_logging rfl
    simp only [conclude, Hearing.report_bind]
    split
    · exact ⟨noted.logging _, logged.trans (noted.logged_logging rfl), noted.report_bind _ _⟩
    · exact ⟨noted, logged, rfl⟩
  · exact ⟨hearing, ⟨rfl, rfl, rfl⟩, rfl⟩

variable (host : Host φ σ) (checker : Checker) (request : Request)

/-- How a checker hears a request, with the policies that gave results: without policies it
pronounces a denial, otherwise it examines those that it holds by then and pronounces what
it found unless it breaks off. -/
inductive Heard (hearing : Hearing φ σ) : List (Policy φ × Result) →
    Except Failure Verdict → Hearing φ σ → Prop where
  | without {noted later : Hearing φ σ} {outcome : Except Failure Verdict}
      (lacks : hearing.stage.rosters checker.roster = []) (logged : hearing.Logged noted)
      (pronounces : pronounce checker.settings (verdictWithout checker.settings) noted =
        (outcome, later)) :
      Heard hearing [] outcome later
  | broken {begun later : Hearing φ σ} {completed : List (Policy φ × Result)}
      {failure : Failure} (filled : hearing.stage.rosters checker.roster ≠ [])
      (logged : hearing.Logged begun)
      (progress : Progress host checker.settings request (hearing.stage.rosters checker.roster)
        begun completed (.error failure) later) :
      Heard hearing completed (.error failure) later
  | found {begun finished noted later : Hearing φ σ} {completed : List (Policy φ × Result)}
      {findings : Findings} {outcome : Except Failure Verdict}
      (filled : hearing.stage.rosters checker.roster ≠ []) (logged : hearing.Logged begun)
      (progress : Progress host checker.settings request (hearing.stage.rosters checker.roster)
        begun completed (.ok findings) finished)
      (loggedToo : finished.Logged noted)
      (pronounces : pronounce checker.settings (findings.verdict checker.settings) noted =
        (outcome, later)) :
      Heard hearing completed outcome later

/-- A checker with policies examines them and concludes.  Its roster is looked up once; what is
enlisted in it from then on is not examined. -/
theorem evaluate_of_filled {policies : List (Policy φ)} {hearing : Hearing φ σ}
    (holds : hearing.stage.rosters checker.roster = policies) (filled : policies ≠ []) :
    ∃ begun, hearing.Logged begun ∧
      checker.evaluate host request hearing =
        (examine host checker.settings request policies >>= conclude checker.settings) begun := by
  have isFilled : policies.isEmpty = false := by simpa using filled
  let told : LogRecord := .checking checker.settings.shownName policies.length
  have logged : hearing.Logged (hearing.logging told) := hearing.logged_logging rfl
  refine ⟨_, logged, ?_⟩
  rw [evaluate, Attempt.bind_of_ok (Attempt.look_apply _ _), holds, isFilled]
  simp only [Bool.false_eq_true, if_false, Hearing.report_bind]
  rfl

theorem heard_evaluate (hearing : Hearing φ σ) :
    ∃ completed, Heard host checker request hearing completed
      (checker.evaluate host request hearing).1 (checker.evaluate host request hearing).2 := by
  by_cases lacks : hearing.stage.rosters checker.roster = []
  · obtain ⟨noted, logged, runs⟩ := decideWithout_spec checker.settings hearing
    rw [evaluate, Attempt.bind_of_ok (Attempt.look_apply _ _), lacks]
    exact ⟨[], .without lacks logged runs.symm⟩
  · obtain ⟨begun, logged, runs⟩ := evaluate_of_filled host checker request rfl lacks
    rw [runs]
    obtain ⟨completed, progress⟩ := progress_examine host checker.settings request
      (hearing.stage.rosters checker.roster) begun
    rcases ends : examine host checker.settings request (hearing.stage.rosters checker.roster)
        begun with ⟨failure | findings, finished⟩
    · rw [ends] at progress
      rw [Attempt.bind_of_error ends]
      exact ⟨completed, .broken lacks logged progress⟩
    · rw [ends] at progress
      obtain ⟨noted, loggedToo, concludes⟩ := conclude_spec checker.settings findings finished
      rw [Attempt.bind_of_ok ends]
      exact ⟨completed, .found lacks logged progress loggedToo concludes.symm⟩

end Checker

end AccessDecision
