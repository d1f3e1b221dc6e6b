import AccessDecision.Proofs.Checker.Refinement

/-!
# Independence of those who watch

A checker with harmless observers does what a policy does that knows nothing of observers, and
what a policy does depends on the state of the host alone.  So the verdict of a checker, and
all that it does to the host, is the same however the checker is watched.
-/

namespace AccessDecision

namespace Checker

variable {φ σ : Type} (host : Host φ σ) (request : Request)

/-- Those who watch have no say: two checkers of the same name with the same policies come to
the same verdict or failure and do the same to the host, however they are watched, provided
that their observers are harmless. -/
theorem evaluate_unaffected_by_observers (first second : Checker) (hearing other : Hearing φ σ)
    (sameName : first.settings.checkerName = second.settings.checkerName)
    (samePolicies : hearing.stage.rosters first.roster = other.stage.rosters second.roster)
    (sameState : hearing.stage.state = other.stage.state)
    (carry : ∀ policy ∈ hearing.stage.rosters first.roster, policy.metadata.isSome = true)
    (safe : hearing.observers.Harmless) (safeToo : other.observers.Harmless) :
    ∃ outcome effect later last,
      first.evaluate host request hearing = (outcome, later) ∧
      second.evaluate host request other = (outcome, last) ∧
      later.stage.silenced = (hearing.stage.append effect).silenced ∧
      last.stage.silenced = (other.stage.append effect).silenced := by
  generalize holds : hearing.stage.rosters first.roster = policies at *
  by_cases filled : policies = []
  · subst filled
    obtain ⟨later, runs, watched⟩ := first.evaluate_of_nil host request holds safe.collects
    obtain ⟨last, runsToo, watchedToo⟩ :=
      second.evaluate_of_nil host request samePolicies.symm safeToo.collects
    refine ⟨_, .bare hearing.stage.state, later, last, runs, ?_, ?_, ?_⟩
    · rw [runsToo, verdictWithout, verdictWithout, sameName]
    · rw [Stage.append_bare, watched.quiet]
    · rw [sameState, Stage.append_bare, watchedToo.quiet]
  · have isolated : Evaluation.Isolated (fun _ => True)
        ((Policy.any policies first.settings.checkerName .empty).evaluate host request) :=
      Policy.isolated_evaluate (fun _ _ => trivial) host request (fun _ => trivial) _
    obtain ⟨reference, effect, -, effects, effectsToo⟩ := isolated.same_effect sameState
    obtain ⟨ending, _, later, evaluates, same, ends⟩ :=
      first.evaluate_simulates host request holds filled carry safe .empty
    obtain ⟨endingToo, _, last, evaluatesToo, sameToo, endsToo⟩ :=
      second.evaluate_simulates host request samePolicies.symm filled carry safeToo .empty
    rw [← sameName] at evaluatesToo endsToo
    cases effects.symm.trans evaluates
    cases effectsToo.symm.trans evaluatesToo
    rcases ends with ⟨failure, fails, runs⟩ | ⟨completed, findings, -, decided, isRoot, runs⟩
    · rcases endsToo with ⟨_, failsToo, runsToo⟩ | ⟨_, _, -, -, isRootToo, -⟩
      · cases fails.symm.trans failsToo
        exact ⟨.error failure, effect, later, last, runs, runsToo, same, sameToo⟩
      · cases fails.symm.trans isRootToo
    · rcases endsToo with ⟨_, failsToo, -⟩ | ⟨_, finds, -, decides, isRootToo, runsToo⟩
      · cases isRoot.symm.trans failsToo
      · have sameResults : findings.results = finds.results := by
          injection isRoot.symm.trans isRootToo with sameRoot
          injection sameRoot
        cases decided.unique decides sameResults
        rw [← Findings.verdict_congr sameName] at runsToo
        exact ⟨_, effect, later, last, runs, runsToo, same, sameToo⟩

def watchedHearing : Hearing Nat Nat :=
  let hearing := freshHearing (some faultySink)
  { hearing with
    observers := { hearing.observers with collector := some (.create true "gatehouse") } }

def unwatchedSettings : Settings :=
  { Settings.standard with auditEnabled := .bool false, metricsEnabled := .bool false }

theorem evaluate_unaffected_by_observers_counting :
    Settings.standard.checkerName = unwatchedSettings.checkerName ∧
    watchedHearing.stage.rosters 0 = (freshHearing none).stage.rosters 0 ∧
    watchedHearing.stage.state = (freshHearing none).stage.state ∧
    (∀ policy ∈ watchedHearing.stage.rosters 0, policy.metadata.isSome = true) ∧
    watchedHearing.observers.Harmless ∧ (freshHearing none).observers.Harmless ∧
    ∃ outcome later last,
      Checker.evaluate countingHost ⟨.standard, 0⟩ blankRequest watchedHearing =
        (outcome, later) ∧
      Checker.evaluate countingHost ⟨unwatchedSettings, 0⟩ blankRequest (freshHearing none) =
        (outcome, last) ∧
      later.stage.calls = last.stage.calls := by
  have carry : ∀ policy ∈ watchedHearing.stage.rosters 0, policy.metadata.isSome = true := by
    change ∀ policy ∈ twoPolicies, policy.metadata.isSome = true
    decide
  have safe : watchedHearing.observers.Harmless := ⟨rfl, harmless_faultySink.sink⟩
  have safeToo : (freshHearing none).observers.Harmless := ⟨rfl, by rintro sink ⟨⟩⟩
  obtain ⟨outcome, effect, later, last, runs, runsToo, same, sameToo⟩ :=
    evaluate_unaffected_by_observers countingHost blankRequest ⟨.standard, 0⟩
      ⟨unwatchedSettings, 0⟩ watchedHearing (freshHearing none) rfl rfl rfl carry safe safeToo
  refine ⟨rfl, rfl, rfl, carry, safe, safeToo, outcome, later, last, runs, runsToo, ?_⟩
  rw [Stage.calls_eq_of_silenced same, Stage.calls_eq_of_silenced sameToo]
  rfl

end Checker

end AccessDecision
