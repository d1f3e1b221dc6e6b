import AccessDecision.Proofs.Checker.Conclusion
import AccessDecision.Proofs.Checker.Parallel

/-!
# Appending policies

A checker that holds further policies behind others does at first what one does that holds the
others alone.  Where that one fails or grants access, so does the larger one, in the same way and
without asking a further policy.  Where it denies access, the larger one goes on with the further
policies from the state that was left, as a checker would that holds only them.  So no policy
that is added can take back access.
-/

namespace AccessDecision

namespace Checker

variable {φ σ : Type}

section Examinations

variable (host : Host φ σ) (settings : Settings) (request : Request)

theorem examine_append (policies added : List (Policy φ)) :
    examine host settings request (policies ++ added) = (do
      let findings ← examine host settings request policies
      if findings.granting.isSome then pure findings
      else do
        let others ← examine host settings request added
        pure ⟨findings.results ++ others.results, others.granting⟩) := by
  induction policies with
  | nil => simp [examine]
  | cons policy rest ih =>
      rw [List.cons_append, examine, examine, ih]
      simp only [bind_assoc]
      congr 1
      funext result
      congr 1
      funext _
      split
      · simp
      · simp only [bind_assoc, pure_bind]
        congr 1
        funext findings
        split
        · simp
        · simp

/-- Pronouncing a verdict does nothing but count it. -/
theorem exists_pronounce (verdict : Verdict) {hearing noted : Hearing φ σ}
    (logged : hearing.Logged noted) (collects : hearing.observers.stranger = none) :
    ∃ later, pronounce settings verdict noted = (.ok verdict, later) ∧
      later.stage.silenced = hearing.stage.silenced ∧
      hearing.observers.Alike later.observers := by
  have collectsToo : noted.observers.stranger = none := logged.observers ▸ collects
  have quiet := settings.quiet_countVerdict verdict.isGranted noted
  obtain ⟨later, counts, alike⟩ : ∃ later,
      settings.countVerdict verdict.isGranted noted = (.ok (), later) ∧
        noted.observers.Alike later.observers :=
    Proceeding.exists_collect _ _ _ _ collectsToo
  rw [counts] at quiet
  rw [logged.observers] at alike
  refine ⟨later, ?_, quiet.trans logged.quiet, alike⟩
  rw [pronounce, Attempt.bind_of_ok counts]
  rfl

theorem exists_conclude (findings : Findings) {hearing : Hearing φ σ}
    (collects : hearing.observers.stranger = none) :
    ∃ later, conclude settings findings hearing = (.ok (findings.verdict settings), later) ∧
      later.stage.silenced = hearing.stage.silenced ∧
      hearing.observers.Alike later.observers := by
  obtain ⟨noted, logged, concludes⟩ := conclude_spec settings findings hearing
  rw [concludes]
  exact exists_pronounce settings _ logged collects

theorem granting_iff {policies : List (Policy φ)} {hearing later : Hearing φ σ}
    {findings : Findings}
    (examines : examine host settings request policies hearing = (.ok findings, later)) :
    findings.granting.isSome = true ↔ ∃ result ∈ findings.results, result.isGranted = true := by
  obtain ⟨completed, progress⟩ := progress_examine host settings request policies hearing
  rw [examines] at progress
  obtain ⟨-, middle, -, decided, -⟩ := progress.closes
  clear progress examines
  induction decided with
  | exhausted => simp
  | granted rest grants => simp [grants]
  | denied denies _ ih => simp [denies, ih]

end Examinations

/-- What a checker tells of the examination of its policies. -/
inductive Tells (settings : Settings) (policies : List (Policy φ)) :
    Except Failure Findings → Except Failure Verdict → Prop where
  | failed (failure : Failure) : Tells settings policies (.error failure) (.error failure)
  | found (findings : Findings) (filled : policies ≠ []) :
      Tells settings policies (.ok findings) (.ok (findings.verdict settings))
  | without (lacks : policies = []) :
      Tells settings policies (.ok ⟨[], none⟩) (.ok (verdictWithout settings))

/-- What is told of findings has their results in its trace and agrees with them. -/
theorem Tells.trace {settings : Settings} {policies : List (Policy φ)} {findings : Findings}
    {outcome : Except Failure Verdict} (tells : Tells settings policies (.ok findings) outcome) :
    ∃ verdict root, outcome = .ok verdict ∧ verdict.trace = some root ∧
      root.children = findings.results ∧ verdict.isGranted = findings.granting.isSome := by
  cases tells with
  | found _ _ =>
      exact ⟨_, _, rfl, findings.trace_verdict settings, rfl, findings.isGranted_verdict settings⟩
  | without _ => exact ⟨_, _, rfl, rfl, rfl, rfl⟩

/-- How a checker goes on that has some results and no grant, given the results of the remaining
policies that were evaluated and what a checker says that holds only those policies. -/
inductive GoesOn (name : Value) (results others : List Result) :
    Except Failure Verdict → Except Failure Verdict → Prop where
  | failed (failure : Failure) : GoesOn name results others (.error failure) (.error failure)
  | answered {answer verdict : Verdict}
      (isTrace : verdict.trace = some (.ofChildren name .or (results ++ others)))
      (agrees : verdict.isGranted = answer.isGranted)
      (grants : verdict.isGranted = true ↔ ∃ result ∈ others, result.isGranted = true) :
      GoesOn name results others (.ok answer) (.ok verdict)

variable (host : Host φ σ) (request : Request)

/-- A checker tells of its policies what another of the same name finds out about them that is
watched alike and comes upon the host in the same state. -/
theorem exists_tells {checker : Checker} {settings : Settings} {policies : List (Policy φ)}
    {hearing begun : Hearing φ σ} (holds : hearing.stage.rosters checker.roster = policies)
    (carry : ∀ policy ∈ policies, policy.metadata.isSome = true)
    (sameName : checker.settings.checkerName = settings.checkerName)
    (sameState : hearing.stage.state = begun.stage.state)
    (alike : checker.settings.WatchedAlike settings hearing.observers begun.observers) :
    ∃ ending outcome effect later last, Tells checker.settings policies ending outcome ∧
      checker.evaluate host request hearing = (outcome, later) ∧
      examine host settings request policies begun = (ending, last) ∧
      hearing.stage.Becomes effect later.stage ∧ begun.stage.Becomes effect last.stage ∧
      checker.settings.WatchedAlike settings later.observers last.observers := by
  have same : begun.observers.Alike begun.observers := ⟨rfl, alike.collects.2⟩
  by_cases filled : policies = []
  · subst filled
    obtain ⟨noted, logged, runs⟩ := decideWithout_spec checker.settings hearing
    obtain ⟨later, pronounces, quiet, counts⟩ := exists_pronounce checker.settings
      (verdictWithout checker.settings) logged alike.collects.1
    have evaluates : checker.evaluate host request hearing =
        (.ok (verdictWithout checker.settings), later) := by
      rw [evaluate, Attempt.bind_of_ok (Attempt.look_apply _ _), holds, ← pronounces, ← runs]
      rfl
    have becomes := Stage.becomes_bare_of_quiet quiet
    refine ⟨_, _, _, later, begun, .without rfl, evaluates, rfl, becomes, ?_,
      alike.count counts same⟩
    rw [sameState]
    exact begun.stage.becomes_bare
  · obtain ⟨started, logged, runs⟩ := evaluate_of_filled host checker request holds filled
    have sameThen : started.stage.state = begun.stage.state :=
      (Stage.state_eq_of_silenced logged.quiet).trans sameState
    have alikeThen : checker.settings.WatchedAlike settings started.observers begun.observers :=
      logged.observers ▸ alike
    obtain ⟨failure | findings, effect, later, last, examines, examinesToo, becomes, becomesToo,
      alikeLater⟩ := abreast_examine host request sameName carry sameThen alikeThen
    · refine ⟨_, _, effect, later, last, .failed failure, ?_, examinesToo, ?_, becomesToo,
        alikeLater⟩
      · rw [runs, Attempt.bind_of_error examines]
      · exact .after_quiet logged.quiet becomes
    · obtain ⟨final, concludes, quiet, counts⟩ := exists_conclude checker.settings findings
        alikeLater.collects.1
      have sameLast : last.observers.Alike last.observers := ⟨rfl, alikeLater.collects.2⟩
      refine ⟨_, _, effect, final, last, .found findings filled, ?_, examinesToo, ?_, becomesToo,
        alikeLater.count counts sameLast⟩
      · rw [runs, Attempt.bind_of_ok examines, concludes]
      · exact (Stage.Becomes.after_quiet logged.quiet becomes).of_quiet quiet

/-- The children of the trace of a checker are the results of the policies that it evaluated. -/
theorem exists_consulted {checker : Checker} {policies : List (Policy φ)}
    {hearing later : Hearing φ σ} {outcome : Except Failure Verdict}
    (holds : hearing.stage.rosters checker.roster = policies)
    (evaluates : checker.evaluate host request hearing = (outcome, later)) :
    ∃ completed middle, Consulted host request hearing.stage completed middle ∧
      completed.map Prod.fst <+: policies ∧
      ∀ verdict root, outcome = .ok verdict → verdict.trace = some root →
        root.children = completed.map Prod.snd := by
  obtain ⟨completed, heard⟩ := heard_evaluate host checker request hearing
  rw [evaluates] at heard
  obtain ⟨first, middle, consulted, conclusion⟩ := heard.concludes
  rw [holds] at first conclusion
  refine ⟨completed, middle, consulted, first, ?_⟩
  rintro verdict root rfl isTrace
  cases conclusion with
  | without lacks =>
      rw [lacks, List.prefix_nil, List.map_eq_nil_iff] at first
      cases isTrace
      rw [first]
      rfl
  | answered _ _ isRoot children =>
      cases isTrace.symm.trans isRoot
      exact children

/-- Where no policy granted access so far, a checker goes on with the others as one does that holds
them alone. -/
theorem exists_goesOn {third : Checker} {settings : Settings} {policies added : List (Policy φ)}
    {findings : Findings} {begun last next : Hearing φ σ}
    (examines : examine host settings request policies begun = (.ok findings, last))
    (denies : findings.granting.isSome = false)
    (holds : next.stage.rosters third.roster = added)
    (carry : ∀ policy ∈ added, policy.metadata.isSome = true)
    (sameName : third.settings.checkerName = settings.checkerName)
    (sameState : next.stage.state = last.stage.state)
    (alike : third.settings.WatchedAlike settings next.observers last.observers) :
    ∃ answer ending completed middle onwards final finished,
      third.evaluate host request next = (answer, final) ∧
      (examine host settings request (policies ++ added) >>= conclude settings) begun =
        (ending, finished) ∧
      Consulted host request next.stage completed middle ∧ completed.map Prod.fst <+: added ∧
      GoesOn settings.checkerName findings.results (completed.map Prod.snd) answer ending ∧
      next.stage.Becomes onwards final.stage ∧ last.stage.Becomes onwards finished.stage := by
  obtain ⟨ending, answer, onwards, final, finished, tells, evaluates, rest, becomes, becomesToo,
    alikeLater⟩ := exists_tells host request holds carry sameName sameState alike
  have goesOn : (examine host settings request (policies ++ added) >>= conclude settings) begun =
      (do
        let others ← examine host settings request added
        conclude settings ⟨findings.results ++ others.results, others.granting⟩) last := by
    rw [examine_append, bind_assoc, Attempt.bind_of_ok examines, denies]
    simp
  obtain ⟨completed, middle, consulted, first, children⟩ :=
    exists_consulted host request holds evaluates
  rw [goesOn]
  cases ending with
  | error failure =>
      cases tells
      exact ⟨_, _, completed, middle, onwards, final, finished, evaluates,
        Attempt.bind_of_error rest, consulted, first, .failed failure, becomes, becomesToo⟩
  | ok others =>
      obtain ⟨verdict, root, rfl, isTrace, isChildren, agrees⟩ := tells.trace
      obtain ⟨concluded, concludes, quiet, -⟩ := exists_conclude settings
        ⟨findings.results ++ others.results, others.granting⟩ alikeLater.collects.2
      have isOthers := (children verdict root rfl isTrace).symm.trans isChildren
      refine ⟨_, _, completed, middle, onwards, final, concluded, evaluates,
        (Attempt.bind_of_ok rest).trans concludes, consulted, first, ?_, becomes,
        becomesToo.of_quiet quiet⟩
      rw [isOthers]
      have grants := granting_iff host settings request rest
      refine .answered ?_ ?_ ?_
      · rw [Findings.trace_verdict]
      · rw [Findings.isGranted_verdict, agrees]
      · rw [Findings.isGranted_verdict]
        exact grants

/-- Appending never disturbs earlier verdicts.  A checker with further policies behind those of
another one fails or grants access as that one does, with the same effect on the host.  Where
that one denies access, the larger one goes on as a checker does that holds the further policies
alone and finds the host as it was left. -/
theorem evaluate_appended (first second : Checker) {hearing hearingToo : Hearing φ σ}
    {policies added : List (Policy φ)} (holds : hearing.stage.rosters first.roster = policies)
    (filled : policies ≠ [])
    (holdsToo : hearingToo.stage.rosters second.roster = policies ++ added)
    (carry : ∀ policy ∈ policies ++ added, policy.metadata.isSome = true)
    (sameName : first.settings.checkerName = second.settings.checkerName)
    (sameState : hearing.stage.state = hearingToo.stage.state)
    (alike : first.settings.WatchedAlike second.settings hearing.observers hearingToo.observers) :
    ∃ outcome effect later, first.evaluate host request hearing = (outcome, later) ∧
      hearing.stage.Becomes effect later.stage ∧
      ((∃ failure last, outcome = .error failure ∧
          second.evaluate host request hearingToo = (.error failure, last) ∧
          hearingToo.stage.Becomes effect last.stage) ∨
        (∃ verdict last, outcome = .ok verdict ∧ verdict.isGranted = true ∧
          second.evaluate host request hearingToo = (.ok verdict, last) ∧
          hearingToo.stage.Becomes effect last.stage) ∨
        ∃ verdict root, outcome = .ok verdict ∧ verdict.isGranted = false ∧
          verdict.trace = some root ∧
          ∀ (third : Checker) (next : Hearing φ σ), next.stage.rosters third.roster = added →
            third.settings.checkerName = first.settings.checkerName →
            next.stage.state = later.stage.state →
            first.settings.WatchedAlike third.settings later.observers next.observers →
            ∃ answer ending completed middle onwards final last,
              third.evaluate host request next = (answer, final) ∧
              second.evaluate host request hearingToo = (ending, last) ∧
              Consulted host request next.stage completed middle ∧
              completed.map Prod.fst <+: added ∧
              GoesOn second.settings.checkerName root.children (completed.map Prod.snd) answer
                ending ∧
              next.stage.Becomes onwards final.stage ∧
              hearingToo.stage.Becomes (effect.append onwards) last.stage) := by
  have filledToo : policies ++ added ≠ [] := by simp [filled]
  rw [List.forall_mem_append] at carry
  obtain ⟨begun, logged, runs⟩ := evaluate_of_filled host second request holdsToo filledToo
  have sameThen : hearing.stage.state = begun.stage.state :=
    sameState.trans (Stage.state_eq_of_silenced logged.quiet).symm
  have alikeThen : first.settings.WatchedAlike second.settings hearing.observers
      begun.observers := logged.observers ▸ alike
  obtain ⟨ending, outcome, effect, later, last, tells, evaluates, examines, becomes, becomesToo,
    alikeLater⟩ := exists_tells host request holds carry.1 sameName sameThen alikeThen
  refine ⟨outcome, effect, later, evaluates, becomes, ?_⟩
  cases ending with
  | error failure =>
      cases tells
      refine .inl ⟨failure, last, rfl, ?_, .after_quiet logged.quiet becomesToo⟩
      rw [runs, examine_append]
      exact Attempt.bind_of_error (Attempt.bind_of_error examines)
  | ok findings =>
      rcases granted : findings.granting.isSome
      · obtain ⟨verdict, root, rfl, isTrace, isChildren, agrees⟩ := tells.trace
        refine .inr (.inr ⟨verdict, root, rfl, agrees.trans granted, isTrace, ?_⟩)
        intro third next holdsNext sameNext sameStateNext alikeNext
        have sameLast : next.stage.state = last.stage.state :=
          sameStateNext.trans (becomes.state_eq.trans becomesToo.state_eq.symm)
        obtain ⟨answer, ending, completed, middle, onwards, final, finished, evaluatesNext, goesOn,
          consulted, isFirst, related, left, leftToo⟩ := exists_goesOn host request examines granted
            holdsNext carry.2 (sameNext.trans sameName) sameLast (alikeNext.symm.trans alikeLater)
        rw [← runs] at goesOn
        rw [← isChildren] at related
        exact ⟨answer, ending, completed, middle, onwards, final, finished, evaluatesNext, goesOn,
          consulted, isFirst, related, left, .after_quiet logged.quiet (becomesToo.trans leftToo)⟩
      · obtain ⟨final, concludes, quiet, -⟩ := exists_conclude second.settings findings
          alikeLater.collects.2
        cases tells with
        | without => cases granted
        | found =>
            have isGranted := (findings.isGranted_verdict first.settings).trans granted
            refine .inr (.inl ⟨_, final, rfl, isGranted, ?_,
              (Stage.Becomes.after_quiet logged.quiet becomesToo).of_quiet quiet⟩)
            rw [runs, examine_append, bind_assoc, Attempt.bind_of_ok examines, if_pos granted,
              pure_bind, concludes, Findings.verdict_congr sameName]

def laterPolicies : List (Policy Nat) :=
  [.guarded [] .deny (.text "ban") (some .empty), .host 1 (.text "second") (some .empty)]

/-- A hearing at which one checker holds a policy of the host and another also holds policies
behind it. -/
def growingHearing : Hearing Nat Nat :=
  let rosters : Rosters Nat := fun number =>
    if number = 0 then twoPolicies.take 1 else twoPolicies.take 1 ++ laterPolicies
  { freshHearing none with stage := { Stage.bare 0 with rosters } }

theorem evaluate_appended_counting :
    growingHearing.stage.rosters 0 = twoPolicies.take 1 ∧ twoPolicies.take 1 ≠ [] ∧
    growingHearing.stage.rosters 1 = twoPolicies.take 1 ++ laterPolicies ∧
    (∀ policy ∈ twoPolicies.take 1 ++ laterPolicies, policy.metadata.isSome = true) ∧
    Settings.standard.WatchedAlike .standard growingHearing.observers growingHearing.observers ∧
    ∃ verdict last, Checker.evaluate countingHost ⟨.standard, 1⟩ blankRequest growingHearing =
        (.ok verdict, last) ∧
      verdict.isGranted = true ∧
      verdict.trace = some (.ofChildren Settings.standard.checkerName .or
        [.denied (.text "early") .null, .denied (.text "ban") (.text "policy denied access"),
          .granted (.text "late") (.text "on time")]) := by
  have carry : ∀ policy ∈ twoPolicies.take 1 ++ laterPolicies,
      policy.metadata.isSome = true := by decide
  have holds : growingHearing.stage.rosters 0 = twoPolicies.take 1 := rfl
  have holdsToo : growingHearing.stage.rosters 1 = twoPolicies.take 1 ++ laterPolicies := rfl
  have alike : Settings.standard.WatchedAlike .standard growingHearing.observers
      growingHearing.observers := .same rfl ⟨rfl, rfl⟩
  refine ⟨holds, by decide, holdsToo, carry, alike, ?_⟩
  obtain ⟨outcome, effect, later, evaluates, becomes, ends⟩ := evaluate_appended countingHost
    blankRequest ⟨.standard, 0⟩ ⟨.standard, 1⟩ holds (by decide) holdsToo carry rfl rfl alike
  cases evaluates
  rcases ends with ⟨_, _, fails, -⟩ | ⟨_, _, grants, isGranted, -⟩ |
    ⟨verdict, root, gives, denies, isTrace, goesOn⟩
  · cases fails
  · cases grants
    cases isGranted
  · let left := (Checker.evaluate countingHost ⟨.standard, 0⟩ blankRequest growingHearing).2
    have collects : left.observers.stranger = none := rfl
    let next := { left with stage := { left.stage with rosters := fun _ => laterPolicies } }
    obtain ⟨_, _, _, _, _, _, last, rest, whole, -, -, related, -⟩ :=
      goesOn ⟨.standard, 0⟩ next rfl rfl rfl (.same rfl ⟨rfl, collects⟩)
    cases gives
    cases isTrace
    cases rest
    cases related with
    | answered _ agrees _ =>
        refine ⟨_, last, whole, agrees, ?_⟩
        cases whole
        rfl

end Checker

end AccessDecision
