import AccessDecision.Proofs.Checker.Refinement

/-!
# How checkers conclude

A checker considers the policies that it held when it was asked and no others, in order, up to
the one that settles the matter.  Whatever stops it before, the policies that gave results are
the first ones, and the next one fails or the observers do.  Nothing is assumed about them.
-/

namespace AccessDecision

namespace Checker

variable {φ σ : Type}

variable (host : Host φ σ) (settings : Settings) (request : Request)

/-- How a checker breaks off after some of its policies gave results: the next one fails, or
the result of the last one cannot be audited. -/
inductive BreaksOff (policies : List (Policy φ)) (completed : List (Policy φ × Result))
    (middle : Stage φ σ) (failure : Failure) (later : Hearing φ σ) : Prop where
  | failed {policy : Policy φ} {fault : Failure}
      (position : policies[completed.length]? = some policy)
      (fails : policy.evaluate host request middle = (.error fault, later.stage))
  | unaudited {earlier : List (Policy φ × Result)} {policy : Policy φ} {result : Result}
      {noted : Hearing φ σ} (isLast : completed = earlier ++ [(policy, result)])
      (here : noted.stage = middle)
      (stops : settings.audit policy result noted = (.error failure, later))

/-- How an examination closes: with findings about the policies that gave results, or by
breaking off. -/
def Closes (policies : List (Policy φ)) (completed : List (Policy φ × Result))
    (middle : Stage φ σ) (later : Hearing φ σ) : Except Failure Findings → Prop
  | .ok findings =>
      Decided policies completed findings ∧ later.stage.silenced = middle.silenced
  | .error failure => BreaksOff host settings request policies completed middle failure later

/-- How a checker concludes that has consulted some of its policies: without any it denies
access, otherwise the verdict has the results of those policies for a trace.  It fails by
breaking off, or because what should count the verdict is no collector. -/
inductive Conclusion (policies : List (Policy φ)) (completed : List (Policy φ × Result))
    (middle : Stage φ σ) : Except Failure Verdict → Hearing φ σ → Prop where
  | without {later : Hearing φ σ} (lacks : policies = [])
      (quiet : later.stage.silenced = middle.silenced) :
      Conclusion policies completed middle (.ok (verdictWithout settings)) later
  | answered {root : Result} {verdict : Verdict} {later : Hearing φ σ} (filled : policies ≠ [])
      (answers : Answers policies settings.checkerName root verdict)
      (isTrace : verdict.trace = some root) (children : root.children = completed.map Prod.snd)
      (quiet : later.stage.silenced = middle.silenced) :
      Conclusion policies completed middle (.ok verdict) later
  | broken {failure : Failure} {later : Hearing φ σ}
      (breaksOff : BreaksOff host settings request policies completed middle failure later) :
      Conclusion policies completed middle (.error failure) later
  | uncounted {findings : Findings} {noted later : Hearing φ σ} {failure : Failure}
      (decided : Decided policies completed findings)
      (quiet : noted.stage.silenced = middle.silenced)
      (stops : settings.countVerdict findings.granting.isSome noted = (.error failure, later)) :
      Conclusion policies completed middle (.error failure) later

variable {host settings request}

theorem BreaksOff.cons {policies : List (Policy φ)} {completed : List (Policy φ × Result)}
    {middle : Stage φ σ} {failure : Failure} {later : Hearing φ σ}
    (breaksOff : BreaksOff host settings request policies completed middle failure later)
    (policy : Policy φ) (result : Result) :
    BreaksOff host settings request (policy :: policies) ((policy, result) :: completed) middle
      failure later := by
  cases breaksOff with
  | failed position fails => exact .failed (by simpa using position) fails
  | @unaudited earlier last given noted isLast here stops =>
      have isLastToo : (policy, result) :: completed =
          ((policy, result) :: earlier) ++ [(last, given)] := by
        rw [isLast, List.cons_append]
      exact .unaudited isLastToo here stops

theorem Progress.closes {policies : List (Policy φ)} {hearing later : Hearing φ σ}
    {completed : List (Policy φ × Result)} {outcome : Except Failure Findings}
    (progress : Progress host settings request policies hearing completed outcome later) :
    completed.map Prod.fst <+: policies ∧
      ∃ middle, Consulted host request hearing.stage completed middle ∧
        Closes host settings request policies completed middle later outcome := by
  induction progress with
  | exhausted hearing => exact ⟨List.nil_prefix, hearing.stage, .done rfl, .exhausted, rfl⟩
  | failed asks =>
      obtain ⟨fault, stage, fails, rfl⟩ := evaluate_of_ask_error asks
      exact ⟨List.nil_prefix, _, .done rfl, .failed rfl fails⟩
  | interrupted asks stops =>
      obtain ⟨stage, gives, rfl⟩ := evaluate_of_ask_ok asks
      exact ⟨⟨_, rfl⟩, stage, .single gives, .unaudited (List.nil_append _).symm rfl stops⟩
  | @granted policy rest hearing middle later result asks audits grants =>
      obtain ⟨stage, gives, rfl⟩ := evaluate_of_ask_ok asks
      have quiet := settings.quiet_audit policy result { hearing with stage }
      rw [audits] at quiet
      exact ⟨⟨rest, rfl⟩, stage, .single gives, .granted rest grants, quiet⟩
  | @denied policy rest hearing middle audited later result completed outcome asks audits denies
      others ih =>
      obtain ⟨stage, gives, rfl⟩ := evaluate_of_ask_ok asks
      have quiet := settings.quiet_audit policy result { hearing with stage }
      rw [audits] at quiet
      obtain ⟨⟨left, isRest⟩, middle, consulted, closes⟩ := ih
      refine ⟨⟨left, by rw [← isRest]; rfl⟩, middle,
        .next rfl gives (consulted.after_quiet quiet), ?_⟩
      cases outcome with
      | ok findings => exact ⟨.denied denies closes.1, closes.2⟩
      | error failure => exact BreaksOff.cons closes policy result

theorem Conclusion.of_pronounce {policies : List (Policy φ)}
    {completed : List (Policy φ × Result)} {middle : Stage φ σ} {findings : Findings}
    {noted later : Hearing φ σ} {verdict : Verdict} {outcome : Except Failure Verdict}
    (decided : Decided policies completed findings)
    (agrees : verdict.isGranted = findings.granting.isSome)
    (quiet : noted.stage.silenced = middle.silenced)
    (pronounces : pronounce settings verdict noted = (outcome, later))
    (concludes : later.stage.silenced = middle.silenced →
      Conclusion host settings request policies completed middle (.ok verdict) later) :
    Conclusion host settings request policies completed middle outcome later := by
  have unseen := settings.quiet_countVerdict verdict.isGranted noted
  obtain ⟨left, ⟨failure, stops, same⟩ | ⟨counts, same⟩⟩ :=
    pronounce_cases settings verdict noted
  · cases pronounces.symm.trans same
    rw [agrees] at stops
    exact .uncounted decided quiet stops
  · cases pronounces.symm.trans same
    rw [counts] at unseen
    exact concludes (unseen.trans quiet)

/-- Every checker consults the first of the policies that it held when it was asked, and
concludes from what they gave. -/
theorem Heard.concludes {checker : Checker} {hearing later : Hearing φ σ}
    {completed : List (Policy φ × Result)} {outcome : Except Failure Verdict}
    (heard : Heard host checker request hearing completed outcome later) :
    completed.map Prod.fst <+: hearing.stage.rosters checker.roster ∧
      ∃ middle, Consulted host request hearing.stage completed middle ∧
        Conclusion host checker.settings request (hearing.stage.rosters checker.roster)
          completed middle outcome later := by
  cases heard with
  | without lacks logged pronounces =>
      rw [lacks]
      refine ⟨List.nil_prefix, hearing.stage, .done rfl, ?_⟩
      exact .of_pronounce .exhausted rfl logged.quiet pronounces fun unseen => .without rfl unseen
  | broken filled logged progress =>
      obtain ⟨first, middle, consulted, closes⟩ := progress.closes
      exact ⟨first, middle, consulted.after_quiet logged.quiet, .broken closes⟩
  | found filled logged progress loggedToo pronounces =>
      obtain ⟨first, middle, consulted, decided, unseen⟩ := progress.closes
      refine ⟨first, middle, consulted.after_quiet logged.quiet, ?_⟩
      refine .of_pronounce decided (Findings.isGranted_verdict _ _)
        (loggedToo.quiet.trans unseen) pronounces fun remains => ?_
      have answers := decided.answers checker.settings
      exact .answered filled answers answers.trace_eq decided.results_eq remains

end Checker

end AccessDecision
