import AccessDecision.Proofs.Checker.Refinement
import AccessDecision.Proofs.Policy.Valuation

/-!
# The decision of a checker

If the policy that grants if some of its policies do gives a result, then a checker that holds
those policies decides in the same way, whoever watches it.  It has no verdict only if its sink
calls off everything.
-/

namespace AccessDecision

namespace Checker

variable {φ σ : Type}

/-- What comes of a checker that decides: a verdict with the given outcome, unless a sink that
is not harmless calls off everything. -/
def Decides (observers : Observers) (granted : Bool) : Except Failure Verdict → Prop
  | .ok verdict => verdict.isGranted = granted
  | .error failure => failure.isCancellation = true ∧ ¬ observers.Harmless

/-- At a hearing a checker holds some policies, all of which can be audited, and what stands in
for a collector is one. -/
structure Holds (checker : Checker) (policies : List (Policy φ)) (hearing : Hearing φ σ) :
    Prop where
  roster : hearing.stage.rosters checker.roster = policies
  carry : ∀ policy ∈ policies, policy.metadata.isSome = true
  collects : hearing.observers.stranger = none

variable {host : Host φ σ} {settings : Settings} {request : Request}

theorem calledOff_of_audit {policy : Policy φ} {result : Result} {stage : Stage φ σ}
    {observers : Observers} {later : Hearing φ σ} {failure : Failure}
    (carries : policy.metadata.isSome = true) (collects : observers.stranger = none)
    (stops : settings.audit policy result ⟨stage, observers⟩ = (.error failure, later)) :
    failure.isCancellation = true ∧ ¬ observers.Harmless := by
  constructor
  · obtain ⟨deliveries, -, audited⟩ := settings.audit_spec carries stops collects
    rw [Settings.Audited] at audited
    split at audited
    · obtain ⟨delivery, -, isOutcome, -⟩ := audited
      exact (Delivery.isCancellation_of_outcome_error isOutcome.symm).2
    · cases audited.2
  · intro safe
    obtain ⟨succeeds, -⟩ := settings.harmless_of_audit carries safe stops
    cases succeeds

/-- What an examination comes to where evaluating the policies until one of them grants access
gives some results. -/
def Follows (observers : Observers) (results : List Result) : Except Failure Findings → Prop
  | .ok findings =>
      findings.results = results ∧ findings.granting.isSome = results.any Result.isGranted
  | .error failure => failure.isCancellation = true ∧ ¬ observers.Harmless

theorem Examination.follows {policies : List (Policy φ)} {hearing later : Hearing φ σ}
    {outcome : Except Failure Findings}
    (examination : Examination host settings request policies hearing outcome later)
    (carry : ∀ policy ∈ policies, policy.metadata.isSome = true)
    (collects : hearing.observers.stranger = none) {name : Value} {total count : Nat}
    {stage last : Stage φ σ} {results : List Result}
    (same : stage.silenced = hearing.stage.silenced)
    (evaluates : Policy.evaluateAll host request name .or total count policies stage =
      (.ok results, last)) : Follows hearing.observers results outcome := by
  induction examination generalizing count stage results with
  | exhausted hearing =>
      cases evaluates
      exact ⟨rfl, rfl⟩
  | failed fails =>
      obtain ⟨_, failsToo, -⟩ := Policy.evaluate_of_silenced host request same fails
      rw [Policy.evaluateAll, Attempt.bind_of_error failsToo] at evaluates
      cases evaluates
  | interrupted gives stops =>
      exact calledOff_of_audit (carry _ List.mem_cons_self) collects stops
  | @granted policy rest hearing later result left gives audits grants =>
      obtain ⟨_, givesToo, -⟩ := Policy.evaluate_of_silenced host request same gives
      have settles : Connective.or.settledBy result.isGranted = true := grants
      rw [Policy.evaluateAll, Attempt.bind_of_ok givesToo, if_pos settles] at evaluates
      cases evaluates
      exact ⟨rfl, by simp [grants]⟩
  | @denied policy rest hearing middle later result left outcome gives audits denies _ ih =>
      have carries := carry policy List.mem_cons_self
      obtain ⟨begun, givesToo, quiet⟩ := Policy.evaluate_of_silenced host request same gives
      obtain ⟨_, watched, -⟩ := settings.audit_spec carries audits collects
      have unsettled : ¬ Connective.or.settledBy result.isGranted = true := by
        simp [Connective.settledBy, denies]
      rw [Policy.evaluateAll, Attempt.bind_of_ok givesToo, if_neg unsettled] at evaluates
      rcases goesOn : Policy.evaluateAll host request name .or total (count + 1) rest begun with
        ⟨failure | others, ended⟩
      · rw [Attempt.bind_of_error goesOn] at evaluates
        cases evaluates
      · rw [Attempt.bind_of_ok goesOn] at evaluates
        cases evaluates
        have follows := ih (fun policy member => carry policy (by simp [member]))
          (watched.stranger.trans collects) (quiet.trans watched.quiet.symm) goesOn
        cases outcome with
        | error failure =>
            obtain ⟨cancels, dangerous⟩ := follows
            refine ⟨cancels, fun safe => dangerous ?_⟩
            exact (settings.harmless_of_audit carries safe audits).2.2
        | ok findings =>
            obtain ⟨isResults, grants⟩ := follows
            exact ⟨congrArg (result :: ·) isResults, by simp [denies, grants]⟩

/-- A checker decides as the policy does that grants if some of its policies do. -/
theorem decides_of_any {checker : Checker} {policies : List (Policy φ)}
    {hearing : Hearing φ σ} (holds : checker.Holds policies hearing) {name : Value}
    {metadata : Metadata} {granted : Bool}
    (gives : (Policy.any policies name metadata).Gives host request hearing.stage granted) :
    Decides hearing.observers granted (checker.evaluate host request hearing).1 := by
  obtain ⟨holds, carry, collects⟩ := holds
  obtain ⟨root, last, evaluates, rfl⟩ := gives
  rw [Policy.evaluate] at evaluates
  rcases all : Policy.evaluateAll host request name .or policies.length 0 policies hearing.stage
    with ⟨failure | results, ended⟩
  · rw [Attempt.bind_of_error all] at evaluates
    cases evaluates
  rw [Attempt.bind_of_ok all] at evaluates
  cases evaluates
  have isGranted : (Result.ofChildren name .or results).isGranted =
      results.any Result.isGranted := by
    simp [Connective.combine]
  rw [isGranted]
  by_cases filled : policies = []
  · subst filled
    obtain ⟨later, runs, -⟩ := checker.evaluate_of_nil host request holds collects
    cases all
    rw [runs]
    rfl
  · obtain ⟨started, ending, finished, later, begins, examination, runs, -⟩ :=
      checker.evaluate_spec host request holds filled carry collects
    have follows := examination.follows carry (begins.stranger.trans collects)
      begins.quiet.symm all
    rw [runs]
    cases ending with
    | error failure =>
        obtain ⟨cancels, dangerous⟩ := follows
        exact ⟨cancels, fun safe => dangerous (begins.harmless safe).1⟩
    | ok findings => exact (Findings.isGranted_verdict _ _).trans follows.2

def replyingHost (answers : Nat → Bool) (reply : Except Failure Value) : Host Nat Unit where
  delay _ _ _ := .finite 0
  function _ _ state := ⟨reply, state, []⟩
  policy number _ state :=
    let result : Result :=
      if answers number then .granted (.text "host") .null
      else .denied (.text "host") (.text "closed")
    ⟨.ok (some result), state, []⟩

theorem gives_replyingHost (answers : Nat → Bool) (reply : Except Failure Value)
    (request : Request) (number : Nat) (name : Value) (metadata : Option Metadata)
    (stage : Stage Nat Unit) :
    (Policy.host number name metadata).Gives (replyingHost answers reply) request stage
      (answers number) := by
  refine ⟨_, _, rfl, ?_⟩
  cases answers number <;> rfl

def unwatchedHearing (policies : List (Policy Nat)) : Hearing Nat Unit where
  stage := { Stage.bare () with rosters := fun _ => policies }
  observers := (freshHearing none).observers

end Checker

end AccessDecision
