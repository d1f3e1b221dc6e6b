import AccessDecision.Proofs.Checker.Examination
import AccessDecision.Proofs.Policy.Consultation

/-!
# Checkers and the policies that some policy suffices for

A checker and the policy that grants if some of its policies does are two loops over the same
list.  They evaluate the same policies, come to the same results and fail in the same way, so
the verdict of the checker is the result of that policy, with the name and the reason of the
one that granted access.  Only a sink that calls off everything parts them.
-/

namespace AccessDecision

theorem Settings.truthy_of_validate {settings : Settings}
    (valid : settings.validate = .ok ()) : settings.checkerName.truthy = true := by
  rw [validate] at valid
  split at valid
  · next name isName =>
      rw [isName, Value.truthy]
      by_cases isEmpty : name = ""
      · subst isEmpty
        have isBlank : (Text.trim "").isEmpty = true := rfl
        rw [if_pos isBlank] at valid
        cases valid
      · simpa using isEmpty
  · split at valid <;> cases valid

namespace Checker

variable {φ σ : Type}

/-- What findings say about the results of the first of some policies. -/
inductive Decided : List (Policy φ) → List (Policy φ × Result) → Findings → Prop where
  | exhausted : Decided [] [] ⟨[], none⟩
  | granted {policy : Policy φ} {result : Result} (rest : List (Policy φ))
      (grants : result.isGranted = true) :
      Decided (policy :: rest) [(policy, result)]
        ⟨[result], some (policy.name, result.reason)⟩
  | denied {policy : Policy φ} {result : Result} {rest : List (Policy φ)}
      {completed : List (Policy φ × Result)} {findings : Findings}
      (denies : result.isGranted = false) (others : Decided rest completed findings) :
      Decided (policy :: rest) ((policy, result) :: completed)
        ⟨result :: findings.results, findings.granting⟩

/-- The verdict of a checker with a name for a root: access is granted by the policy that
stands where the last of the children came from, or every policy denied access. -/
inductive Answers (policies : List (Policy φ)) (name : Value) : Result → Verdict → Prop where
  | granted {denied : List Result} {last : Result} {policy : Policy φ}
      (others : ∀ result ∈ denied, result.isGranted = false)
      (grants : last.isGranted = true)
      (position : policies[denied.length]? = some policy) :
      Answers policies name (.ofChildren name .or (denied ++ [last]))
        (.granted policy.name last.reason (some (.ofChildren name .or (denied ++ [last]))))
  | denied {children : List Result} (complete : children.length = policies.length)
      (others : ∀ result ∈ children, result.isGranted = false) :
      Answers policies name (.ofChildren name .or children)
        (.denied (.text allDenied) (some (.ofChildren name .or children)))

namespace Answers

variable {policies : List (Policy φ)} {name : Value} {root : Result} {verdict : Verdict}

theorem trace_eq (answers : Answers policies name root verdict) :
    verdict.trace = some root := by
  cases answers <;> rfl

theorem isGranted_eq (answers : Answers policies name root verdict) :
    verdict.isGranted = root.isGranted := by
  cases answers with
  | granted others grants position =>
      simp [Verdict.isGranted, Connective.combine, grants]
  | denied complete others =>
      simpa [Verdict.isGranted, Connective.combine] using others

end Answers

namespace Decided

variable {policies : List (Policy φ)} {completed others : List (Policy φ × Result)}
  {findings finds : Findings}

theorem results_eq (decided : Decided policies completed findings) :
    findings.results = completed.map Prod.snd := by
  induction decided with
  | exhausted => rfl
  | granted => rfl
  | denied denies _ ih => rw [ih, List.map_cons]

theorem policies_prefix (decided : Decided policies completed findings) :
    completed.map Prod.fst <+: policies := by
  induction decided with
  | exhausted => exact List.prefix_rfl
  | granted rest grants => exact ⟨rest, rfl⟩
  | denied denies _ ih =>
      obtain ⟨rest, isRest⟩ := ih
      exact ⟨rest, by rw [← isRest, List.map_cons, List.cons_append]⟩

theorem unique (decided : Decided policies completed findings)
    (decides : Decided policies others finds) (same : findings.results = finds.results) :
    findings = finds := by
  induction decided generalizing others finds with
  | exhausted =>
      cases decides
      rfl
  | granted rest grants =>
      cases decides with
      | granted _ grantsToo =>
          cases same
          rfl
      | denied deniesToo _ =>
          rw [← (List.cons.inj same).1, grants] at deniesToo
          cases deniesToo
  | denied denies _ ih =>
      cases decides with
      | granted _ grantsToo =>
          rw [(List.cons.inj same).1, grantsToo] at denies
          cases denies
      | denied deniesToo rest =>
          obtain ⟨head, tail⟩ := List.cons.inj same
          rw [head, ih rest tail]

theorem answers (decided : Decided policies completed findings) (settings : Settings) :
    Answers policies settings.checkerName
      (.ofChildren settings.checkerName .or findings.results) (findings.verdict settings) := by
  have shape : (∃ denied last policy,
        findings = ⟨denied ++ [last], some (policy.name, last.reason)⟩ ∧
        (∀ result ∈ denied, result.isGranted = false) ∧ last.isGranted = true ∧
        policies[denied.length]? = some policy) ∨
      ∃ children, findings = ⟨children, none⟩ ∧ children.length = policies.length ∧
        ∀ result ∈ children, result.isGranted = false := by
    induction decided with
    | exhausted => exact .inr ⟨[], rfl, rfl, by simp⟩
    | @granted policy result rest grants =>
        exact .inl ⟨[], result, policy, rfl, by simp, grants, rfl⟩
    | @denied policy result rest completed findings denies _ ih =>
        rcases ih with ⟨denied, last, granting, rfl, others, grants, position⟩ |
          ⟨children, rfl, complete, others⟩
        · exact .inl ⟨result :: denied, last, granting, rfl, by simpa [denies] using others,
            grants, by simpa using position⟩
        · exact .inr ⟨result :: children, rfl, by simpa using complete,
            by simpa [denies] using others⟩
  rcases shape with ⟨denied, last, policy, rfl, others, grants, position⟩ |
    ⟨children, rfl, complete, others⟩
  · exact .granted others grants position
  · exact .denied complete others

end Decided

section Simulation

variable {host : Host φ σ} {settings : Settings} {request : Request}
  {policies : List (Policy φ)} {hearing later : Hearing φ σ}
  {outcome : Except Failure Findings}

/-- Evaluating the policies until one of them grants access comes to the same as examining
them, whatever the logs say. -/
theorem Examination.simulates
    (examination : Examination host settings request policies hearing outcome later)
    (carry : ∀ policy ∈ policies, policy.metadata.isSome = true)
    (safe : hearing.observers.Harmless) (name : Value) (total count : Nat)
    {stage : Stage φ σ} (same : stage.silenced = hearing.stage.silenced) :
    ∃ last, Policy.evaluateAll host request name .or total count policies stage =
        (outcome.map Findings.results, last) ∧
      last.silenced = later.stage.silenced ∧ later.observers.Harmless := by
  induction examination generalizing stage count with
  | exhausted hearing => exact ⟨stage, rfl, same, safe⟩
  | failed fails =>
      obtain ⟨last, failsToo, quiet⟩ := Policy.evaluate_of_silenced host request same fails
      exact ⟨last, by rw [Policy.evaluateAll, Attempt.bind_of_error failsToo]; rfl, quiet,
        safe⟩
  | interrupted gives stops =>
      obtain ⟨succeeds, -⟩ := settings.harmless_of_audit (carry _ List.mem_cons_self) safe stops
      cases succeeds
  | @granted policy rest hearing later result left gives audits grants =>
      obtain ⟨last, givesToo, quiet⟩ := Policy.evaluate_of_silenced host request same gives
      obtain ⟨-, unseen, stillSafe⟩ :=
        settings.harmless_of_audit (carry policy List.mem_cons_self) safe audits
      refine ⟨{ last with log := last.log ++ [.settled name (count + 1) total
        result.isGranted result.policyName] }, ?_, quiet.trans unseen.symm, stillSafe⟩
      have settles : Connective.or.settledBy result.isGranted = true := grants
      rw [Policy.evaluateAll, Attempt.bind_of_ok givesToo, if_pos settles]
      rfl
  | @denied policy rest hearing middle later result left outcome gives audits denies _ ih =>
      obtain ⟨begun, givesToo, quiet⟩ := Policy.evaluate_of_silenced host request same gives
      obtain ⟨-, unseen, stillSafe⟩ :=
        settings.harmless_of_audit (carry policy List.mem_cons_self) safe audits
      obtain ⟨last, others, agrees, harmless⟩ :=
        ih (fun policy member => carry policy (by simp [member])) stillSafe (count + 1)
          (quiet.trans unseen.symm)
      refine ⟨last, ?_, agrees, harmless⟩
      rw [Policy.evaluateAll, Attempt.bind_of_ok givesToo, denies]
      cases outcome with
      | error failure => exact Attempt.bind_of_error others
      | ok findings => exact Attempt.bind_of_ok others

theorem Examination.decided
    (examination : Examination host settings request policies hearing outcome later)
    (carry : ∀ policy ∈ policies, policy.metadata.isSome = true)
    (safe : hearing.observers.Harmless) {findings : Findings} (ends : outcome = .ok findings) :
    ∃ completed, Consulted host request hearing.stage completed later.stage ∧
      Decided policies completed findings := by
  induction examination generalizing findings with
  | exhausted hearing =>
      cases ends
      exact ⟨[], .done rfl, .exhausted⟩
  | failed => cases ends
  | interrupted => cases ends
  | @granted policy rest hearing later result left gives audits grants =>
      obtain ⟨-, unseen, -⟩ :=
        settings.harmless_of_audit (carry policy List.mem_cons_self) safe audits
      cases ends
      exact ⟨[(policy, result)], .next rfl gives (.done unseen), .granted rest grants⟩
  | @denied policy rest hearing middle later result left outcome gives audits denies _ ih =>
      obtain ⟨-, unseen, stillSafe⟩ :=
        settings.harmless_of_audit (carry policy List.mem_cons_self) safe audits
      cases outcome with
      | error failure => cases ends
      | ok found =>
          cases ends
          obtain ⟨completed, consulted, decided⟩ :=
            ih (fun policy member => carry policy (by simp [member])) stillSafe rfl
          exact ⟨(policy, result) :: completed,
            .next rfl gives (consulted.after_quiet unseen), .denied denies decided⟩

end Simulation

variable (host : Host φ σ) (checker : Checker) (request : Request)
  {hearing : Hearing φ σ} {policies : List (Policy φ)}

/-- A checker with harmless observers does what the policy does that grants if some of the
policies do. -/
theorem evaluate_simulates (holds : hearing.stage.rosters checker.roster = policies)
    (some : policies ≠ []) (carry : ∀ policy ∈ policies, policy.metadata.isSome = true)
    (safe : hearing.observers.Harmless) (metadata : Metadata) :
    ∃ ending last later,
      (Policy.any policies checker.settings.checkerName metadata).evaluate host request
        hearing.stage = (ending, last) ∧
      later.stage.silenced = last.silenced ∧
      ((∃ failure, ending = .error failure ∧
          checker.evaluate host request hearing = (.error failure, later)) ∨
        ∃ completed findings, Consulted host request hearing.stage completed later.stage ∧
          Decided policies completed findings ∧
          ending = .ok (.ofChildren checker.settings.checkerName .or findings.results) ∧
          checker.evaluate host request hearing =
            (.ok (findings.verdict checker.settings), later)) := by
  obtain ⟨started, ending, finished, later, begins, examination, runs, ends⟩ :=
    checker.evaluate_spec host request holds some carry safe.collects
  obtain ⟨startsSafe, -⟩ := begins.harmless safe
  obtain ⟨last, evaluates, agrees, -⟩ := examination.simulates carry startsSafe
    checker.settings.checkerName policies.length 0 begins.quiet.symm
  have same := ends.quiet.trans agrees.symm
  cases ending with
  | error failure =>
      refine ⟨.error failure, last, later, ?_, same, .inl ⟨failure, rfl, runs⟩⟩
      rw [Policy.evaluate, Attempt.bind_of_error evaluates]
  | ok findings =>
      obtain ⟨completed, consulted, decided⟩ := examination.decided carry startsSafe rfl
      have watched := (consulted.trans (.done ends.quiet)).after_quiet begins.quiet
      rw [List.append_nil] at watched
      refine ⟨.ok (.ofChildren checker.settings.checkerName .or findings.results), last, later,
        ?_, same, .inr ⟨completed, findings, watched, decided, rfl, runs⟩⟩
      rw [Policy.evaluate, Attempt.bind_of_ok evaluates]
      rfl

/-- A checker whose observers are harmless refines the policy that grants if some of its
policies do: it calls the host in the same way and fails in the same way, or gives the
verdict that the result of that policy answers.  Its children are the results of the first
policies in order.  Without policies nothing is evaluated and access is denied. -/
theorem evaluate_refines_any (holds : hearing.stage.rosters checker.roster = policies)
    (carry : ∀ policy ∈ policies, policy.metadata.isSome = true)
    (safe : hearing.observers.Harmless) (metadata : Option Metadata) :
    (policies = [] → ∃ later,
      checker.evaluate host request hearing =
        (.ok (.denied (.text noPolicies)
          (some (.denied checker.settings.checkerName (.text noPolicies)))), later) ∧
      later.stage.silenced = hearing.stage.silenced) ∧
    (policies ≠ [] → ∃ any ending last later,
      any = Policy.any policies checker.settings.checkerName (metadata.getD .empty) ∧
      (checker.settings.validate = .ok () →
        Policy.anyOf policies (some checker.settings.checkerName) metadata = .ok any) ∧
      any.evaluate host request hearing.stage = (ending, last) ∧
      later.stage.silenced = last.silenced ∧
      ((∃ failure, ending = .error failure ∧
          checker.evaluate host request hearing = (.error failure, later)) ∨
        ∃ root verdict completed, ending = .ok root ∧
          checker.evaluate host request hearing = (.ok verdict, later) ∧
          Answers policies checker.settings.checkerName root verdict ∧
          verdict.isGranted = root.isGranted ∧ verdict.trace = some root ∧
          Consulted host request hearing.stage completed later.stage ∧
          root.children = completed.map Prod.snd ∧
          completed.map Prod.fst <+: policies)) := by
  refine ⟨fun lacks => ?_, fun filled => ?_⟩
  · rw [lacks] at holds
    obtain ⟨later, runs, watched⟩ :=
      checker.evaluate_of_nil host request holds safe.collects
    exact ⟨later, runs, watched.quiet⟩
  · obtain ⟨ending, last, later, evaluates, same, ends⟩ := checker.evaluate_simulates host
      request holds filled carry safe (metadata.getD .empty)
    refine ⟨_, ending, last, later, rfl, ?_, evaluates, same, ?_⟩
    · intro valid
      have isFilled : policies.isEmpty = false := by simpa using filled
      simp [Policy.anyOf, Policy.combinator, Policy.nameOr, isFilled,
        Settings.truthy_of_validate valid]
    · rcases ends with fails | ⟨completed, findings, consulted, decided, isRoot, runs⟩
      · exact .inl fails
      · have answers := decided.answers checker.settings
        exact .inr ⟨_, _, completed, isRoot, runs, answers, answers.isGranted_eq,
          answers.trace_eq, consulted, decided.results_eq, decided.policies_prefix⟩

/-- A host that counts its calls.  Its policies deny access until a number of calls was
made, and their results do not bear their names. -/
def countingHost : Host Nat Nat where
  delay _ _ _ := .finite 0
  function _ _ calls := ⟨.ok .null, calls + 1, []⟩
  policy number _ calls :=
    let result : Result :=
      if calls < number then .denied (.text "early") .null
      else .granted (.text "late") (.text "on time")
    ⟨.ok (some result), calls + 1, []⟩

def twoPolicies : List (Policy Nat) :=
  [.host 1 (.text "first") (some .empty), .host 1 (.text "second") (some .empty)]

def freshHearing (sink : Option Sink) : Hearing Nat Nat where
  stage := { Stage.bare 0 with rosters := fun _ => twoPolicies }
  observers :=
    { sink, collector := none, stranger := none, disk := []
      clock :=
        { year := 1970, month := 1, day := 1, hour := 0, minute := 0, second := 0
          microsecond := 0, offset := none
          valid := ⟨by decide, by decide, by decide, by decide, by decide, by decide,
            by decide, by simp⟩ }
      identifiers := .avoiding [] }

def blankRequest : Request :=
  ⟨.null, .null, .null, .null⟩

def faultySink : Sink :=
  .failingAt [0] (.host (.named "RuntimeError" "disk full"))

theorem harmless_faultySink : (freshHearing (some faultySink)).observers.Harmless := by
  refine ⟨rfl, ?_⟩
  rintro sink ⟨⟩ number event failure fails
  simp only at fails
  split at fails
  · cases fails
    rfl
  · cases fails

theorem evaluate_refines_any_counting :
    (freshHearing (some faultySink)).stage.rosters 0 = twoPolicies ∧
    (∀ policy ∈ twoPolicies, policy.metadata.isSome = true) ∧
    (freshHearing (some faultySink)).observers.Harmless ∧
    ∃ verdict later, Checker.evaluate countingHost ⟨.standard, 0⟩ blankRequest
        (freshHearing (some faultySink)) = (.ok verdict, later) ∧
      verdict.isGranted = true ∧
      later.stage.calls = [.policy 1 blankRequest, .policy 1 blankRequest] := by
  have carry : ∀ policy ∈ twoPolicies, policy.metadata.isSome = true := by decide
  refine ⟨rfl, carry, harmless_faultySink, ?_⟩
  obtain ⟨_, ending, last, later, rfl, -, evaluates, same, ends⟩ :=
    (evaluate_refines_any countingHost ⟨.standard, 0⟩ blankRequest rfl carry
      harmless_faultySink none).2 (by decide)
  have isLast : later.stage.calls = last.calls := Stage.calls_eq_of_silenced same
  cases evaluates
  rcases ends with ⟨failure, fails, -⟩ | ⟨root, verdict, -, isRoot, runs, -, agrees, -⟩
  · cases fails
  · cases isRoot
    exact ⟨verdict, later, runs, agrees, isLast⟩

def cancellingSink : Sink :=
  .failingAt [0] (.host (.cancelled "stop"))

/-- A sink that calls off everything stops the checker, but not the policy. -/
theorem evaluate_stops_of_cancellingSink :
    (∀ policy ∈ twoPolicies, policy.metadata.isSome = true) ∧
    ¬ ∃ ending last, (Policy.any twoPolicies Settings.standard.checkerName .empty).evaluate
        countingHost blankRequest (freshHearing (some cancellingSink)).stage = (ending, last) ∧
      ((∃ failure later, ending = .error failure ∧
          Checker.evaluate countingHost ⟨.standard, 0⟩ blankRequest
            (freshHearing (some cancellingSink)) = (.error failure, later)) ∨
        ∃ root verdict later, ending = .ok root ∧
          Checker.evaluate countingHost ⟨.standard, 0⟩ blankRequest
            (freshHearing (some cancellingSink)) = (.ok verdict, later) ∧
          verdict.trace = some root) := by
  refine ⟨by decide, ?_⟩
  rintro ⟨ending, last, evaluates, ⟨failure, later, isError, -⟩ | ⟨root, verdict, later, -, runs, -⟩⟩
  · cases evaluates
    cases isError
  · cases runs

end Checker

end AccessDecision
