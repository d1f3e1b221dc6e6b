import AccessDecision.Proofs.Policy.ShortCircuit

/-!
# Polling policies

A combinator polls its policies: it evaluates them in order until one of them fails or has a
result that settles the matter.  Polling says of each policy on which stage it was asked, so two
combinators that poll alike invoke the same policies in the same order.

Polling one list after another is polling both of them, provided that the first was exhausted.
-/

namespace AccessDecision

namespace Policy

variable {φ σ : Type}

/-- Two evaluations concur if they fail in the same way or give results that are worth the same,
and leave the same behind except for the log. -/
def Concur (first second : Except Failure Result × Stage φ σ) : Prop :=
  first.1.map Result.isGranted = second.1.map Result.isGranted ∧
    first.2.silenced = second.2.silenced

/-- A policy that was made to combine others by a conjunction or a disjunction. -/
inductive Joint : Connective → List (Policy φ) → Policy φ → Prop where
  | all {policies : List (Policy φ)} {joint : Policy φ} {name : Option Value}
      {metadata : Option Metadata} (made : allOf policies name metadata = .ok joint) :
      Joint .and policies joint
  | any {policies : List (Policy φ)} {joint : Policy φ} {name : Option Value}
      {metadata : Option Metadata} (made : anyOf policies name metadata = .ok joint) :
      Joint .or policies joint

/-- How a poll ends: no policy settled it, the last one that was asked did, or that one
failed. -/
inductive Ending where
  | exhausted
  | settled
  | failed (failure : Failure)

def Ending.outcome (results : List Result) : Ending → Except Failure (List Result)
  | .failed failure => .error failure
  | _ => .ok results

def Ending.answer (name : Value) (operation : Connective) (results : List Result)
    (ending : Ending) : Except Failure Result :=
  (ending.outcome results).map (.ofChildren name operation)

/-- What a combinator's answer is worth by the way in which its poll ends. -/
def Ending.worth (operation : Connective) : Ending → Except Failure Bool
  | .exhausted => .ok (operation.combine [])
  | .settled => .ok (!operation.combine [])
  | .failed failure => .error failure

/-- Polling policies asks each of them on the stage that the ones before left. -/
inductive Polled (host : Host φ σ) (request : Request) (operation : Connective) :
    List (Policy φ) → Stage φ σ → List (Policy φ × Stage φ σ) → List Result → Ending →
      Stage φ σ → Prop where
  | exhausted (stage : Stage φ σ) :
      Polled host request operation [] stage [] [] .exhausted stage
  | failed {policy : Policy φ} {rest : List (Policy φ)} {stage later : Stage φ σ}
      {failure : Failure}
      (fails : policy.evaluate host request stage = (.error failure, later)) :
      Polled host request operation (policy :: rest) stage [(policy, stage)] []
        (.failed failure) later
  | settled {policy : Policy φ} {rest : List (Policy φ)} {stage later : Stage φ σ}
      {result : Result}
      (gives : policy.evaluate host request stage = (.ok result, later))
      (settles : operation.settledBy result.isGranted = true) :
      Polled host request operation (policy :: rest) stage [(policy, stage)] [result] .settled
        later
  | next {policy : Policy φ} {rest : List (Policy φ)} {stage middle later : Stage φ σ}
      {result : Result} {asked : List (Policy φ × Stage φ σ)} {results : List Result}
      {ending : Ending}
      (gives : policy.evaluate host request stage = (.ok result, middle))
      (remains : operation.settledBy result.isGranted = false)
      (others : Polled host request operation rest middle asked results ending later) :
      Polled host request operation (policy :: rest) stage ((policy, stage) :: asked)
        (result :: results) ending later

namespace Joint

variable {operation : Connective} {policies : List (Policy φ)} {joint : Policy φ}

theorem isBinary (isJoint : Joint operation policies joint) : operation ≠ .not := by
  cases isJoint <;> decide

theorem evaluate_eq (isJoint : Joint operation policies joint) (host : Host φ σ)
    (request : Request) :
    joint.evaluate host request = (do
      let results ← evaluateAll host request joint.name operation policies.length 0 policies
      pure (.ofChildren joint.name operation results)) := by
  cases isJoint with
  | all made =>
      rw [allOf, combinator] at made
      split at made
      · cases made
      · cases made
        rfl
  | any made =>
      rw [anyOf, combinator] at made
      split at made
      · cases made
      · cases made
        rfl

end Joint

section Polls

variable {host : Host φ σ} {request : Request} {operation : Connective}
  {policies others : List (Policy φ)} {stage middle later : Stage φ σ}
  {asked askedThen : List (Policy φ × Stage φ σ)} {results resultsThen : List Result}
  {ending : Ending}

/-- Policies can always be polled. -/
theorem exists_polled (host : Host φ σ) (request : Request) (operation : Connective)
    (policies : List (Policy φ)) (stage : Stage φ σ) :
    ∃ asked results ending later,
      Polled host request operation policies stage asked results ending later := by
  induction policies generalizing stage with
  | nil => exact ⟨_, _, _, _, .exhausted stage⟩
  | cons policy rest ih =>
      rcases ends : policy.evaluate host request stage with ⟨failure | result, middle⟩
      · exact ⟨_, _, _, _, .failed ends⟩
      rcases settles : operation.settledBy result.isGranted
      · obtain ⟨asked, results, ending, later, polled⟩ := ih middle
        exact ⟨_, _, _, _, .next ends settles polled⟩
      · exact ⟨_, _, _, _, .settled ends settles⟩

namespace Polled

/-- The policies that are asked are the first ones. -/
theorem asked_prefix (polled : Polled host request operation policies stage asked results
    ending later) : asked.map Prod.fst <+: policies := by
  induction polled with
  | exhausted => exact List.prefix_rfl
  | failed => exact ⟨_, rfl⟩
  | settled => exact ⟨_, rfl⟩
  | next _ _ _ ih => exact List.cons_prefix_cons.mpr ⟨rfl, ih⟩

theorem results_length_le (polled : Polled host request operation policies stage asked results
    ending later) : results.length ≤ policies.length := by
  induction polled with
  | exhausted => exact Nat.le_refl 0
  | failed => exact Nat.zero_le _
  | settled => exact Nat.succ_le_succ (Nat.zero_le _)
  | next _ _ _ ih => exact Nat.succ_le_succ ih

theorem length_of_exhausted (polled : Polled host request operation policies stage asked
    results .exhausted later) :
    asked.length = policies.length ∧ results.length = policies.length := by
  generalize isExhausted : Ending.exhausted = ending at polled
  induction polled with
  | exhausted => exact ⟨rfl, rfl⟩
  | failed => cases isExhausted
  | settled => cases isExhausted
  | next _ _ _ ih =>
      have ⟨askedToo, resultsToo⟩ := ih isExhausted
      simp [askedToo, resultsToo]

theorem append (polled : Polled host request operation policies stage asked results .exhausted
      middle)
    (onwards : Polled host request operation others middle askedThen resultsThen ending later) :
    Polled host request operation (policies ++ others) stage (asked ++ askedThen)
      (results ++ resultsThen) ending later := by
  generalize isExhausted : Ending.exhausted = first at polled
  induction polled with
  | exhausted => exact onwards
  | failed => cases isExhausted
  | settled => cases isExhausted
  | next gives remains _ ih => exact .next gives remains (ih onwards isExhausted)

/-- A poll that has come to an end does not mind more policies. -/
theorem extend (polled : Polled host request operation policies stage asked results ending later)
    (stops : ending ≠ .exhausted) (others : List (Policy φ)) :
    Polled host request operation (policies ++ others) stage asked results ending later := by
  induction polled with
  | exhausted => exact absurd rfl stops
  | failed fails => exact .failed fails
  | settled gives settles => exact .settled gives settles
  | next gives remains _ ih => exact .next gives remains (ih stops)

/-- A poll of two lists comes to an end within the first, or goes on with the second. -/
theorem split (polled : Polled host request operation (policies ++ others) stage asked results
      ending later) :
    (ending ≠ .exhausted ∧
        Polled host request operation policies stage asked results ending later) ∨
      ∃ front back first second middle, asked = front ++ back ∧ results = first ++ second ∧
        Polled host request operation policies stage front first .exhausted middle ∧
        Polled host request operation others middle back second ending later := by
  induction policies generalizing stage asked results with
  | nil => exact .inr ⟨[], asked, [], results, stage, rfl, rfl, .exhausted stage, polled⟩
  | cons policy rest ih =>
      cases polled with
      | failed fails => exact .inl ⟨nofun, .failed fails⟩
      | settled gives settles => exact .inl ⟨nofun, .settled gives settles⟩
      | next gives remains polled =>
          rcases ih polled with ⟨stops, within⟩ | ⟨front, back, first, second, middle, rfl, rfl,
            exhausts, onwards⟩
          · exact .inl ⟨stops, .next gives remains within⟩
          · exact .inr ⟨_ :: front, back, _ :: first, second, middle, rfl, rfl,
              .next gives remains exhausts, onwards⟩

/-- What the results of a poll come to: what no results at all come to, unless the last one
settled the opposite. -/
theorem combine_eq (isBinary : operation ≠ .not)
    (polled : Polled host request operation policies stage asked results ending later) :
    (ending = .exhausted →
      operation.combine (results.map Result.isGranted) = operation.combine []) ∧
    (ending = .settled →
      operation.combine (results.map Result.isGranted) = !operation.combine []) := by
  induction polled with
  | exhausted => exact ⟨fun _ => rfl, nofun⟩
  | failed => exact ⟨nofun, nofun⟩
  | @settled _ _ _ _ result _ settles =>
      refine ⟨nofun, fun _ => ?_⟩
      rw [List.map_singleton, combine_cons isBinary, if_pos settles]
      cases operation with
      | and => simpa [Connective.settledBy, Connective.combine] using settles
      | or => simpa [Connective.settledBy, Connective.combine] using settles
      | not => exact absurd rfl isBinary
  | next _ remains _ ih =>
      rw [List.map_cons, combine_cons isBinary, if_neg (by simp [remains])]
      exact ih

theorem isGranted_answer (isBinary : operation ≠ .not)
    (polled : Polled host request operation policies stage asked results ending later)
    (name : Value) :
    (ending.answer name operation results).map Result.isGranted = ending.worth operation := by
  have ⟨remains, settles⟩ := polled.combine_eq isBinary
  cases ending with
  | failed failure => rfl
  | exhausted => exact congrArg Except.ok (remains rfl)
  | settled => exact congrArg Except.ok (settles rfl)

/-- Evaluating policies is polling them; only a result that settles the matter is logged. -/
theorem evaluateAll_eq (polled : Polled host request operation policies stage asked results
      ending later) (name : Value) (total count : Nat) :
    ∃ last, last.silenced = later.silenced ∧ (ending ≠ .settled → last = later) ∧
      evaluateAll host request name operation total count policies stage =
        (ending.outcome results, last) := by
  induction polled generalizing count with
  | exhausted stage => exact ⟨stage, rfl, fun _ => rfl, rfl⟩
  | @failed _ _ _ later _ fails =>
      refine ⟨later, rfl, fun _ => rfl, ?_⟩
      rw [evaluateAll, Attempt.bind_of_error fails]
      rfl
  | @settled _ _ _ later result gives settles =>
      let told : LogRecord := .settled name (count + 1) total result.isGranted result.policyName
      refine ⟨{ later with log := later.log ++ [told] }, rfl, fun unsettled => absurd rfl unsettled,
        ?_⟩
      rw [evaluateAll, Attempt.bind_of_ok gives, if_pos settles]
      rfl
  | @next _ _ _ _ later result _ _ ending gives remains _ ih =>
      obtain ⟨last, quiet, exact, runs⟩ := ih (count + 1)
      refine ⟨last, quiet, exact, ?_⟩
      rw [evaluateAll, Attempt.bind_of_ok gives, if_neg (by simp [remains])]
      cases ending with
      | failed failure => exact Attempt.bind_of_error runs
      | exhausted => exact Attempt.bind_of_ok runs
      | settled => exact Attempt.bind_of_ok runs

/-- A combinator answers by polling its policies. -/
theorem evaluate_joint {joint : Policy φ} (isJoint : Joint operation policies joint)
    (polled : Polled host request operation policies stage asked results ending later) :
    ∃ last, last.silenced = later.silenced ∧ (ending ≠ .settled → last = later) ∧
      joint.evaluate host request stage = (ending.answer joint.name operation results, last) := by
  obtain ⟨last, quiet, exact, runs⟩ := polled.evaluateAll_eq joint.name policies.length 0
  refine ⟨last, quiet, exact, ?_⟩
  rw [isJoint.evaluate_eq]
  cases ending with
  | failed failure => exact Attempt.bind_of_error runs
  | exhausted => exact Attempt.bind_of_ok runs
  | settled => exact Attempt.bind_of_ok runs

end Polled

end Polls

def alternatingHost : Host Unit Bool where
  delay _ _ _ := .finite 0
  function _ _ turn := ⟨.ok .null, turn, []⟩
  policy _ _ turn :=
    ⟨.ok (some (if turn then .granted .null .null else .denied .null .null)), !turn, []⟩

def turnPolicy : Policy Unit :=
  .host () .null none

def emptyRequest : Request where
  subject := .null
  action := .null
  resource := .null
  context := .null

end Policy

end AccessDecision
