import AccessDecision.Proofs.Policy.Polling
import Mathlib.Data.List.Forall2

/-!
# Duality of combinators

Negating a conjunction of policies is the same as disjoining their negations, and the other way
round, also in what the evaluation does on the way.  Both sides stop by opposite tests, but a
negated policy passes the opposite test exactly where the policy passes the test, so both ask the
same policies on the same stages.  Negating twice evaluates a policy as it is.
-/

namespace AccessDecision

namespace Connective

/-- The connective of the negated parts of a negated combination. -/
def dual : Connective → Connective
  | .and => .or
  | .or => .and
  | .not => .not

@[simp]
theorem settledBy_dual (operation : Connective) (granted : Bool) :
    operation.dual.settledBy (!granted) = operation.settledBy granted := by
  cases operation <;> simp [dual, settledBy]

theorem combine_dual_nil {operation : Connective} (isBinary : operation ≠ .not) :
    operation.dual.combine [] = !operation.combine [] := by
  cases operation with
  | and => rfl
  | or => rfl
  | not => exact absurd rfl isBinary

end Connective

namespace Policy

variable {φ σ : Type}

/-- A poll and its dual that end in the same way come to opposite outcomes. -/
theorem Ending.worth_dual {operation : Connective} (isBinary : operation ≠ .not)
    (ending : Ending) :
    ending.worth operation.dual = (ending.worth operation).map not := by
  have opposite := Connective.combine_dual_nil isBinary
  cases ending <;> simp [Ending.worth, Except.map, opposite]

inductive Negates (policy : Policy φ) : Policy φ → Prop where
  | made (name : Option Value) (metadata : Option Metadata) :
      Negates policy (notOf policy name metadata)

/-- A result is the negation of another, which is its only child. -/
def NegatedResult (result negated : Result) : Prop :=
  ∃ name, negated = .ofChildren name .not [result]

/-- The negations of some policies are asked on the same stages as these. -/
def AskedAlike (asked others : List (Policy φ × Stage φ σ)) : Prop :=
  List.Forall₂ (fun first second => Negates first.1 second.1 ∧ first.2 = second.2) asked others

theorem isGranted_negated (name : Value) (result : Result) :
    (Result.ofChildren name .not [result]).isGranted = !result.isGranted :=
  rfl

section Negations

variable {host : Host φ σ} {request : Request} {policy negation : Policy φ}

theorem Negates.evaluate_of_error (negates : Negates policy negation) {stage later : Stage φ σ}
    {failure : Failure} (fails : policy.evaluate host request stage = (.error failure, later)) :
    negation.evaluate host request stage = (.error failure, later) := by
  cases negates with
  | made name metadata => exact Attempt.bind_of_error fails

theorem Negates.evaluate_of_ok (negates : Negates policy negation) {stage later : Stage φ σ}
    {result : Result} (gives : policy.evaluate host request stage = (.ok result, later)) :
    negation.evaluate host request stage =
      (.ok (.ofChildren negation.name .not [result]), later) := by
  cases negates with
  | made name metadata => exact Attempt.bind_of_ok gives

/-- A negation evaluates its policy and turns the result around. -/
theorem Negates.evaluate_eq (negates : Negates policy negation) (host : Host φ σ)
    (request : Request) (stage : Stage φ σ) :
    negation.evaluate host request stage =
      ((policy.evaluate host request stage).1.map fun result =>
          .ofChildren negation.name .not [result],
        (policy.evaluate host request stage).2) := by
  rcases ends : policy.evaluate host request stage with ⟨failure | result, later⟩
  · exact negates.evaluate_of_error ends
  · exact negates.evaluate_of_ok ends

/-- Negated policies are asked as the policies are, on the same stages, and settle the dual
connective where those settle the connective. -/
theorem Polled.dual {operation : Connective} {policies negated : List (Policy φ)}
    {stage later : Stage φ σ} {asked : List (Policy φ × Stage φ σ)} {results : List Result}
    {ending : Ending}
    (polled : Polled host request operation policies stage asked results ending later)
    (negate : List.Forall₂ Negates policies negated) :
    ∃ others turned, Polled host request operation.dual negated stage others turned ending later ∧
      AskedAlike asked others ∧ List.Forall₂ NegatedResult results turned := by
  induction polled generalizing negated with
  | exhausted stage =>
      cases negate
      exact ⟨[], [], .exhausted stage, .nil, .nil⟩
  | failed fails =>
      cases negate with
      | cons first rest =>
          have failsToo := first.evaluate_of_error fails
          exact ⟨_, _, .failed failsToo, .cons ⟨first, rfl⟩ .nil, .nil⟩
  | settled gives settles =>
      cases negate with
      | @cons _ negation _ _ first rest =>
          have givesToo := first.evaluate_of_ok gives
          rw [← Connective.settledBy_dual, ← isGranted_negated negation.name] at settles
          exact ⟨_, _, .settled givesToo settles, .cons ⟨first, rfl⟩ .nil, .cons ⟨_, rfl⟩ .nil⟩
  | next gives remains _ ih =>
      cases negate with
      | @cons _ negation _ _ first rest =>
          obtain ⟨others, turned, polled, alike, opposite⟩ := ih rest
          have givesToo := first.evaluate_of_ok gives
          rw [← Connective.settledBy_dual, ← isGranted_negated negation.name] at remains
          exact ⟨_, _, .next givesToo remains polled, .cons ⟨first, rfl⟩ alike,
            .cons ⟨_, rfl⟩ opposite⟩

end Negations

variable (host : Host φ σ) (request : Request) (stage : Stage φ σ)

/-- A negated combination concurs with the dual combination of the negated policies: the former
asks the policies, the latter their negations, on the same stages up to the same end.  A policy
that is negated twice is evaluated as it is, and its result is worth the same. -/
theorem evaluate_deMorgan :
    (∀ (operation : Connective) (policies negated : List (Policy φ)) (joint whole dual : Policy φ),
      Joint operation policies joint → Negates joint whole →
      List.Forall₂ Negates policies negated → Joint operation.dual negated dual →
        Concur (whole.evaluate host request stage) (dual.evaluate host request stage) ∧
        ∃ asked results others turned ending later,
          Polled host request operation policies stage asked results ending later ∧
          Polled host request operation.dual negated stage others turned ending later ∧
          AskedAlike asked others ∧ List.Forall₂ NegatedResult results turned ∧
          (whole.evaluate host request stage).1 =
            (ending.answer joint.name operation results).map (fun result =>
              .ofChildren whole.name .not [result]) ∧
          (dual.evaluate host request stage).1 =
            ending.answer dual.name operation.dual turned) ∧
    ∀ policy once twice : Policy φ, Negates policy once → Negates once twice →
      Concur (policy.evaluate host request stage) (twice.evaluate host request stage) ∧
      twice.evaluate host request stage =
        ((policy.evaluate host request stage).1.map fun result =>
            .ofChildren twice.name .not [.ofChildren once.name .not [result]],
          (policy.evaluate host request stage).2) := by
  refine ⟨?_, ?_⟩
  · intro operation policies negated joint whole dual isJoint isWhole negate isDual
    obtain ⟨asked, results, ending, later, polled⟩ :=
      exists_polled host request operation policies stage
    obtain ⟨others, turned, polledToo, alike, opposite⟩ := polled.dual negate
    obtain ⟨last, quiet, -, answers⟩ := polled.evaluate_joint isJoint
    obtain ⟨lastToo, quietToo, -, answersToo⟩ := polledToo.evaluate_joint isDual
    have negates := isWhole.evaluate_eq host request stage
    have worth := polled.isGranted_answer isJoint.isBinary joint.name
    have worthToo := polledToo.isGranted_answer isDual.isBinary dual.name
    rw [answers] at negates
    rw [negates, answersToo]
    refine ⟨⟨?_, quiet.trans quietToo.symm⟩, asked, results, others, turned, ending, later, polled,
      polledToo, alike, opposite, rfl, rfl⟩
    rw [worthToo, Ending.worth_dual isJoint.isBinary, ← worth]
    cases ending <;> rfl
  · intro policy once twice negates negatesToo
    rw [negatesToo.evaluate_eq, negates.evaluate_eq]
    rcases policy.evaluate host request stage with ⟨failure | result, later⟩
    · exact ⟨⟨rfl, rfl⟩, rfl⟩
    · refine ⟨⟨?_, rfl⟩, rfl⟩
      simp only [Except.map, isGranted_negated, Bool.not_not]

theorem evaluate_deMorgan_alternating :
    ∃ joint whole dual : Policy Unit, Joint .and [turnPolicy, turnPolicy] joint ∧
      Negates joint whole ∧
      List.Forall₂ Negates [turnPolicy, turnPolicy]
        [notOf turnPolicy none none, notOf turnPolicy none none] ∧
      Joint .or [notOf turnPolicy none none, notOf turnPolicy none none] dual ∧
      (whole.evaluate alternatingHost emptyRequest (.bare true)).2.calls.length = 2 ∧
      (dual.evaluate alternatingHost emptyRequest (.bare true)).2.calls.length = 2 ∧
      (dual.evaluate alternatingHost emptyRequest (.bare true)).1.map Result.isGranted =
        .ok true := by
  let negated : List (Policy Unit) := [notOf turnPolicy none none, notOf turnPolicy none none]
  let joint : Policy Unit := .all [turnPolicy, turnPolicy] (.text "AndPolicy") .empty
  let dual : Policy Unit := .any negated (.text "OrPolicy") .empty
  have made : allOf [turnPolicy, turnPolicy] none none = .ok joint := rfl
  have madeToo : anyOf negated none none = .ok dual := rfl
  have negates : Negates joint (notOf joint none none) := .made none none
  have negate : List.Forall₂ Negates [turnPolicy, turnPolicy] negated :=
    .cons (.made none none) (.cons (.made none none) .nil)
  have ⟨concur, _⟩ := (evaluate_deMorgan alternatingHost emptyRequest (.bare true)).1 .and
    _ _ _ _ _ (.all made) negates negate (.any madeToo)
  refine ⟨_, _, _, .all made, negates, negate, .any madeToo, rfl, ?_, ?_⟩
  · rw [← Stage.calls_eq_of_silenced concur.2]
    rfl
  · rw [← concur.1]
    rfl

end Policy

end AccessDecision
