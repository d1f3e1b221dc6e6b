import AccessDecision.Proofs.Policy.Polling

/-!
# Flattening combinators

A group of policies under the same connective can be put in the place of the combinator that
holds them.  A poll may stop before the group, within it or after it.  Where it stops within, the
node of the group is worth what settles the connective, so the outer poll stops as well; where
the group is exhausted, its node settles nothing.
-/

namespace AccessDecision

namespace Connective

@[simp]
theorem settledBy_combine_nil (operation : Connective) :
    operation.settledBy (operation.combine []) = false := by
  cases operation <;> rfl

theorem settledBy_opposite {operation : Connective} (isBinary : operation ≠ .not) :
    operation.settledBy (!operation.combine []) = true := by
  cases operation with
  | and => rfl
  | or => rfl
  | not => exact absurd rfl isBinary

end Connective

namespace Result

/-- Results with the children of the one at a position in the place of it, if there is one. -/
def openAt (position : Nat) (results : List Result) : List Result :=
  results.take position ++ results[position]?.toList.flatMap children ++
    results.drop (position + 1)

theorem openAt_of_length_le {position : Nat} {results : List Result}
    (short : results.length ≤ position) : openAt position results = results := by
  have shorter : results.length ≤ position + 1 := by omega
  rw [openAt, List.take_of_length_le short, List.getElem?_eq_none short,
    List.drop_eq_nil_of_le shorter]
  simp

theorem openAt_append (front results : List Result) :
    openAt front.length (front ++ results) = front ++ openAt 0 results := by
  simp [openAt, List.getElem?_append_right]

theorem openAt_zero_cons (node : Result) (others : List Result) :
    openAt 0 (node :: others) = node.children ++ others := by
  simp [openAt]

end Result

namespace Policy

variable {φ σ : Type}

/-- Policies are asked like others, except that a group of policies is asked in the place of
their combinator, if that is reached at all. -/
inductive Opened (host : Host φ σ) (request : Request) (operation : Connective)
    (group : Policy φ) (parts : List (Policy φ)) (position : Nat) :
    List (Policy φ × Stage φ σ) → List (Policy φ × Stage φ σ) → Prop where
  | unreached {asked : List (Policy φ × Stage φ σ)} (before : asked.length ≤ position) :
      Opened host request operation group parts position asked asked
  | reached {front within back : List (Policy φ × Stage φ σ)} {begun middle : Stage φ σ}
      {results : List Result} {ending : Ending} (here : front.length = position)
      (polled : Polled host request operation parts begun within results ending middle) :
      Opened host request operation group parts position (front ++ (group, begun) :: back)
        (front ++ within ++ back)

section Groups

variable {host : Host φ σ} {request : Request} {operation : Connective}
  {earlier parts rest : List (Policy φ)} {group : Policy φ} {stage begun later : Stage φ σ}
  {asked : List (Policy φ × Stage φ σ)} {results : List Result} {ending : Ending}

/-- A group that is polled to its end without settling anything gives a node that settles
nothing. -/
theorem Polled.node_of_exhausted (isGroup : Joint operation parts group)
    (polled : Polled host request operation parts begun asked results .exhausted later) :
    ∃ node, group.evaluate host request begun = (.ok node, later) ∧
      node = .ofChildren group.name operation results ∧
      operation.settledBy node.isGranted = false := by
  obtain ⟨last, -, exact, answers⟩ := polled.evaluate_joint isGroup
  cases exact nofun
  refine ⟨_, answers, rfl, ?_⟩
  have worth := (polled.combine_eq isGroup.isBinary).1 rfl
  rw [Result.isGranted_ofChildren, worth, Connective.settledBy_combine_nil]

theorem Polled.node_of_settled (isGroup : Joint operation parts group)
    (polled : Polled host request operation parts begun asked results .settled later) :
    ∃ node last, group.evaluate host request begun = (.ok node, last) ∧
      last.silenced = later.silenced ∧ node = .ofChildren group.name operation results ∧
      operation.settledBy node.isGranted = true := by
  obtain ⟨last, quiet, -, answers⟩ := polled.evaluate_joint isGroup
  refine ⟨_, last, answers, quiet, rfl, ?_⟩
  have worth := (polled.combine_eq isGroup.isBinary).2 rfl
  rw [Result.isGranted_ofChildren, worth, Connective.settledBy_opposite isGroup.isBinary]

theorem Polled.regroup (isGroup : Joint operation parts group)
    (polled : Polled host request operation (parts ++ rest) begun asked results ending later) :
    ∃ within back given last, asked = within ++ back ∧ last.silenced = later.silenced ∧
      (∃ inside ended middle,
        Polled host request operation parts begun within inside ended middle) ∧
      Polled host request operation (group :: rest) begun ((group, begun) :: back) given ending
        last ∧
      ending.outcome results = (ending.outcome given).map (Result.openAt 0) ∧
      ∀ node ∈ given.head?, node = .ofChildren group.name operation node.children := by
  rcases polled.split with ⟨stops, inner⟩ |
    ⟨within, back, first, second, middle, rfl, rfl, inner, onwards⟩
  · cases ending with
    | exhausted => exact absurd rfl stops
    | settled =>
        obtain ⟨node, last, gives, quiet, isNode, settles⟩ := inner.node_of_settled isGroup
        refine ⟨asked, [], [node], last, by simp, quiet, ⟨_, _, _, inner⟩, .settled gives settles,
          ?_, ?_⟩
        · rw [isNode]
          simp [Ending.outcome, Except.map, Result.openAt_zero_cons]
        · simp [isNode]
    | failed failure =>
        obtain ⟨last, quiet, -, answers⟩ := inner.evaluate_joint isGroup
        exact ⟨asked, [], [], last, by simp, quiet, ⟨_, _, _, inner⟩, .failed answers, rfl,
          by simp⟩
  · obtain ⟨node, gives, isNode, remains⟩ := inner.node_of_exhausted isGroup
    refine ⟨within, back, node :: second, later, rfl, rfl, ⟨_, _, _, inner⟩,
      .next gives remains onwards, ?_, ?_⟩
    · rw [isNode]
      cases ending <;> simp [Ending.outcome, Except.map, Result.openAt_zero_cons]
    · simp [isNode]

/-- A poll that comes upon a group goes on as one that comes upon its combinator. -/
theorem Polled.nest (isGroup : Joint operation parts group)
    (polled : Polled host request operation (earlier ++ (parts ++ rest)) stage asked results
      ending later) :
    ∃ outer given last, last.silenced = later.silenced ∧
      Polled host request operation (earlier ++ group :: rest) stage outer given ending last ∧
      Opened host request operation group parts earlier.length outer asked ∧
      ending.outcome results = (ending.outcome given).map (Result.openAt earlier.length) ∧
      ∀ node ∈ given[earlier.length]?, node = .ofChildren group.name operation node.children := by
  rcases polled.split with ⟨stops, before⟩ |
    ⟨front, _, first, _, middle, rfl, rfl, before, onwards⟩
  · have short := before.results_length_le
    have askedShort : asked.length ≤ earlier.length := by
      simpa using before.asked_prefix.length_le
    refine ⟨asked, results, later, rfl, before.extend stops _, .unreached askedShort, ?_, ?_⟩
    · cases ending <;> simp [Ending.outcome, Except.map, Result.openAt_of_length_le short]
    · simp [List.getElem?_eq_none short]
  · have ⟨isFront, isFirst⟩ := before.length_of_exhausted
    obtain ⟨within, back, given, last, rfl, quiet, ⟨_, _, _, inner⟩, polledToo, opens, isNode⟩ :=
      onwards.regroup isGroup
    refine ⟨front ++ (group, middle) :: back, first ++ given, last, quiet,
      before.append polledToo, ?_, ?_, ?_⟩
    · rw [← List.append_assoc]
      exact .reached isFront inner
    · rw [← isFirst]
      cases ending with
      | failed failure => rfl
      | exhausted =>
          simp only [Ending.outcome, Except.map, Except.ok.injEq] at opens ⊢
          rw [opens, Result.openAt_append]
      | settled =>
          simp only [Ending.outcome, Except.map, Except.ok.injEq] at opens ⊢
          rw [opens, Result.openAt_append]
    · rw [← isFirst, List.getElem?_append_right (Nat.le_refl _), Nat.sub_self,
        ← List.head?_eq_getElem?]
      exact isNode

end Groups

variable (host : Host φ σ) (request : Request)

/-- A combinator within one of the same connective can be replaced by its policies.  The policies
are asked in the same order on the same stages up to the same end, and the two combinators
concur.  The results of the flat one are those of the other, with the results of the group in the
place of its node if there is one. -/
theorem evaluate_flattened {operation : Connective} {earlier parts rest : List (Policy φ)}
    {group nested flat : Policy φ} (isGroup : Joint operation parts group)
    (isNested : Joint operation (earlier ++ [group] ++ rest) nested)
    (isFlat : Joint operation (earlier ++ parts ++ rest) flat) (stage : Stage φ σ) :
    Concur (nested.evaluate host request stage) (flat.evaluate host request stage) ∧
    (flat.evaluate host request stage).1.map Result.children =
      (nested.evaluate host request stage).1.map (fun result =>
        Result.openAt earlier.length result.children) ∧
    ∃ asked outer results given ending later last,
      Polled host request operation (earlier ++ parts ++ rest) stage asked results ending later ∧
      Polled host request operation (earlier ++ [group] ++ rest) stage outer given ending last ∧
      Opened host request operation group parts earlier.length outer asked ∧
      (∀ node ∈ given[earlier.length]?,
        node = .ofChildren group.name operation node.children) ∧
      (flat.evaluate host request stage).1 = ending.answer flat.name operation results ∧
      (nested.evaluate host request stage).1 = ending.answer nested.name operation given := by
  obtain ⟨asked, results, ending, later, polled⟩ :=
    exists_polled host request operation (earlier ++ (parts ++ rest)) stage
  obtain ⟨outer, given, last, quiet, polledToo, opened, opens, isNode⟩ := polled.nest isGroup
  rw [← List.append_assoc] at polled
  rw [List.append_cons] at polledToo
  obtain ⟨ended, quietly, -, answers⟩ := polled.evaluate_joint isFlat
  obtain ⟨endedToo, quietlyToo, -, answersToo⟩ := polledToo.evaluate_joint isNested
  have worth := polled.isGranted_answer isFlat.isBinary flat.name
  have worthToo := polledToo.isGranted_answer isNested.isBinary nested.name
  rw [answers, answersToo]
  refine ⟨⟨?_, ?_⟩, ?_, asked, outer, results, given, ending, later, last, polled, polledToo,
    opened, isNode, rfl, rfl⟩
  · exact worthToo.trans worth.symm
  · rw [quietly, quietlyToo, quiet]
  · cases ending with
    | failed failure => rfl
    | exhausted => exact opens
    | settled => exact opens

theorem evaluate_flattened_alternating :
    ∃ group nested flat : Policy Unit, Joint .and [turnPolicy, turnPolicy] group ∧
      Joint .and ([] ++ [group] ++ [turnPolicy]) nested ∧
      Joint .and ([] ++ [turnPolicy, turnPolicy] ++ [turnPolicy]) flat ∧
      (nested.evaluate alternatingHost emptyRequest (.bare true)).2.calls.length = 2 ∧
      (flat.evaluate alternatingHost emptyRequest (.bare true)).2.calls.length = 2 ∧
      (flat.evaluate alternatingHost emptyRequest (.bare true)).1.map Result.children =
        .ok [.granted .null .null, .denied .null .null] := by
  let group : Policy Unit := .all [turnPolicy, turnPolicy] (.text "AndPolicy") .empty
  let nested : Policy Unit := .all [group, turnPolicy] (.text "AndPolicy") .empty
  let flat : Policy Unit := .all [turnPolicy, turnPolicy, turnPolicy] (.text "AndPolicy") .empty
  have isGroup : allOf [turnPolicy, turnPolicy] none none = .ok group := rfl
  have isNested : allOf ([] ++ [group] ++ [turnPolicy]) none none = .ok nested := rfl
  have isFlat : allOf ([] ++ [turnPolicy, turnPolicy] ++ [turnPolicy]) none none = .ok flat := rfl
  have ⟨concur, children, _⟩ := evaluate_flattened alternatingHost emptyRequest (.all isGroup)
    (.all isNested) (.all isFlat) (.bare true)
  refine ⟨_, _, _, .all isGroup, .all isNested, .all isFlat, rfl, ?_, ?_⟩
  · rw [← Stage.calls_eq_of_silenced concur.2]
    rfl
  · rw [children]
    rfl

end Policy

end AccessDecision
