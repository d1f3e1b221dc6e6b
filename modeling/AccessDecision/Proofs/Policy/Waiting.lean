import AccessDecision.Policy.Relationship

/-!
# Timeouts on a prompt event loop

An event loop that comes late by no more than some lag keeps the order of things that are due
further apart.  So of several timeouts around a lookup, spaced in this way, the shortest one is
over first, and it is over before the lookup is done exactly if the lookup takes longer.
-/

namespace AccessDecision

namespace Quantity

variable {lag : Rat} {left right : Quantity}

/-- Two quantities that differ by more than a margin. -/
def Apart (lag : Rat) (left right : Quantity) : Prop :=
  left.precedesBy lag right = true ∨ right.precedesBy lag left = true

theorem not_atMost_of_precedesBy (nonnegative : 0 ≤ lag)
    (precedes : left.precedesBy lag right = true) : right.atMost left = false := by
  cases left with
  | finite left =>
      cases right with
      | finite right =>
          simp only [precedesBy, atMost, decide_eq_true_eq, decide_eq_false_iff_not] at *
          grind
      | infinite negative => cases negative <;> first | rfl | cases precedes
      | undefined => cases precedes
  | infinite negative => cases negative <;> cases right <;> simp_all [precedesBy, atMost]
  | undefined => cases precedes

theorem defined_of_precedesBy (precedes : left.precedesBy lag right = true) :
    left ≠ .undefined ∧ right ≠ .undefined := by
  cases left with
  | finite left => cases right <;> simp_all [precedesBy]
  | infinite negative => cases negative <;> cases right <;> simp_all [precedesBy]
  | undefined => cases precedes

theorem atMost_of_precedesBy (nonnegative : 0 ≤ lag)
    (precedes : left.precedesBy lag right = true) : left.atMost right = true := by
  obtain ⟨defined, definedToo⟩ := defined_of_precedesBy precedes
  exact atMost_of_not_atMost definedToo defined (not_atMost_of_precedesBy nonnegative precedes)

end Quantity

/-- A timeout that is longer than some lag. -/
def Timeout.Exceeds (lag : Rat) (timeout : Timeout) : Prop :=
  (Quantity.finite 0).precedesBy lag timeout.size = true

/-- An event loop that keeps the order of things that are due further apart than some lag, and
leaves the lookups within a longer timeout their turns. -/
structure EventLoop.Prompt (loop : EventLoop) (lag : Rat) : Prop where
  nonnegative : 0 ≤ lag
  stops : ∀ {timeout : Timeout} {delay : Quantity}, timeout.Exceeds lag →
    timeout.size.precedesBy lag delay = true → loop.interrupts timeout delay = true
  spares : ∀ {timeout : Timeout} {delay : Quantity}, timeout.Exceeds lag →
    delay.precedesBy lag timeout.size = true → loop.interrupts timeout delay = false
  first : ∀ {timeout outer : Timeout},
    timeout.size.precedesBy lag outer.size = true → loop.precedes timeout outer = true
  second : ∀ {timeout outer : Timeout},
    outer.size.precedesBy lag timeout.size = true → loop.precedes timeout outer = false
  patient : ∀ {timeout : Timeout}, timeout.Exceeds lag → loop.hurries timeout = false

theorem EventLoop.prompt_lagging {lag : Rat} (nonnegative : 0 ≤ lag) :
    (EventLoop.lagging lag).Prompt lag where
  nonnegative := nonnegative
  stops {timeout delay} exceeds precedes := by
    have afterwards := Quantity.not_atMost_of_precedesBy nonnegative precedes
    have within : timeout.size.atMost delay = true :=
      Quantity.atMost_of_precedesBy nonnegative precedes
    have positive : delay.atMost (.finite 0) = false := by
      rw [← Bool.not_eq_true]
      intro isZero
      have same := Quantity.not_atMost_of_precedesBy nonnegative exceeds
      rw [Quantity.atMost_trans within isZero] at same
      cases same
    simp only [lagging, afterwards, positive, Bool.not_false, Bool.and_self]
  spares {timeout delay} _ precedes := by
    simp only [lagging, Quantity.atMost_of_precedesBy nonnegative precedes, Bool.not_true,
      Bool.and_false]
  first precedes := precedes
  second {timeout outer} precedes := by
    rw [lagging, ← Bool.not_eq_true]
    intro precedesToo
    have before := Quantity.not_atMost_of_precedesBy nonnegative precedes
    rw [Quantity.atMost_of_precedesBy nonnegative precedesToo] at before
    cases before
  patient {timeout} exceeds := by
    have precedes : (Quantity.finite 0).precedesBy lag timeout.size = true := exceeds
    simp only [lagging, precedes, Bool.not_true]

namespace Resolver

/-- The limit of what stands within a timeout. -/
def tightened (loop : EventLoop) (timeout : Timeout) (limit : Option Timeout) : Option Timeout :=
  if runsOutFirst loop timeout limit then some timeout else limit

/-- The timeout of a nest that runs out before all others and before an enclosing limit. -/
def foremost (loop : EventLoop) (limit : Option Timeout) : List Timeout → Option Timeout
  | [] => none
  | timeout :: inner =>
      (foremost loop (tightened loop timeout limit) inner).or
        (if runsOutFirst loop timeout limit then some timeout else none)

/-- The limit within all timeouts of a nest. -/
def innerLimit (loop : EventLoop) (limit : Option Timeout) (timeouts : List Timeout) :
    Option Timeout :=
  (foremost loop limit timeouts).or limit

section Limits

variable {loop : EventLoop} {limit : Option Timeout} {timeout : Timeout}
  {inner timeouts : List Timeout}

theorem innerLimit_nil (loop : EventLoop) (limit : Option Timeout) :
    innerLimit loop limit [] = limit :=
  rfl

theorem innerLimit_cons (loop : EventLoop) (limit : Option Timeout) (timeout : Timeout)
    (inner : List Timeout) :
    innerLimit loop limit (timeout :: inner) =
      innerLimit loop (tightened loop timeout limit) inner := by
  rw [innerLimit, foremost, innerLimit, Option.or_assoc]
  rw [tightened]
  split <;> rfl

theorem mem_of_foremost {first : Timeout} (isFirst : first ∈ foremost loop limit timeouts) :
    first ∈ timeouts := by
  induction timeouts generalizing limit with
  | nil => cases isFirst
  | cons timeout inner ih =>
      rcases Option.or_eq_some_iff.mp isFirst with deeper | ⟨-, isOwn⟩
      · exact List.mem_cons_of_mem _ (ih deeper)
      · split at isOwn
        · cases isOwn
          exact List.mem_cons_self
        · cases isOwn

theorem exists_foremost (loop : EventLoop) (nonempty : timeouts ≠ []) :
    ∃ first, foremost loop none timeouts = some first ∧
      innerLimit loop none timeouts = some first := by
  cases timeouts with
  | nil => exact absurd rfl nonempty
  | cons timeout inner =>
      rw [innerLimit, foremost]
      cases foremost loop (tightened loop timeout none) inner with
      | none => exact ⟨timeout, rfl, rfl⟩
      | some first => exact ⟨first, rfl, rfl⟩

theorem exists_tightened (loop : EventLoop) (timeout : Timeout) (limit : Option Timeout) :
    ∃ tight, tightened loop timeout limit = some tight := by
  cases limit with
  | none => exact ⟨timeout, rfl⟩
  | some outer =>
      rw [tightened]
      split
      · exact ⟨timeout, rfl⟩
      · exact ⟨outer, rfl⟩

/-- Timeouts within a limit that can be waited for, each longer than a lag and further apart than
that from the others. -/
structure Spaced (lag : Rat) (limit : Option Timeout) (timeouts : List Timeout) : Prop where
  begins : ∀ timeout ∈ timeouts, timeout.begin = .ok ()
  exceeds : ∀ timeout ∈ limit.toList ++ timeouts, timeout.Exceeds lag
  apart : (limit.toList ++ timeouts).Pairwise fun first second =>
    first.size.Apart lag second.size

namespace Spaced

variable {lag : Rat}

theorem inside (spaced : Spaced lag limit (timeout :: inner)) :
    Spaced lag (tightened loop timeout limit) inner := by
  have fewer : ((tightened loop timeout limit).toList ++ inner).Sublist
      (limit.toList ++ timeout :: inner) := by
    rw [tightened]
    split
    · exact List.sublist_append_right _ _
    · exact (List.sublist_cons_self timeout inner).append_left _
  exact ⟨(List.forall_mem_cons.mp spaced.begins).2,
    fun other member => spaced.exceeds other (fewer.subset member), spaced.apart.sublist fewer⟩

theorem exceeds_own (spaced : Spaced lag limit (timeout :: inner)) : timeout.Exceeds lag :=
  spaced.exceeds timeout (List.mem_append_right _ List.mem_cons_self)

theorem tightened_atMost (spaced : Spaced lag limit (timeout :: inner)) (prompt : loop.Prompt lag)
    {tight : Timeout} (isTight : tight ∈ tightened loop timeout limit) :
    tight.size.atMost timeout.size = true ∧
      ∀ outer ∈ limit, tight.size.atMost outer.size = true := by
  have defined := (Quantity.defined_of_precedesBy spaced.exceeds_own).2
  cases limit with
  | none =>
      cases isTight
      exact ⟨Quantity.atMost_refl defined, nofun⟩
  | some outer =>
      have apart := (List.pairwise_cons.mp spaced.apart).1 timeout List.mem_cons_self
      rw [tightened, runsOutFirst, Option.all_some] at isTight
      rcases apart with shorter | longer
      · rw [prompt.second shorter, if_neg Bool.false_ne_true] at isTight
        cases isTight
        refine ⟨Quantity.atMost_of_precedesBy prompt.nonnegative shorter, ?_⟩
        rintro _ ⟨⟩
        exact Quantity.atMost_refl (Quantity.defined_of_precedesBy shorter).1
      · rw [prompt.first longer, if_pos rfl] at isTight
        cases isTight
        refine ⟨Quantity.atMost_refl defined, ?_⟩
        rintro _ ⟨⟩
        exact Quantity.atMost_of_precedesBy prompt.nonnegative longer

theorem innerLimit_atMost (spaced : Spaced lag limit timeouts) (prompt : loop.Prompt lag)
    {tight : Timeout} (isTight : tight ∈ innerLimit loop limit timeouts) :
    (∀ outer ∈ limit, tight.size.atMost outer.size = true) ∧
      ∀ timeout ∈ timeouts, tight.size.atMost timeout.size = true := by
  induction timeouts generalizing limit with
  | nil =>
      refine ⟨fun outer isLimit => ?_, List.forall_mem_nil _⟩
      cases isTight.symm.trans isLimit
      have exceeds := spaced.exceeds tight (by simp [Option.mem_toList.mpr isLimit])
      exact Quantity.atMost_refl (Quantity.defined_of_precedesBy exceeds).2
  | cons timeout inner ih =>
      rw [innerLimit_cons] at isTight
      have ⟨aroundInner, withinInner⟩ := ih spaced.inside isTight
      obtain ⟨middle, isMiddle⟩ := exists_tightened loop timeout limit
      have inMiddle : tight.size.atMost middle.size = true := aroundInner middle isMiddle
      have ⟨own, around⟩ := spaced.tightened_atMost prompt isMiddle
      exact ⟨fun outer isLimit => Quantity.atMost_trans inMiddle (around outer isLimit),
        List.forall_mem_cons.mpr ⟨Quantity.atMost_trans inMiddle own, withinInner⟩⟩

/-- What stands within a nest is interrupted if it takes longer than one of the timeouts. -/
theorem interrupts_innerLimit (spaced : Spaced lag none timeouts) (prompt : loop.Prompt lag)
    {delay : Quantity} (apart : ∀ timeout ∈ timeouts, delay.Apart lag timeout.size) :
    interrupts loop (innerLimit loop none timeouts) delay = false ↔
      ∀ timeout ∈ timeouts, delay.atMost timeout.size = true := by
  by_cases nonempty : timeouts = []
  · subst nonempty
    simp [innerLimit_nil, interrupts]
  · obtain ⟨first, isFirst, isLimit⟩ := exists_foremost loop nonempty
    have isTimeout := mem_of_foremost isFirst
    have exceeds := spaced.exceeds first isTimeout
    rw [isLimit, interrupts, Option.any_some]
    rcases apart first isTimeout with sooner | later
    · have inTime := Quantity.atMost_of_precedesBy prompt.nonnegative sooner
      exact iff_of_true (prompt.spares exceeds sooner) fun other member =>
        Quantity.atMost_trans inTime ((spaced.innerLimit_atMost prompt isLimit).2 other member)
    · have late := Quantity.not_atMost_of_precedesBy prompt.nonnegative later
      rw [prompt.stops exceeds later]
      refine iff_of_false Bool.true_eq_false.mp fun inTime => ?_
      rw [inTime first isTimeout] at late
      cases late

end Spaced

end Limits

end Resolver

end AccessDecision
