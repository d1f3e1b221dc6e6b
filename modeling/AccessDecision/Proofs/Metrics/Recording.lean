import AccessDecision.Metrics.Collector

/-!
# Recording decisions

An enabled collector shows of each decision how often it was recorded, and of each checker how
many of its decisions it timed.  Recordings add up: what is shown after several of them is what
was shown before and each recorded decision once more.
-/

namespace AccessDecision

def Tally.total {κ : Type} : Tally κ → Nat
  | [] => 0
  | entry :: rest => entry.2 + total rest

theorem Tally.total_add {κ : Type} [DecidableEq κ] (key : κ) (tally : Tally κ) :
    (tally.add key).total = tally.total + 1 := by
  induction tally with
  | nil => rfl
  | cons entry rest ih =>
      rw [add]
      split
      · simp only [total]
        omega
      · simp only [total] at ih ⊢
        omega

namespace Collector

theorem lookup_addLatency (checker other : String) (elapsed : Option Float64)
    (latencies : List (String × List (Option Float64))) :
    ((addLatency checker elapsed latencies).lookup other).getD [] =
      (latencies.lookup other).getD [] ++ if checker = other then [elapsed] else [] := by
  induction latencies with
  | nil =>
      by_cases same : checker = other
      · simp [addLatency, same]
      · have differs : (other == checker) = false := by simpa using Ne.symm same
        simp [addLatency, List.lookup_cons, differs, same]
  | cons entry rest ih =>
      rcases entry with ⟨name, values⟩
      rw [addLatency]
      by_cases here : name = checker
      · subst here
        by_cases same : name = other
        · simp [same]
        · have differs : (other == name) = false := by simpa using Ne.symm same
          simp [List.lookup_cons, differs, same]
      · rw [if_neg here]
        by_cases found : name = other
        · subst found
          simp [Ne.symm here]
        · have differs : (other == name) = false := by simpa using Ne.symm found
          simpa [List.lookup_cons, differs] using ih

/-- Between two states of an enabled collector some decisions of checkers and some of policies
were recorded. -/
structure Recorded (collector : Collector) (decided evaluated : List Decision)
    (later : Collector) : Prop where
  enabled : later.enabled = true
  verdicts : ∀ decision,
    later.verdicts.count decision =
      collector.verdicts.count decision + decided.count decision
  latencies : ∀ name,
    later.latencyCount name =
      collector.latencyCount name + (decided.map Decision.name).count name
  evaluations : ∀ decision,
    later.evaluations.count decision =
      collector.evaluations.count decision + evaluated.count decision
  total : later.evaluations.total = collector.evaluations.total + evaluated.length

namespace Recorded

variable {collector middle later : Collector} {decided evaluated others further : List Decision}

theorem refl (enabled : collector.enabled = true) : collector.Recorded [] [] collector where
  enabled := enabled
  verdicts _ := rfl
  latencies _ := rfl
  evaluations _ := rfl
  total := rfl

theorem trans (recorded : collector.Recorded decided evaluated middle)
    (onwards : middle.Recorded others further later) :
    collector.Recorded (decided ++ others) (evaluated ++ further) later where
  enabled := onwards.enabled
  verdicts decision := by
    rw [onwards.verdicts, recorded.verdicts, List.count_append, Nat.add_assoc]
  latencies name := by
    rw [onwards.latencies, recorded.latencies, List.map_append, List.count_append,
      Nat.add_assoc]
  evaluations decision := by
    rw [onwards.evaluations, recorded.evaluations, List.count_append, Nat.add_assoc]
  total := by rw [onwards.total, recorded.total, List.length_append, Nat.add_assoc]

theorem recordPolicy (enabled : collector.enabled = true) (policy : String) (granted : Bool) :
    collector.Recorded [] [⟨policy, granted⟩] (collector.recordPolicy policy granted) := by
  rw [Collector.recordPolicy, if_pos enabled]
  refine ⟨enabled, fun _ => rfl, fun _ => rfl, fun decision => ?_, Tally.total_add _ _⟩
  simp [Tally.count_add, List.count_singleton]

/-- Every verdict is timed, though nobody may know how long it took. -/
theorem recordVerdict (enabled : collector.enabled = true) (checker : String)
    (granted : Bool) :
    collector.Recorded [⟨checker, granted⟩] [] (collector.recordVerdict checker granted none) := by
  rw [Collector.recordVerdict, if_pos enabled]
  refine ⟨enabled, fun decision => ?_, fun name => ?_, fun _ => rfl, rfl⟩
  · simp [Tally.count_add, List.count_singleton]
  · simp only [latencyCount, lookup_addLatency, List.countP_append, Nat.add_left_cancel_iff]
    by_cases same : checker = name <;> simp [same, isCounted]

end Recorded

end Collector

end AccessDecision
