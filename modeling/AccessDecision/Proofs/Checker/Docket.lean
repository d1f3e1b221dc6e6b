import AccessDecision.Proofs.Checker.Conclusion
import AccessDecision.Proofs.Policy.Enlistment

/-!
# Dockets

A docket lists what befalls checkers one after the other: policies are enlisted, requests are
decided, others come to watch, and the host goes on with its own work in a recess.  Host code
may enlist policies as well while a request is decided.  The minutes of a docket tell of each
decision which policies were consulted and which were enlisted meanwhile, and the rosters
follow from what the minutes tell.
-/

namespace AccessDecision

variable {φ σ : Type}

/-- Something that befalls checkers. -/
inductive Matter (φ σ : Type) where
  | enlist (roster : Nat) (policy : Policy φ)
  | decide (checker : Checker) (request : Request)
  | watch (change : Observers → Observers)
  | recess (change : σ → σ)

namespace Hearing

def conduct (host : Host φ σ) (hearing : Hearing φ σ) : Matter φ σ → Hearing φ σ
  | .enlist roster policy =>
      { hearing with
        stage := { hearing.stage with rosters := hearing.stage.rosters.add roster policy } }
  | .decide checker request => (checker.evaluate host request hearing).2
  | .watch change => { hearing with observers := change hearing.observers }
  | .recess change =>
      { hearing with stage := { hearing.stage with state := change hearing.stage.state } }

/-- A hearing after all matters of a docket. -/
def after (host : Host φ σ) (hearing : Hearing φ σ) (docket : List (Matter φ σ)) :
    Hearing φ σ :=
  docket.foldl (conduct host) hearing

theorem after_append (host : Host φ σ) (hearing : Hearing φ σ)
    (first second : List (Matter φ σ)) :
    hearing.after host (first ++ second) = (hearing.after host first).after host second :=
  List.foldl_append

end Hearing

/-- What is on record about a matter.  A decision goes with the policies that gave results,
the verdict or the failure, and the policies that were enlisted meanwhile. -/
inductive Minute (φ σ : Type) where
  | enlisted (roster : Nat) (policy : Policy φ)
  | decided (checker : Checker) (request : Request) (completed : List (Policy φ × Result))
      (outcome : Except Failure Verdict) (enlistments : List (Nat × Policy φ))
  | watched (change : Observers → Observers)
  | recessed (change : σ → σ)

namespace Minute

def matter : Minute φ σ → Matter φ σ
  | .enlisted roster policy => .enlist roster policy
  | .decided checker request _ _ _ => .decide checker request
  | .watched change => .watch change
  | .recessed change => .recess change

def enlistments : Minute φ σ → List (Nat × Policy φ)
  | .enlisted roster policy => [(roster, policy)]
  | .decided _ _ _ _ enlistments => enlistments
  | .watched _ | .recessed _ => []

/-- Whether a minute tells what happens when its matter is conducted at a hearing.  A checker
consults the first of the policies that it holds at that moment, in order, and concludes from
their results; what is enlisted meanwhile comes from the errands for which it calls host code. -/
def Records (host : Host φ σ) (hearing : Hearing φ σ) : Minute φ σ → Prop
  | .decided checker request completed outcome enlistments =>
      let policies := hearing.stage.rosters checker.roster
      let later := (checker.evaluate host request hearing).2
      (checker.evaluate host request hearing).1 = outcome ∧
      completed.map Prod.fst <+: policies ∧
      (∃ middle, Consulted host request hearing.stage completed middle ∧
        Checker.Conclusion host checker.settings request policies completed middle outcome
          later) ∧
      ∃ errands, hearing.stage.Grown host errands later.stage ∧
        enlistments = (host.serveAll hearing.stage.state errands).2
  | _ => True

end Minute

/-- Minutes of which each one records its matter at the hearing that the earlier matters
left. -/
def Minuted (host : Host φ σ) (records : Hearing φ σ → Minute φ σ → Prop) :
    Hearing φ σ → List (Minute φ σ) → Prop
  | _, [] => True
  | hearing, minute :: others =>
      records hearing minute ∧ Minuted host records (hearing.conduct host minute.matter) others

section Growth

variable {host : Host φ σ} {request : Request}

theorem Consulted.grown {stage later : Stage φ σ} {completed : List (Policy φ × Result)}
    (consulted : Consulted host request stage completed later) :
    ∃ errands, stage.Grown host errands later := by
  induction consulted with
  | done quiet => exact ⟨[], .of_silenced quiet⟩
  | @next stage begun middle later policy result others quiet gives _ ih =>
      obtain ⟨errands, grown⟩ := policy.grows_evaluate host request begun
      rw [gives] at grown
      obtain ⟨others, onwards⟩ := ih
      exact ⟨[] ++ errands ++ others, ((Stage.Grown.of_silenced quiet).trans grown).trans onwards⟩

theorem Checker.Conclusion.grown {settings : Settings} {policies : List (Policy φ)}
    {completed : List (Policy φ × Result)} {middle : Stage φ σ}
    {outcome : Except Failure Verdict} {later : Hearing φ σ}
    (conclusion : Conclusion host settings request policies completed middle outcome later) :
    ∃ errands, middle.Grown host errands later.stage := by
  cases conclusion with
  | without _ quiet => exact ⟨[], .of_silenced quiet⟩
  | answered _ _ _ _ quiet => exact ⟨[], .of_silenced quiet⟩
  | @uncounted findings noted later failure decided quiet stops =>
      have unseen := settings.quiet_countVerdict findings.granting.isSome noted
      rw [stops] at unseen
      exact ⟨[], .of_silenced (unseen.trans quiet)⟩
  | broken breaksOff =>
      cases breaksOff with
      | @failed policy fault position fails =>
          obtain ⟨errands, grown⟩ := policy.grows_evaluate host request middle
          rw [fails] at grown
          exact ⟨errands, grown⟩
      | @unaudited earlier policy result noted isLast here stops =>
          subst here
          have unseen := settings.quiet_audit policy result noted
          rw [stops] at unseen
          exact ⟨[], .of_silenced unseen⟩

theorem Checker.Heard.exists_records {checker : Checker} {hearing : Hearing φ σ}
    {completed : List (Policy φ × Result)}
    (heard : Heard host checker request hearing completed
      (checker.evaluate host request hearing).1 (checker.evaluate host request hearing).2) :
    ∃ enlistments,
      (Minute.decided checker request completed (checker.evaluate host request hearing).1
        enlistments).Records host hearing := by
  obtain ⟨first, middle, consulted, conclusion⟩ := heard.concludes
  obtain ⟨errands, grown⟩ := consulted.grown
  obtain ⟨others, onwards⟩ := conclusion.grown
  exact ⟨_, rfl, first, ⟨middle, consulted, conclusion⟩, _, grown.trans onwards, rfl⟩

end Growth

namespace Minuted

variable {host : Host φ σ} {records : Hearing φ σ → Minute φ σ → Prop}

theorem exists_minutes
    (each : ∀ hearing matter, ∃ minute, minute.matter = matter ∧ records hearing minute)
    (docket : List (Matter φ σ)) (hearing : Hearing φ σ) :
    ∃ minutes, minutes.map Minute.matter = docket ∧ Minuted host records hearing minutes := by
  induction docket generalizing hearing with
  | nil => exact ⟨[], rfl, trivial⟩
  | cons matter rest ih =>
      obtain ⟨minute, rfl, recorded⟩ := each hearing matter
      obtain ⟨minutes, rfl, others⟩ := ih (hearing.conduct host minute.matter)
      exact ⟨minute :: minutes, rfl, recorded, others⟩

theorem drop {hearing : Hearing φ σ} {earlier others : List (Minute φ σ)}
    (minuted : Minuted host records hearing (earlier ++ others)) :
    Minuted host records (hearing.after host (earlier.map Minute.matter)) others := by
  induction earlier generalizing hearing with
  | nil => exact minuted
  | cons minute rest ih => exact ih minuted.2

theorem take {hearing : Hearing φ σ} {minutes others : List (Minute φ σ)}
    (minuted : Minuted host records hearing (minutes ++ others)) :
    Minuted host records hearing minutes := by
  induction minutes generalizing hearing with
  | nil => trivial
  | cons minute rest ih => exact ⟨minuted.1, ih minuted.2⟩

theorem records_at {hearing : Hearing φ σ} {minutes : List (Minute φ σ)}
    (minuted : Minuted host records hearing minutes) (earlier : List (Minute φ σ))
    (minute : Minute φ σ) (others : List (Minute φ σ))
    (isSplit : minutes = earlier ++ minute :: others) :
    records (hearing.after host (earlier.map Minute.matter)) minute := by
  subst isSplit
  exact minuted.drop.1

end Minuted

namespace Minute

variable {host : Host φ σ}

/-- A matter grows the rosters by what its minute says was enlisted. -/
theorem Records.rosters_eq {hearing : Hearing φ σ} {minute : Minute φ σ}
    (recorded : minute.Records host hearing) :
    (hearing.conduct host minute.matter).stage.rosters =
      hearing.stage.rosters.addAll minute.enlistments := by
  cases minute with
  | enlisted roster policy => rfl
  | watched change => rfl
  | recessed change => rfl
  | decided checker request completed outcome enlistments =>
      obtain ⟨-, -, -, answered, grown, rfl⟩ := recorded
      exact grown.rosters

end Minute

/-- The rosters after a docket follow from the enlistments in its minutes. -/
theorem Minuted.rosters_eq {host : Host φ σ} {hearing : Hearing φ σ}
    {minutes : List (Minute φ σ)} (minuted : Minuted host (Minute.Records host) hearing minutes) :
    (hearing.after host (minutes.map Minute.matter)).stage.rosters =
      hearing.stage.rosters.addAll (minutes.flatMap Minute.enlistments) := by
  induction minutes generalizing hearing with
  | nil => rfl
  | cons minute rest ih =>
      obtain ⟨recorded, others⟩ := minuted
      have grows := ih others
      rw [recorded.rosters_eq, ← Rosters.addAll_append] at grows
      exact grows

/-- Whatever docket is conducted at a hearing, it can be minuted: every decision considers the
policies that the checker held when it was made and no others, whether it gave a verdict or
failed.  Between any two moments a roster grows at its end by the policies that the minutes say
were enlisted in it, in order, and changes in no other way. -/
theorem Hearing.after_minuted (host : Host φ σ) (hearing : Hearing φ σ)
    (docket : List (Matter φ σ)) :
    ∃ minutes : List (Minute φ σ), minutes.map Minute.matter = docket ∧
      (∀ earlier minute others, minutes = earlier ++ minute :: others →
        minute.Records host (hearing.after host (earlier.map Minute.matter))) ∧
      ∀ earlier between others, minutes = earlier ++ between ++ others → ∀ roster,
        (hearing.after host ((earlier ++ between).map Minute.matter)).stage.rosters roster =
          (hearing.after host (earlier.map Minute.matter)).stage.rosters roster ++
            Rosters.joining roster (between.flatMap Minute.enlistments) := by
  have each (hearing : Hearing φ σ) (matter : Matter φ σ) :
      ∃ minute : Minute φ σ, minute.matter = matter ∧ minute.Records host hearing := by
    cases matter with
    | enlist roster policy => exact ⟨.enlisted roster policy, rfl, trivial⟩
    | watch change => exact ⟨.watched change, rfl, trivial⟩
    | recess change => exact ⟨.recessed change, rfl, trivial⟩
    | decide checker request =>
        obtain ⟨completed, heard⟩ := checker.heard_evaluate host request hearing
        obtain ⟨enlistments, recorded⟩ := heard.exists_records
        exact ⟨_, rfl, recorded⟩
  obtain ⟨minutes, isDocket, minuted⟩ := Minuted.exists_minutes each docket hearing
  refine ⟨minutes, isDocket, minuted.records_at, ?_⟩
  rintro earlier between others rfl roster
  rw [List.append_assoc] at minuted
  have grows := minuted.drop.take.rosters_eq
  rw [List.map_append, after_append, grows, Rosters.addAll_eq_joining]

def enlistingHost : Host Nat Nat where
  delay _ _ _ := .finite 0
  function _ _ calls := ⟨.ok .null, calls + 1, []⟩
  policy number _ calls :=
    ⟨.ok (some (.denied (.text "closed") .null)), calls + 1,
      [(0, .host (number + 1) (.text "new") (some .empty))]⟩

/-- Each decision doubles the roster, and still ends. -/
example :
    (((Checker.freshHearing none).after enlistingHost
      [.decide ⟨.standard, 0⟩ Checker.blankRequest,
        .decide ⟨.standard, 0⟩ Checker.blankRequest]).stage.rosters 0).length = 8 := by
  decide +kernel

end AccessDecision
