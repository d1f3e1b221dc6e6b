import AccessDecision.Session.Basic

/-!
# Hearings in a session

A checker decides with what it shares: it sees the stage, the files and its own sink and
collector, and what it changes there is there for all.  A checker that refers a request
to another one waits for the verdict of that one, which may refer the request further.
-/

namespace AccessDecision

namespace Session

/-- What a checker can see of the session. -/
def hearing (checker : Option SharedChecker) (session : Session) :
    Hearing HostCode HostCounts :=
  { stage := session.stage
    observers :=
      { sink := (checker.bind (·.sink)).bind (session.sinks[·]?)
        collector := (checker.bind (·.collector)).bind (session.collectors[·]?)
        stranger := checker.bind (·.stranger)
        disk := session.disk
        clock := session.clock
        identifiers := session.identifiers } }

def replaceAt {α : Type} (number : Option Nat) (object : Option α) (objects : List α) :
    List α :=
  match number, object with
  | some number, some object => objects.set number object
  | _, _ => objects

def afterHearing (checker : Option SharedChecker) (hearing : Hearing HostCode HostCounts)
    (session : Session) : Session :=
  let observers := hearing.observers
  { session with
    stage := hearing.stage
    sinks := replaceAt (checker.bind (·.sink)) observers.sink session.sinks
    collectors :=
      replaceAt (checker.bind (·.collector)) observers.collector session.collectors
    disk := observers.disk
    identifiers := observers.identifiers }

end Session

namespace Work

variable {α : Type}

def hear (number : Nat) (request : Request) : Work Verdict :=
  fun session =>
    let checker := session.checkers[number]?
    Attempt.within (Session.hearing checker) (Session.afterHearing checker)
      (Checker.evaluate session.host ⟨session.settingsOf number, number⟩ request) session

/-- The failure that an evaluation comes to at last.  A referral comes to what goes wrong
after the verdict, or to the failure of the checker that should give it. -/
def settle (request : Request) : Nat → Failure → Work Failure
  | 0, .referral _ => pure .referralDepth
  | limit + 1, .referral referral => fun session =>
      match hear referral.checker request session with
      | (.ok verdict, later) => (.ok (.kind (referral.fault verdict.kindName)), later)
      | (.error failure, later) => settle request limit failure later
  | _, failure => pure failure

/-- Evaluate something for a request and settle its referrals. -/
def settling (request : Request) (evaluation : Work α) : Work α :=
  Attempt.orElse evaluation fun failure => do
    let limit ← Attempt.look fun session => session.machine.referrals
    let failure ← settle request limit failure
    Attempt.fail failure

end Work

end AccessDecision
