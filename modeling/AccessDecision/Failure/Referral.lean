import AccessDecision.Failure.Kind

/-!
# Referrals

An evaluation that comes upon a checker where a policy should be refers the request to
that checker.  A verdict is no result, so once it is there the evaluation cannot go on:
the verdict has no outcome, and a policy may be asked for something else even before.
-/

namespace AccessDecision

/-- A request that is left to a checker, by its number. -/
structure Referral where
  checker : Nat
  /-- What goes wrong after the verdict, before its outcome is asked for. -/
  before : Option KindFault
deriving DecidableEq

/-- What goes wrong after a verdict of the given kind. -/
def Referral.fault (referral : Referral) (verdictKind : String) : KindFault :=
  referral.before.getD (.noField verdictKind "outcome")

end AccessDecision
