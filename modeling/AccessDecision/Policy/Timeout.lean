import AccessDecision.Failure
import AccessDecision.Number.Shortest

/-!
# Timeouts

The time that a lookup may take, in seconds.  It is kept as it was given, because
messages show it, together with its exact size.  Waiting needs a floating-point number
of seconds, so a timeout that is too large for one fails when it is used.  A length of time
given to the microsecond becomes the nearest floating-point number of seconds.
-/

namespace AccessDecision

/-- How long a lookup may take. -/
structure Timeout where
  seconds : Value
  size : Quantity

namespace Timeout

def ofSeconds (seconds : Value) : Except Failure Timeout :=
  match seconds.quantity? with
  | none => .error (.kind (.unordered seconds.kindName))
  | some size =>
      if size.atMost (.finite 0) then .error .timeoutNotPositive
      else .ok ⟨seconds, size⟩

def begin (timeout : Timeout) : Except Failure Unit :=
  if timeout.seconds.float?.isSome then .ok () else .error (.range .beyondFloat)

/-- The microseconds of a floating-point number of seconds, a half rounded to the even
one. -/
def floatMicroseconds : Float64 → Except Failure Int
  | .finite negative significand exponent =>
      let (numerator, denominator) := Float64.descaled 2 significand 1 (-exponent)
      let whole := numerator / denominator * 1000000
      let fraction := (Float64.ofRatio false (numerator % denominator) denominator).scale 1000000
      let part :=
        match fraction with
        | .finite _ significand exponent =>
            let (top, bottom) := Float64.descaled 2 significand 1 (-exponent)
            Float64.roundQuotient top bottom
        | _ => 0
      .ok (if negative then -((whole + part : Nat) : Int) else (whole + part : Nat))
  | .infinite _ => .error (.range .infinite)
  | .undefined => .error (.range .undefined)

def microseconds : Value → Except Failure Int
  | .int seconds => .ok (seconds * 1000000)
  | .bool seconds => .ok (seconds.toNat * 1000000)
  | .float seconds => floatMicroseconds seconds
  | other => .error (.kind (.notDuration other.kindName))

def checkDays (days : Int) : Except Failure Unit :=
  if !RangeFault.fits 32 days then .error (.range .beyondDays)
  else if RangeFault.dayLimit < days.natAbs then .error (.range (.days days))
  else .ok ()

/-- A positive length of time to the microsecond. -/
def ofDuration (seconds : Value) : Except Failure Timeout := do
  let length ← microseconds seconds
  checkDays (length / dayLength)
  ofSeconds (.float (Float64.ofRatio (decide (length < 0)) length.natAbs 1000000))

end Timeout

end AccessDecision
