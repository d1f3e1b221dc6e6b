import AccessDecision.Timestamp.Basic

/-!
# Clocks

A clock may be set forward and back, so its offset from universal time changes and it shows some
times twice and others never.  Two timestamps off the same clock are compared by what it showed,
whatever the instants were; and one that depends on whether the clock showed it for the second
time agrees with none off another clock.  All this is lost when a timestamp is written.
-/

namespace AccessDecision

/-- Two clocks are the same if they have the same number. -/
structure LocalClock where
  number : Nat
  /-- Microseconds ahead of universal time, by what the clock shows and by whether it shows
  that for the second time. -/
  ahead : Int → Bool → Int
  short : ∀ reading again, (ahead reading again).natAbs < dayLength

/-- A timestamp with the clock that showed it, unless its offset is fixed, and whether for the
second time. -/
structure ClockTime extends Timestamp where
  clock : Option (LocalClock × Bool)
  shown : ∀ face ∈ clock, offset = some (face.1.ahead toCivilTime.reading face.2)

namespace ClockTime

def fixed (time : Timestamp) : ClockTime :=
  ⟨time, none, nofun⟩

instance : Coe Timestamp ClockTime :=
  ⟨fixed⟩

def sharesClock (left right : ClockTime) : Bool :=
  match left.clock, right.clock with
  | some (first, _), some (second, _) => first.number == second.number
  | _, _ => false

def comparable (left right : ClockTime) : Bool :=
  left.sharesClock right || left.offset.isSome == right.offset.isSome

/-- How far a time is ahead of another one, in microseconds. -/
def lead (left right : ClockTime) : Int :=
  if left.sharesClock right then left.reading - right.reading
  else left.instant - right.instant

/-- Whether the offset is the same for the first and for the second time that the clock shows
the time. -/
def isCertain (time : ClockTime) : Bool :=
  time.clock.all fun face =>
    face.1.ahead time.reading false == face.1.ahead time.reading true

def agrees (left right : ClockTime) : Bool :=
  if left.sharesClock right then left.reading == right.reading
  else left.comparable right && left.instant == right.instant && left.isCertain &&
    right.isCertain

/-- A time as it is written, which does not tell the clock. -/
def asWritten (time : ClockTime) : ClockTime :=
  fixed time.toTimestamp

theorem asWritten_of_fixed {time : ClockTime} (isFixed : time.clock = none) :
    time.asWritten = time := by
  cases time
  cases isFixed
  rfl

end ClockTime

end AccessDecision
