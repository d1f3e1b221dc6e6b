import AccessDecision.Timestamp.Basic
import AccessDecision.Text.Numeral

/-!
# Writing timestamps

Date and time of day are joined by `T`.  Microseconds are written with six digits and
only if there are any; an offset follows as hours and minutes, with seconds and
microseconds only if it has some.
-/

namespace AccessDecision

open Text

def clockText (hour minute second : Nat) : List Char :=
  fixedDigits 10 2 hour ++ ':' :: fixedDigits 10 2 minute ++ ':' :: fixedDigits 10 2 second

/-- Microseconds as a fraction of a second, if there are any. -/
def fractionText (microsecond : Nat) : List Char :=
  if microsecond = 0 then [] else '.' :: fixedDigits 10 6 microsecond

def offsetText (ahead : Int) : List Char :=
  let size := ahead.natAbs
  let seconds := size / 1000000
  let microsecond := size % 1000000
  let short := fixedDigits 10 2 (seconds / 3600) ++ ':' :: fixedDigits 10 2 (seconds / 60 % 60)
  let rest :=
    if seconds % 60 = 0 ∧ microsecond = 0 then []
    else ':' :: fixedDigits 10 2 (seconds % 60) ++ fractionText microsecond
  (if ahead < 0 then '-' else '+') :: (short ++ rest)

namespace Timestamp

def characters (time : Timestamp) : List Char :=
  fixedDigits 10 4 time.year ++ '-' :: fixedDigits 10 2 time.month ++
    '-' :: fixedDigits 10 2 time.day ++
    'T' :: clockText time.hour time.minute time.second ++
    fractionText time.microsecond ++
    time.offset.elim [] offsetText

def text (time : Timestamp) : String :=
  String.ofList time.characters

end Timestamp

end AccessDecision
