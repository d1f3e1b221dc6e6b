/-!
# Timestamps

A timestamp is a date and a time of day in the Gregorian calendar, exact to the
microsecond, with or without an offset from universal time.  Two timestamps can be
compared only if both have an offset or neither has; with offsets it is the instants
that are compared.
-/

namespace AccessDecision

def isLeapYear (year : Nat) : Bool :=
  year % 4 == 0 && (year % 100 != 0 || year % 400 == 0)

def daysInMonth (year month : Nat) : Nat :=
  if month = 2 then (if isLeapYear year then 29 else 28)
  else if month = 4 ∨ month = 6 ∨ month = 9 ∨ month = 11 then 30
  else 31

/-- The number of days before the first of January of a year. -/
def daysBeforeYear (year : Nat) : Nat :=
  let past := year - 1
  365 * past + past / 4 - past / 100 + past / 400

/-- The number of days of a year before the first of a month. -/
def daysBeforeMonth (year month : Nat) : Nat :=
  (List.range (month - 1)).foldl (fun days index => days + daysInMonth year (index + 1)) 0

def dayLength : Nat :=
  86400 * 1000000

/-- A date and a time of day as they are written. -/
structure CivilTime where
  year : Nat
  month : Nat
  day : Nat
  hour : Nat
  minute : Nat
  second : Nat
  microsecond : Nat
  /-- Microseconds ahead of universal time. -/
  offset : Option Int
deriving DecidableEq

namespace CivilTime

structure Valid (time : CivilTime) : Prop where
  year : 1 ≤ time.year ∧ time.year ≤ 9999
  month : 1 ≤ time.month ∧ time.month ≤ 12
  day : 1 ≤ time.day ∧ time.day ≤ daysInMonth time.year time.month
  hour : time.hour < 24
  minute : time.minute < 60
  second : time.second < 60
  microsecond : time.microsecond < 1000000
  offset : ∀ ahead ∈ time.offset, ahead.natAbs < dayLength

/-- Microseconds from the beginning of the calendar, as a clock shows them. -/
def reading (time : CivilTime) : Int :=
  let days := daysBeforeYear time.year + daysBeforeMonth time.year time.month + time.day
  let seconds := ((days * 24 + time.hour) * 60 + time.minute) * 60 + time.second
  ((seconds * 1000000 + time.microsecond : Nat) : Int)

/-- Microseconds from the beginning of the calendar, in universal time if the time has
an offset. -/
def instant (time : CivilTime) : Int :=
  time.reading - time.offset.getD 0

end CivilTime

/-- A time that the calendar has. -/
structure Timestamp extends CivilTime where
  valid : toCivilTime.Valid
deriving DecidableEq

/-- Why a value is no timestamp. -/
inductive TimestampFault where
  | notText
  | unreadable (text : String)
  | unreadableCodes (codes : List Nat)
  | year (year : Nat)
  | month
  | day
  | hour
  | minute
  | second
  /-- The offset, in microseconds, is a day or more. -/
  | offset (ahead : Int)
deriving DecidableEq

namespace CivilTime

/-- Accept a time that the calendar has, and otherwise name the first part out of
range; the offset is examined before the date. -/
def check (time : CivilTime) : Except TimestampFault Timestamp :=
  if offsetInRange : ∀ ahead ∈ time.offset, ahead.natAbs < dayLength then
    if yearInRange : 1 ≤ time.year ∧ time.year ≤ 9999 then
      if monthInRange : 1 ≤ time.month ∧ time.month ≤ 12 then
        if dayInRange : 1 ≤ time.day ∧ time.day ≤ daysInMonth time.year time.month then
          if hourInRange : time.hour < 24 then
            if minuteInRange : time.minute < 60 then
              if secondInRange : time.second < 60 then
                if microsecondInRange : time.microsecond < 1000000 then
                  .ok ⟨time, yearInRange, monthInRange, dayInRange, hourInRange,
                    minuteInRange, secondInRange, microsecondInRange, offsetInRange⟩
                else .error .second
              else .error .second
            else .error .minute
          else .error .hour
        else .error .day
      else .error .month
    else .error (.year time.year)
  else .error (.offset (time.offset.getD 0))

end CivilTime

end AccessDecision
