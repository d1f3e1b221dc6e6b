import AccessDecision.Timestamp.Basic
import AccessDecision.Text.Halves
import AccessDecision.Text.Numeral

/-!
# Reading timestamps

A date is written by month and day or by week and weekday, with hyphens or without.
Any one character separates it from the time of day, whose parts may be joined by
colons or written together, down to any number of fraction digits, of which six
count.  An offset or `Z` may follow.
-/

namespace AccessDecision

open Text

namespace TimestampReader

/-- A text in which every character outside ASCII is replaced by as many fillers as it
has octets, because positions are counted in octets. -/
def widen (characters : List Char) : List Char :=
  characters.flatMap fun character =>
    if character.toNat < 0x80 then [character]
    else List.replicate character.utf8Size '\x80'

def takeNumber (count : Nat) (characters : List Char) : Option (Nat × List Char) :=
  let digits := characters.take count
  if digits.length = count ∧ digits.all isAsciiDigit then
    some (ofDigitValues (digits.filterMap asciiDigit?), characters.drop count)
  else none

/-- How many characters the date takes up at the front of a widened text.  A date by
week may or may not name the weekday, which the characters after it decide. -/
def dateLength? (text : List Char) : Option Nat :=
  let digitAt := fun index => text[index]?.any isAsciiDigit
  if text.length < 7 then none
  else if text.length = 7 then some 7
  else if text[4]? = some '-' then
    if text[5]? = some 'W' ∧ text[8]? = some '-' then
      if text.length = 9 then none
      else if digitAt 10 then some 8
      else some 10
    else if text[5]? = some 'W' then some 8
    else some 10
  else if text[4]? = some 'W' then
    let position := 7 + ((text.drop 7).takeWhile isAsciiDigit).length
    if position < 9 then some position
    else if position % 2 = 0 then some 7
    else some 8
  else some 8

/-- The weekday of the first of January, counted from Monday as zero. -/
def firstWeekday (year : Nat) : Nat :=
  daysBeforeYear year % 7

/-- Whether a year has a fifty-third week. -/
def isLongYear (year : Nat) : Bool :=
  firstWeekday year == 3 || (firstWeekday year == 2 && isLeapYear year)

/-- The month and day of a day counted from the beginning of its year. -/
def monthOfDay (year : Nat) (day : Nat) : List Nat → Nat × Nat
  | [] => (12, day)
  | month :: rest =>
      if day ≤ daysInMonth year month then (month, day)
      else monthOfDay year (day - daysInMonth year month) rest

def dateOfWeek (year week weekday : Nat) : Nat × Nat × Nat :=
  let first := firstWeekday year
  let count := (week - 1) * 7 + weekday + (if 3 < first then 7 else 0)
  let (year, day) :=
    if count ≤ first then
      (year - 1, count + (if isLeapYear (year - 1) then 366 else 365) - first)
    else
      let day := count - first
      let length := if isLeapYear year then 366 else 365
      if length < day then (year + 1, day - length) else (year, day)
  let (month, day) := monthOfDay year day [1, 2, 3, 4, 5, 6, 7, 8, 9, 10, 11, 12]
  (year, month, day)

/-- The date by week after the letter `W`.  The weeks of the year zero lie before the
calendar and have no month. -/
def readWeekDate (year : Nat) (hyphens : Bool) (text : List Char) :
    Option (Nat × Nat × Nat) := do
  let (week, rest) ← takeNumber 2 text
  let (weekday, _) ←
    if rest.isEmpty then some (1, rest)
    else if hyphens then
      if rest.head? = some '-' then takeNumber 1 (rest.drop 1) else none
    else takeNumber 1 rest
  if 1 ≤ weekday ∧ weekday ≤ 7 ∧ 1 ≤ week ∧
      (week ≤ 52 ∨ (week = 53 ∧ year ≠ 0 ∧ isLongYear year)) then
    if year = 0 then some (1, 0, 1) else some (dateOfWeek year week weekday)
  else none

def readDate (text : List Char) : Option (Nat × Nat × Nat) := do
  let (year, rest) ← takeNumber 4 text
  let hyphens := rest.head? = some '-'
  let rest := if hyphens then rest.drop 1 else rest
  if rest.head? = some 'W' then readWeekDate year hyphens (rest.drop 1)
  else
    let (month, rest) ← takeNumber 2 rest
    let rest ←
      if hyphens then (if rest.head? = some '-' then some (rest.drop 1) else none)
      else some rest
    let (day, rest) ← takeNumber 2 rest
    if rest.isEmpty then some (year, month, day) else none

inductive AfterParts where
  /-- The end, or one stray character. -/
  | finish (stray : Bool)
  /-- A fraction of a second. -/
  | fraction (digits : List Char)

/-- Up to `count` two-digit parts of a time of day.  Whether colons join them is
settled after the first. -/
def readParts (count : Nat) (colons : Option Bool) (text : List Char) :
    Option (List Nat × AfterParts) :=
  match count with
  | 0 => some ([], .fraction text)
  | count + 1 =>
      match takeNumber 2 text with
      | none => none
      | some (value, []) => some ([value], .finish false)
      | some (value, mark :: after) =>
          let joined := colons.getD (mark == ':')
          if after.isEmpty then some ([value], .finish (mark != '\x00'))
          else if joined && mark == ':' then
            (readParts count (some joined) after).map fun (values, rest) =>
              (value :: values, rest)
          else if mark = '.' ∨ mark = ',' then some ([value], .fraction after)
          else if joined then none
          else
            (readParts count (some joined) (mark :: after)).map fun (values, rest) =>
              (value :: values, rest)

/-- Hour, minute, second and microsecond that a text denotes, and whether a stray
character stands at its end. -/
def readClock (text : List Char) : Option ((Nat × Nat × Nat × Nat) × Bool) := do
  let (parts, after) ← readParts 3 none text
  let clock := fun microsecond =>
    (parts.getD 0 0, parts.getD 1 0, parts.getD 2 0, microsecond)
  match after with
  | .finish stray => some (clock 0, stray)
  | .fraction digits =>
      let count := min digits.length 6
      let (value, rest) ← takeNumber count digits
      let rest := rest.dropWhile isAsciiDigit
      some (clock (value * Nat.pow 10 (6 - count)), rest.head?.any (· != '\x00'))

def beginsOffset (character : Char) : Bool :=
  character == '+' || character == '-' || character == 'Z'

/-- The offset in microseconds that a text denotes.  Less than a second does not
count. -/
def readOffset (text : List Char) : Option Int :=
  match text with
  | 'Z' :: rest => if rest.head?.all (· == '\x00') then some 0 else none
  | sign :: rest =>
      match readClock rest with
      | some ((hour, minute, second, microsecond), false) =>
          let seconds := (hour * 60 + minute) * 60 + second
          let size : Int := if seconds = 0 then 0 else seconds * 1000000 + microsecond
          some (if sign = '-' then -size else size)
      | _ => none
  | [] => none

def readTime (date : Nat × Nat × Nat) (text : List Char) : Option CivilTime := do
  let (year, month, day) := date
  let body := text.takeWhile (!beginsOffset ·)
  let zone := text.dropWhile (!beginsOffset ·)
  let ((hour, minute, second, microsecond), stray) ← readClock body
  if zone.isEmpty then
    if stray then none
    else some { year, month, day, hour, minute, second, microsecond, offset := none }
  else
    let ahead ← readOffset zone
    some { year, month, day, hour, minute, second, microsecond, offset := some ahead }

def readParts? (characters : List Char) : Option CivilTime := do
  let wide := widen characters
  let length ← dateLength? wide
  let (year, month, day) ← readDate (wide.take length)
  if wide.length ≤ length then
    some { year, month, day, hour := 0, minute := 0, second := 0, microsecond := 0,
           offset := none }
  else readTime (year, month, day) (widen (characters.drop (length + 1)))

/-- Codes with a letter in place of half a character, if one stands where the time of
day can be separated from the date. -/
def mendSeparator (codes : List Nat) : List Nat :=
  match [7, 8, 10].find? fun index => codes[index]?.any isHalf with
  | some index => codes.set index 'T'.toNat
  | none => codes

end TimestampReader

def Timestamp.read (text : String) : Except TimestampFault Timestamp :=
  match TimestampReader.readParts? text.toList with
  | none => .error (.unreadable text)
  | some time => time.check

def Timestamp.readCodes (codes : List Nat) : Except TimestampFault Timestamp :=
  let text := ofCodes? (TimestampReader.mendSeparator codes)
  match text.bind fun text => TimestampReader.readParts? text.toList with
  | none => .error (.unreadableCodes codes)
  | some time => time.check

end AccessDecision
