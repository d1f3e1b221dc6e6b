import AccessDecision.Proofs.Timestamp.RoundTrip

/-!
# Spellings of timestamps

One timestamp can be spelled in many ways: the time of day may be left out, or only what stands
behind the hour; a fraction of a second may have any number of digits, of which six count; any
character separates date and time of day.  Whatever is read is a timestamp that its own text
gives back, since an offset of less than a second is never read.
-/

namespace AccessDecision

namespace TimestampReader

open Text

/-- A time of day, of which everything behind the hour may be left out. -/
inductive ClockSpelling where
  | hours (hour : Nat)
  | minutes (hour minute : Nat)
  | seconds (hour minute second : Nat)
  | fraction (hour minute second : Nat) (digits : List Char)

namespace ClockSpelling

def characters : ClockSpelling → List Char
  | .hours hour => fixedDigits 10 2 hour
  | .minutes hour minute => fixedDigits 10 2 hour ++ ':' :: fixedDigits 10 2 minute
  | .seconds hour minute second => clockText hour minute second
  | .fraction hour minute second digits => clockText hour minute second ++ '.' :: digits

/-- Hour, minute, second and microsecond.  Of a fraction only whole microseconds count. -/
def parts : ClockSpelling → Nat × Nat × Nat × Nat
  | .hours hour => (hour, 0, 0, 0)
  | .minutes hour minute => (hour, minute, 0, 0)
  | .seconds hour minute second => (hour, minute, second, 0)
  | .fraction hour minute second digits =>
      (hour, minute, second,
        ofDigitValues (digits.filterMap asciiDigit?) * Nat.pow 10 6 / Nat.pow 10 digits.length)

/-- Whether the parts of a time of day have room in their places, and a fraction has digits. -/
def WellFormed : ClockSpelling → Prop
  | .hours hour => hour < 100
  | .minutes hour minute => hour < 100 ∧ minute < 100
  | .seconds hour minute second => hour < 100 ∧ minute < 100 ∧ second < 100
  | .fraction hour minute second digits =>
      hour < 100 ∧ minute < 100 ∧ second < 100 ∧ digits ≠ [] ∧ digits.all isAsciiDigit = true

end ClockSpelling

theorem takeNumber_of_digits {digits : List Char} (areDigits : digits.all isAsciiDigit = true)
    {count : Nat} (enough : count ≤ digits.length) :
    takeNumber count digits =
      some (ofDigitValues ((digits.take count).filterMap asciiDigit?), digits.drop count) := by
  have taken : (digits.take count).all isAsciiDigit = true :=
    List.all_eq_true.mpr fun character member =>
      List.all_eq_true.mp areDigits character (List.mem_of_mem_take member)
  rw [takeNumber]
  exact if_pos ⟨by rw [List.length_take, Nat.min_eq_left enough], taken⟩

/-- The first six digits of a fraction are its whole microseconds. -/
theorem microseconds_eq {digits : List Char} (areDigits : digits.all isAsciiDigit = true) :
    ofDigitValues ((digits.take (min digits.length 6)).filterMap asciiDigit?) *
        Nat.pow 10 (6 - min digits.length 6) =
      ofDigitValues (digits.filterMap asciiDigit?) * Nat.pow 10 6 / Nat.pow 10 digits.length := by
  have power (first second : Nat) : Nat.pow 10 (first + second) =
      Nat.pow 10 first * Nat.pow 10 second := Nat.pow_add 10 first second
  have positive (exponent : Nat) : 0 < Nat.pow 10 exponent := Nat.pow_pos (by decide)
  rcases Nat.le_total digits.length 6 with short | long
  · have padded := power digits.length (6 - digits.length)
    rw [Nat.add_sub_cancel' short] at padded
    rw [Nat.min_eq_left short, List.take_length, padded, Nat.mul_left_comm,
      Nat.mul_div_cancel_left _ (positive _)]
  · have cut := power (digits.length - 6) 6
    rw [Nat.sub_add_cancel long] at cut
    have split := congrArg (List.filterMap asciiDigit?) (List.take_append_drop 6 digits).symm
    have others : (digits.drop 6).all isAsciiDigit = true :=
      List.all_eq_true.mpr fun character member =>
        List.all_eq_true.mp areDigits character (List.mem_of_mem_drop member)
    have small := ofDigitValues_lt (digitValues_lt (digits.drop 6))
    rw [length_digitValues others, List.length_drop] at small
    rw [Nat.min_eq_right long, split, List.filterMap_append, ofDigitValues_append,
      length_digitValues others, List.length_drop, cut, Nat.mul_div_mul_right _ _ (positive 6),
      Nat.mul_comm _ (Nat.pow 10 (digits.length - 6)), Nat.mul_add_div (positive _),
      Nat.div_eq_of_lt small]
    exact Nat.mul_one _

theorem readClock_fraction {hour minute second : Nat} (hours : hour < 100) (minutes : minute < 100)
    (seconds : second < 100) {digits : List Char} (filled : digits ≠ [])
    (areDigits : digits.all isAsciiDigit = true) :
    readClock (clockText hour minute second ++ '.' :: digits) =
      some ((ClockSpelling.fraction hour minute second digits).parts, false) := by
  have text : clockText hour minute second ++ '.' :: digits =
      fixedDigits 10 2 hour ++ ':' :: (fixedDigits 10 2 minute ++
        ':' :: (fixedDigits 10 2 second ++ '.' :: digits)) := by
    simp [clockText]
  have taken := takeNumber_of_digits areDigits (Nat.min_le_left digits.length 6)
  have others : (digits.drop (min digits.length 6) ++ []).dropWhile isAsciiDigit = [] :=
    List.dropWhile_append_of_pos fun character member =>
      List.all_eq_true.mp areDigits character (List.mem_of_mem_drop member)
  rw [List.append_nil] at others
  rw [readClock, text, readParts_colon hours 2 rfl (fixedDigits_ne_nil 1 minute _),
    readParts_colon minutes 1 rfl (fixedDigits_ne_nil 1 second _),
    readParts_fraction seconds 0 filled]
  simp only [Option.bind_eq_bind, Option.bind_some, Option.map_some, taken, others,
    microseconds_eq areDigits]
  rfl

theorem ClockSpelling.readClock_characters {spelling : ClockSpelling}
    (wellFormed : spelling.WellFormed) :
    readClock spelling.characters = some (spelling.parts, false) := by
  cases spelling with
  | hours hour =>
      rw [characters, readClock, readParts_last wellFormed]
      rfl
  | minutes hour minute => exact readClock_short wellFormed.1 wellFormed.2
  | seconds hour minute second =>
      obtain ⟨hours, minutes, seconds⟩ := wellFormed
      have reads : readClock (clockText hour minute second ++ fractionText 0) =
          some ((hour, minute, second, 0), false) :=
        readClock_clockText hours minutes seconds (by decide)
      rwa [fractionText, if_pos rfl, List.append_nil] at reads
  | fraction hour minute second digits =>
      obtain ⟨hours, minutes, seconds, filled, areDigits⟩ := wellFormed
      exact readClock_fraction hours minutes seconds filled areDigits

theorem ClockSpelling.isClockwork {spelling : ClockSpelling} (wellFormed : spelling.WellFormed) :
    ∀ character ∈ spelling.characters, IsClockwork character := by
  have colon := isClockwork_mark (.inl rfl)
  cases spelling with
  | hours hour => exact isClockwork_fixedDigits 2 hour
  | minutes hour minute =>
      rw [characters, List.forall_mem_append, List.forall_mem_cons]
      exact ⟨isClockwork_fixedDigits 2 hour, colon, isClockwork_fixedDigits 2 minute⟩
  | seconds hour minute second => exact isClockwork_clockText hour minute second
  | fraction hour minute second digits =>
      obtain ⟨-, -, -, -, areDigits⟩ := wellFormed
      rw [characters, List.forall_mem_append, List.forall_mem_cons]
      exact ⟨isClockwork_clockText hour minute second, isClockwork_mark (.inr rfl),
        fun character member =>
          isClockwork_of_isAsciiDigit (List.all_eq_true.mp areDigits character member)⟩

/-- What is spelled of an offset: nothing, the letter for universal time, or a length of time
with its sign, whose seconds may be left out. -/
inductive ZoneSpelling where
  | naive
  | universal
  | ahead (hour minute : Nat) (second : Option Nat)
  | behind (hour minute : Nat) (second : Option Nat)

namespace ZoneSpelling

def clock (hour minute : Nat) : Option Nat → ClockSpelling
  | none => .minutes hour minute
  | some second => .seconds hour minute second

def size (hour minute : Nat) (second : Option Nat) : Nat :=
  ((hour * 60 + minute) * 60 + second.getD 0) * 1000000

def characters : ZoneSpelling → List Char
  | .naive => []
  | .universal => ['Z']
  | .ahead hour minute second => '+' :: (clock hour minute second).characters
  | .behind hour minute second => '-' :: (clock hour minute second).characters

def offset : ZoneSpelling → Option Int
  | .naive => none
  | .universal => some 0
  | .ahead hour minute second => some (size hour minute second)
  | .behind hour minute second => some (-size hour minute second)

def WellFormed : ZoneSpelling → Prop
  | .naive | .universal => True
  | .ahead hour minute second | .behind hour minute second =>
      (clock hour minute second).WellFormed

end ZoneSpelling

/-- A date, alone or with a time of day after a separator. -/
inductive Spelling where
  | date (year month day : Nat)
  | moment (year month day : Nat) (separator : Char) (clock : ClockSpelling)
      (zone : ZoneSpelling)

namespace Spelling

def characters : Spelling → List Char
  | .date year month day => dateText year month day
  | .moment year month day separator clock zone =>
      dateText year month day ++ separator :: (clock.characters ++ zone.characters)

def time : Spelling → CivilTime
  | .date year month day => ⟨year, month, day, 0, 0, 0, 0, none⟩
  | .moment year month day _ clock zone =>
      ⟨year, month, day, clock.parts.1, clock.parts.2.1, clock.parts.2.2.1, clock.parts.2.2.2,
        zone.offset⟩

def WellFormed : Spelling → Prop
  | .date .. => True
  | .moment _ _ _ _ clock zone => clock.WellFormed ∧ zone.WellFormed

end Spelling

theorem readOffset_signed {sign : Char} (isSign : sign ≠ 'Z') {hour minute : Nat}
    {second : Option Nat} (wellFormed : (ZoneSpelling.clock hour minute second).WellFormed) :
    readOffset (sign :: (ZoneSpelling.clock hour minute second).characters) =
      some (if sign = '-' then -(ZoneSpelling.size hour minute second : Int)
        else ZoneSpelling.size hour minute second) := by
  have reads := ClockSpelling.readClock_characters wellFormed
  have parts : (ZoneSpelling.clock hour minute second).parts =
      (hour, minute, second.getD 0, 0) := by
    cases second <;> rfl
  have size : (if (hour * 60 + minute) * 60 + second.getD 0 = 0 then 0
      else (((hour * 60 + minute) * 60 + second.getD 0 : Nat) : Int) * 1000000 + (0 : Nat)) =
        ZoneSpelling.size hour minute second := by
    rw [ZoneSpelling.size]
    split <;> omega
  rw [parts] at reads
  rw [readOffset, reads]
  · dsimp only
    rw [size]
  · exact fun isUniversal => absurd isUniversal isSign

theorem ZoneSpelling.ascii_characters {zone : ZoneSpelling} (wellFormed : zone.WellFormed) :
    ∀ character ∈ zone.characters, character.toNat < 0x80 := by
  cases zone with
  | naive => exact List.forall_mem_nil _
  | universal =>
      rw [characters, List.forall_mem_singleton]
      decide
  | ahead | behind =>
      rw [characters, List.forall_mem_cons]
      exact ⟨by decide, fun character member =>
        (ClockSpelling.isClockwork wellFormed character member).ascii⟩

theorem readTime_spelled (year month day : Nat) {clock : ClockSpelling} {zone : ZoneSpelling}
    (isClock : clock.WellFormed) (isZone : zone.WellFormed) :
    readTime (year, month, day) (clock.characters ++ zone.characters) =
      some ⟨year, month, day, clock.parts.1, clock.parts.2.1, clock.parts.2.2.1,
        clock.parts.2.2.2, zone.offset⟩ := by
  have inside := clock.isClockwork isClock
  have reads := clock.readClock_characters isClock
  cases zone with
  | naive =>
      rw [ZoneSpelling.characters, List.append_nil]
      exact readTime_of_readClock inside reads
  | universal => exact readTime_of_readOffset inside reads rfl rfl
  | ahead hour minute second =>
      have readsZone := readOffset_signed (by decide : '+' ≠ 'Z') isZone
      rw [if_neg (by decide)] at readsZone
      exact readTime_of_readOffset inside reads rfl readsZone
  | behind hour minute second =>
      have readsZone := readOffset_signed (by decide : '-' ≠ 'Z') isZone
      rw [if_pos rfl] at readsZone
      exact readTime_of_readOffset inside reads rfl readsZone

theorem readParts?_date {year month day : Nat} (years : year < 10000) (months : month < 100)
    (days : day < 100) :
    readParts? (dateText year month day) = some ⟨year, month, day, 0, 0, 0, 0, none⟩ := by
  have length : (dateText year month day).length = 10 := by
    simp [dateText]
  have ends := dateLength?_dateText year month day []
  rw [List.append_nil] at ends
  rw [readParts?, widen_of_ascii (ascii_dateText year month day), ends]
  simp [← length, readDate_dateText years months days]

/-- A date, and a time of day after any separator, are read as they are spelled. -/
theorem readParts?_spelled {spelling : Spelling} (wellFormed : spelling.WellFormed)
    (valid : spelling.time.Valid) : readParts? spelling.characters = some spelling.time := by
  obtain ⟨years, months, days⟩ := valid.date_lt
  cases spelling with
  | date year month day => exact readParts?_date years months days
  | moment year month day separator clock zone =>
      obtain ⟨isClock, isZone⟩ := wellFormed
      have ascii : ∀ character ∈ clock.characters ++ zone.characters, character.toNat < 0x80 :=
        List.forall_mem_append.mpr
          ⟨fun character member => (clock.isClockwork isClock character member).ascii,
            zone.ascii_characters isZone⟩
      exact (readParts?_dateText years months days separator ascii).trans
        (readTime_spelled year month day isClock isZone)

theorem counts_of_readOffset {text : List Char} {ahead : Int}
    (reads : readOffset text = some ahead) : ahead = 0 ∨ 1000000 ≤ ahead.natAbs := by
  fun_cases readOffset text with
  | case1 rest isEnd =>
      simp only [readOffset, isEnd, if_true, Option.some.injEq] at reads
      exact .inl reads.symm
  | case2 rest noEnd =>
      simp [readOffset, noEnd] at reads
  | case3 sign rest notUniversal hour minute second microsecond clock seconds size =>
      rw [readOffset, clock] at reads
      · have signed : (if sign = '-' then -size else size) = ahead := Option.some.inj reads
        have counts : size = 0 ∨ 1000000 ≤ size := by
          dsimp only [size]
          split <;> omega
        split at signed <;> omega
      · exact notUniversal
  | case4 sign rest notUniversal _ =>
      simp [readOffset] at reads
  | case5 => cases reads

theorem counts_of_readTime {date : Nat × Nat × Nat} {text : List Char} {time : CivilTime}
    (reads : readTime date text = some time) :
    ∀ ahead ∈ time.offset, ahead = 0 ∨ 1000000 ≤ ahead.natAbs := by
  rw [readTime] at reads
  simp only [Option.bind_eq_bind, Option.bind_eq_some_iff] at reads
  obtain ⟨⟨clock, stray⟩, -, reads⟩ := reads
  split at reads
  · split at reads
    · cases reads
    · cases reads
      intro ahead isAhead
      cases isAhead
  · obtain ⟨ahead, readsZone, isTime⟩ := Option.bind_eq_some_iff.mp reads
    cases isTime
    intro other isAhead
    cases isAhead
    exact counts_of_readOffset readsZone

theorem counts_of_readParts? {characters : List Char} {time : CivilTime}
    (reads : readParts? characters = some time) :
    ∀ ahead ∈ time.offset, ahead = 0 ∨ 1000000 ≤ ahead.natAbs := by
  rw [readParts?] at reads
  simp only [Option.bind_eq_bind, Option.bind_eq_some_iff] at reads
  obtain ⟨length, -, date, -, reads⟩ := reads
  split at reads
  · cases reads
    intro ahead isAhead
    cases isAhead
  · exact counts_of_readTime reads

end TimestampReader

theorem CivilTime.eq_of_check {time : CivilTime} {stamp : Timestamp}
    (accepts : time.check = .ok stamp) : stamp.toCivilTime = time := by
  rw [CivilTime.check] at accepts
  repeat' split at accepts
  all_goals cases accepts
  rfl

namespace Timestamp

open TimestampReader

theorem counts_of_check {characters : List Char} {time : CivilTime} {stamp : Timestamp}
    (reads : readParts? characters = some time) (accepts : time.check = .ok stamp) :
    ∀ ahead ∈ stamp.offset, ahead = 0 ∨ 1000000 ≤ ahead.natAbs := by
  rw [CivilTime.eq_of_check accepts]
  exact counts_of_readParts? reads

theorem counts_of_read {text : String} {stamp : Timestamp} (reads : read text = .ok stamp) :
    ∀ ahead ∈ stamp.offset, ahead = 0 ∨ 1000000 ≤ ahead.natAbs := by
  rw [read] at reads
  split at reads
  · cases reads
  case h_2 time parts => exact counts_of_check parts reads

theorem counts_of_readCodes {codes : List Nat} {stamp : Timestamp}
    (reads : readCodes codes = .ok stamp) :
    ∀ ahead ∈ stamp.offset, ahead = 0 ∨ 1000000 ≤ ahead.natAbs := by
  rw [readCodes] at reads
  split at reads
  · cases reads
  case h_2 time parts =>
    obtain ⟨text, -, parts⟩ := Option.bind_eq_some_iff.mp parts
    exact counts_of_check parts reads

/-- A time that the calendar has is accepted however it is spelled. -/
theorem read_spelled {spelling : Spelling} (wellFormed : spelling.WellFormed)
    (valid : spelling.time.Valid) :
    read (String.ofList spelling.characters) = .ok ⟨spelling.time, valid⟩ := by
  rw [read, String.toList_ofList, readParts?_spelled wellFormed valid]
  exact check_toCivilTime ⟨spelling.time, valid⟩

end Timestamp

end AccessDecision
