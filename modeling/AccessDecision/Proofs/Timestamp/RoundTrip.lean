import AccessDecision.Proofs.Text.Numeral
import AccessDecision.Timestamp.Printer
import AccessDecision.Timestamp.Reader

/-!
# Reading written timestamps

A written timestamp is read back part by part: the date up to the letter that separates it, the
time of day up to the sign of the offset, and the offset.  Only an offset of less than a second
is lost.
-/

namespace AccessDecision

theorem CivilTime.Valid.date_lt {time : CivilTime} (valid : time.Valid) :
    time.year < 10000 ∧ time.month < 100 ∧ time.day < 100 := by
  have years := valid.year
  have months := valid.month
  have days := valid.day
  have longest : daysInMonth time.year time.month ≤ 31 := by
    rw [daysInMonth]
    repeat' split
    all_goals omega
  omega

namespace TimestampReader

open Text

theorem takeNumber_fixedDigits (width : Nat) {number : Nat} (fits : number < Nat.pow 10 width)
    (rest : List Char) :
    takeNumber width (fixedDigits 10 width number ++ rest) = some (number, rest) := by
  have digits : (fixedDigits 10 width number ++ rest).take width = fixedDigits 10 width number :=
    List.take_left' (fixedDigits_length 10 width number)
  have others : (fixedDigits 10 width number ++ rest).drop width = rest :=
    List.drop_left' (fixedDigits_length 10 width number)
  have areDigits : (fixedDigits 10 width number).all isAsciiDigit = true :=
    List.all_eq_true.mpr fun _ member => isAsciiDigit_of_mem_fixedDigits member
  rw [takeNumber, digits, others, ofDigitValues_fixedDigits fits]
  exact if_pos ⟨fixedDigits_length 10 width number, areDigits⟩

theorem takeNumber_all (width : Nat) {number : Nat} (fits : number < Nat.pow 10 width) :
    takeNumber width (fixedDigits 10 width number) = some (number, []) := by
  have reads := takeNumber_fixedDigits width fits []
  rwa [List.append_nil] at reads

theorem widen_of_ascii {characters : List Char}
    (ascii : ∀ character ∈ characters, character.toNat < 0x80) :
    widen characters = characters := by
  induction characters with
  | nil => rfl
  | cons character rest ih =>
      rw [List.forall_mem_cons] at ascii
      have later := ih ascii.2
      rw [widen] at later ⊢
      rw [List.flatMap_cons, if_pos ascii.1, later, List.singleton_append]

def dateText (year month day : Nat) : List Char :=
  fixedDigits 10 4 year ++ '-' :: (fixedDigits 10 2 month ++ '-' :: fixedDigits 10 2 day)

theorem digitCharacter_ne_week : ∀ value < 10, digitCharacter value ≠ 'W' := by
  decide

theorem head?_fixedDigits (number : Nat) (rest : List Char) :
    (fixedDigits 10 2 number ++ rest).head? ≠ some 'W' := by
  have digit := digitCharacter_ne_week (number / 10 % 10) (Nat.mod_lt _ (by decide))
  simpa [fixedDigits] using digit

theorem dateLength?_dateText (year month day : Nat) (rest : List Char) :
    dateLength? (dateText year month day ++ rest) = some 10 := by
  have digit := digitCharacter_ne_week (month / 10 % 10) (Nat.mod_lt _ (by decide))
  simp [dateLength?, dateText, fixedDigits, digit]

theorem readDate_dateText {year month day : Nat} (years : year < 10000) (months : month < 100)
    (days : day < 100) : readDate (dateText year month day) = some (year, month, day) := by
  have first := takeNumber_fixedDigits 4 years
    ('-' :: (fixedDigits 10 2 month ++ '-' :: fixedDigits 10 2 day))
  have second := takeNumber_fixedDigits 2 months ('-' :: fixedDigits 10 2 day)
  have third := takeNumber_all 2 days
  have notWeek := head?_fixedDigits month ('-' :: fixedDigits 10 2 day)
  simp [readDate, dateText, first, second, third, notWeek, -List.head?_append]

theorem ascii_dateText (year month day : Nat) :
    ∀ character ∈ dateText year month day, character.toNat < 0x80 := by
  have digits (width number : Nat) : ∀ character ∈ fixedDigits 10 width number,
      character.toNat < 0x80 := by
    intro character member
    have code := toNat_of_isAsciiDigit (isAsciiDigit_of_mem_fixedDigits member)
    omega
  simp only [dateText, List.forall_mem_append, List.forall_mem_cons]
  exact ⟨digits 4 year, by decide, digits 2 month, by decide, digits 2 day⟩

theorem widen_dateText (year month day : Nat) (rest : List Char) :
    widen (dateText year month day ++ rest) = dateText year month day ++ widen rest := by
  rw [widen, List.flatMap_append, ← widen, ← widen, widen_of_ascii (ascii_dateText year month day)]

theorem readParts?_dateText {year month day : Nat} (years : year < 10000) (months : month < 100)
    (days : day < 100) (separator : Char) {rest : List Char}
    (ascii : ∀ character ∈ rest, character.toNat < 0x80) :
    readParts? (dateText year month day ++ separator :: rest) =
      readTime (year, month, day) rest := by
  have dateLength : (dateText year month day).length = 10 := by
    simp [dateText]
  have date (after : List Char) : (dateText year month day ++ after).take 10 =
      dateText year month day :=
    List.take_left' dateLength
  have after : (dateText year month day ++ separator :: rest).drop 11 = rest := by
    rw [← List.singleton_append, ← List.append_assoc]
    exact List.drop_left' (by rw [List.length_append, dateLength, List.length_singleton])
  have long : ¬ (dateText year month day ++ widen (separator :: rest)).length ≤ 10 := by
    have filled : 0 < (widen (separator :: rest)).length := by
      have size := separator.utf8Size_pos
      rw [widen, List.flatMap_cons, List.length_append]
      split
      · rw [List.length_singleton]
        omega
      · rw [List.length_replicate]
        omega
    rw [List.length_append, dateLength]
    omega
  rw [readParts?, widen_dateText, dateLength?_dateText]
  simp only [Option.bind_eq_bind, Option.bind_some, date, readDate_dateText years months days,
    if_neg long, after, widen_of_ascii ascii]

theorem readParts_last {number : Nat} (fits : number < 100) (count : Nat)
    (colons : Option Bool) :
    readParts (count + 1) colons (fixedDigits 10 2 number) = some ([number], .finish false) := by
  have reads := takeNumber_all 2 fits
  rw [readParts, reads]

theorem readParts_colon {number : Nat} (fits : number < 100) (count : Nat)
    {colons : Option Bool} (joined : colons.getD true = true) {after : List Char}
    (goesOn : after ≠ []) :
    readParts (count + 1) colons (fixedDigits 10 2 number ++ ':' :: after) =
      (readParts count (some true) after).map fun (values, rest) => (number :: values, rest) := by
  have reads := takeNumber_fixedDigits 2 fits (':' :: after)
  have filled : after.isEmpty = false := by simpa using goesOn
  rw [readParts, reads]
  simp [joined, filled]

theorem readParts_fraction {number : Nat} (fits : number < 100) (count : Nat)
    {digits : List Char} (filled : digits ≠ []) :
    readParts (count + 1) (some true) (fixedDigits 10 2 number ++ '.' :: digits) =
      some ([number], .fraction digits) := by
  have reads := takeNumber_fixedDigits 2 fits ('.' :: digits)
  have notEmpty : digits.isEmpty = false := by simpa using filled
  rw [readParts, reads]
  simp [notEmpty]

theorem fixedDigits_ne_nil (width number : Nat) (rest : List Char) :
    fixedDigits 10 (width + 1) number ++ rest ≠ [] := by
  simp [fixedDigits]

theorem readClock_short {hour minute : Nat} (hours : hour < 100) (minutes : minute < 100) :
    readClock (fixedDigits 10 2 hour ++ ':' :: fixedDigits 10 2 minute) =
      some ((hour, minute, 0, 0), false) := by
  have filled : fixedDigits 10 2 minute ≠ [] := by simp [fixedDigits]
  rw [readClock, readParts_colon hours 2 rfl filled, readParts_last minutes]
  rfl

/-- A time of day is read back to the microsecond. -/
theorem readClock_clockText {hour minute second microsecond : Nat} (hours : hour < 100)
    (minutes : minute < 100) (seconds : second < 100) (parts : microsecond < 1000000) :
    readClock (clockText hour minute second ++ fractionText microsecond) =
      some ((hour, minute, second, microsecond), false) := by
  have text : clockText hour minute second ++ fractionText microsecond =
      fixedDigits 10 2 hour ++ ':' :: (fixedDigits 10 2 minute ++
        ':' :: (fixedDigits 10 2 second ++ fractionText microsecond)) := by
    simp [clockText]
  rw [readClock, text, readParts_colon hours 2 rfl (fixedDigits_ne_nil 1 minute _),
    readParts_colon minutes 1 rfl (fixedDigits_ne_nil 1 second _), fractionText]
  by_cases whole : microsecond = 0
  · subst whole
    rw [if_pos rfl, List.append_nil, readParts_last seconds]
    rfl
  · have filled : fixedDigits 10 6 microsecond ≠ [] := by simp [fixedDigits]
    have digits := takeNumber_all 6 parts
    rw [if_neg whole, readParts_fraction seconds 0 filled]
    simp [digits]

/-- An offset is read back, unless it is less than a second but not nothing. -/
theorem readOffset_offsetText {ahead : Int} (short : ahead.natAbs < dayLength)
    (counts : ahead = 0 ∨ 1000000 ≤ ahead.natAbs) :
    readOffset (offsetText ahead) = some ahead := by
  rw [dayLength] at short
  have hours : ahead.natAbs / 1000000 / 3600 < 100 := by omega
  have minutes : ahead.natAbs / 1000000 / 60 % 60 < 100 := by omega
  have seconds : ahead.natAbs / 1000000 % 60 < 100 := by omega
  have parts : ahead.natAbs % 1000000 < 1000000 := by omega
  obtain ⟨sign, clock, text, isSign, reads⟩ : ∃ sign clock,
      offsetText ahead = sign :: clock ∧ sign = (if ahead < 0 then '-' else '+') ∧
      readClock clock = some ((ahead.natAbs / 1000000 / 3600, ahead.natAbs / 1000000 / 60 % 60,
        ahead.natAbs / 1000000 % 60, ahead.natAbs % 1000000), false) := by
    refine ⟨_, _, rfl, rfl, ?_⟩
    split
    · next whole =>
        rw [List.append_nil, readClock_short hours minutes, whole.1, whole.2]
    · have reads := readClock_clockText hours minutes seconds parts
      simpa [clockText] using reads
  have notUniversal : sign ≠ 'Z' := by
    rw [isSign]
    split <;> decide
  have total : (ahead.natAbs / 1000000 / 3600 * 60 + ahead.natAbs / 1000000 / 60 % 60) * 60 +
      ahead.natAbs / 1000000 % 60 = ahead.natAbs / 1000000 := by
    omega
  rw [text, readOffset, reads]
  · dsimp only
    rw [total, isSign]
    rcases counts with rfl | large
    · rfl
    · have someSeconds : ahead.natAbs / 1000000 ≠ 0 := by omega
      rw [if_neg someSeconds]
      by_cases behind : ahead < 0
      · rw [if_pos behind, if_pos rfl]
        congr 1
        omega
      · rw [if_neg behind, if_neg (by decide)]
        congr 1
        omega
  · exact fun isUniversal => absurd isUniversal notUniversal

/-- A character of a date or a time of day: it is in ASCII and begins no offset. -/
structure IsClockwork (character : Char) : Prop where
  ascii : character.toNat < 0x80
  inside : beginsOffset character = false

theorem isClockwork_of_isAsciiDigit {character : Char} (isDigit : isAsciiDigit character = true) :
    IsClockwork character := by
  have code := toNat_of_isAsciiDigit isDigit
  have differs {other : Char} (outside : other.toNat < 48 ∨ 57 < other.toNat) :
      (character == other) = false := by
    rw [beq_eq_false_iff_ne]
    rintro rfl
    omega
  constructor
  · omega
  · rw [beginsOffset, differs (by decide), differs (by decide), differs (by decide)]
    rfl

theorem isClockwork_fixedDigits (width number : Nat) :
    ∀ character ∈ fixedDigits 10 width number, IsClockwork character := fun _ member =>
  isClockwork_of_isAsciiDigit (isAsciiDigit_of_mem_fixedDigits member)

theorem isClockwork_mark {character : Char} (isMark : character = ':' ∨ character = '.') :
    IsClockwork character := by
  rcases isMark with rfl | rfl <;> exact ⟨by decide, rfl⟩

theorem isClockwork_clockText (hour minute second : Nat) :
    ∀ character ∈ clockText hour minute second, IsClockwork character := by
  simp only [clockText, List.forall_mem_append, List.forall_mem_cons]
  have colon := isClockwork_mark (.inl rfl)
  exact ⟨⟨isClockwork_fixedDigits 2 hour, colon, isClockwork_fixedDigits 2 minute⟩, colon,
    isClockwork_fixedDigits 2 second⟩

theorem isClockwork_fractionText (microsecond : Nat) :
    ∀ character ∈ fractionText microsecond, IsClockwork character := by
  rw [fractionText]
  split
  · exact List.forall_mem_nil _
  · rw [List.forall_mem_cons]
    exact ⟨isClockwork_mark (.inr rfl), isClockwork_fixedDigits 6 microsecond⟩

theorem offsetText_cons (ahead : Int) :
    ∃ sign clock, offsetText ahead = sign :: clock ∧ beginsOffset sign = true ∧
      sign.toNat < 0x80 ∧ ∀ character ∈ clock, IsClockwork character := by
  refine ⟨_, _, rfl, ?_, ?_, ?_⟩
  · split <;> rfl
  · split <;> decide
  · have colon := isClockwork_mark (.inl rfl)
    simp only [List.forall_mem_append, List.forall_mem_cons]
    refine ⟨⟨isClockwork_fixedDigits 2 _, colon, isClockwork_fixedDigits 2 _⟩, ?_⟩
    split
    · exact List.forall_mem_nil _
    · rw [List.forall_mem_append, List.forall_mem_cons]
      exact ⟨⟨colon, isClockwork_fixedDigits 2 _⟩, isClockwork_fractionText _⟩

theorem readTime_of_readClock {year month day hour minute second microsecond : Nat}
    {clock : List Char} (inside : ∀ character ∈ clock, IsClockwork character)
    (reads : readClock clock = some ((hour, minute, second, microsecond), false)) :
    readTime (year, month, day) clock =
      some ⟨year, month, day, hour, minute, second, microsecond, none⟩ := by
  have within : ∀ character ∈ clock, (!beginsOffset character) = true := by
    intro character member
    rw [(inside character member).inside]
    rfl
  have whole : (clock ++ []).takeWhile (!beginsOffset ·) = clock ++ [] :=
    List.takeWhile_append_of_pos within
  have nothing : (clock ++ []).dropWhile (!beginsOffset ·) = [] :=
    List.dropWhile_append_of_pos within
  rw [List.append_nil] at whole nothing
  rw [readTime, whole, nothing]
  simp [reads]

theorem readTime_of_readOffset {year month day hour minute second microsecond : Nat}
    {clock zone : List Char} {sign : Char} {ahead : Int}
    (inside : ∀ character ∈ clock, IsClockwork character)
    (reads : readClock clock = some ((hour, minute, second, microsecond), false))
    (begins : beginsOffset sign = true) (readsZone : readOffset (sign :: zone) = some ahead) :
    readTime (year, month, day) (clock ++ sign :: zone) =
      some ⟨year, month, day, hour, minute, second, microsecond, some ahead⟩ := by
  have within : ∀ character ∈ clock, (!beginsOffset character) = true := by
    intro character member
    rw [(inside character member).inside]
    rfl
  rw [readTime, List.takeWhile_append_of_pos within, List.dropWhile_append_of_pos within]
  simp [reads, begins, readsZone]

/-- The time of day and the offset of a written timestamp are read back. -/
theorem readTime_written {time : CivilTime} (valid : time.Valid)
    (counts : ∀ ahead ∈ time.offset, ahead = 0 ∨ 1000000 ≤ ahead.natAbs) :
    readTime (time.year, time.month, time.day)
      (clockText time.hour time.minute time.second ++ fractionText time.microsecond ++
        time.offset.elim [] offsetText) = some time := by
  have hours : time.hour < 100 := by have bound := valid.hour; omega
  have minutes : time.minute < 100 := by have bound := valid.minute; omega
  have seconds : time.second < 100 := by have bound := valid.second; omega
  have clock := readClock_clockText hours minutes seconds valid.microsecond
  have inside : ∀ character ∈ clockText time.hour time.minute time.second ++
      fractionText time.microsecond, IsClockwork character :=
    List.forall_mem_append.mpr ⟨isClockwork_clockText _ _ _, isClockwork_fractionText _⟩
  obtain ⟨year, month, day, hour, minute, second, microsecond, offset⟩ := time
  cases offset with
  | none =>
      rw [Option.elim_none, List.append_nil]
      exact readTime_of_readClock inside clock
  | some ahead =>
      have reads := readOffset_offsetText (valid.offset ahead rfl) (counts ahead rfl)
      obtain ⟨sign, rest, text, begins, -, -⟩ := offsetText_cons ahead
      rw [text] at reads
      rw [Option.elim_some, text]
      exact readTime_of_readOffset inside clock begins reads

end TimestampReader

namespace Timestamp

open Text TimestampReader

theorem characters_eq (time : Timestamp) :
    time.characters = dateText time.year time.month time.day ++
      'T' :: (clockText time.hour time.minute time.second ++ fractionText time.microsecond ++
        time.offset.elim [] offsetText) := by
  simp [characters, dateText]

theorem ascii_afterDate (time : Timestamp) :
    ∀ character ∈ clockText time.hour time.minute time.second ++ fractionText time.microsecond ++
      time.offset.elim [] offsetText, character.toNat < 0x80 := by
  simp only [List.forall_mem_append]
  refine ⟨⟨?_, ?_⟩, ?_⟩
  · exact fun character member => (isClockwork_clockText _ _ _ character member).ascii
  · exact fun character member => (isClockwork_fractionText _ character member).ascii
  · cases time.offset with
    | none => exact List.forall_mem_nil _
    | some ahead =>
        obtain ⟨sign, clock, text, -, ascii, isClock⟩ := offsetText_cons ahead
        rw [Option.elim_some, text, List.forall_mem_cons]
        exact ⟨ascii, fun character member => (isClock character member).ascii⟩

theorem check_toCivilTime (time : Timestamp) : time.toCivilTime.check = .ok time := by
  have valid := time.valid
  rw [CivilTime.check, dif_pos valid.offset, dif_pos valid.year, dif_pos valid.month,
    dif_pos valid.day, dif_pos valid.hour, dif_pos valid.minute, dif_pos valid.second,
    dif_pos valid.microsecond]

/-- A timestamp is given back by its text, unless its offset is less than a second but not
nothing. -/
theorem read_text (time : Timestamp)
    (counts : ∀ ahead ∈ time.offset, ahead = 0 ∨ 1000000 ≤ ahead.natAbs) :
    read time.text = .ok time := by
  have valid := time.valid
  obtain ⟨years, months, days⟩ := valid.date_lt
  have parts : readParts? time.characters = some time.toCivilTime := by
    rw [characters_eq, readParts?_dateText years months days 'T' time.ascii_afterDate,
      readTime_written valid counts]
  have text : time.text.toList = time.characters := String.toList_ofList
  rw [read, text, parts]
  exact time.check_toCivilTime

end Timestamp

end AccessDecision
