import AccessDecision.Proofs.Audit.Salvage
import AccessDecision.Proofs.Json.Torn

/-!
# Going on with a file

Events are written behind whatever a file holds.  If the last line of the file is ended, or blank,
then all of them are given back behind the events that the file held.  Otherwise the first of them
goes on with that line, and is lost.
-/

namespace AccessDecision

namespace AuditFile

variable {nesting : Nat} {path : String} {number : Nat} {lines others : List (List Char)}
  {events later : List AuditEvent} {records laterRecords : List LogRecord}

theorem Salvaged.append (salvaged : Salvaged nesting path number lines events records)
    (more : Salvaged nesting path (number + lines.length) others later laterRecords) :
    Salvaged nesting path number (lines ++ others) (events ++ later) (records ++ laterRecords) := by
  induction salvaged with
  | nil number => exact more
  | @event number line lines event events records holds _ ih =>
      refine .event holds (ih ?_)
      rwa [List.length_cons, Nat.add_comm lines.length 1, ← Nat.add_assoc] at more
  | @skipped number line lines fault events records spoils _ ih =>
      refine .skipped spoils (ih ?_)
      rwa [List.length_cons, Nat.add_comm lines.length 1, ← Nat.add_assoc] at more

theorem salvaged_linesOf
    (kept : ∀ event ∈ events, Holds nesting (Json.write (.object event.record)) event.asWritten)
    (path : String) (number : Nat) : 
    Salvaged nesting path number (linesOf events) (events.map AuditEvent.asWritten) [] := by
  induction events generalizing number with
  | nil => exact .nil number
  | cons event events ih =>
      rw [List.forall_mem_cons] at kept
      exact .event kept.1 (ih kept.2 (number + 1))

theorem write_record (event : AuditEvent) :
    ∃ rest, Json.write (.object event.record) = Json.opened rest := by
  have name : Json.writeText "event_id" =
      ['"', 'e', 'v', 'e', 'n', 't', '_', 'i', 'd', '"'] := rfl
  rw [Json.write, AuditEvent.record, Json.separated_writeFields, name]
  exact ⟨_, rfl⟩

/-- The first of the events that are written behind a text goes on with its unfinished line. -/
theorem linesOf_append (text : String) (first : AuditEvent) (later : List AuditEvent) :
    Text.linesOf (text ++ textOf (first :: later)).toList =
      (Text.splitLines text.toList).1 ++
        ((Text.splitLines text.toList).2 ++ Json.write (.object first.record)) ::
          linesOf later := by
  have splits := Text.splitLines_flatMap (unbroken_linesOf (first :: later))
  have noFeed : ∀ rest, (linesOf (first :: later)).flatMap (· ++ ['\n']) ≠ '\n' :: rest := by
    intro rest same
    obtain ⟨more, begins⟩ := write_record first
    rw [linesOf, List.map_cons, List.flatMap_cons, begins] at same
    cases same
  rw [String.toList_append, textOf, String.toList_ofList, Text.linesOf,
    Text.splitLines_append noFeed splits]
  rfl

theorem Salvaged.split (salvaged : Salvaged nesting path number (lines ++ others) events records) :
    ∃ first firstRecords second secondRecords, events = first ++ second ∧
      Salvaged nesting path number lines first firstRecords ∧
      Salvaged nesting path (number + lines.length) others second secondRecords := by
  induction lines generalizing number events records with
  | nil => exact ⟨[], [], events, records, rfl, .nil number, salvaged⟩
  | cons line lines ih =>
      rw [List.length_cons, Nat.add_comm lines.length 1, ← Nat.add_assoc]
      rcases salvaged with _ | ⟨holds, rest⟩ | ⟨spoils, rest⟩
      · obtain ⟨first, firstRecords, second, secondRecords, rfl, before, behind⟩ := ih rest
        exact ⟨_ :: first, firstRecords, second, secondRecords, rfl, .event holds before, behind⟩
      · obtain ⟨first, firstRecords, second, secondRecords, rfl, before, behind⟩ := ih rest
        exact ⟨first, _, second, secondRecords, rfl, .skipped spoils before, behind⟩

theorem Salvaged.nil_of_blank {line : List Char} (isBlank : Json.skipSpaces line = [])
    (salvaged : Salvaged nesting path number [line] events records) : events = [] := by
  rcases salvaged with _ | ⟨⟨value, reads, -⟩, -⟩ | ⟨-, rest⟩
  · obtain ⟨after, found, -⟩ := Json.readWithin_ok_iff.mp reads
    rw [isBlank] at found
    cases found
  · cases rest
    rfl

theorem Holds.behind_blanks {torn line : List Char} {event : AuditEvent}
    (isBlank : Json.skipSpaces torn = []) (holds : Holds nesting line event) :
    Holds nesting (torn ++ line) event := by
  obtain ⟨value, reads, gives⟩ := holds
  exact ⟨value, Json.readWithin_blanks isBlank reads, gives⟩

/-- The line of an event holds no event any more behind a text that is not blank. -/
theorem not_holds_torn {torn : List Char} {event : AuditEvent}
    (notBlank : Json.skipSpaces torn ≠ [])
    (kept : Holds nesting (Json.write (.object event.record)) event.asWritten) :
    (∃ fault, Spoils nesting (torn ++ Json.write (.object event.record)) fault) ∨
      ∃ isObject,
        Derails nesting (torn ++ Json.write (.object event.record)) (.nesting isObject) := by
  obtain ⟨rest, begins⟩ := write_record event
  obtain ⟨value, reads, -⟩ := kept
  rw [begins] at reads ⊢
  have fails := Json.readWithin_torn notBlank reads
  rcases line_cases (torn ++ Json.opened rest) with ⟨event, value, found, -⟩ | spoils |
    ⟨failure, derails⟩
  · exact absurd found (fails value)
  · exact .inl spoils
  · cases derails with
    | deepList found => exact .inr ⟨false, .deepList found⟩
    | deepObject found => exact .inr ⟨true, .deepObject found⟩
    | value found => exact absurd found (fails _)

/-- What a text gives is what its ended lines give, and what its unfinished line does if that is
not blank. -/
theorem Salvaged.ended {text : String}
    (salvaged : Salvaged nesting path 1 (Text.linesOf text.toList) events records) :
    ∃ ended endedRecords,
      Salvaged nesting path 1 (Text.splitLines text.toList).1 ended endedRecords ∧
      ended <+: events ∧
      (Json.skipSpaces (Text.splitLines text.toList).2 = [] → ended = events) := by
  rw [Text.linesOf] at salvaged
  dsimp only at salvaged
  split at salvaged
  · exact ⟨events, records, salvaged, List.prefix_refl events, fun _ => rfl⟩
  · obtain ⟨ended, endedRecords, last, _, rfl, before, behind⟩ := salvaged.split
    refine ⟨ended, endedRecords, before, List.prefix_append ended last, fun isBlank => ?_⟩
    rw [behind.nil_of_blank isBlank, List.append_nil]

/-- A file that takes events gives those that it held, and all the new ones behind them, if its
last line is ended or blank and each new event is given back by its own line.  If its last line is
neither, then the first of the new events is written into that line, and neither is given: only
those of the ended lines and the other new ones are, unless the reading fails because that line is
nested too deep. -/
theorem events_continued {disk : Disk} {path : String} {place : Disk.Place}
    (accepts : disk.Accepts path place) {text : String}
    (holds : disk.lookup place.path = some text.toUTF8)
    (calm : ∀ line ∈ Text.linesOf text.toList, ∀ failure, ¬ Derails nesting line failure)
    {events : List AuditEvent}
    (kept : ∀ event ∈ events, Holds nesting (Json.write (.object event.record)) event.asWritten) :
    ∃ written earlier records,
      Delivered (some (.file (.text path))) disk (deliveriesOf events) (some (.file (.text path)))
        written ∧
      AuditFile.events nesting path .everything disk = (.ok earlier, records) ∧
      Salvaged nesting path 1 (Text.linesOf text.toList) earlier records ∧
      (Json.skipSpaces (Text.splitLines text.toList).2 = [] →
        ∃ records, AuditFile.events nesting path .everything written =
          (.ok (earlier ++ events.map AuditEvent.asWritten), records)) ∧
      (Json.skipSpaces (Text.splitLines text.toList).2 ≠ [] → ∀ first later,
        events = first :: later →
        ∃ ended records endedRecords,
          Salvaged nesting path 1 (Text.splitLines text.toList).1 ended endedRecords ∧
          ended <+: earlier ∧
          (AuditFile.events nesting path .everything written =
              (.ok (ended ++ later.map AuditEvent.asWritten), records) ∨
            ∃ isObject, AuditFile.events nesting path .everything written =
              (.error (.nesting isObject), records))) := by
  obtain ⟨earlier, records, salvaged⟩ := exists_salvaged calm path 1
  obtain ⟨ended, endedRecords, before, isPrefix, whole⟩ := salvaged.ended
  obtain ⟨written, delivered, writtenAccepts, writtenHolds⟩ := delivered_file accepts holds events
  have reads := events_of_text (accepts.read_eq holds) nesting .everything
  have writtenReads := events_of_text (writtenAccepts.read_eq writtenHolds) nesting .everything
  refine ⟨written, earlier, records, delivered, reads.trans salvaged.readLines_eq, salvaged, ?_, ?_⟩
  · intro isBlank
    obtain rfl := whole isBlank
    cases events with
    | nil =>
        have same : text ++ textOf [] = text := String.append_empty
        rw [same, salvaged.readLines_eq] at writtenReads
        exact ⟨records, by rw [writtenReads, List.map_nil, List.append_nil]⟩
    | cons first later =>
        rw [List.forall_mem_cons] at kept
        have continued := before.append
          (.event (kept.1.behind_blanks isBlank) (salvaged_linesOf kept.2 path _))
        rw [linesOf_append, continued.readLines_eq] at writtenReads
        exact ⟨_, writtenReads⟩
  · rintro notBlank first later rfl
    rw [List.forall_mem_cons] at kept
    rw [linesOf_append] at writtenReads
    rcases not_holds_torn notBlank kept.1 with ⟨fault, spoils⟩ | ⟨isObject, derails⟩
    · have continued := before.append (.skipped spoils (salvaged_linesOf kept.2 path _))
      rw [continued.readLines_eq] at writtenReads
      exact ⟨ended, _, endedRecords, before, isPrefix, .inl writtenReads⟩
    · rw [before.readLines_derailed derails] at writtenReads
      exact ⟨ended, _, endedRecords, before, isPrefix, .inr ⟨isObject, writtenReads⟩⟩

theorem events_continued_mixed :
    (∀ event ∈ [escapedEvent],
      Holds Machine.ordinary.nesting (Json.write (.object event.record)) event.asWritten) ∧
    ∃ written records,
      Delivered (some (.file (.text "a"))) [("a", (endLines mixedLines).toUTF8)]
        (deliveriesOf [escapedEvent]) (some (.file (.text "a"))) written ∧
      AuditFile.events Machine.ordinary.nesting "a" .everything written =
        (.ok [escapedEvent, escapedEvent], records) := by
  have calm : ∀ line ∈ Text.linesOf (endLines mixedLines).toList, ∀ failure,
      ¬ Derails Machine.ordinary.nesting line failure := by
    rw [linesOf_endLines unbroken_mixedLines]
    exact salvaged_mixedLines.not_derails
  have kept : ∀ event ∈ [escapedEvent],
      Holds Machine.ordinary.nesting (Json.write (.object event.record)) event.asWritten := by
    rw [List.forall_mem_singleton]
    exact (textual_escapedEvent.storable (by decide)).holds
  have isEnded : Json.skipSpaces (Text.splitLines (endLines mixedLines).toList).2 = [] := by
    rw [endLines, String.toList_ofList, Text.splitLines_flatMap unbroken_mixedLines]
    rfl
  obtain ⟨written, earlier, _, delivered, -, salvaged, continues, -⟩ :=
    events_continued (accepts_single [("a", (endLines mixedLines).toUTF8)]) rfl calm kept
  rw [linesOf_endLines unbroken_mixedLines] at salvaged
  obtain ⟨rfl, -⟩ := salvaged.unique salvaged_mixedLines
  obtain ⟨records, gives⟩ := continues isEnded
  exact ⟨kept, written, records, delivered, gives⟩

theorem spoils_letter (rest : List Char) : Spoils nesting ('x' :: rest) .malformed := by
  refine .malformed ?_
  rw [Json.readWithin, Json.skipSpaces_cons (by decide), Json.readValue_atom (by decide)]
  rfl

/-- An event that is taken by a file which ends in a letter is not given back. -/
theorem events_torn_letter :
    ∃ written,
      Delivered (some (.file (.text "a"))) [("a", "x".toUTF8)] (deliveriesOf [escapedEvent])
        (some (.file (.text "a"))) written ∧
      AuditFile.events Machine.ordinary.nesting "a" .everything written =
        (.ok [], [.skippedLine 1 "a" .malformed]) := by
  have torn : List.lookup "a" [("a", "x".toUTF8)] = some "x".toUTF8 := rfl
  obtain ⟨written, delivered, accepts, holds⟩ :=
    delivered_file (accepts_single [("a", "x".toUTF8)]) torn [escapedEvent]
  have salvaged : Salvaged Machine.ordinary.nesting "a" 1
      (Text.linesOf ("x" ++ textOf [escapedEvent]).toList) []
      [.skippedLine 1 "a" .malformed] := by
    rw [linesOf_append]
    exact .skipped (spoils_letter _) (.nil 2)
  refine ⟨written, delivered, ?_⟩
  rw [events_of_text (accepts.read_eq holds), salvaged.readLines_eq]

end AuditFile

end AccessDecision
