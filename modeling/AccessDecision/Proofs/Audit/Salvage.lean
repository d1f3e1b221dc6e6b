import AccessDecision.Proofs.Audit.SinkAgreement
import AccessDecision.Proofs.Audit.Unforeseen

/-!
# What is salvaged from a file

Reading a file gives the event of each line that holds one, in their order, and one warning
for each other line.  But some lines derail the reading, so that nothing is given at all: a
value that is no object, an object whose timestamp is no text though nothing is missing from it,
and whatever is nested too deep.
-/

namespace AccessDecision

/-- A line holds an event if its value gives it. -/
def AuditFile.Holds (nesting : Nat) (line : List Char) (event : AuditEvent) : Prop :=
  ∃ value, Json.readWithin nesting line = .ok value ∧ AuditEvent.ofValue value = .ok event

theorem AuditEvent.Storable.holds {nesting : Nat} {event : AuditEvent}
    (storable : event.Storable nesting) :
    AuditFile.Holds nesting (Json.write (.object event.record)) event.asWritten :=
  ⟨_, Json.readWithin_write storable.plain, ofValue_record storable.counts⟩

namespace AuditFile

variable {nesting : Nat}

/-- A line holds no event, for a reason that a warning can give. -/
inductive Spoils (nesting : Nat) (line : List Char) : LineFault → Prop where
  | malformed (reads : Json.readWithin nesting line = .error .malformed) :
      Spoils nesting line .malformed
  | longInteger {digits : Nat}
      (reads : Json.readWithin nesting line = .error (.longInteger digits)) :
      Spoils nesting line (.unusable (.longInteger digits))
  | value {value : Value} {failure : Failure} (reads : Json.readWithin nesting line = .ok value)
      (fails : AuditEvent.ofValue value = .error failure)
      (foreseen : ¬ AuditEvent.Unforeseen value failure) : Spoils nesting line (.unusable failure)

/-- A line derails the reading of a file with a failure. -/
inductive Derails (nesting : Nat) (line : List Char) : Failure → Prop where
  | deepList (reads : Json.readWithin nesting line = .error .deepList) :
      Derails nesting line (.nesting false)
  | deepObject (reads : Json.readWithin nesting line = .error .deepObject) :
      Derails nesting line (.nesting true)
  | value {value : Value} {failure : Failure} (reads : Json.readWithin nesting line = .ok value)
      (unforeseen : AuditEvent.Unforeseen value failure) : Derails nesting line failure

theorem readLine_of_holds {line : List Char} {event : AuditEvent}
    (holds : Holds nesting line event) : readLine nesting line = .event event := by
  obtain ⟨value, reads, gives⟩ := holds
  simp [readLine, reads, gives]

theorem readLine_of_spoils {line : List Char} {fault : LineFault}
    (spoils : Spoils nesting line fault) : readLine nesting line = .skipped fault := by
  cases spoils with
  | malformed reads => rw [readLine, reads]
  | longInteger reads => rw [readLine, reads]
  | @value value failure reads fails foreseen =>
      cases isSkipped : skips failure with
      | false => exact absurd (AuditEvent.unforeseen_of_fails fails isSkipped) foreseen
      | true => simp [readLine, reads, fails, isSkipped]

theorem readLine_of_derails {line : List Char} {failure : Failure}
    (derails : Derails nesting line failure) : readLine nesting line = .stopped failure := by
  cases derails with
  | deepList reads => rw [readLine, reads]
  | deepObject reads => rw [readLine, reads]
  | value reads unforeseen =>
      obtain ⟨fails, stops⟩ := unforeseen.fails
      simp [readLine, reads, fails, stops]

/-- A line holds an event, is spoiled or derails the reading. -/
theorem line_cases (line : List Char) :
    (∃ event, Holds nesting line event) ∨ (∃ fault, Spoils nesting line fault) ∨
      ∃ failure, Derails nesting line failure := by
  cases reads : Json.readWithin nesting line with
  | error fault =>
      cases fault with
      | malformed => exact .inr (.inl ⟨_, .malformed reads⟩)
      | longInteger digits => exact .inr (.inl ⟨_, .longInteger reads⟩)
      | deepList => exact .inr (.inr ⟨_, .deepList reads⟩)
      | deepObject => exact .inr (.inr ⟨_, .deepObject reads⟩)
  | ok value =>
      cases gives : AuditEvent.ofValue value with
      | ok event => exact .inl ⟨event, value, reads, gives⟩
      | error failure =>
          by_cases unforeseen : AuditEvent.Unforeseen value failure
          · exact .inr (.inr ⟨failure, .value reads unforeseen⟩)
          · exact .inr (.inl ⟨_, .value reads gives unforeseen⟩)

/-- The events of those lines that hold one, in their order, and one warning for each other line,
with its number. -/
inductive Salvaged (nesting : Nat) (path : String) :
    Nat → List (List Char) → List AuditEvent → List LogRecord → Prop where
  | nil (number : Nat) : Salvaged nesting path number [] [] []
  | event {number : Nat} {line : List Char} {lines : List (List Char)} {event : AuditEvent}
      {events : List AuditEvent} {records : List LogRecord} (holds : Holds nesting line event)
      (others : Salvaged nesting path (number + 1) lines events records) :
      Salvaged nesting path number (line :: lines) (event :: events) records
  | skipped {number : Nat} {line : List Char} {lines : List (List Char)} {fault : LineFault}
      {events : List AuditEvent} {records : List LogRecord} (spoils : Spoils nesting line fault)
      (others : Salvaged nesting path (number + 1) lines events records) :
      Salvaged nesting path number (line :: lines) events (.skippedLine number path fault :: records)

theorem exists_salvaged {lines : List (List Char)}
    (calm : ∀ line ∈ lines, ∀ failure, ¬ Derails nesting line failure) (path : String)
    (number : Nat) :
    ∃ events records, Salvaged nesting path number lines events records := by
  induction lines generalizing number with
  | nil => exact ⟨[], [], .nil number⟩
  | cons line lines ih =>
      rw [List.forall_mem_cons] at calm
      obtain ⟨events, records, others⟩ := ih calm.2 (number + 1)
      rcases line_cases line with ⟨event, holds⟩ | ⟨fault, spoils⟩ | ⟨failure, derails⟩
      · exact ⟨event :: events, records, .event holds others⟩
      · exact ⟨events, _, .skipped spoils others⟩
      · exact absurd derails (calm.1 failure)

variable {path : String} {number : Nat} {lines : List (List Char)} {events : List AuditEvent}
  {records : List LogRecord}

theorem readLines_of_holds {line : List Char} {event : AuditEvent}
    (holds : Holds nesting line event) (path : String) (number : Nat) (others : List (List Char)) :
    readLines nesting path .everything number (line :: others) =
      ((readLines nesting path .everything (number + 1) others).1.map (event :: ·),
        (readLines nesting path .everything (number + 1) others).2) := by
  rw [readLines, readLine_of_holds holds]
  rfl

theorem readLines_of_spoils {line : List Char} {fault : LineFault}
    (spoils : Spoils nesting line fault) (path : String) (number : Nat) (others : List (List Char)) :
    readLines nesting path .everything number (line :: others) =
      ((readLines nesting path .everything (number + 1) others).1,
        .skippedLine number path fault ::
          (readLines nesting path .everything (number + 1) others).2) := by
  rw [readLines, readLine_of_spoils spoils]

theorem Salvaged.readLines_eq (salvaged : Salvaged nesting path number lines events records) :
    readLines nesting path .everything number lines = (.ok events, records) := by
  induction salvaged with
  | nil number => rfl
  | event holds others ih =>
      rw [readLines_of_holds holds, ih]
      rfl
  | skipped spoils others ih => rw [readLines_of_spoils spoils, ih]

/-- What is salvaged is determined by the lines. -/
theorem Salvaged.unique (salvaged : Salvaged nesting path number lines events records)
    {others : List AuditEvent} {otherRecords : List LogRecord}
    (again : Salvaged nesting path number lines others otherRecords) :
    events = others ∧ records = otherRecords := by
  have same := salvaged.readLines_eq.symm.trans again.readLines_eq
  rw [Prod.mk.injEq, Except.ok.injEq] at same
  exact same

theorem Salvaged.not_derails (salvaged : Salvaged nesting path number lines events records) :
    ∀ line ∈ lines, ∀ failure, ¬ Derails nesting line failure := by
  induction salvaged with
  | nil number => exact List.forall_mem_nil _
  | event holds _ ih =>
      rw [List.forall_mem_cons]
      refine ⟨fun failure derails => ?_, ih⟩
      cases (readLine_of_holds holds).symm.trans (readLine_of_derails derails)
  | skipped spoils _ ih =>
      rw [List.forall_mem_cons]
      refine ⟨fun failure derails => ?_, ih⟩
      cases (readLine_of_spoils spoils).symm.trans (readLine_of_derails derails)

/-- What stood before a line that derails the reading is lost, but was warned about. -/
theorem Salvaged.readLines_derailed (salvaged : Salvaged nesting path number lines events records)
    {line : List Char} {failure : Failure} (derails : Derails nesting line failure)
    (others : List (List Char)) :
    readLines nesting path .everything number (lines ++ line :: others) =
      (.error failure, records) := by
  induction salvaged with
  | nil number => rw [List.nil_append, readLines, readLine_of_derails derails]
  | event holds _ ih =>
      rw [List.cons_append, readLines_of_holds holds, ih]
      rfl
  | skipped spoils _ ih => rw [List.cons_append, readLines_of_spoils spoils, ih]

/-- A file that holds a text gives the event of each line that holds one and warns once about each
other line, by its number, unless a line derails the reading: a value that is no object, an object
that is complete but whose timestamp is no text, or a value that is nested too deep.  The first
line that does so makes the reading fail, so that all events are lost. -/
theorem events_salvaged {disk : Disk} {path text : String}
    (holds : disk.read path = .ok text.toUTF8) :
    ((∀ line ∈ Text.linesOf text.toList, ∀ failure, ¬ Derails nesting line failure) →
      ∃ events records, AuditFile.events nesting path .everything disk = (.ok events, records) ∧
        Salvaged nesting path 1 (Text.linesOf text.toList) events records) ∧
    ∀ {earlier later : List (List Char)} {line : List Char} {failure : Failure},
      Text.linesOf text.toList = earlier ++ line :: later →
      (∀ line ∈ earlier, ∀ failure, ¬ Derails nesting line failure) → Derails nesting line failure →
      ∃ events records, AuditFile.events nesting path .everything disk = (.error failure, records) ∧
        Salvaged nesting path 1 earlier events records := by
  rw [events_of_text holds]
  constructor
  · intro calm
    obtain ⟨events, records, salvaged⟩ := exists_salvaged calm path 1
    exact ⟨events, records, salvaged.readLines_eq, salvaged⟩
  · intro earlier later line failure lines calm derails
    obtain ⟨events, records, salvaged⟩ := exists_salvaged calm path 1
    rw [lines]
    exact ⟨events, records, salvaged.readLines_derailed derails later, salvaged⟩

theorem accepts_single (disk : Disk) : disk.Accepts "a" ⟨"", "a", false⟩ where
  leads := Disk.locate_of_ok locate_single disk
  isFile := rfl
  isShort := by decide
  keeps := by decide

def endLines (lines : List (List Char)) : String :=
  String.ofList (lines.flatMap (· ++ ['\n']))

theorem linesOf_endLines {lines : List (List Char)}
    (unbroken : ∀ line ∈ lines, ∀ character ∈ line, character ≠ '\n' ∧ character ≠ '\r') :
    Text.linesOf (endLines lines).toList = lines := by
  rw [endLines, String.toList_ofList, Text.linesOf_flatMap unbroken]

def mixedLines : List (List Char) :=
  [['x'], Json.write (.object escapedEvent.record), ['{', '}']]

theorem unbroken_mixedLines :
    ∀ line ∈ mixedLines, ∀ character ∈ line, character ≠ '\n' ∧ character ≠ '\r' := by
  have unbroken := unbroken_linesOf [escapedEvent]
  simp only [mixedLines, List.forall_mem_cons]
  exact ⟨by simp, unbroken _ List.mem_cons_self, by simp, List.forall_mem_nil _⟩

theorem salvaged_mixedLines : Salvaged Machine.ordinary.nesting "a" 1 mixedLines [escapedEvent]
    [.skippedLine 1 "a" .malformed,
      .skippedLine 3 "a" (.unusable (.missingKey (.text "checker")))] := by
  have reads : Json.readWithin Machine.ordinary.nesting ['{', '}'] = .ok (.object []) := rfl
  exact .skipped (.malformed rfl) (.event (textual_escapedEvent.storable (by decide)).holds
    (.skipped (.value reads rfl nofun) (.nil 4)))

theorem events_salvaged_mixed :
    Disk.read [("a", (endLines mixedLines).toUTF8)] "a" = .ok (endLines mixedLines).toUTF8 ∧
    (∀ line ∈ Text.linesOf (endLines mixedLines).toList, ∀ failure,
      ¬ Derails Machine.ordinary.nesting line failure) ∧
    AuditFile.events Machine.ordinary.nesting "a" .everything
        [("a", (endLines mixedLines).toUTF8)] =
      (.ok [escapedEvent], [.skippedLine 1 "a" .malformed,
        .skippedLine 3 "a" (.unusable (.missingKey (.text "checker")))]) := by
  have holds : Disk.read [("a", (endLines mixedLines).toUTF8)] "a" =
      .ok (endLines mixedLines).toUTF8 := (accepts_single _).read_eq rfl
  have calm : ∀ line ∈ Text.linesOf (endLines mixedLines).toList, ∀ failure,
      ¬ Derails Machine.ordinary.nesting line failure := by
    rw [linesOf_endLines unbroken_mixedLines]
    exact salvaged_mixedLines.not_derails
  obtain ⟨events, records, gives, salvaged⟩ := (events_salvaged holds).1 calm
  rw [linesOf_endLines unbroken_mixedLines] at salvaged
  obtain ⟨rfl, rfl⟩ := salvaged.unique salvaged_mixedLines
  exact ⟨holds, calm, gives⟩

/-- A line that holds no object hides the event before it. -/
theorem events_derailed_list :
    AuditFile.events Machine.ordinary.nesting "a" .everything
        [("a", (endLines (mixedLines ++ [['[', ']']])).toUTF8)] =
      (.error (.kind .listIndex), [.skippedLine 1 "a" .malformed,
        .skippedLine 3 "a" (.unusable (.missingKey (.text "checker")))]) := by
  have unbroken : ∀ line ∈ mixedLines ++ [['[', ']']], ∀ character ∈ line,
      character ≠ '\n' ∧ character ≠ '\r' := by
    rw [List.forall_mem_append]
    exact ⟨unbroken_mixedLines, by simp⟩
  have reads : Json.readWithin Machine.ordinary.nesting ['[', ']'] = .ok (.list []) := rfl
  have derails : Derails Machine.ordinary.nesting ['[', ']'] (.kind .listIndex) :=
    .value reads (.notRecord rfl)
  rw [events_of_text ((accepts_single _).read_eq rfl), linesOf_endLines unbroken]
  exact salvaged_mixedLines.readLines_derailed derails []

end AuditFile

end AccessDecision
