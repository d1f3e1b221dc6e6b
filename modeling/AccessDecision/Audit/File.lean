import AccessDecision.Audit.Disk
import AccessDecision.Audit.Filter
import AccessDecision.Json.Reader
import AccessDecision.Json.Writer
import AccessDecision.Log
import AccessDecision.Text.Lines

/-!
# Audit events in a file

Each event takes one line of the file, written at its end.  When the events are read
back, a line that holds no event is skipped with a warning; only a value of the wrong
kind, one that is nested too deep, and octets that are no text stop the reading.
-/

namespace AccessDecision

namespace AuditFile

def lineOf (event : AuditEvent) : String :=
  Json.line (.object event.record) ++ "\n"

def log (path : String) (event : AuditEvent) (disk : Disk) : Except Failure Disk :=
  (disk.append path (lineOf event).toUTF8).mapError .file

/-- Whether a failure concerns a line only, so that reading goes on after it. -/
def skips : Failure → Bool
  | .missingKey _ => true
  | .longInteger _ => true
  | .timestamp .notText => false
  | .timestamp _ => true
  | _ => false

/-- What a line of a file amounts to. -/
inductive LineReading where
  | event (event : AuditEvent)
  | skipped (fault : LineFault)
  | stopped (failure : Failure)

/-- Read a line on a machine that nests lists and objects up to a limit. -/
def readLine (nesting : Nat) (line : List Char) : LineReading :=
  match Json.readWithin nesting line with
  | .error .malformed => .skipped .malformed
  | .error (.longInteger digits) => .skipped (.unusable (.longInteger digits))
  | .error .deepList => .stopped (.nesting false)
  | .error .deepObject => .stopped (.nesting true)
  | .ok value =>
      match AuditEvent.ofValue value with
      | .ok event => .event event
      | .error failure =>
          if skips failure then .skipped (.unusable failure) else .stopped failure

/-- The selected events of some lines, of which the first has the given number, and
what is logged about the others. -/
def readLines (nesting : Nat) (path : String) (filter : EventFilter) (number : Nat) :
    List (List Char) → Except Failure (List AuditEvent) × List LogRecord
  | [] => (.ok [], [])
  | line :: rest =>
      match readLine nesting line with
      | .stopped failure => (.error failure, [])
      | .skipped fault =>
          let (events, records) := readLines nesting path filter (number + 1) rest
          (events, .skippedLine number path fault :: records)
      | .event event =>
          match filter.accepts event with
          | .error failure => (.error failure, [])
          | .ok accepted =>
              let (events, records) := readLines nesting path filter (number + 1) rest
              (events.map fun events => if accepted then event :: events else events,
                records)

/-- The selected events of a file, and what is logged about its other lines.  A file
that does not exist has none. -/
def events (nesting : Nat) (path : String) (filter : EventFilter) (disk : Disk) :
    Except Failure (List AuditEvent) × List LogRecord :=
  match disk.read path with
  | .error (.missing _) => (.ok [], [])
  | .error fault => (.error (.file fault), [])
  | .ok octets =>
      match Text.readOctets octets with
      | .complete text => readLines nesting path filter 1 (Text.linesOf text.toList)
      | .broken text =>
          let (events, records) := readLines nesting path filter 1 (Text.splitLines text.toList).1
          (events.bind fun _ => .error (.file .illFormed), records)

end AuditFile

end AccessDecision
