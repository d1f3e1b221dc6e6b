import AccessDecision.Attempt
import AccessDecision.Audit.Disk
import AccessDecision.Audit.Event
import AccessDecision.Audit.File
import AccessDecision.Audit.Filter
import AccessDecision.Audit.Identifier
import AccessDecision.Audit.Memory
import AccessDecision.Audit.Sink
import AccessDecision.Checker.Evaluation
import AccessDecision.Checker.Hearing
import AccessDecision.Checker.Observation
import AccessDecision.Choice
import AccessDecision.Comparison
import AccessDecision.Entries
import AccessDecision.Environment
import AccessDecision.Failure
import AccessDecision.Failure.File
import AccessDecision.Failure.Kind
import AccessDecision.Failure.Range
import AccessDecision.Failure.Referral
import AccessDecision.Fault
import AccessDecision.Fault.Making
import AccessDecision.Json.Canonical
import AccessDecision.Json.Reader
import AccessDecision.Json.Writer
import AccessDecision.Log
import AccessDecision.Machine
import AccessDecision.Metadata
import AccessDecision.Metrics.Collector
import AccessDecision.Metrics.Exposition
import AccessDecision.Metrics.Tally
import AccessDecision.Number.Float64
import AccessDecision.Number.Quantity
import AccessDecision.Number.Reading
import AccessDecision.Number.Shortest
import AccessDecision.Policy.Basic
import AccessDecision.Policy.Builder
import AccessDecision.Policy.Evaluation
import AccessDecision.Policy.EventLoop
import AccessDecision.Policy.Relationship
import AccessDecision.Policy.Request
import AccessDecision.Policy.Stage
import AccessDecision.Policy.Timeout
import AccessDecision.Proofs.Audit.Continuation
import AccessDecision.Proofs.Audit.Disk
import AccessDecision.Proofs.Audit.FileContents
import AccessDecision.Proofs.Audit.Record
import AccessDecision.Proofs.Audit.Rereading
import AccessDecision.Proofs.Audit.Retention
import AccessDecision.Proofs.Audit.Salvage
import AccessDecision.Proofs.Audit.Selection
import AccessDecision.Proofs.Audit.SinkAgreement
import AccessDecision.Proofs.Audit.Unforeseen
import AccessDecision.Proofs.Checker.Appending
import AccessDecision.Proofs.Checker.AuditTrail
import AccessDecision.Proofs.Checker.Auditing
import AccessDecision.Proofs.Checker.Conclusion
import AccessDecision.Proofs.Checker.Conservation
import AccessDecision.Proofs.Checker.Decision
import AccessDecision.Proofs.Checker.Delivery
import AccessDecision.Proofs.Checker.Docket
import AccessDecision.Proofs.Checker.Examination
import AccessDecision.Proofs.Checker.FailClosed
import AccessDecision.Proofs.Checker.Heard
import AccessDecision.Proofs.Checker.Independence
import AccessDecision.Proofs.Checker.OrderIndependence
import AccessDecision.Proofs.Checker.Outcomes
import AccessDecision.Proofs.Checker.Parallel
import AccessDecision.Proofs.Checker.Progress
import AccessDecision.Proofs.Checker.Refinement
import AccessDecision.Proofs.Checker.Watching
import AccessDecision.Proofs.Entries
import AccessDecision.Proofs.Environment.Loading
import AccessDecision.Proofs.Fault.Details
import AccessDecision.Proofs.Formula
import AccessDecision.Proofs.Json.Escapes
import AccessDecision.Proofs.Json.RoundTrip
import AccessDecision.Proofs.Json.Steps
import AccessDecision.Proofs.Json.Torn
import AccessDecision.Proofs.Json.Visible
import AccessDecision.Proofs.Metrics.Recording
import AccessDecision.Proofs.Policy.Building
import AccessDecision.Proofs.Policy.Composition
import AccessDecision.Proofs.Policy.Consultation
import AccessDecision.Proofs.Policy.Duality
import AccessDecision.Proofs.Policy.Enlistment
import AccessDecision.Proofs.Policy.Flattening
import AccessDecision.Proofs.Policy.Isolation
import AccessDecision.Proofs.Policy.Lookup
import AccessDecision.Proofs.Policy.Making
import AccessDecision.Proofs.Policy.NestedAnswers
import AccessDecision.Proofs.Policy.Nesting
import AccessDecision.Proofs.Policy.Polarity
import AccessDecision.Proofs.Policy.Polling
import AccessDecision.Proofs.Policy.Rearrangement
import AccessDecision.Proofs.Policy.Roles
import AccessDecision.Proofs.Policy.ShortCircuit
import AccessDecision.Proofs.Policy.Structure
import AccessDecision.Proofs.Policy.Valuation
import AccessDecision.Proofs.Policy.Waiting
import AccessDecision.Proofs.Result.Agreement
import AccessDecision.Proofs.Result.Codes
import AccessDecision.Proofs.Result.Congruence
import AccessDecision.Proofs.Result.Construction
import AccessDecision.Proofs.Result.Legibility
import AccessDecision.Proofs.Result.Outline
import AccessDecision.Proofs.Result.Truth
import AccessDecision.Proofs.Text.Codes
import AccessDecision.Proofs.Text.LetterCase
import AccessDecision.Proofs.Text.Lines
import AccessDecision.Proofs.Text.Numeral
import AccessDecision.Proofs.Text.Splitting
import AccessDecision.Proofs.Timestamp.RoundTrip
import AccessDecision.Proofs.Timestamp.Spellings
import AccessDecision.Proofs.Value.Agreement
import AccessDecision.Proofs.Value.Overlay
import AccessDecision.Result.Agreement
import AccessDecision.Result.Basic
import AccessDecision.Result.Description
import AccessDecision.Result.Rendering
import AccessDecision.Script.Basic
import AccessDecision.Script.Host
import AccessDecision.Session.Basic
import AccessDecision.Session.Building
import AccessDecision.Session.Hearing
import AccessDecision.Session.Plan
import AccessDecision.Session.Run
import AccessDecision.Session.Step
import AccessDecision.Settings
import AccessDecision.Text.Blank
import AccessDecision.Text.CodeRanges
import AccessDecision.Text.DecimalDigit
import AccessDecision.Text.Halves
import AccessDecision.Text.LetterCase
import AccessDecision.Text.LetterCaseTables
import AccessDecision.Text.Lines
import AccessDecision.Text.Numeral
import AccessDecision.Text.Printable
import AccessDecision.Text.Quoted
import AccessDecision.Text.Utf8
import AccessDecision.Timestamp.Basic
import AccessDecision.Timestamp.Clock
import AccessDecision.Timestamp.Printer
import AccessDecision.Timestamp.Reader
import AccessDecision.Value.Agreement
import AccessDecision.Value.Basic
import AccessDecision.Value.Display
import AccessDecision.Verdict
