import AccessDecision.Failure.File
import AccessDecision.Failure.Referral
import AccessDecision.Failure.Range
import AccessDecision.Fault
import AccessDecision.Timestamp.Basic
import AccessDecision.Number.Reading

/-!
# Failures

Everything that can stop an operation, told apart by its cause.  The wording of every
failure is fixed in one place, `Failure.message`.
-/

namespace AccessDecision

/-- An error that host code raised, other than a fault of this library. -/
inductive HostError where
  /-- The work was called off. -/
  | cancelled (message : String)
  /-- Something the host waited for took too long. -/
  | timeout (message : String)
  /-- Any other error, by its name. -/
  | named (name message : String)
deriving DecidableEq

/-- A host error as it comes out of work that is awaited, which cannot end in the error
that ends an iteration. -/
def HostError.awaited : HostError → HostError
  | .named "StopIteration" _ =>
      .named "RuntimeError" "coroutine raised StopIteration"
  | error => error

/-- The names of errors that, like cancellations, no handler of errors stops. -/
def HostError.unstoppable : List String :=
  ["BaseException", "GeneratorExit", "KeyboardInterrupt", "SystemExit"]

/-- The names of errors that end the program wherever they are raised. -/
def HostError.programEnds : List String :=
  ["KeyboardInterrupt", "SystemExit"]

inductive ResultFault where
  /-- A negation has exactly one child. -/
  | childCount (policy : Value) (count : Nat)
  /-- The declared outcome is not the one that the children give. -/
  | outcome (operation : String) (policy declared : Value) (computed : Bool)

inductive VariableFault where
  | emptyName
  | equalsInName
  | nullInText
deriving DecidableEq

/-- What stops an operation. -/
inductive Failure where
  | fault (fault : Fault)
  | host (error : HostError)
  | result (fault : ResultFault)
  | kind (fault : KindFault)
  | range (fault : RangeFault)
  | timestamp (fault : TimestampFault)
  /-- Only one of two compared timestamps has an offset. -/
  | mixedOffsets
  | file (fault : FileFault)
  | variable (fault : VariableFault)
  /-- A key that is looked up is absent. -/
  | missingKey (key : Value)
  /-- An item is taken from an empty list. -/
  | noItem
  /-- A value is not among the members of a choice. -/
  | notMember (value : Value) (choice : String)
  | longInteger (digits : Nat)
  /-- Lists or objects are nested too deep. -/
  | nesting (ofObjects : Bool)
  | timeoutNotPositive
  | unknownSink (type : Value)
  | negativeCapacity
  /-- A text would be too long to be held. -/
  | noRoom
  /-- Nothing has failed yet, but will once a checker has decided. -/
  | referral (referral : Referral)
  /-- Too many checkers refer a request to one another. -/
  | referralDepth

def HostError.message : HostError → String
  | .cancelled message => message
  | .timeout message => message
  | .named _ message => message

def ResultFault.message : ResultFault → String
  | .childCount policy count =>
      "NOT node " ++ policy.literal ++ " needs exactly one child, got " ++
        integerText count
  | .outcome operation policy declared computed =>
      operation ++ " node " ++ policy.literal ++ " declares outcome " ++
        declared.display ++ " but its children evaluate to " ++
        (Value.bool computed).display

def VariableFault.message : VariableFault → String
  | .emptyName => "[Errno 22] Invalid argument"
  | .equalsInName => "illegal environment variable name"
  | .nullInText => "embedded null byte"

/-- The literal of a length of time in microseconds, by days, seconds and
microseconds of which only the first may be negative. -/
def durationLiteral (length : Int) : String :=
  let days := length / dayLength
  let rest := length % dayLength
  let part := fun (name : String) (size : Int) =>
    if size = 0 then [] else [name ++ "=" ++ integerText size]
  let parts := part "days" days ++ part "seconds" (rest / 1000000) ++
    part "microseconds" (rest % 1000000)
  "datetime.timedelta(" ++ (if parts.isEmpty then "0" else ", ".intercalate parts) ++ ")"

def TimestampFault.message : TimestampFault → String
  | .notText => "fromisoformat: argument must be str"
  | .unreadable text => "Invalid isoformat string: " ++ Text.quoted text
  | .unreadableCodes codes => "Invalid isoformat string: " ++ Text.quotedCodes codes
  | .year number => "year " ++ integerText number ++ " is out of range"
  | .month => "month must be in 1..12"
  | .day => "day is out of range for month"
  | .hour => "hour must be in 0..23"
  | .minute => "minute must be in 0..59"
  | .second => "second must be in 0..59"
  | .offset ahead =>
      "offset must be a timedelta strictly between -timedelta(hours=24) and " ++
        "timedelta(hours=24), not " ++ durationLiteral ahead ++ "."

namespace Failure

def message : Failure → String
  | .fault problem => problem.text
  | .host error => error.message
  | .result problem => problem.message
  | .kind problem => problem.message
  | .range problem => problem.message
  | .timestamp problem => problem.message
  | .mixedOffsets => "can't compare offset-naive and offset-aware datetimes"
  | .file problem => problem.message
  | .variable problem => problem.message
  | .missingKey key => key.literal
  | .noItem => "list index out of range"
  | .notMember value choice => value.literal ++ " is not a valid " ++ choice
  | .longInteger digits =>
      "Exceeds the limit (" ++ integerText Number.integerDigitLimit ++
        " digits) for integer string conversion: value has " ++ integerText digits ++
        " digits; use sys.set_int_max_str_digits() to increase the limit"
  | .nesting ofObjects =>
      "maximum recursion depth exceeded while decoding a JSON " ++
        (if ofObjects then "object" else "array") ++ " from a unicode string"
  | .timeoutNotPositive => "timeout must be positive"
  | .unknownSink type => "Unknown logger type: " ++ type.display
  | .negativeCapacity => "maxlen must be non-negative"
  | .noRoom => ""
  | .referral pending => (pending.fault "AccessEvaluation").message
  | .referralDepth => "maximum recursion depth exceeded while calling a Python object"

def awaited : Failure → Failure
  | .host error => .host error.awaited
  | failure => failure

/-- Whether the failure calls off everything, so that no handler of errors stops it. -/
def isCancellation : Failure → Bool
  | .host (.cancelled _) => true
  | .host (.named name _) => HostError.unstoppable.contains name
  | _ => false

/-- Whether the failure says that the work was called off. -/
def isCalledOff : Failure → Bool
  | .host (.cancelled _) => true
  | _ => false

def endsProgram : Failure → Bool
  | .host (.named name _) => HostError.programEnds.contains name
  | _ => false

def isTimeout : Failure → Bool
  | .host (.timeout _) => true
  | _ => false

end Failure

end AccessDecision
