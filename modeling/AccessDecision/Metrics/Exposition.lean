import AccessDecision.Metrics.Collector
import AccessDecision.Number.Shortest

/-!
# The text exposition of metrics

Each metric is announced by a line of help and a line with its type, followed by its
samples.  A sample names the metric, its labels in braces and its value.  The latencies
of a checker are shown by how many of them stay within each of several bounds, by their
count and by their sum.
-/

namespace AccessDecision

structure Sample where
  metric : String
  labels : List (String × String)
  value : Float64

structure MetricFamily where
  metric : String
  help : String
  type : String
  samples : List Sample

namespace Exposition

/-- Whether a character may stand in the name of a metric; digits may not come first. -/
def isNameCharacter (isFirst : Bool) (character : Char) : Bool :=
  let code := character.toNat
  (decide (97 ≤ code) && decide (code ≤ 122)) ||
    (decide (65 ≤ code) && decide (code ≤ 90)) ||
    character == '_' || character == ':' ||
    (!isFirst && decide (48 ≤ code) && decide (code ≤ 57))

/-- A name of a metric, with underscores for the characters that may not stand in it. -/
def plainName (name : String) : String :=
  match name.toList with
  | [] => ""
  | first :: rest =>
      let plain := fun isFirst character =>
        if isNameCharacter isFirst character then character else '_'
      String.ofList (plain true first :: rest.map (plain false))

def labelCharacter (character : Char) : List Char :=
  if character = '\\' then ['\\', '\\']
  else if character = '\n' then ['\\', 'n']
  else if character = '"' then ['\\', '"']
  else [character]

def labelText (value : String) : String :=
  String.ofList ('"' :: (value.toList.flatMap labelCharacter ++ ['"']))

/-- Drop the zeros and points at the end. -/
def withoutEnd (digits : List Char) : List Char :=
  (digits.reverse.dropWhile fun digit => digit == '0' || digit == '.').reverse

/-- The text of a value.  A positive one with more than six digits before its point is
written with an exponent of at least two digits. -/
def valueText : Float64 → String
  | .infinite negative => if negative then "-Inf" else "+Inf"
  | .undefined => "NaN"
  | .finite negative significand exponent =>
      let number := Float64.finite negative significand exponent
      let characters := number.text.toList
      let whole := characters.takeWhile (· != '.')
      let point := whole.length
      if !negative && significand != 0 && decide (6 < point) &&
          decide (point < characters.length) then
        let digits := characters.filter (· != '.')
        let mantissa := withoutEnd (digits.take 1 ++ '.' :: digits.drop 1)
        let exponent := Text.decimal (point - 1)
        String.ofList (mantissa ++ "e+".toList ++
          List.replicate (2 - exponent.length) '0' ++ exponent)
      else number.text

def countValue (count : Nat) : Float64 :=
  Float64.ofRatio false count 1

def sampleLine (sample : Sample) : String :=
  let labels := sample.labels.map fun (name, value) => name ++ "=" ++ labelText value
  plainName sample.metric ++ "\x7b" ++ ",".intercalate labels ++ "\x7d " ++
    valueText sample.value

def familyLines (family : MetricFamily) : List String :=
  ("# HELP " ++ plainName family.metric ++ " " ++ family.help) ::
    ("# TYPE " ++ plainName family.metric ++ " " ++ family.type) ::
    family.samples.map sampleLine

/-- The samples of a tally whose names go under a label; the labels stand in
alphabetical order. -/
def tallySamples (metric label : String) (tally : Tally Decision) : List Sample :=
  tally.map fun (decision, count) =>
    let named := (label, decision.name)
    let outcome := ("outcome", decision.word)
    { metric
      labels := if label < "outcome" then [named, outcome] else [outcome, named]
      value := countValue count }

/-- The bounds of latencies in seconds, each with its text. -/
def bounds : List Float64 :=
  [(1, -4), (2, -4), (5, -4), (1, -3), (2, -3), (5, -3), (1, -2), (2, -2), (5, -2), (1, -1),
    (5, -1), (1, 0)].map fun (digits, power) => Float64.ofDecimal false digits power

def countWithin (latencies : List (Option Float64)) (bound : Float64) : Nat :=
  latencies.countP fun latency =>
    latency.any fun latency => latency.quantity.atMost bound.quantity

def total (latencies : List (Option Float64)) : Float64 :=
  latencies.foldl (fun sum latency => latency.elim sum sum.add) (Float64.zero false)

/-- The samples of the latencies of a checker, of which the ones that depend on measured
times can be left out. -/
def latencySamples (metric : String) (timed : Bool) (checker : String)
    (latencies : List (Option Float64)) : List Sample :=
  let own := ("checker", checker)
  let within := bounds.map fun bound =>
    ⟨metric ++ "_bucket", [own, ("le", valueText bound)],
      countValue (countWithin latencies bound)⟩
  let all := countValue (latencies.countP Collector.isCounted)
  let buckets := within ++ [⟨metric ++ "_bucket", [own, ("le", "+Inf")], all⟩]
  (if timed then buckets else []) ++ [⟨metric ++ "_count", [own], all⟩] ++
    (if timed then [⟨metric ++ "_sum", [own], total latencies⟩] else [])

def families (timed : Bool) (collector : Collector) : List MetricFamily :=
  let verdicts := collector.start ++ "_access_decisions_total"
  let evaluations := collector.start ++ "_policy_evaluations_total"
  let latencies := collector.start ++ "_access_evaluation_seconds"
  [{ metric := verdicts
     help := "Total number of checker-level access decisions"
     type := "counter"
     samples := tallySamples verdicts "checker" collector.verdicts },
    { metric := evaluations
      help := "Total number of individual policy evaluations"
      type := "counter"
      samples := tallySamples evaluations "policy" collector.evaluations },
    { metric := latencies
      help := "Duration of a full checker evaluation in seconds"
      type := "histogram"
      samples := collector.latencies.flatMap fun (checker, values) =>
        latencySamples latencies timed checker values }]

def lines (timed : Bool) (collector : Collector) : List String :=
  (families timed collector).flatMap familyLines

end Exposition

end AccessDecision
