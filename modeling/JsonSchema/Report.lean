import JsonSchema.Outcome
import JsonSchema.Report.Style
import JsonSchema.Text.Printer
/-!
# Reports

How results are shown: file by file for people, as JSON for programs, or as one line.
-/

namespace JsonSchema.Report

/-! ### For people -/

/-- A line about one file. -/
def fileLine (f : FileOutcome) : String :=
  let place := s!"  {f.path.text} ({f.duration.text})"
  match f.outcome with
  | .valid => "✓ VALID" ++ place
  | .invalid => "✗ INVALID" ++ place
  | .error message => "⚠ ERROR" ++ place ++ " - " ++ message
  | .skipped reason => "- SKIPPED" ++ s!"  {f.path.text} - {reason}"

def fileLines (fs : List FileOutcome) : String := String.join (fs.map fun f => fileLine f ++ "\n")

/-- A count with its label, left out if nothing was counted. -/
def countLine (label : String) (n : Nat) : String := if n = 0 then "" else s!"  {label}: {n}\n"

/-- How fast it went, and where the time went if all is told. -/
def metricsText (v : Verbosity) (m : Metrics) : String :=
  let speed :=
    s!"\nPerformance Metrics:\n  Throughput: {Decimal.fixed 1 m.throughput} files/sec\n" ++
      s!"  Concurrent validations: {m.workers}\n"
  match v with
  | .quiet | .normal => ""
  | .verbose => speed
  | .debug =>
    speed ++ s!"  Schema nodes: {m.schemaNodes}\n" ++
      s!"  Schema compilation: {m.schemaLoading.text}\n  Discovery: {m.discovery.text}\n"

def summaryText (v : Verbosity) (r : Results) : String :=
  s!"Validation Summary:\n  Total files: {r.size}\n  Valid: {r.count Outcome.isValid}\n" ++
    countLine "Invalid" (r.count Outcome.isInvalid) ++
    countLine "Errors" (r.count Outcome.isError) ++
    countLine "Skipped" (r.count Outcome.isSkipped) ++
    s!"  Success rate: {Decimal.fixed 1 r.successRate}%\n" ++
    s!"  Duration: {r.metrics.total.text}\n" ++ metricsText v r.metrics

def humanText (v : Verbosity) (r : Results) : String :=
  match v with
  | .quiet => fileLines (r.files.filter fun f => f.outcome.isFailure)
  | v =>
    let shown := r.files.filter fun f => v == .debug || !f.outcome.isValid
    fileLines shown ++ (if r.files.isEmpty then "" else "\n") ++ summaryText v r

/-! ### For programs -/

open Text (Layout)

def durationLayout (d : Duration) : Layout :=
  .record [("secs", .nat d.wholeSeconds), ("nanos", .nat d.restNanos)]

/-- The name of an outcome, with what is said about it. -/
def outcomeFields : Outcome → List (String × Layout)
  | .valid => [("status", .text "valid")]
  | .invalid => [("status", .text "invalid")]
  | .error message => [("status", .text "error"), ("message", .text message)]
  | .skipped reason => [("status", .text "skipped"), ("reason", .text reason)]

def fileLayout (f : FileOutcome) : Layout :=
  .record ([("path", .text f.path.text)] ++ outcomeFields f.outcome ++
    [("duration", durationLayout f.duration)])

def metricsLayout (m : Metrics) : Layout :=
  .record [
    ("total_duration", durationLayout m.total),
    ("schema_loading_duration", durationLayout m.schemaLoading),
    ("discovery_duration", durationLayout m.discovery),
    ("validation_duration", durationLayout m.validation),
    ("average_time_per_file", durationLayout m.averagePerFile),
    ("throughput_files_per_second", .float m.throughput),
    ("concurrent_validations", .nat m.workers),
    ("schema_nodes", .nat m.schemaNodes)]

/-- The report on a run against the schema at a path, made at the time `now`. -/
def resultsLayout (now : String) (schema : Path) (r : Results) : Layout :=
  .record [
    ("generated_at", .text now),
    ("schema", .text schema.text),
    ("total_files", .nat r.size),
    ("valid_files", .nat (r.count Outcome.isValid)),
    ("invalid_files", .nat (r.count Outcome.isInvalid)),
    ("error_files", .nat (r.count Outcome.isError)),
    ("skipped_files", .nat (r.count Outcome.isSkipped)),
    ("total_duration", durationLayout r.duration),
    ("average_duration", durationLayout r.average),
    ("file_results", .list (r.files.map fileLayout)),
    ("performance_metrics", metricsLayout r.metrics)]

/-! ### In one line -/

def oneLine (r : Results) : String :=
  s!"{r.size} files: {r.count Outcome.isValid} valid, {r.count Outcome.isInvalid} invalid, " ++
    s!"{r.count Outcome.isError} errors, {r.count Outcome.isSkipped} skipped\n"

/-- The report in some form. -/
def render (f : Format) (v : Verbosity) (now : String) (schema : Path) (r : Results) : String :=
  match f with
  | .human => humanText v r
  | .json => (resultsLayout now schema r).pretty
  | .summary => oneLine r

end JsonSchema.Report
