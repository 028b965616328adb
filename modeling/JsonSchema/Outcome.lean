import JsonSchema.Duration
import JsonSchema.Failure
/-!
# Outcomes

What a run finds out about files, and the figures over all of them.
-/

namespace JsonSchema

/-- What is found out about a file. -/
inductive Outcome where
  /-- The file conforms to the schema. -/
  | valid
  /-- The file is JSON that does not conform. -/
  | invalid
  /-- The file cannot be read as JSON. -/
  | error (message : String)
  /-- The file was not looked at. -/
  | skipped (reason : String)
deriving DecidableEq

namespace Outcome

/-- The outcome for a file that cannot be validated. -/
def ofFailure (f : Failure) : Outcome := .error f.message

def isValid : Outcome → Bool
  | valid => true
  | _ => false

def isInvalid : Outcome → Bool
  | invalid => true
  | _ => false

def isError : Outcome → Bool
  | error _ => true
  | _ => false

def isSkipped : Outcome → Bool
  | skipped _ => true
  | _ => false

/-- Whether the file was looked at and does not conform, or cannot be read. -/
def isFailure (o : Outcome) : Bool := o.isInvalid || o.isError

end Outcome

/-- What is found out about the file at a path, and how long that took. -/
structure FileOutcome where
  path : Path
  outcome : Outcome
  duration : Duration

/-- Figures about the time of a run. -/
structure Metrics where
  total : Duration := .zero
  schemaLoading : Duration := .zero
  discovery : Duration := .zero
  validation : Duration := .zero
  averagePerFile : Duration := .zero
  /-- Files in a second. -/
  throughput : Binary64 := .zero false
  workers : Nat := 0
  schemaNodes : Nat := 0

/-- The files of a run with the figures about them. -/
structure Results where
  files : List FileOutcome
  metrics : Metrics

namespace Results

/-- How many files have an outcome of some kind. -/
def count (r : Results) (kind : Outcome → Bool) : Nat := r.files.countP fun f => kind f.outcome

def size (r : Results) : Nat := r.files.length

def allValid (r : Results) : Bool := r.count Outcome.isValid == r.size && r.size != 0

def hasFailures (r : Results) : Bool :=
  r.count Outcome.isError != 0 || r.count Outcome.isInvalid != 0

def duration (r : Results) : Duration := .total (r.files.map FileOutcome.duration)

/-- The time for one file in the mean. -/
def average (r : Results) : Duration := r.duration.share r.size

/-- The share of valid files, as a percentage. -/
def successRate (r : Results) : Binary64 :=
  if r.size = 0 then .zero false
  else
    let share := (Binary64.ofNat (r.count Outcome.isValid)).div (Binary64.ofNat r.size)
    share.mul (Binary64.ofNat 100)

/-- How many files are handled in a second, if `n` take some time. -/
def throughputOf (n : Nat) (d : Duration) : Binary64 :=
  if d.seconds.magnitude = 0 then .zero false else (Binary64.ofNat n).div d.seconds

/-- Results whose figures come from the files alone. -/
def ofFiles (files : List FileOutcome) : Results :=
  let r : Results := ⟨files, {}⟩
  { r with
    metrics := {
      total := r.duration, validation := r.duration, averagePerFile := r.average,
      throughput := throughputOf r.size r.duration, workers := 1 } }

end Results
end JsonSchema
