import JsonSchema.Decimal.Fixed
/-!
# Durations
-/

namespace JsonSchema

structure Duration where
  nanos : Nat
deriving DecidableEq

namespace Duration

def zero : Duration := ⟨0⟩

/-- The nanoseconds in a second. -/
def second : Nat := Nat.pow 10 9

/-- The nanoseconds in a millisecond. -/
def millisecond : Nat := Nat.pow 10 6

/-- Whole seconds. -/
def wholeSeconds (d : Duration) : Nat := d.nanos / second

/-- The nanoseconds after the whole seconds. -/
def restNanos (d : Duration) : Nat := d.nanos % second

def total (ds : List Duration) : Duration := ⟨ds.foldl (fun n d => n + d.nanos) 0⟩

/-- One of `n` equal parts, in whole nanoseconds. -/
def share (d : Duration) (n : Nat) : Duration := ⟨d.nanos / n⟩

/-- The seconds: whole ones and the rest as a fraction, each rounded, and then their sum. -/
def seconds (d : Duration) : Binary64 :=
  (Binary64.ofNat d.wholeSeconds).addMagnitudes
    ((Binary64.ofNat d.restNanos).div (Binary64.ofNat second))

/-- The seconds in a minute, in units. -/
def minuteUnits : Nat := 60 * Binary64.one

/-- Milliseconds below a second, seconds below a minute, and minutes with seconds from there on. -/
def text (d : Duration) : String :=
  let s := d.seconds
  if s.magnitude < Binary64.one then s!"{d.nanos / millisecond}ms"
  else if s.magnitude < minuteUnits then Decimal.fixed 2 s ++ "s"
  else
    let minutes := (s.div (Binary64.ofNat 60)).magnitude / Binary64.one
    let rest := Binary64.nearest false (s.magnitude % minuteUnits) 1
    s!"{minutes}m" ++ Decimal.fixed 1 rest ++ "s"

end Duration
end JsonSchema
