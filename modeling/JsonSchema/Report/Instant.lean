import JsonSchema.Duration
/-!
# Instants

The time of a report, as a date with a time of day in universal time.
-/

namespace JsonSchema.Report

/-- Nanoseconds since the beginning of 1970. -/
structure Instant where
  nanos : Nat

/-- A day of the calendar. -/
structure Day where
  year : Nat
  month : Nat
  day : Nat

/-- The days from the first of March of the year zero to the beginning of 1970. -/
def daysBefore1970 : Nat := 719468

/-- The days in four centuries. -/
def daysIn400Years : Nat := 146097

/-- The day that comes some days after the beginning of 1970. Years are counted from March, so that
a leap day is the last of its year, and months then have their days in turns of five. -/
def Day.after1970 (n : Nat) : Day :=
  let days := n + daysBefore1970
  let rest := days % daysIn400Years
  let year := (rest - rest / 1460 + rest / 36524 - rest / 146096) / 365
  let ofYear := rest - (365 * year + year / 4 - year / 100)
  let turn := (5 * ofYear + 2) / 153
  let month := if turn < 10 then turn + 3 else turn - 9
  let march := year + 400 * (days / daysIn400Years)
  ⟨if month ≤ 2 then march + 1 else march, month, ofYear - (153 * turn + 2) / 5 + 1⟩

namespace Instant

/-- A fraction of a second in nanoseconds, in groups of three digits as far as needed. -/
def fractionText (n : Nat) : String :=
  if n = 0 then ""
  else if n % Duration.millisecond = 0 then
    "." ++ Decimal.padded 3 (toString (n / Duration.millisecond))
  else if n % 1000 = 0 then "." ++ Decimal.padded 6 (toString (n / 1000))
  else "." ++ Decimal.padded 9 (toString n)

def text (i : Instant) : String :=
  let seconds := i.nanos / Duration.second
  let d := Day.after1970 (seconds / 86400)
  let two := fun n : Nat => Decimal.padded 2 (toString n)
  let time := seconds % 86400
  Decimal.padded 4 (toString d.year) ++ "-" ++ two d.month ++ "-" ++ two d.day ++ "T" ++
    two (time / 3600) ++ ":" ++ two (time / 60 % 60) ++ ":" ++ two (time % 60) ++
    fractionText (i.nanos % Duration.second) ++ "+00:00"

end Instant
end JsonSchema.Report
