import JsonSchema.Format.Scan
/-!
# Dates with times

Timestamps `YYYY-MM-DDThh:mm:ss`, with an optional fraction of a second and an offset, of days that
the Gregorian calendar has, extended back to the year zero.
-/

namespace JsonSchema.Format

/-- The rule of the calendar: every fourth year, but of the centuries only every fourth. -/
def isLeapYear (y : Nat) : Bool := y % 4 == 0 && (y % 100 != 0 || y % 400 == 0)

/-- The number of days of a month, zero for a month that does not exist. -/
def daysInMonth (y m : Nat) : Nat :=
  match m with
  | 2 => if isLeapYear y then 29 else 28
  | 4 | 6 | 9 | 11 => 30
  | 1 | 3 | 5 | 7 | 8 | 10 | 12 => 31
  | _ => 0

/-- Whether the calendar has this day. -/
def isDate (y m d : Nat) : Bool := 1 ≤ d && d ≤ daysInMonth y m

/-- Reads hours and minutes. -/
def clock? (cs : List Char) : Option (Nat × Nat × List Char) := do
  let (h, cs) ← digits? 2 cs
  let cs ← char? ':' cs
  let (m, cs) ← digits? 2 cs
  return (h, m, cs)

/-- Reads a point and digits, if there is a point. -/
def fraction? (cs : List Char) : Option (List Char) :=
  match cs with
  | '.' :: r => if (r.takeWhile Char.isDigit).isEmpty then none else some (r.dropWhile Char.isDigit)
  | _ => some cs

/-- Whether the rest is `Z`, or a sign with hours and minutes. -/
def isOffset (cs : List Char) : Bool :=
  match cs with
  | ['Z'] => true
  | sign :: r =>
    (sign == '+' || sign == '-') &&
      match clock? r with
      | some (h, m, []) => h < 24 && m < 60
      | _ => false
  | [] => false

/-- Whether a text is a timestamp. -/
def isDateTime (cs : List Char) : Bool :=
  let read : Option Bool := do
    let (y, cs) ← digits? 4 cs
    let cs ← char? '-' cs
    let (m, cs) ← digits? 2 cs
    let cs ← char? '-' cs
    let (d, cs) ← digits? 2 cs
    let cs ← char? 'T' cs
    let (hour, minute, cs) ← clock? cs
    let cs ← char? ':' cs
    let (second, cs) ← digits? 2 cs
    let cs ← fraction? cs
    return isDate y m d && hour < 24 && minute < 60 && second < 60 && isOffset cs
  read.getD false

end JsonSchema.Format
