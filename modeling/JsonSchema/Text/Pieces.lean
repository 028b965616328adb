/-!
# Pieces of texts

Cutting texts at separators and reading digits, over lists of characters.
-/

namespace JsonSchema.Text

/-- The characters before the first `c`, and those after it if there is one. -/
def splitFirst (c : Char) : List Char → List Char × Option (List Char)
  | [] => ([], none)
  | x :: r => if x = c then ([], some r) else
    let (before, after) := splitFirst c r
    (x :: before, after)

/-- The pieces between the occurrences of `c`, at least one. -/
def splitAt (c : Char) : List Char → List (List Char)
  | [] => [[]]
  | x :: r =>
    if x = c then [] :: splitAt c r
    else match splitAt c r with
      | [] => [[x]]
      | piece :: pieces => (x :: piece) :: pieces

/-- The value of decimal digits. -/
def decimal (cs : List Char) : Nat := cs.foldl (fun n c => 10 * n + (c.toNat - '0'.toNat)) 0

/-- The number written by one or more decimal digits. -/
def decimal? (cs : List Char) : Option Nat :=
  if !cs.isEmpty && cs.all Char.isDigit then some (decimal cs) else none

/-- The number below `bound` written by decimal digits, with a plus sign in front or none. -/
def bounded? (bound : Nat) (cs : List Char) : Option Nat :=
  let digits :=
    match cs with
    | '+' :: r => r
    | cs => cs
  (decimal? digits).filter (· < bound)

/-- The value of a hexadecimal digit. -/
def hexValue? (c : Char) : Option Nat :=
  if '0' ≤ c ∧ c ≤ '9' then some (c.toNat - '0'.toNat)
  else if 'a' ≤ c ∧ c ≤ 'f' then some (c.toNat - 'a'.toNat + 10)
  else if 'A' ≤ c ∧ c ≤ 'F' then some (c.toNat - 'A'.toNat + 10)
  else none

def isHexDigit (c : Char) : Bool := (hexValue? c).isSome

/-- The value of hexadecimal digits. -/
def hexadecimal (cs : List Char) : Nat := cs.foldl (fun n c => 16 * n + (hexValue? c).getD 0) 0

end JsonSchema.Text
