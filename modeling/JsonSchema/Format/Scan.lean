import JsonSchema.Text.Pieces
/-!
# Readers that the formats share

Each reads the front of a list of characters.
-/

namespace JsonSchema.Format

open JsonSchema.Text (decimal)

/-- A letter or a digit of ASCII. -/
def isAlphanumeric (c : Char) : Bool := c.isAlphanum

/-- Reads exactly `n` decimal digits. -/
def digits? (n : Nat) (cs : List Char) : Option (Nat × List Char) :=
  let ds := cs.take n
  if ds.length = n ∧ ds.all Char.isDigit then some (decimal ds, cs.drop n) else none

/-- Reads one given character. -/
def char? (c : Char) : List Char → Option (List Char)
  | x :: r => if x = c then some r else none
  | [] => none

end JsonSchema.Format
