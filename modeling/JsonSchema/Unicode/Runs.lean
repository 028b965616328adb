/-!
# Tables of code points

The tables of Unicode properties are kept as text: ranges as numbers that alternately skip and take
code points, classifications as runs of code points with a name, and mappings as arithmetic runs.
-/

namespace JsonSchema.Unicode

/-- The decimal numbers of a text, latest first; `current` is a number that has begun. -/
def numbersFrom (done : List Nat) (current : Option Nat) : List Char → List Nat
  | [] => current.toList ++ done
  | c :: r =>
    if c.isDigit then numbersFrom done (some (10 * current.getD 0 + (c.toNat - '0'.toNat))) r
    else numbersFrom (current.toList ++ done) none r

/-- The decimal numbers of a text. -/
def numbers (s : String) : List Nat := (numbersFrom [] none s.toList).reverse

/-- Code points from the first to the second, both included. -/
abbrev Range := Nat × Nat

/-- The ranges left by alternately skipping and taking code points from `start` on. -/
def rangesFrom (done : List Range) (start : Nat) : List Nat → List Range
  | skip :: take :: r =>
    rangesFrom ((start + skip, start + skip + take - 1) :: done) (start + skip + take) r
  | _ => done.reverse

/-- Ranges in ascending order. -/
def ranges (table : List String) : List Range := rangesFrom [] 0 (numbers (String.join table))

/-- Whether a code point lies in one of some ascending ranges. -/
def inRanges (n : Nat) : List Range → Bool
  | [] => false
  | (lo, hi) :: r => lo ≤ n && (n ≤ hi || inRanges n r)

/-- The runs of a text of numbers followed by names, each as the first code point after it and its
name, latest first. -/
def runsFrom (done : List (Nat × String)) (start count : Nat) (name : List Char) :
    List Char → List (Nat × String)
  | [] => (start + count, String.ofList name.reverse) :: done
  | c :: r =>
    if c.isDigit then
      let d := c.toNat - '0'.toNat
      if name.isEmpty then runsFrom done start (10 * count + d) [] r
      else runsFrom ((start + count, String.ofList name.reverse) :: done) (start + count) d [] r
    else runsFrom done start count (c :: name) r

/-- A classification of all code points. -/
def runs (table : List String) : List (Nat × String) :=
  (runsFrom [] 0 0 [] (String.join table).toList).reverse

/-- The name of the run that a code point lies in. -/
def nameIn (n : Nat) : List (Nat × String) → String
  | [] => ""
  | (bound, name) :: r => if n < bound then name else nameIn n r

/-- Code points `first`, `first + step`, … among `span`, mapped to `target` and onwards in the same
steps. -/
structure Mapping where
  first : Nat
  span : Nat
  step : Nat
  target : Nat

/-- Mappings given by four numbers each. -/
def mappingsFrom : List Nat → List Mapping
  | a :: b :: c :: d :: r => ⟨a, b, c, d⟩ :: mappingsFrom r
  | _ => []

def mappings (table : List String) : List Mapping := mappingsFrom (numbers (String.join table))

/-- The image of a code point. -/
def Mapping.image? (m : Mapping) (n : Nat) : Option Nat :=
  if m.first ≤ n ∧ n < m.first + m.span ∧ (n - m.first) % m.step = 0 then
    some (m.target + (n - m.first))
  else none

/-- The code point with this image. -/
def Mapping.preimage? (m : Mapping) (n : Nat) : Option Nat :=
  if m.target ≤ n ∧ n < m.target + m.span ∧ (n - m.target) % m.step = 0 then
    some (m.first + (n - m.target))
  else none

end JsonSchema.Unicode
