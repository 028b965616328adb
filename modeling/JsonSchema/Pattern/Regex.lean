import JsonSchema.Pattern.CharSet
/-!
# Regular expressions

A regular expression reads a text from left to right by *tails*: the lists of expressions that may
match what follows a character, one after the other. Assertions look at the two characters around a
place, so nullability and tails depend on the place.
-/

namespace JsonSchema.Pattern

/-- The characters on the two sides of a place in a text, none at its ends. -/
structure Place where
  before : Option Char
  after : Option Char

/-- Where a place lies with respect to a word. -/
inductive WordEdge where
  | boundary
  | noBoundary
  | first
  | last
  /-- No word character stands before the place. -/
  | notAfterWord
  /-- No word character stands after the place. -/
  | notBeforeWord
deriving DecidableEq

/-- An assertion about a place. Lines end with a line feed, or also with a carriage return, where a
carriage return and a line feed together make one line end. -/
inductive Look where
  | textStart
  | textEnd
  | lineStart
  | lineEnd
  | lineStartCrlf
  | lineEndCrlf
  | word (edge : WordEdge) (letters : CharSet)
deriving DecidableEq

/-- Whether the edge is there, given whether word characters stand before and after. -/
def WordEdge.holds (before after : Bool) : WordEdge → Bool
  | boundary => before != after
  | noBoundary => before == after
  | first => !before && after
  | last => before && !after
  | notAfterWord => !before
  | notBeforeWord => !after

def Look.holds (p : Place) : Look → Bool
  | textStart => p.before.isNone
  | textEnd => p.after.isNone
  | lineStart => p.before.all (· = '\n')
  | lineEnd => p.after.all (· = '\n')
  | lineStartCrlf => p.before.all fun c => c = '\n' || c = '\r' && p.after != some '\n'
  | lineEndCrlf => p.after.all fun c => c = '\r' || c = '\n' && p.before != some '\r'
  | word edge letters =>
    edge.holds (p.before.any fun c => c ∈ letters) (p.after.any fun c => c ∈ letters)

inductive Regex where
  | empty
  | set (s : CharSet)
  | look (l : Look)
  | seq (r s : Regex)
  | alt (r s : Regex)
  /-- At least `min` and at most `max` copies, without a bound if there is no `max`. -/
  | repeated (r : Regex) (min : Nat) (max : Option Nat)
deriving DecidableEq

namespace Regex

/-- Whether the expression matches the empty text at a place. -/
def nullable (p : Place) : Regex → Bool
  | empty => true
  | set _ => false
  | look l => l.holds p
  | seq r s => r.nullable p && s.nullable p
  | alt r s => r.nullable p || s.nullable p
  | repeated r min _ => min = 0 || r.nullable p

/-- What may follow the character `c`, read at the place `p`. A copy that can be empty at the place
lets all copies that are still due be empty there. -/
def tails (p : Place) (c : Char) : Regex → List (List Regex)
  | empty | look _ => []
  | set s => if c ∈ s then [[]] else []
  | seq r s => (r.tails p c).map (· ++ [s]) ++ if r.nullable p then s.tails p c else []
  | alt r s => r.tails p c ++ s.tails p c
  | repeated r min max =>
    if max = some 0 then []
    else
      let left := if r.nullable p then 0 else min - 1
      (r.tails p c).map (· ++ [repeated r left (max.map (· - 1))])

/-- Whether expressions one after the other match the empty text at a place. -/
def allNullable (p : Place) (rs : List Regex) : Bool := rs.all (·.nullable p)

/-- What may follow a character, when it is read by expressions one after the other. -/
def tailsOf (p : Place) (c : Char) : List Regex → List (List Regex)
  | [] => []
  | r :: rs => (r.tails p c).map (· ++ rs) ++ if r.nullable p then tailsOf p c rs else []

/-- Whether one of the matches that have begun, or one that begins here or later, comes to an
end. -/
def searchFrom (r : Regex) (before : Option Char) (begun : List (List Regex)) : List Char → Bool
  | [] => ([r] :: begun).any (allNullable ⟨before, none⟩)
  | c :: cs =>
    let p : Place := ⟨before, some c⟩
    let live := [r] :: begun
    live.any (allNullable p) ||
      searchFrom r (some c) (live.flatMap (tailsOf p c)).eraseDups cs

/-- Whether the expression matches some part of the text. -/
def matchesIn (r : Regex) (cs : List Char) : Bool := searchFrom r none [] cs

/-- An estimate of the bytes that a matching automaton takes. -/
def weight : Regex → Nat
  | empty => 0
  | set s => s.weight
  | look _ => 32
  | seq r s => r.weight + s.weight
  | alt r s => 40 + r.weight + s.weight
  | repeated r min none => 32 + max 1 min * r.weight
  | repeated r min (some n) =>
    min * r.weight + (n - min) * (if r.weight = 0 then 0 else 32 + r.weight)

end Regex
end JsonSchema.Pattern
