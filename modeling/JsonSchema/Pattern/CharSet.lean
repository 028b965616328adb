import JsonSchema.Unicode.Case
import JsonSchema.Unicode.Category
import JsonSchema.Unicode.Script
/-!
# Sets of characters

The sets that a pattern can write, kept as written: ranges, Unicode classes and the operations that
combine them. Membership is by code point.
-/

namespace JsonSchema.Pattern

open JsonSchema.Unicode (Property caseVariants)

inductive CharSet where
  | empty
  | range (lo hi : Char)
  | categories (names : List String)
  | script (code : String)
  /-- The characters with this script among their script extensions. -/
  | scriptUse (code : String)
  | property (p : Property)
  | compl (s : CharSet)
  | union (s t : CharSet)
  | inter (s t : CharSet)
  | diff (s t : CharSet)
  /-- The characters that agree with a member up to case. -/
  | caseless (s : CharSet)
  /-- The characters that agree with a member up to the case of ASCII letters. -/
  | caselessAscii (s : CharSet)
deriving DecidableEq

namespace CharSet

/-- A letter of ASCII in the other case. -/
def swapAscii (n : Nat) : Nat :=
  if 'a'.toNat ≤ n ∧ n ≤ 'z'.toNat then n - 32
  else if 'A'.toNat ≤ n ∧ n ≤ 'Z'.toNat then n + 32
  else n

def mem (n : Nat) : CharSet → Bool
  | empty => false
  | range lo hi => lo.toNat ≤ n && n ≤ hi.toNat
  | categories names => names.contains (Unicode.category n)
  | script code => Unicode.script n == code
  | scriptUse code => (Unicode.scriptExtensions n).contains code
  | property p => p.holds n
  | compl s => !s.mem n
  | union s t => s.mem n || t.mem n
  | inter s t => s.mem n && t.mem n
  | diff s t => s.mem n && !t.mem n
  | caseless s => (caseVariants n).any fun m => s.mem m
  | caselessAscii s => s.mem n || s.mem (swapAscii n)

instance : Membership Char CharSet := ⟨fun s c => s.mem c.toNat = true⟩

instance (c : Char) (s : CharSet) : Decidable (c ∈ s) :=
  inferInstanceAs (Decidable (s.mem c.toNat = true))

def single (c : Char) : CharSet := range c c

def any : CharSet := compl empty

def symmDiff (s t : CharSet) : CharSet := union (diff s t) (diff t s)

/-- The union of single characters and ranges. -/
def ofRanges (rs : List (Char × Char)) : CharSet :=
  rs.foldr (fun r s => union (range r.1 r.2) s) empty

/-! ### Named sets -/

def digit : CharSet := categories ["Nd"]

def space : CharSet := property .whiteSpace

def word : CharSet :=
  union (property .alphabetic)
    (union (categories ["Mn", "Mc", "Me", "Nd", "Pc"]) (property .joinControl))

def asciiDigit : CharSet := range '0' '9'

def asciiSpace : CharSet := ofRanges [('\t', '\r'), (' ', ' ')]

def asciiWord : CharSet := ofRanges [('0', '9'), ('A', 'Z'), ('_', '_'), ('a', 'z')]

/-- The sets of ASCII characters that are written with their name between colons. -/
def posix? (name : String) : Option CharSet :=
  match name with
  | "alnum" => some (ofRanges [('0', '9'), ('A', 'Z'), ('a', 'z')])
  | "alpha" => some (ofRanges [('A', 'Z'), ('a', 'z')])
  | "ascii" => some (range '\x00' '\x7f')
  | "blank" => some (ofRanges [('\t', '\t'), (' ', ' ')])
  | "cntrl" => some (ofRanges [('\x00', '\x1f'), ('\x7f', '\x7f')])
  | "digit" => some asciiDigit
  | "graph" => some (range '!' '~')
  | "lower" => some (range 'a' 'z')
  | "print" => some (range ' ' '~')
  | "punct" => some (ofRanges [('!', '/'), (':', '@'), ('[', '\x60'), ('\x7b', '~')])
  | "space" => some asciiSpace
  | "upper" => some (range 'A' 'Z')
  | "word" => some asciiWord
  | "xdigit" => some (ofRanges [('0', '9'), ('A', 'F'), ('a', 'f')])
  | _ => none

/-- ASCII letters in lower case, without blanks, hyphens, underscores and characters beyond
ASCII. -/
def normalText (cs : List Char) : String :=
  String.ofList
    ((cs.filter fun c => c.toNat < 128 && c != ' ' && c != '_' && c != '-').map Char.toLower)

/-- The name of a Unicode class as names are compared, without `is` in front; the name `isc` alone
keeps it. -/
def normalName (name : String) : String :=
  match name.toList with
  | c :: d :: r =>
    if c.toLower = 'i' && d.toLower = 's' then
      let rest := normalText r
      if rest = "c" then "isc" else rest
    else normalText (c :: d :: r)
  | cs => normalText cs

/-- The general categories with a name, which may also stand for all assigned characters, all
characters or those of ASCII. -/
def categoryNamed? (name : String) : Option CharSet :=
  match name with
  | "any" => some any
  | "assigned" => some (compl (categories ["Cn"]))
  | "ascii" => some (range '\x00' '\x7f')
  | _ => (Unicode.categoriesNamed? name).map categories

/-- A Unicode class by name alone: a property, else a general category, else a script. Three names
that abbreviate both a property and a category mean the category. -/
def named? (name : String) : Option CharSet :=
  let name := normalName name
  let own := if ["cf", "sc", "lc"].contains name then none else Property.named? name
  (own.map property) <|> categoryNamed? name <|> (Unicode.scriptNamed? name).map script

/-- A Unicode class by the name and value of a property. -/
def valued? (name value : String) : Option CharSet :=
  let value := normalName value
  match normalName name with
  | "gc" | "generalcategory" => categoryNamed? value
  | "sc" | "script" => (Unicode.scriptNamed? value).map script
  | "scx" | "scriptextensions" => (Unicode.scriptNamed? value).map scriptUse
  | _ => none

/-! ### Size -/

/-- An estimate of the bytes that an automaton over UTF-8 takes to recognise a member. -/
def weight : CharSet → Nat
  | empty => 32
  | range lo hi =>
    if lo = hi then 32 * lo.utf8Size
    else if hi.toNat < 128 then 40
    else 80 * hi.utf8Size
  | categories names => 64 * (Unicode.categoryRuns.countP fun r => names.contains r.2)
  | script code => 64 * (Unicode.scriptRuns.countP fun r => r.2 == code)
  | scriptUse code => 96 * (Unicode.scriptRuns.countP fun r => r.2 == code)
  | property p => 64 * p.members.length
  | compl s => 360 + s.weight
  | union s t => s.weight + t.weight
  | inter s t => s.weight + t.weight
  | diff s t => s.weight + t.weight
  | caseless s => 16 + s.weight
  | caselessAscii s => 16 + s.weight

end CharSet
end JsonSchema.Pattern
