import JsonSchema.Pattern.Regex
import JsonSchema.Utf8
/-!
# Reading globs

The written form of path globs. A glob is turned into a regular expression over the bytes of a path,
where each byte stands as the character with its number, so a wildcard for one character matches one
byte.
-/

namespace JsonSchema.Glob

open JsonSchema.Pattern (CharSet Regex)

/-- Why a text is not a glob. -/
inductive Fault where
  | unclosedClass
  | invalidRange (lo hi : Char)
  | unclosedChoice
  | unopenedChoice
  | danglingEscape
deriving DecidableEq

def Fault.message : Fault → String
  | unclosedClass => "unclosed character class; missing ']'"
  | invalidRange lo hi => s!"invalid range; '{lo}' > '{hi}'"
  | unclosedChoice =>
    "unclosed alternate group; missing '\x7d' (maybe escape '\x7b' with '[\x7b]'?)"
  | unopenedChoice =>
    "unopened alternate group; missing '\x7b' (maybe escape '\x7d' with '[\x7d]'?)"
  | danglingEscape => "dangling '\\'"

/-- A part of a glob. -/
inductive Part where
  | literal (c : Char)
  /-- One byte other than a slash. -/
  | one
  /-- Any bytes other than slashes. -/
  | many
  /-- Any directories, from the start of the path. -/
  | front
  /-- Anything inside a directory, to the end of the path. -/
  | back
  /-- A slash, or directories between two. -/
  | between
  | set (s : CharSet)
  /-- One of several globs. -/
  | choice (rs : List Regex)

/-! ### Meaning -/

/-- The character that stands for a byte. -/
def byteChar (b : UInt8) : Char := Char.ofNat b.toNat

/-- The characters that stand for the bytes of a text. -/
def byteChars (cs : List Char) : List Char := (Utf8.encode cs).map byteChar

/-- One expression after the other; the empty one leaves no trace. -/
def join : Regex → Regex → Regex
  | .empty, s => s
  | r, .empty => r
  | r, s => .seq r s

def anything : Regex := .repeated (.set .any) 0 none

def slash : Regex := .set (.single '/')

def Part.regex : Part → Regex
  | literal c => (byteChars [c]).foldr (fun b r => join (.set (.single b)) r) .empty
  | one => .set (.compl (.single '/'))
  | many => .repeated (.set (.compl (.single '/'))) 0 none
  | front => .alt (.repeated slash 0 (some 1)) (.seq anything slash)
  | back => .seq slash anything
  | between => .alt slash (.seq slash (.seq anything slash))
  | set s => .set s
  | choice [] => .empty
  | choice (r :: rs) => rs.foldl .alt r

/-- The expression for parts one after the other. -/
def regexOf (parts : List Part) : Regex := parts.foldr (fun p r => join p.regex r) .empty

/-! ### Reading -/

/-- A choice that is still open: the parts before it and its finished alternatives, latest first. -/
structure Choice where
  outside : List Part
  branches : List Regex

/-- What has been read: the parts of the current alternative and the open choices, latest first. -/
structure Progress where
  parts : List Part
  choices : List Choice

namespace Progress

def push (p : Progress) (part : Part) : Progress := { p with parts := part :: p.parts }

def openChoice (p : Progress) : Progress := ⟨[], ⟨p.parts, []⟩ :: p.choices⟩

/-- The finished alternatives with the current one. -/
def branches (p : Progress) (c : Choice) : List Regex := regexOf p.parts.reverse :: c.branches

/-- Ends the innermost choice. Alternatives that match only the empty text do not count. -/
def closeChoice? (p : Progress) : Option Progress :=
  match p.choices with
  | [] => none
  | c :: cs =>
    let rs := (p.branches c).reverse.filter (· != .empty)
    some ⟨.choice rs :: c.outside, cs⟩

/-- Begins the next alternative; outside choices a comma stands for itself. -/
def comma (p : Progress) : Progress :=
  match p.choices with
  | [] => p.push (.literal ',')
  | c :: cs => ⟨[], ⟨c.outside, p.branches c⟩ :: cs⟩

/-- Puts two stars between directories, taking the place of the slash or the stars before them. -/
def pushDirectories (p : Progress) (atEnd : Bool) : Progress :=
  match p.parts with
  | .front :: _ => p
  | .back :: _ => p
  | _ :: parts => { p with parts := (if atEnd then .back else .between) :: parts }
  | [] => p

end Progress

/-- The set of bytes for a range of characters: the last byte of the first and the first byte of the
last bound the range, and all their other bytes belong to it. -/
def rangeSet (lo hi : Char) : CharSet :=
  let a := byteChars [lo]
  let b := byteChars [hi]
  let single := fun cs : List Char => CharSet.ofRanges (cs.map fun c => (c, c))
  if lo = hi then single a
  else
    .union (single a.dropLast)
      (.union (.range (a.getLast?.getD lo) (b.head?.getD hi)) (single b.tail))

/-- The ranges of a class after its opening, latest first. A closing bracket that comes first stands
for itself, and so does a hyphen that has no range to make; a hyphen after a range widens it. -/
def readRanges (ranges : List (Char × Char)) (inRange : Bool) :
    List Char → Except Fault (List (Char × Char) × List Char)
  | [] => .error .unclosedClass
  | c :: r =>
    match ranges with
    | [] => readRanges [(c, c)] false r
    | (lo, hi) :: done =>
      if c = ']' then .ok (if inRange then ('-', '-') :: ranges else ranges, r)
      else if inRange then
        if c < lo then .error (.invalidRange lo c) else readRanges ((lo, c) :: done) false r
      else if c = '-' then readRanges ((lo, hi) :: done) true r
      else readRanges ((c, c) :: ranges) false r

/-- A class after its opening bracket. -/
def readClass (cs : List Char) : Except Fault (CharSet × List Char) := do
  let (negated, cs) :=
    match cs with
    | '!' :: r => (true, r)
    | '^' :: r => (true, r)
    | r => (false, r)
  let (ranges, rest) ← readRanges [] false cs
  let s := ranges.foldr (fun r s => .union s (rangeSet r.1 r.2)) .empty
  .ok (if negated then .compl s else s, rest)

/-- What stars mean after `before`: one matches within a name, two match directories if they stand
between slashes or at an end, and otherwise the same as one. The second result is the last character
read. -/
def readStars (p : Progress) (before : Option Char) (cs : List Char) :
    Progress × Char × List Char :=
  match cs with
  | '*' :: r =>
    let plain := ((p.push .many).push .many, '*', r)
    let inside := !p.choices.isEmpty
    if p.parts.isEmpty then
      match r with
      | [] => (p.push .front, '*', [])
      | c :: r' => if c = '/' then (p.push .front, '/', r') else plain
    else if before != some '/' && !(inside && (before = some ',' || before = some '\x7b')) then
      plain
    else
      match r with
      | [] => (p.pushDirectories true, '*', [])
      | c :: r' =>
        if c = '/' then (p.pushDirectories false, '/', r')
        else if inside && (c = ',' || c = '\x7d') then (p.pushDirectories true, '*', r)
        else plain
  | _ => (p.push .many, '*', cs)

/-- Reads what begins with the character `c`. If `lenient`, a bracket that is not closed stands for
itself. -/
def step (lenient : Bool) (p : Progress) (before : Option Char) (c : Char) (r : List Char) :
    Except Fault (Progress × Char × List Char) :=
  match c with
  | '?' => .ok (p.push .one, c, r)
  | '*' => .ok (readStars p before r)
  | '[' =>
    match readClass r with
    | .ok (s, rest) => .ok (p.push (.set s), ']', rest)
    | .error f =>
      if lenient && f = .unclosedClass then .ok (p.push (.literal c), c, r) else .error f
  | '\x7b' => .ok (p.openChoice, c, r)
  | '\x7d' =>
    match p.closeChoice? with
    | some p => .ok (p, c, r)
    | none => .error .unopenedChoice
  | ',' => .ok (p.comma, c, r)
  | '\\' =>
    match r with
    | [] => .error .danglingEscape
    | d :: r => .ok (p.push (.literal d), d, r)
  | _ => .ok (p.push (.literal c), c, r)

/-- The parts of the glob that ends the text. Every round reads a character, so the length of the
text bounds the rounds. -/
def readFrom (lenient : Bool) :
    (rounds : Nat) → Progress → Option Char → List Char → Except Fault (List Part)
  | 0, p, _, _ => .ok p.parts.reverse
  | n + 1, p, before, cs =>
    match cs with
    | [] => if p.choices.isEmpty then .ok p.parts.reverse else .error .unclosedChoice
    | c :: r => do
      let (p, last, rest) ← step lenient p before c r
      readFrom lenient n p (some last) rest

/-- The parts of the glob that a text writes. -/
def readParts (lenient : Bool) (cs : List Char) : Except Fault (List Part) :=
  readFrom lenient (cs.length + 1) ⟨[], []⟩ none cs

end JsonSchema.Glob
