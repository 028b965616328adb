import JsonSchema.Pattern.Regex
import JsonSchema.Text.Pieces
/-!
# Reading patterns

The written form of regular expressions. Flags are in force from where they are set to the end of
the group; groups and bracketed classes are read with a stack of what encloses them. Text that is no
pattern reads as nothing.
-/

namespace JsonSchema.Pattern

open JsonSchema.Unicode (Property isBlank)
open JsonSchema.Text (decimal hexadecimal isHexDigit)

/-! ### Flags -/

inductive Flag where
  | caseless
  | multiLine
  | dotAll
  | shortest
  | crlf
  | unicode
  | spaced
deriving DecidableEq

def Flag.ofChar? : Char → Option Flag
  | 'i' => some caseless
  | 'm' => some multiLine
  | 's' => some dotAll
  | 'U' => some shortest
  | 'R' => some crlf
  | 'u' => some unicode
  | 'x' => some spaced
  | _ => none

structure Flags where
  caseless : Bool := false
  multiLine : Bool := false
  dotAll : Bool := false
  crlf : Bool := false
  unicode : Bool := true
  spaced : Bool := false

namespace Flags

/-- The flags after one is set or cleared. Whether repetitions prefer to be short does not change
what is matched. -/
def put (f : Flags) (flag : Flag) (on : Bool) : Flags :=
  match flag with
  | .caseless => { f with caseless := on }
  | .multiLine => { f with multiLine := on }
  | .dotAll => { f with dotAll := on }
  | .shortest => f
  | .crlf => { f with crlf := on }
  | .unicode => { f with unicode := on }
  | .spaced => { f with spaced := on }

def putAll (f : Flags) (directives : List (Flag × Bool)) : Flags :=
  directives.foldl (fun f d => f.put d.1 d.2) f

end Flags

/-- The flags to set and clear up to the colon or bracket that ends them. A hyphen clears those
after it; no flag is named twice. -/
def readDirectives (seen : List Flag) (clearing dangling : Bool) :
    List Char → Option (List (Flag × Bool) × List Char)
  | [] => none
  | c :: r =>
    if c = ':' || c = ')' then if dangling then none else some ([], c :: r)
    else if c = '-' then if clearing then none else readDirectives seen true true r
    else
      match Flag.ofChar? c with
      | none => none
      | some f =>
        if seen.contains f then none
        else (readDirectives (f :: seen) clearing false r).map fun p => ((f, !clearing) :: p.1, p.2)

/-! ### Blanks -/

/-- The text after leading blanks and comments, which run to the end of their line. -/
def skipBlanks (inComment : Bool) : List Char → List Char
  | [] => []
  | c :: r =>
    if inComment then skipBlanks (c != '\n') r
    else if isBlank c then skipBlanks false r
    else if c = '#' then skipBlanks true r
    else c :: r

theorem length_skipBlanks_le (b : Bool) (cs : List Char) :
    (skipBlanks b cs).length ≤ cs.length := by
  induction cs generalizing b with
  | nil => simp [skipBlanks]
  | cons c r ih =>
    rw [skipBlanks]
    split
    · exact Nat.le_succ_of_le (ih _)
    · split
      · exact Nat.le_succ_of_le (ih _)
      · split
        · exact Nat.le_succ_of_le (ih _)
        · exact Nat.le_refl _

namespace Flags

/-- The text after what the flags let stand for nothing. -/
def skip (f : Flags) (cs : List Char) : List Char := if f.spaced then skipBlanks false cs else cs

theorem length_skip_le (f : Flags) (cs : List Char) : (f.skip cs).length ≤ cs.length := by
  unfold skip
  split
  · exact length_skipBlanks_le _ _
  · exact Nat.le_refl _

/-- The longest run of characters that satisfy `p`, and the text after it. -/
def span (f : Flags) (p : Char → Bool) : List Char → List Char × List Char
  | [] => ([], [])
  | c :: r =>
    if p c then
      let (run, rest) := f.span p (f.skip r)
      (c :: run, rest)
    else ([], c :: r)
termination_by cs => cs.length
decreasing_by exact Nat.lt_succ_of_le (f.length_skip_le r)

/-- A set as the flags let it match. -/
def fold (f : Flags) (s : CharSet) : CharSet :=
  if !f.caseless then s else if f.unicode then .caseless s else .caselessAscii s

/-- The complement of a set. Without Unicode it would hold single bytes that are no characters. -/
def complement? (f : Flags) (negated : Bool) (s : CharSet) : Option CharSet :=
  if !negated then some s else if f.unicode then some (.compl s) else none

def word (f : Flags) : CharSet := if f.unicode then .word else .asciiWord

/-- What a dot matches. -/
def dot? (f : Flags) : Option CharSet :=
  if !f.unicode then none
  else if f.dotAll then some .any
  else if f.crlf then some (.compl (.union (.single '\n') (.single '\r')))
  else some (.compl (.single '\n'))

def start (f : Flags) : Look :=
  if !f.multiLine then .textStart else if f.crlf then .lineStartCrlf else .lineStart

def finish (f : Flags) : Look :=
  if !f.multiLine then .textEnd else if f.crlf then .lineEndCrlf else .lineEnd

end Flags

/-! ### Numbers -/

/-- The character whose code point has these hexadecimal digits. -/
def scalar? (digits : List Char) : Option Char :=
  let n := hexadecimal digits
  if n.isValidChar then some (Char.ofNat n) else none

/-- Exactly `count` hexadecimal digits and the text after them. -/
def readDigits (f : Flags) : (count : Nat) → List Char → Option (List Char × List Char)
  | 0, cs => some ([], cs)
  | _ + 1, [] => none
  | n + 1, c :: r =>
    if isHexDigit c then (readDigits f n (f.skip r)).map fun p => (c :: p.1, p.2) else none

/-- The character given by `count` hexadecimal digits or by digits in braces, with whether it was
given by as many digits as `count`. -/
def readHex (f : Flags) (count : Nat) (cs : List Char) : Option (Char × Bool × List Char) :=
  match f.skip cs with
  | '\x7b' :: r =>
    match f.span isHexDigit (f.skip r) with
    | (digits, '\x7d' :: rest) =>
      if digits.isEmpty then none else (scalar? digits).map fun c => (c, false, rest)
    | _ => none
  | r => do
    let (digits, rest) ← readDigits f count r
    let c ← scalar? digits
    some (c, true, rest)

/-- A decimal number below 2^32 among blanks. -/
def readDecimal (f : Flags) (cs : List Char) : Option (Nat × List Char) :=
  let (digits, rest) := f.span Char.isDigit (cs.dropWhile isBlank)
  let n := decimal digits
  if digits.isEmpty || Nat.pow 2 32 ≤ n then none else some (n, rest.dropWhile isBlank)

/-- The bounds of a repetition, after its opening brace. -/
def readBounds (f : Flags) (cs : List Char) : Option (Nat × Option Nat × List Char) := do
  let (min, rest) ← readDecimal f (f.skip cs)
  match rest with
  | '\x7d' :: r => some (min, some min, r)
  | ',' :: r =>
    match f.skip r with
    | '\x7d' :: r => some (min, none, r)
    | r =>
      match readDecimal f r with
      | some (max, '\x7d' :: r) => if min ≤ max then some (min, some max, r) else none
      | _ => none
  | _ => none

/-! ### Escapes -/

/-- What an escape stands for. -/
inductive Escape where
  | literal (c : Char)
  | look (l : Look)
  | set (s : CharSet)

def metaChars : List Char :=
  ['\\', '.', '+', '*', '?', '(', ')', '|', '[', ']', '\x7b', '\x7d', '^', '$', '#', '&', '-', '~']

/-- Whether a character may be written after a backslash and then stands for itself. -/
def isEscapable (c : Char) : Bool :=
  metaChars.contains c || c.toNat < 128 && !c.isAlphanum && c != '<' && c != '>'

/-- The edge that a name in braces after `\b` speaks of. -/
def WordEdge.named? (name : String) : Option WordEdge :=
  match name with
  | "start" => some first
  | "end" => some last
  | "start-half" => some notAfterWord
  | "end-half" => some notBeforeWord
  | _ => none

/-- The edge of a word after `\b`. A brace that no letter follows is no part of it. -/
def readWordEdge (f : Flags) (cs : List Char) : Option (WordEdge × List Char) :=
  let isName := fun c : Char => c.isAlpha || c = '-'
  match cs with
  | '\x7b' :: r =>
    match f.skip r with
    | [] => none
    | c :: r' =>
      if !isName c then some (.boundary, cs)
      else
        match f.span isName (c :: r') with
        | (name, '\x7d' :: rest) => (WordEdge.named? (String.ofList name)).map fun e => (e, rest)
        | _ => none
  | _ => some (.boundary, cs)

/-- The text before the first place where `mark` stands, and that after it. -/
def cutAt? (mark : List Char) : List Char → Option (List Char × List Char)
  | [] => none
  | c :: r =>
    if mark.isPrefixOf (c :: r) then some ([], (c :: r).drop mark.length)
    else (cutAt? mark r).map fun p => (c :: p.1, p.2)

/-- The Unicode class described between braces, and whether it is meant in the negative. -/
def classNamed? (text : List Char) : Option (CharSet × Bool) :=
  let valued := fun p : List Char × List Char =>
    CharSet.valued? (String.ofList p.1) (String.ofList p.2)
  match cutAt? ['!', '='] text with
  | some p => (valued p).map (·, true)
  | none =>
    match cutAt? [':'] text <|> cutAt? ['='] text with
    | some p => (valued p).map (·, false)
    | none => (CharSet.named? (String.ofList text)).map (·, false)

/-- A Unicode class, after `\p` or `\P`. -/
def readUnicodeClass (f : Flags) (negated : Bool) (cs : List Char) :
    Option (CharSet × List Char) := do
  if !f.unicode then none
  let ((set, opposite), rest) ←
    match f.skip cs with
    | [] => none
    | '\x7b' :: r =>
      match f.span (· != '\x7d') (f.skip r) with
      | (name, '\x7d' :: rest) => (classNamed? name).map (·, rest)
      | _ => none
    | c :: r => if c = '\\' then none else (CharSet.named? c.toString).map fun s => ((s, false), r)
  let set ← f.complement? (negated != opposite) (f.fold set)
  some (set, rest)

/-- One of the sets written as a backslash and a letter. -/
def letterClass? (f : Flags) (c : Char) : Option CharSet :=
  match c with
  | 'd' | 'D' => f.complement? (c = 'D') (if f.unicode then .digit else .asciiDigit)
  | 's' | 'S' => f.complement? (c = 'S') (if f.unicode then .space else .asciiSpace)
  | 'w' | 'W' => f.complement? (c = 'W') f.word
  | _ => none

/-- The escape after a backslash. -/
def readEscape (f : Flags) : List Char → Option (Escape × List Char)
  | [] => none
  | c :: r =>
    let hex := fun count : Nat => do
      let (d, fixed, rest) ← readHex f count r
      if !f.unicode && count = 2 && fixed && 128 ≤ d.toNat then none
      some (Escape.literal d, rest)
    match c with
    | 'x' => hex 2
    | 'u' => hex 4
    | 'U' => hex 8
    | 'p' => (readUnicodeClass f false r).map fun p => (.set p.1, p.2)
    | 'P' => (readUnicodeClass f true r).map fun p => (.set p.1, p.2)
    | 'd' | 'D' | 's' | 'S' | 'w' | 'W' => (letterClass? f c).map fun s => (.set s, r)
    | 'a' => some (.literal '\x07', r)
    | 'f' => some (.literal '\x0c', r)
    | 't' => some (.literal '\t', r)
    | 'n' => some (.literal '\n', r)
    | 'r' => some (.literal '\r', r)
    | 'v' => some (.literal '\x0b', r)
    | 'A' => some (.look .textStart, r)
    | 'z' => some (.look .textEnd, r)
    | 'b' => (readWordEdge f r).map fun p => (.look (.word p.1 f.word), p.2)
    | 'B' => some (.look (.word .noBoundary f.word), r)
    | '<' => some (.look (.word .first f.word), r)
    | '>' => some (.look (.word .last f.word), r)
    | _ => if isEscapable c then some (.literal c, r) else none

/-! ### Bracketed classes -/

/-- A part of a bracketed class and how deeply it nests. -/
structure ClassPart where
  set : CharSet
  depth : Nat

inductive SetOp where
  | inter
  | diff
  | symmDiff

/-- A bracketed class that is still open: its parts since the last operator, latest first, and that
operator with what stands before it. -/
structure Bracket where
  negated : Bool
  parts : List ClassPart
  pending : Option (ClassPart × SetOp)

namespace Bracket

def add (b : Bracket) (p : ClassPart) : Bracket := { b with parts := p :: b.parts }

/-- The union of the parts since the last operator. -/
def union (b : Bracket) : ClassPart :=
  match b.parts with
  | [] => ⟨.empty, 0⟩
  | [p] => p
  | p :: ps =>
    ps.foldl (fun q p => ⟨.union p.set q.set, max (1 + p.depth) q.depth⟩) ⟨p.set, 1 + p.depth⟩

/-- All that has been read. An operator combines its sides after case is ignored in them. -/
def value (f : Flags) (b : Bracket) : ClassPart :=
  let right := b.union
  match b.pending with
  | none => right
  | some (left, op) =>
    let s := f.fold left.set
    let t := f.fold right.set
    let set :=
      match op with
      | .inter => .inter s t
      | .diff => .diff s t
      | .symmDiff => .symmDiff s t
    ⟨set, 1 + max left.depth right.depth⟩

def operate (f : Flags) (op : SetOp) (b : Bracket) : Bracket :=
  { b with parts := [], pending := some (b.value f, op) }

def close? (f : Flags) (b : Bracket) : Option ClassPart :=
  let v := b.value f
  (f.complement? b.negated (f.fold v.set)).map fun s => ⟨s, 1 + v.depth⟩

end Bracket

/-- The hyphens that open a class and stand for themselves, and the text after them. -/
def readHyphens (f : Flags) (cs : List Char) : List Char × List Char := f.span (· = '-') cs

/-- A class after its opening bracket. Hyphens in front and a closing bracket that comes first stand
for themselves. -/
def openBracket (f : Flags) (cs : List Char) : Bracket × List Char :=
  let (negated, cs) :=
    match f.skip cs with
    | '^' :: r => (true, f.skip r)
    | r => (false, r)
  let (hyphens, cs) := readHyphens f cs
  let b : Bracket := ⟨negated, hyphens.map fun _ => ⟨.single '-', 0⟩, none⟩
  match hyphens, cs with
  | [], ']' :: r => (b.add ⟨.single ']', 0⟩, f.skip r)
  | _, _ => (b, cs)

/-- A named ASCII set after the bracket that opens it. -/
def readPosix (f : Flags) : List Char → Option (Option CharSet × List Char)
  | ':' :: r =>
    let (negated, r) :=
      match r with
      | '^' :: r => (true, r)
      | r => (false, r)
    match cutAt? [':'] r with
    | some (name, ']' :: rest) =>
      (CharSet.posix? (String.ofList name)).map fun s => (f.complement? negated (f.fold s), rest)
    | _ => none
  | _ => none

/-- A character or an escape in a class. -/
def readClassItem (f : Flags) : List Char → Option (Escape × List Char)
  | [] => none
  | '\\' :: r => readEscape f r
  | c :: r => some (.literal c, r)

/-- Whether a character may stand in a class. -/
def Flags.admits (f : Flags) (c : Char) : Bool := f.unicode || c.toNat < 128

def Escape.classPart? (f : Flags) : Escape → Option ClassPart
  | .literal c => if f.admits c then some ⟨.single c, 0⟩ else none
  | .set s => some ⟨s, 0⟩
  | .look _ => none

/-- A single part of a class or a range. -/
def readClassPart (f : Flags) (cs : List Char) : Option (ClassPart × List Char) := do
  let (first, rest) ← readClassItem f cs
  match f.skip rest with
  | [] => none
  | '-' :: r =>
    match f.skip r with
    | [] => none
    | d :: r' =>
      if d = ']' || d = '-' then (first.classPart? f).map (·, '-' :: r)
      else
        match first, readClassItem f (d :: r') with
        | .literal lo, some (.literal hi, rest) =>
          if lo ≤ hi && f.admits lo && f.admits hi then some (⟨.range lo hi, 0⟩, rest) else none
        | _, _ => none
  | r => (first.classPart? f).map (·, r)

/-- A class from inside its brackets on, with those that enclose it. Every round reads a character,
so the length of the text bounds the rounds. -/
def readClass (f : Flags) :
    (rounds : Nat) → Bracket → List Bracket → List Char → Option (ClassPart × List Char)
  | 0, _, _, _ => none
  | n + 1, b, outer, cs =>
    match f.skip cs with
    | [] => none
    | '[' :: r =>
      match readPosix f r with
      | some (set, rest) => set.bind fun s => readClass f n (b.add ⟨s, 0⟩) outer rest
      | none =>
        let (inner, rest) := openBracket f r
        readClass f n inner (b :: outer) rest
    | ']' :: r =>
      (b.close? f).bind fun part =>
        match outer with
        | [] => some (part, r)
        | b' :: outer => readClass f n (b'.add part) outer r
    | '&' :: '&' :: r => readClass f n (b.operate f .inter) outer r
    | '-' :: '-' :: r => readClass f n (b.operate f .diff) outer r
    | '~' :: '~' :: r => readClass f n (b.operate f .symmDiff) outer r
    | r => (readClassPart f r).bind fun p => readClass f n (b.add p.1) outer p.2

/-! ### Groups and alternatives -/

/-- A part of an expression, how deeply it nests, and whether a repetition may follow it. -/
structure Piece where
  regex : Regex
  depth : Nat
  repeatable : Bool

/-- The parts one after the other, given latest first. -/
def Piece.concat : List Piece → Piece
  | [] => ⟨.empty, 0, true⟩
  | [p] => p
  | ps =>
    ps.foldl (fun q p => ⟨.seq p.regex q.regex, max (1 + p.depth) q.depth, true⟩) ⟨.empty, 1, true⟩

/-- The choice between parts. -/
def Piece.choice : List Piece → Piece
  | [] => ⟨.empty, 0, true⟩
  | [p] => p
  | p :: ps =>
    ps.foldl (fun q p => ⟨.alt p.regex q.regex, max (1 + p.depth) q.depth, true⟩)
      ⟨p.regex, 1 + p.depth, true⟩

/-- A group that is still open: the flags outside it, its finished alternatives and the parts of the
current one, both latest first. -/
structure Group where
  outside : Flags
  branches : List Piece
  parts : List Piece

def Group.value (g : Group) : Piece := Piece.choice (Piece.concat g.parts :: g.branches)

/-- What has been read of a pattern. -/
structure Progress where
  flags : Flags
  group : Group
  enclosing : List Group
  names : List String

namespace Progress

def start : Progress := ⟨{}, ⟨{}, [], []⟩, [], []⟩

def push (p : Progress) (piece : Piece) : Progress :=
  { p with group := { p.group with parts := piece :: p.group.parts } }

def pushRegex (p : Progress) (r : Regex) : Progress := p.push ⟨r, 0, true⟩

def pushLiteral (p : Progress) (c : Char) : Progress :=
  p.pushRegex (.set (p.flags.fold (.single c)))

/-- Begins the next alternative. -/
def branch (p : Progress) : Progress :=
  { p with group := ⟨p.group.outside, Piece.concat p.group.parts :: p.group.branches, []⟩ }

/-- Begins a group with these flags. -/
def openWith (p : Progress) (flags : Flags) : Progress :=
  { p with flags, group := ⟨p.flags, [], []⟩, enclosing := p.group :: p.enclosing }

/-- Ends the current group, if there is one. -/
def close? (p : Progress) : Option Progress :=
  match p.enclosing with
  | [] => none
  | outer :: enclosing =>
    let v := p.group.value
    some ({ p with flags := p.group.outside, group := outer, enclosing }.push
      ⟨v.regex, 1 + v.depth, true⟩)

/-- Repeats the last part of the current alternative. -/
def repeat? (p : Progress) (min : Nat) (max : Option Nat) : Option Progress :=
  match p.group.parts with
  | [] => none
  | q :: parts =>
    if q.repeatable then
      let repeated := ⟨.repeated q.regex min max, 1 + q.depth, true⟩
      some { p with group := { p.group with parts := repeated :: parts } }
    else none

end Progress

/-- Whether a character may stand in the name of a group, and whether it may begin one. -/
def isNameChar (first : Bool) (c : Char) : Bool :=
  c = '_' || Property.alphabetic.holds c.toNat ||
    !first &&
      (c = '.' || c = '[' || c = ']' || ["Nd", "Nl", "No"].contains (Unicode.category c.toNat))

/-- A group with a name that no other has, after the bracket in front of the name. -/
def openNamed (p : Progress) (cs : List Char) : Option (Progress × List Char) := do
  let (name, rest) ← cutAt? ['>'] cs
  match name with
  | [] => none
  | c :: r =>
    let text := String.ofList name
    if isNameChar true c && r.all (isNameChar false) && !p.names.contains text then
      some ({ p with names := text :: p.names }.openWith p.flags, rest)
    else none

/-- What an opening parenthesis begins: a group, or flags for the rest of the current one.
Assertions about the text ahead or behind are no patterns. -/
def openGroup (p : Progress) (cs : List Char) : Option (Progress × List Char) :=
  match p.flags.skip cs with
  | '?' :: '=' :: _ | '?' :: '!' :: _ | '?' :: '<' :: '=' :: _ | '?' :: '<' :: '!' :: _ => none
  | '?' :: 'P' :: '<' :: r => openNamed p r
  | '?' :: '<' :: r => openNamed p r
  | '?' :: r =>
    match readDirectives [] false false r with
    | some (directives, ':' :: rest) => some (p.openWith (p.flags.putAll directives), rest)
    | some (directives, _ :: rest) =>
      if directives.isEmpty then none
      else some ({ p with flags := p.flags.putAll directives }.push ⟨.empty, 0, false⟩, rest)
    | _ => none
  | r => some (p.openWith p.flags, r)

/-- The text after the mark that makes a repetition prefer to be short. -/
def skipLazy : List Char → List Char
  | '?' :: r => r
  | r => r

/-- Reads what begins with the character `c`. -/
def step (p : Progress) (c : Char) (r : List Char) : Option (Progress × List Char) :=
  let repeated := fun (min : Nat) (max : Option Nat) (r : List Char) =>
    (p.repeat? min max).map (·, skipLazy r)
  match c with
  | '(' => openGroup p r
  | ')' => p.close?.map (·, r)
  | '|' => some (p.branch, r)
  | '[' =>
    let (b, rest) := openBracket p.flags r
    (readClass p.flags (rest.length + 1) b [] rest).map fun q =>
      (p.push ⟨.set q.1.set, q.1.depth, true⟩, q.2)
  | '?' => repeated 0 (some 1) r
  | '*' => repeated 0 none r
  | '+' => repeated 1 none r
  | '\x7b' => (readBounds p.flags r).bind fun (min, max, rest) => repeated min max rest
  | '\\' =>
    (readEscape p.flags r).map fun q =>
      match q.1 with
      | .literal d => (p.pushLiteral d, q.2)
      | .look l => (p.pushRegex (.look l), q.2)
      | .set s => (p.pushRegex (.set s), q.2)
  | '.' => p.flags.dot?.map fun s => (p.pushRegex (.set s), r)
  | '^' => some (p.pushRegex (.look p.flags.start), r)
  | '$' => some (p.pushRegex (.look p.flags.finish), r)
  | _ => some (p.pushLiteral c, r)

/-- The pattern that ends the text. Every round reads a character, so the length of the text bounds
the rounds. -/
def readFrom : (rounds : Nat) → Progress → List Char → Option Piece
  | 0, _, _ => none
  | n + 1, p, cs =>
    match p.flags.skip cs with
    | [] => if p.enclosing.isEmpty then some p.group.value else none
    | c :: r => (step p c r).bind fun q => readFrom n q.1 q.2

/-- How deeply a pattern may nest. -/
def maxDepth : Nat := 250

/-- How much room the automaton of a pattern may take, in bytes. -/
def maxWeight : Nat := 10 * Nat.pow 2 20

/-- The expression that a text writes, if there is one and it nests and weighs no more than
allowed. -/
def Regex.read? (s : String) : Option Regex :=
  let cs := s.toList
  (readFrom (cs.length + 1) .start cs).bind fun p =>
    if p.depth ≤ maxDepth ∧ p.regex.weight ≤ maxWeight then some p.regex else none

end JsonSchema.Pattern
