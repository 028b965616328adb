import JsonSchema.Settings.Content
import JsonSchema.Text.Pieces
/-!
# Settings in JSON

Reads JSON as the content of a configuration file. A number out of range or a text with half a
surrogate pair spoils only itself, so that it does no harm where nobody asks for it.
-/

namespace JsonSchema.Settings.Json

open JsonSchema.Text (decimal hexadecimal isHexDigit)

/-! ### Tokens -/

inductive Token where
  | openList
  | closeList
  | openTable
  | closeTable
  | comma
  | colon
  | scalar (t : Content)

def isSpace (c : Char) : Bool := c == ' ' || c == '\t' || c == '\n' || c == '\r'

/-- The character that a letter after a backslash stands for. -/
def escaped? (c : Char) : Option Char :=
  match c with
  | '"' | '\\' | '/' => some c
  | 'b' => some '\x08'
  | 'f' => some '\x0c'
  | 'n' => some '\n'
  | 'r' => some '\r'
  | 't' => some '\t'
  | _ => none

/-- A part of a text: a character, or a code unit that is given by its number. -/
inductive Piece where
  | char (c : Char)
  | unit (n : Nat)

/-- The character of two code units. -/
def pairChar? (lead trail : Nat) : Option Char :=
  if 0xD800 ≤ lead ∧ lead ≤ 0xDBFF ∧ 0xDC00 ≤ trail ∧ trail ≤ 0xDFFF then
    some (.ofNat ((lead - 0xD800) * 0x400 + (trail - 0xDC00) + 0x10000))
  else none

/-- The characters of parts in order, none if half a surrogate pair stands alone. -/
def charsOf? : List Piece → Option (List Char)
  | [] => some []
  | .char c :: r => (charsOf? r).map (c :: ·)
  | .unit n :: r =>
    if n < 0xD800 ∨ 0xDFFF < n then (charsOf? r).map (Char.ofNat n :: ·)
    else
      match r with
      | .unit m :: r => do return (← pairChar? n m) :: (← charsOf? r)
      | _ => none

def textOf (ps : List Piece) : Content :=
  match charsOf? ps with
  | some cs => .text (String.ofList cs)
  | none => .unusable

/-- Reads a text after its quote; `acc` holds the parts read, latest first. -/
def readText (acc : List Piece) : List Char → Option (Content × List Char)
  | [] => none
  | '"' :: r => some (textOf acc.reverse, r)
  | '\\' :: 'u' :: a :: b :: c :: d :: r =>
    if [a, b, c, d].all isHexDigit then readText (.unit (hexadecimal [a, b, c, d]) :: acc) r
    else none
  | '\\' :: e :: r => do readText (.char (← escaped? e) :: acc) r
  | c :: r => if c.toNat < 0x20 then none else readText (.char c :: acc) r

/-- Digits, at least one. -/
def digits? (cs : List Char) : Option (List Char × List Char) :=
  let ds := cs.takeWhile Char.isDigit
  if ds.isEmpty then none else some (ds, cs.drop ds.length)

/-- What follows an optional fraction, if it is well formed, and whether there is one. -/
def fraction? (cs : List Char) : Option (Bool × List Char) :=
  match cs with
  | '.' :: r => (digits? r).map fun p => (true, p.2)
  | _ => some (false, cs)

/-- What follows an optional exponent, if it is well formed, and whether there is one. -/
def exponent? (cs : List Char) : Option (Bool × List Char) :=
  match cs with
  | c :: r =>
    if c = 'e' ∨ c = 'E' then
      let r :=
        match r with
        | '+' :: r => r
        | '-' :: r => r
        | r => r
      (digits? r).map fun p => (true, p.2)
    else some (false, cs)
  | [] => some (false, cs)

/-- Reads a number after its sign. Zero with a minus is not an integer. -/
def readNumber (negative : Bool) (cs : List Char) : Option (Content × List Char) := do
  let (ds, r) ← digits? cs
  if 1 < ds.length && ds.head? = some '0' then none
  let (fractional, r) ← fraction? r
  let (scaled, r) ← exponent? r
  let n := decimal ds
  if fractional || scaled || (negative && n = 0) then some (.float, r)
  else some (.integer (if negative then -n else n), r)

def word? (w : String) (t : Content) (cs : List Char) : Option (Content × List Char) :=
  if w.toList.isPrefixOf cs then some (t, cs.drop w.length) else none

/-- Reads a scalar. -/
def readScalar (cs : List Char) : Option (Content × List Char) :=
  match cs with
  | '"' :: r => readText [] r
  | '-' :: r => readNumber true r
  | 'n' :: _ => word? "null" .null cs
  | 't' :: _ => word? "true" (.boolean true) cs
  | 'f' :: _ => word? "false" (.boolean false) cs
  | _ => readNumber false cs

def mark? (c : Char) : Option Token :=
  match c with
  | '[' => some .openList
  | ']' => some .closeList
  | '\x7b' => some .openTable
  | '\x7d' => some .closeTable
  | ',' => some .comma
  | ':' => some .colon
  | _ => none

/-- The tokens of a text. Every round reads a character, so the length of the text bounds the
rounds. -/
def tokensIn : (rounds : Nat) → List Char → Option (List Token)
  | 0, _ => some []
  | n + 1, cs =>
    match cs with
    | [] => some []
    | c :: r =>
      if isSpace c then tokensIn n r
      else
        match mark? c with
        | some t => (tokensIn n r).map (t :: ·)
        | none => do
          let (t, r) ← readScalar cs
          return .scalar t :: (← tokensIn n r)

/-- The tokens of a text. -/
def tokens (cs : List Char) : Option (List Token) := tokensIn (cs.length + 1) cs

/-! ### Contents -/

/-- What a token may be. -/
inductive Mode where
  | value
  /-- A value, or the end of a list that is empty so far. -/
  | first
  /-- A name, or the end of a table that is empty so far. -/
  | firstName
  | name
  | colon
  /-- A comma, or the end of what is open. -/
  | next
deriving DecidableEq

/-- A list or table that is open: what is in it, latest first, and the name read last. -/
inductive Frame where
  | list (items : List Content)
  | table (members : List (Option String × Content)) (name : Option String)

structure State where
  mode : Mode
  frames : List Frame
  /-- The content that is complete. -/
  done : Option Content

def State.start : State := ⟨.value, [], none⟩

/-- The state after a value. -/
def State.put (frames : List Frame) (t : Content) : State :=
  match frames with
  | [] => ⟨.next, [], some t⟩
  | .list ts :: fs => ⟨.next, .list (t :: ts) :: fs, none⟩
  | .table ms k :: fs => ⟨.next, .table ((k, t) :: ms) none :: fs, none⟩

/-- The name that a scalar is. -/
def name? : Content → Option (Option String)
  | .text s => some (some s)
  | .unusable => some none
  | _ => none

def State.step (s : State) (t : Token) : Option State :=
  match s.mode, s.frames, t with
  | .value, fs, .scalar v => some (.put fs v)
  | .value, fs, .openList => some ⟨.first, .list [] :: fs, none⟩
  | .value, fs, .openTable => some ⟨.firstName, .table [] none :: fs, none⟩
  | .first, .list [] :: fs, .closeList => some (.put fs (.list []))
  | .first, fs, .scalar v => some (.put fs v)
  | .first, fs, .openList => some ⟨.first, .list [] :: fs, none⟩
  | .first, fs, .openTable => some ⟨.firstName, .table [] none :: fs, none⟩
  | .firstName, .table [] _ :: fs, .closeTable => some (.put fs (.table []))
  | .firstName, .table ms _ :: fs, .scalar v =>
    (name? v).map fun k => ⟨.colon, .table ms k :: fs, none⟩
  | .name, .table ms _ :: fs, .scalar v =>
    (name? v).map fun k => ⟨.colon, .table ms k :: fs, none⟩
  | .colon, fs, .colon => some ⟨.value, fs, none⟩
  | .next, .list ts :: fs, .comma => some ⟨.value, .list ts :: fs, none⟩
  | .next, .list ts :: fs, .closeList => some (.put fs (.list ts.reverse))
  | .next, .table ms k :: fs, .comma => some ⟨.name, .table ms k :: fs, none⟩
  | .next, .table ms _ :: fs, .closeTable => some (.put fs (.table ms.reverse))
  | _, _, _ => none

/-- The content that a text writes. -/
def content? (text : String) : Option Content := do
  let s ← (← tokens text.toList).foldlM State.step .start
  s.done

end JsonSchema.Settings.Json
