import JsonSchema.Settings.Toml.Scalar
import JsonSchema.Settings.Toml.Table
/-!
# Reading TOML

Keys, values, and documents line by line.
-/

namespace JsonSchema.Settings.Toml

def skipBlanks (cs : List Char) : List Char := cs.dropWhile isBlank

/-- What follows the text of a comment, up to the end of the line. -/
def comment? (cs : List Char) : Option (List Char) :=
  let text := cs.takeWhile fun c => c != '\n' && c != '\r'
  if text.all isPrintable then some (cs.drop text.length) else none

/-- What follows blanks, a comment and the end of the line. -/
def lineEnd? (cs : List Char) : Option (List Char) := do
  let cs ←
    match skipBlanks cs with
    | '#' :: r => comment? r
    | r => some r
  if cs.isEmpty then some [] else newline? cs

/-- Skips blanks, line breaks and comments. Every round reads a character. -/
def skipAllIn : (rounds : Nat) → List Char → Option (List Char)
  | 0, cs => some cs
  | n + 1, cs =>
    match cs with
    | '#' :: r => do skipAllIn n (← comment? r)
    | c :: r =>
      if isBlank c then skipAllIn n r
      else
        match newline? cs with
        | some r => skipAllIn n r
        | none => some cs
    | [] => some []

def skipAll (cs : List Char) : Option (List Char) := skipAllIn cs.length cs

/-! ### Keys -/

def isBareChar (c : Char) : Bool := c.isAlphanum || c == '_' || c == '-'

/-- One name of a key. -/
def name? (cs : List Char) : Option (String × List Char) :=
  match cs with
  | '"' :: r => (readBasic [] r).map fun (s, r) => (String.ofList s, r)
  | '\'' :: r => (readLiteral [] r).map fun (s, r) => (String.ofList s, r)
  | _ =>
    let s := cs.takeWhile isBareChar
    if s.isEmpty then none else some (String.ofList s, cs.drop s.length)

/-- Names with points between them, and blanks around them. Every round reads a name. -/
def keyIn : (rounds : Nat) → List Char → Option (List String × List Char)
  | 0, _ => none
  | n + 1, cs => do
    let (name, r) ← name? (skipBlanks cs)
    match skipBlanks r with
    | '.' :: r =>
      let (names, r) ← keyIn n r
      some (name :: names, r)
    | r => some ([name], r)

def key? (cs : List Char) : Option (List String × List Char) := keyIn (cs.length + 1) cs

/-! ### Values -/

/-- Lists and tables in braces may lie inside each other this deep. -/
def depthLimit : Nat := 80

/-- A list or a table in braces that is open. -/
inductive Frame where
  /-- The items, latest first. -/
  | list (items : List Content)
  /-- The members, and the key of the next value. -/
  | table (members : Members) (key : List String)

/-- Adds a value to what is open. -/
def Frame.add (t : Content) : Frame → Option Frame
  | .list ts => some (.list (t :: ts))
  | .table ms key => (ms.addValue key t).map (.table · [])

def Frame.content : Frame → Content
  | .list ts => .list ts.reverse
  | .table ms _ => .table (Members.contents ms)

/-- The bracket that ends it. -/
def Frame.close : Frame → Char
  | .list _ => ']'
  | .table _ _ => '\x7d'

/-- Reads the key of the next member, up to the value; a list has none. -/
def Frame.key? (f : Frame) (cs : List Char) : Option (Frame × List Char) :=
  match f with
  | .list _ => some (f, cs)
  | .table ms _ => do
    let (key, r) ← Toml.key? cs
    match r with
    | '=' :: r => some (.table ms key, skipBlanks r)
    | _ => none

/-- What comes next. -/
inductive Next where
  | value
  /-- A value or a member inside the innermost bracket, or the end of the bracket. -/
  | item
  /-- What may follow a value. -/
  | after (t : Content)

/-- Reads on to the end of the outermost value. In three rounds at least one character is read, so
the length of the text bounds the rounds. -/
def valueIn : (rounds : Nat) → List Frame → Next → List Char → Option (Content × List Char)
  | 0, _, _, _ => none
  | n + 1, frames, .value, cs =>
    let enter (f : Frame) (r : List Char) :=
      if frames.length < depthLimit then valueIn n (f :: frames) .item r else none
    match cs with
    | '[' :: r => enter (.list []) r
    | '\x7b' :: r => enter (.table [] []) r
    | _ =>
      match readQuoted? cs with
      | some quoted => do
        let (s, r) ← quoted
        valueIn n frames (.after (.text (String.ofList s))) r
      | none => do
        let (t, r) ← readUnquoted cs
        valueIn n frames (.after t) r
  | n + 1, f :: fs, .item, cs => do
    match ← skipAll cs with
    | [] => none
    | c :: r =>
      if c = f.close then valueIn n fs (.after f.content) r
      else
        let (f, r) ← f.key? (c :: r)
        valueIn n (f :: fs) .value r
  | _, [], .item, _ => none
  | _, [], .after t, cs => some (t, cs)
  | n + 1, f :: fs, .after t, cs => do
    let f ← f.add t
    match ← skipAll cs with
    | [] => none
    | c :: r =>
      if c = ',' then valueIn n (f :: fs) .item r
      else if c = f.close then valueIn n fs (.after f.content) r
      else none

def value? (cs : List Char) : Option (Content × List Char) :=
  valueIn (3 * cs.length + 3) [] .value cs

/-! ### Documents -/

/-- Reads what remains of a document after the tables in `ms`; keys belong to the table at
`path`. Every round reads a character. -/
def documentIn : (rounds : Nat) → Members → List String → List Char → Option Members
  | 0, ms, _, _ => some ms
  | n + 1, ms, path, cs => do
    match ← skipAll cs with
    | [] => some ms
    | '[' :: '[' :: r =>
      let (key, r) ← key? r
      match r with
      | ']' :: ']' :: r => documentIn n (← ms.addElement key) key (← lineEnd? r)
      | _ => none
    | '[' :: r =>
      let (key, r) ← key? r
      match r with
      | ']' :: r => documentIn n (← ms.addTable key) key (← lineEnd? r)
      | _ => none
    | r =>
      let (key, r) ← key? r
      match r with
      | '=' :: r =>
        let (t, r) ← value? (skipBlanks r)
        documentIn n (← ms.within false (Members.addValue key t) path) path (← lineEnd? r)
      | _ => none

/-- The character that may mark a text as Unicode at its beginning. -/
def byteOrderMark : Char := '\ufeff'

/-- The content that a document writes. -/
def content? (text : String) : Option Content :=
  let cs :=
    match text.toList with
    | c :: r => if c = byteOrderMark then r else c :: r
    | [] => []
  (documentIn (cs.length + 1) [] [] cs).map fun ms => .table (Members.contents ms)

end JsonSchema.Settings.Toml
