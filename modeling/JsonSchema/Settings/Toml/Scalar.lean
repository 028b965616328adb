import JsonSchema.Binary64
import JsonSchema.Format.DateTime
import JsonSchema.Settings.Content
/-!
# Scalars of TOML

Texts in quotes, numbers, truth values, dates and times.
-/

namespace JsonSchema.Settings.Toml

open JsonSchema.Text (decimal hexadecimal hexValue? isHexDigit splitAt)

/-- Whether a character may stand in a comment or a text. -/
def isPrintable (c : Char) : Bool := c == '\t' || (0x20 ≤ c.toNat && c.toNat != 0x7F)

def isBlank (c : Char) : Bool := c == ' ' || c == '\t'

/-- What follows a line break. -/
def newline? : List Char → Option (List Char)
  | '\n' :: r => some r
  | '\r' :: '\n' :: r => some r
  | _ => none

/-! ### Texts -/

def escaped? (c : Char) : Option Char :=
  match c with
  | '"' | '\\' => some c
  | 'b' => some '\x08'
  | 'e' => some '\x1b'
  | 'f' => some '\x0c'
  | 'n' => some '\n'
  | 'r' => some '\r'
  | 't' => some '\t'
  | _ => none

/-- The character with a number in hexadecimal digits. -/
def charOf? (ds : List Char) : Option Char :=
  let n := hexadecimal ds
  if ds.all isHexDigit && decide n.isValidChar then some (.ofNat n) else none

/-- Reads a text on one line after its quote; `acc` holds the characters read, latest first. -/
def readBasic (acc : List Char) : List Char → Option (List Char × List Char)
  | [] => none
  | '"' :: r => some (acc.reverse, r)
  | '\\' :: 'x' :: a :: b :: r => do readBasic ((← charOf? [a, b]) :: acc) r
  | '\\' :: 'u' :: a :: b :: c :: d :: r => do readBasic ((← charOf? [a, b, c, d]) :: acc) r
  | '\\' :: 'U' :: a :: b :: c :: d :: e :: f :: g :: h :: r => do
    readBasic ((← charOf? [a, b, c, d, e, f, g, h]) :: acc) r
  | '\\' :: e :: r => do readBasic ((← escaped? e) :: acc) r
  | c :: r => if isPrintable c then readBasic (c :: acc) r else none

/-- Reads a text without escapes on one line after its quote. -/
def readLiteral (acc : List Char) : List Char → Option (List Char × List Char)
  | [] => none
  | '\'' :: r => some (acc.reverse, r)
  | c :: r => if isPrintable c then readLiteral (c :: acc) r else none

/-- The quotes that end a text in three quotes: one or two more belong to the text. -/
def closing? (q : Char) (cs : List Char) : Option (List Char × List Char) :=
  let run := (cs.takeWhile (· == q)).length
  if run < 3 then none
  else
    let inside := min (run - 3) 2
    some (List.replicate inside q, cs.drop (inside + 3))

/-- What follows blanks and a line break, and all blanks and line breaks after that. -/
def skipBreak? (cs : List Char) : Option (List Char) :=
  (newline? (cs.dropWhile isBlank)).map
    (·.dropWhile fun c => isBlank c || c == '\n' || c == '\r')

/-- Reads a text on several lines after its quotes. A backslash at the end of a line joins it with
what comes next. Every round reads a character, so the length of the text bounds the rounds. -/
def readLines (quote : Char) (escapes : Bool) :
    (rounds : Nat) → List Char → List Char → Option (List Char × List Char)
  | 0, _, _ => none
  | n + 1, acc, cs =>
    match closing? quote cs with
    | some (inside, r) => some (acc.reverse ++ inside, r)
    | none =>
      match cs with
      | [] => none
      | c :: r =>
        if c = '\\' && escapes then
          match skipBreak? r with
          | some r => readLines quote escapes n acc r
          | none =>
            match r with
            | 'x' :: a :: b :: r => do readLines quote escapes n ((← charOf? [a, b]) :: acc) r
            | 'u' :: a :: b :: c :: d :: r => do
              readLines quote escapes n ((← charOf? [a, b, c, d]) :: acc) r
            | 'U' :: a :: b :: c :: d :: e :: f :: g :: h :: r => do
              readLines quote escapes n ((← charOf? [a, b, c, d, e, f, g, h]) :: acc) r
            | e :: r => do readLines quote escapes n ((← escaped? e) :: acc) r
            | [] => none
        else
          if isPrintable c || (newline? cs).isSome then readLines quote escapes n (c :: acc) r
          else none

/-- Reads a text on several lines after its quotes. A line break at its beginning is left out. -/
def readMultiline (quote : Char) (escapes : Bool) (cs : List Char) :
    Option (List Char × List Char) :=
  readLines quote escapes (cs.length + 1) [] ((newline? cs).getD cs)

/-- Reads a text in quotes of any kind, if there is one. -/
def readQuoted? (cs : List Char) : Option (Option (List Char × List Char)) :=
  match cs with
  | '"' :: '"' :: '"' :: r => some (readMultiline '"' true r)
  | '\'' :: '\'' :: '\'' :: r => some (readMultiline '\'' false r)
  | '"' :: r => some (readBasic [] r)
  | '\'' :: r => some (readLiteral [] r)
  | _ => none

/-! ### Numbers -/

/-- Digits of some kind without the underscores between them. -/
def digitsOf? (isDigit : Char → Bool) (cs : List Char) : Option (List Char) :=
  let groups := splitAt '_' cs
  if groups.all fun g => !g.isEmpty && g.all isDigit then some groups.flatten else none

/-- Integers of configuration files lie between these bounds. -/
def integerOf (n : Int) : Content :=
  if -(Nat.pow 2 127 : Int) ≤ n ∧ n < (Nat.pow 2 128 : Int) then .integer n else .unusable

/-- A sign, if there is one, with the text after it. -/
def signOf : List Char → Option Bool × List Char
  | '+' :: r => (some false, r)
  | '-' :: r => (some true, r)
  | cs => (none, cs)

/-- Decimal digits, without a zero in front of others. -/
def wholeOf? (cs : List Char) : Option (List Char) := do
  let ds ← digitsOf? Char.isDigit cs
  if 1 < ds.length && ds.head? = some '0' then none else some ds

/-- The digits of a number to a base that is not ten. -/
def basedInteger? (cs : List Char) : Option Content :=
  let read (base : Nat) (isDigit : Char → Bool) (ds : List Char) : Option Content :=
    (digitsOf? isDigit ds).map fun ds =>
      integerOf (ds.foldl (fun n c => base * n + (hexValue? c).getD 0) 0 : Nat)
  match cs with
  | '0' :: 'x' :: ds => read 16 isHexDigit ds
  | '0' :: 'o' :: ds => read 8 (fun c => '0' ≤ c && c ≤ '7') ds
  | '0' :: 'b' :: ds => read 2 (fun c => c == '0' || c == '1') ds
  | _ => none

def integer? (cs : List Char) : Option Content :=
  let (sign, cs) := signOf cs
  (wholeOf? cs).map fun ds =>
    let n : Nat := decimal ds
    integerOf (if sign = some true then -n else n)

/-- A number with this many digits before the point is finite. -/
def finiteDigits : Int := 308

/-- Whether the number `0.ds * 10 ^ places`, with digits that begin with no zero, is beyond the
range of floating point numbers. -/
def overflows (ds : List Char) (places : Int) : Bool :=
  if ds.isEmpty || places ≤ finiteDigits then false
  else if finiteDigits + 1 < places then true
  else
    (Binary64.nearest false (decimal ds * Nat.pow 10 places.toNat * Binary64.one)
      (Nat.pow 10 ds.length)).isInfinite

/-- The float with these digits and exponent. A number that is too large stands for no value. -/
def floatOf (whole fraction : List Char) (exponent : Int) : Content :=
  let all := whole ++ fraction
  let ds := all.dropWhile (· == '0')
  let places := (whole.length : Int) - ((all.length - ds.length : Nat) : Int) + exponent
  if overflows ds places then .unusable else .float

/-- The digits after a point. -/
def fractionOf? : Option (List Char) → Option (List Char)
  | none => some []
  | some cs => digitsOf? Char.isDigit cs

/-- An exponent with its sign. -/
def exponentOf? : Option (List Char) → Option Int
  | none => some 0
  | some cs =>
    let (sign, cs) := signOf cs
    (digitsOf? Char.isDigit cs).map fun ds =>
      let n : Nat := decimal ds
      if sign = some true then -n else n

def float? (cs : List Char) : Option Content :=
  let unsigned := (signOf cs).2
  if unsigned = ['i', 'n', 'f'] || unsigned = ['n', 'a', 'n'] then some .float
  else do
    let (mantissa, exponent) :=
      Text.splitFirst 'e' (unsigned.map fun c => if c = 'E' then 'e' else c)
    let (whole, fraction) := Text.splitFirst '.' mantissa
    some (floatOf (← wholeOf? whole) (← fractionOf? fraction) (← exponentOf? exponent))

/-! ### Dates and times -/

open Format (char? clock? digits? fraction? isDate)

def date? (cs : List Char) : Option (List Char) := do
  let (y, cs) ← digits? 4 cs
  let cs ← char? '-' cs
  let (m, cs) ← digits? 2 cs
  let cs ← char? '-' cs
  let (d, cs) ← digits? 2 cs
  if isDate y m d then some cs else none

/-- A time, whose seconds may be left out; there may be a leap second. -/
def time? (cs : List Char) : Option (List Char) := do
  let (hour, minute, cs) ← clock? cs
  if ¬(hour < 24 ∧ minute < 60) then none
  else
    match cs with
    | ':' :: cs =>
      let (second, cs) ← digits? 2 cs
      if second ≤ 60 then fraction? cs else none
    | cs => some cs

/-- Whether the rest is an offset or nothing. -/
def isOffset (cs : List Char) : Bool := cs.isEmpty || cs == ['z'] || Format.isOffset cs

/-- Whether a text is a date, a time or a date with a time. -/
def isMoment (cs : List Char) : Bool :=
  match date? cs with
  | some [] => true
  | some (c :: r) =>
    (c == 'T' || c == 't' || c == ' ') &&
      match time? r with
      | some r => isOffset r
      | none => false
  | none => time? cs == some []

/-! ### Without quotes -/

/-- The value of a text without quotes. -/
def unquoted? (cs : List Char) : Option Content :=
  if cs = ['t', 'r', 'u', 'e'] then some (.boolean true)
  else if cs = ['f', 'a', 'l', 's', 'e'] then some (.boolean false)
  else if isMoment cs then some .moment
  else (basedInteger? cs).or ((integer? cs).or (float? cs))

/-- The characters of values without quotes. -/
def isWordChar (c : Char) : Bool :=
  c.isAlphanum || c == '_' || c == '+' || c == '-' || c == '.' || c == ':'

/-- Reads a value without quotes. A date may be parted from its time by a blank. -/
def readUnquoted (cs : List Char) : Option (Content × List Char) :=
  let word := cs.takeWhile isWordChar
  let rest := cs.drop word.length
  let joined :=
    match date? word, rest with
    | some [], ' ' :: r =>
      let time := r.takeWhile isWordChar
      if (time.head?.map Char.isDigit).getD false then
        some (word ++ ' ' :: time, r.drop time.length)
      else none
    | _, _ => none
  let (text, rest) := joined.getD (word, rest)
  (unquoted? text).map fun t => (t, rest)

end JsonSchema.Settings.Toml
