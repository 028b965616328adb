import JsonSchema.Decimal.Shortest
/-!
# Writing JSON

Records, lists, texts and numbers as indented JSON text. Members are written in the order they are
given.
-/

namespace JsonSchema.Text

/-- The digits from `0` to `f`. -/
def hexDigit (n : Nat) : Char := Nat.digitChar n

/-- One character inside quotes: quotes, backslashes and controls are escaped, in the short form
where there is one. -/
def quotedChar (c : Char) : List Char :=
  match c with
  | '"' => ['\\', '"']
  | '\\' => ['\\', '\\']
  | '\x08' => ['\\', 'b']
  | '\x0c' => ['\\', 'f']
  | '\n' => ['\\', 'n']
  | '\r' => ['\\', 'r']
  | '\t' => ['\\', 't']
  | c =>
    if c.toNat < 0x20 then ['\\', 'u', '0', '0', hexDigit (c.toNat / 16), hexDigit (c.toNat % 16)]
    else [c]

/-- A text in quotes. -/
def quoted (s : String) : String :=
  "\"" ++ String.ofList (s.toList.flatMap quotedChar) ++ "\""

/-- A point is written as long as the first digit stands at most this many places to its left. -/
def maxPointPlaces : Int := 16

/-- A point is written as long as fewer than this many zeros follow it. -/
def maxPointZeros : Int := 5

def zeros (n : Nat) : String := String.ofList (List.replicate n '0')

/-- The power of ten in exponent notation. -/
def exponentText (e : Int) : String := (if 0 ≤ e then "e+" else "e-") ++ toString e.natAbs

/-- A decimal with a point, or with an exponent where that would need too many zeros. -/
def decimalText (d : Decimal) : String :=
  let ds := toString d.digits
  let places := (ds.length : Int) + d.exponent
  if 0 ≤ d.exponent && places ≤ maxPointPlaces then ds ++ zeros d.exponent.toNat ++ ".0"
  else if 0 < places && places ≤ maxPointPlaces then
    String.ofList (ds.toList.take places.toNat) ++ "." ++
      String.ofList (ds.toList.drop places.toNat)
  else if -maxPointZeros < places && places ≤ 0 then "0." ++ zeros (-places).toNat ++ ds
  else
    match ds.toList with
    | [d] => String.ofList [d] ++ exponentText (places - 1)
    | d :: r => String.ofList (d :: '.' :: r) ++ exponentText (places - 1)
    | [] => ""

/-- A floating point value as JSON; what is not finite has no number. -/
def floatText (x : Binary64) : String :=
  if !x.isFinite then "null"
  else
    (if x.negative then "-" else "") ++
      if x.magnitude = 0 then "0.0" else decimalText (.shortest x)

/-- JSON that is to be written. -/
inductive Layout where
  /-- A value that is already text. -/
  | leaf (text : String)
  | list (items : List Layout)
  | record (fields : List (String × Layout))

namespace Layout

def text (s : String) : Layout := .leaf (quoted s)

def nat (n : Nat) : Layout := .leaf (toString n)

def float (x : Binary64) : Layout := .leaf (floatText x)

/-- A new line at a depth. -/
def newline (depth : Nat) : String := "\n" ++ String.ofList (List.replicate (2 * depth) ' ')

mutual

/-- The text of a layout that stands at a depth. -/
def prettyAt (depth : Nat) : Layout → String
  | leaf s => s
  | list [] => "[]"
  | list items => "[" ++ ",".intercalate (prettyItems (depth + 1) items) ++ newline depth ++ "]"
  | record [] => "\x7b\x7d"
  | record fields =>
    "\x7b" ++ ",".intercalate (prettyFields (depth + 1) fields) ++ newline depth ++ "\x7d"

/-- The lines of items. -/
def prettyItems (depth : Nat) : List Layout → List String
  | [] => []
  | t :: ts => (newline depth ++ prettyAt depth t) :: prettyItems depth ts

/-- The lines of members. -/
def prettyFields (depth : Nat) : List (String × Layout) → List String
  | [] => []
  | (k, t) :: r => (newline depth ++ quoted k ++ ": " ++ prettyAt depth t) :: prettyFields depth r

end

/-- The text, with two more blanks in front of each level. -/
def pretty (t : Layout) : String := t.prettyAt 0

end Layout
end JsonSchema.Text
