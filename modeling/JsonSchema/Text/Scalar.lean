import JsonSchema.Text.Fault
import JsonSchema.Number
/-!
# Scalars of JSON text

Numbers, strings and the three literals. Each reader takes the bytes after those that identify the
kind of scalar and returns what it read with the bytes that follow.
-/

namespace JsonSchema.Text

/-- The bytes that may stand between the parts of a text. -/
def isSpace (b : UInt8) : Bool := b == 0x20 || b == 0x09 || b == 0x0A || b == 0x0D

def skipSpace (bs : Bytes) : Bytes := bs.dropWhile isSpace

theorem skipSpace_length (bs : Bytes) : (skipSpace bs).length ≤ bs.length :=
  (List.dropWhile_sublist _).length_le

/-- The value of a decimal digit. -/
def digit? (b : UInt8) : Option Nat :=
  if 0x30 ≤ b ∧ b ≤ 0x39 then some (b.toNat - 0x30) else none

/-- The value of a hexadecimal digit. -/
def hexDigit? (b : UInt8) : Option Nat :=
  if 0x30 ≤ b ∧ b ≤ 0x39 then some (b.toNat - 0x30)
  else if 0x41 ≤ b ∧ b ≤ 0x46 then some (b.toNat - 0x41 + 10)
  else if 0x61 ≤ b ∧ b ≤ 0x66 then some (b.toNat - 0x61 + 10)
  else none

/-- Reads the rest of a literal. -/
def literal : Bytes → Bytes → Except Fault Bytes
  | [], rest => .ok rest
  | _ :: _, [] => .error (.atEnd .endOfValue)
  | w :: ws, b :: rest => if b = w then literal ws rest else .error (.before .expectedLiteral rest)

/-! ### Numbers -/

/-- Digits appended to a significand for as long as it stays below `2 ^ 64`: the significand, the
number of digits taken and the remaining bytes. -/
def significand (n taken : Nat) : Bytes → Nat × Nat × Bytes
  | [] => (n, taken, [])
  | b :: rest =>
    match digit? b with
    | none => (n, taken, b :: rest)
    | some d => if 10 * n + d < Nat.pow 2 64 then significand (10 * n + d) (taken + 1) rest
      else (n, taken, b :: rest)

/-- Digits that no longer fit: how many there are, and the remaining bytes. -/
def surplus (count : Nat) : Bytes → Nat × Bytes
  | [] => (count, [])
  | b :: rest => if (digit? b).isSome then surplus (count + 1) rest else (count, b :: rest)

/-- The greatest exponent that may be written. -/
def exponentLimit : Nat := Nat.pow 2 31

/-- The digits of an exponent. A digit that takes it to the limit ends the reading: the exponent is
then beyond all use, and the bytes after that digit remain. -/
def exponentDigits (n : Nat) : Bytes → Option Nat × Bytes
  | [] => (some n, [])
  | b :: rest =>
    match digit? b with
    | none => (some n, b :: rest)
    | some d => if 10 * n + d < exponentLimit then exponentDigits (10 * n + d) rest
      else (none, rest)

/-- The power of ten nearest to `10 ^ n`. -/
def powerOfTen (n : Nat) : Binary64 := .ofNat (Nat.pow 10 n)

/-- The greatest exponent of a finite power of ten. -/
def greatestPower : Nat := 308

/-- Divides by `10 ^ n`, in steps where that power itself is out of range. -/
def scaleDown (x : Binary64) (n : Nat) : Binary64 :=
  if n ≤ greatestPower then x.div (powerOfTen n)
  else if x.magnitude = 0 then x
  else scaleDown (x.div (powerOfTen greatestPower)) (n - greatestPower)
termination_by n
decreasing_by simp only [greatestPower] at *; omega

/-- The number `n * 10 ^ e`, in one rounding of `n` and one of each scaling; `none` when it is out
of range. -/
def scaled? (n : Nat) (e : Int) : Option Binary64 :=
  let x := Binary64.ofNat n
  if e < 0 then some (scaleDown x e.natAbs)
  else if e.toNat ≤ greatestPower then
    let y := x.mul (powerOfTen e.toNat)
    if y.isInfinite then none else some y
  else if n = 0 then some x else none

/-- A floating point number under its sign. -/
def signedFloat (negative : Bool) (x : Binary64) : Number := .float (if negative then x.neg else x)

/-- The number with this significand and exponent; the position of a number out of range is before
`rest`. -/
def finishFloat (negative : Bool) (n : Nat) (e : Int) (rest : Bytes) :
    Except Fault (Number × Bytes) :=
  match scaled? n e with
  | some x => .ok (signedFloat negative x, rest)
  | none => .error ⟨.numberOutOfRange, rest.length, true⟩

/-- The sign of an exponent, true for a minus, and what follows it. -/
def exponentSign : Bytes → Bool × Bytes
  | [] => (false, [])
  | b :: rest =>
    if b = 0x2D then (true, rest) else if b = 0x2B then (false, rest) else (false, b :: rest)

/-- Reads the digits of an exponent that is subtracted if `down`, and added otherwise. -/
def unsignedExponent (negative : Bool) (n : Nat) (e : Int) (down : Bool) :
    Bytes → Except Fault (Number × Bytes)
  | [] => .error (.atEnd .endOfValue)
  | b :: rest =>
    match digit? b with
    | none => .error (.before .invalidNumber rest)
    | some d =>
      match exponentDigits d rest with
      | (some x, rest) => finishFloat negative n (if down then e - x else e + x) rest
      | (none, rest) =>
        if n ≠ 0 ∧ ¬down then .error (.before .numberOutOfRange rest)
        else .ok (signedFloat negative (.zero false), (surplus 0 rest).2)

/-- Reads an exponent after its letter. -/
def exponent (negative : Bool) (n : Nat) (e : Int) (bs : Bytes) : Except Fault (Number × Bytes) :=
  unsignedExponent negative n e (exponentSign bs).1 (exponentSign bs).2

/-- Reads what may follow the digits of a number that is not an integer. -/
def tail (negative : Bool) (n : Nat) (e : Int) (bs : Bytes) : Except Fault (Number × Bytes) :=
  match bs with
  | b :: rest => if b = 0x65 ∨ b = 0x45 then exponent negative n e rest
    else finishFloat negative n e bs
  | [] => finishFloat negative n e bs

/-- Reads a fraction after its point. -/
def fraction (negative : Bool) (n : Nat) (e : Int) (bs : Bytes) : Except Fault (Number × Bytes) :=
  let (n, taken, rest) := significand n 0 bs
  let (dropped, rest) := surplus 0 rest
  if taken + dropped = 0 then
    match rest with
    | [] => .error (.atEnd .endOfValue)
    | _ :: _ => .error (.atHead .invalidNumber rest)
  else tail negative n (e - taken) rest

/-- The number of an integer text. Zero with a sign, and what exceeds 64 bits, is not an integer. -/
def ofInteger (negative : Bool) (n : Nat) : Number :=
  if ¬negative then .unsigned (.ofNat n)
  else if 0 < n ∧ n ≤ Nat.pow 2 63 then .signed (.ofInt (-n))
  else signedFloat true (.ofNat n)

/-- Reads what follows a significand and the digits that did not fit it. -/
def afterInteger (negative : Bool) (n extra : Nat) (bs : Bytes) : Except Fault (Number × Bytes) :=
  match bs with
  | b :: rest =>
    if b = 0x2E then fraction negative n extra rest
    else if b = 0x65 ∨ b = 0x45 then exponent negative n extra rest
    else if extra = 0 then .ok (ofInteger negative n, bs) else finishFloat negative n extra bs
  | [] => if extra = 0 then .ok (ofInteger negative n, bs) else finishFloat negative n extra bs

/-- Reads a number after its sign. -/
def number (negative : Bool) : Bytes → Except Fault (Number × Bytes)
  | [] => .error (.atEnd .endOfValue)
  | b :: rest =>
    match digit? b with
    | none => .error (.before .invalidNumber rest)
    | some 0 =>
      match rest with
      | c :: _ => if (digit? c).isSome then .error (.atHead .invalidNumber rest)
        else afterInteger negative 0 0 rest
      | [] => afterInteger negative 0 0 rest
    | some d =>
      let (n, _, rest) := significand d 0 rest
      let (extra, rest) := surplus 0 rest
      afterInteger negative n extra rest

/-! ### Strings -/

/-- The code unit written by four hexadecimal digits. -/
def hexUnit? (a b c d : UInt8) : Option Nat := do
  return (((← hexDigit? a) * 16 + (← hexDigit? b)) * 16 + (← hexDigit? c)) * 16 + (← hexDigit? d)

def isLeading (n : Nat) : Bool := 0xD800 ≤ n && n ≤ 0xDBFF

def isTrailing (n : Nat) : Bool := 0xDC00 ≤ n && n ≤ 0xDFFF

/-- The code point of a pair of surrogates. -/
def surrogatePair (lead trail : Nat) : Nat := (lead - 0xD800) * 0x400 + (trail - 0xDC00) + 0x10000

/-- The byte that a letter after a backslash stands for. -/
def escaped? (b : UInt8) : Option UInt8 :=
  if b = 0x22 ∨ b = 0x5C ∨ b = 0x2F then some b
  else if b = 0x62 then some 0x08
  else if b = 0x66 then some 0x0C
  else if b = 0x6E then some 0x0A
  else if b = 0x72 then some 0x0D
  else if b = 0x74 then some 0x09
  else none

/-- The bytes of a code point before those in `acc`, latest first. -/
def pushCodePoint (n : Nat) (acc : Bytes) : Bytes :=
  (String.utf8EncodeChar (Char.ofNat n)).reverse ++ acc

/-- The text of the bytes in `acc`, latest first; the position of bytes that are not UTF-8 is that
of the first bad one, counted back from `rest`. -/
def finishString (acc rest : Bytes) : Except Fault (String × Bytes) :=
  match Utf8.decode acc.reverse with
  | .ok cs => .ok (String.ofList cs, rest)
  | .error f => .error ⟨.invalidCodePoint, rest.length + (acc.length - f.index), false⟩

/-- Reads a string after its opening quote; `acc` holds the bytes read, latest first. -/
def string (acc : Bytes) : Bytes → Except Fault (String × Bytes)
  | [] => .error (.atEnd .endOfString)
  | b :: rest =>
    if b = 0x22 then finishString acc rest
    else if b = 0x5C then
      match rest with
      | [] => .error (.atEnd .endOfString)
      | e :: rest =>
        if e = 0x75 then
          match rest with
          | a :: b :: c :: d :: rest =>
            match hexUnit? a b c d with
            | none => .error (.before .invalidEscape rest)
            | some n =>
              if isTrailing n then .error (.before .loneSurrogate rest)
              else if isLeading n then
                match rest with
                | [] => .error (.atEnd .endOfString)
                | x :: rest =>
                  if x ≠ 0x5C then .error (.before .endOfHexEscape rest)
                  else match rest with
                    | [] => .error (.atEnd .endOfString)
                    | y :: rest =>
                      if y ≠ 0x75 then .error (.before .endOfHexEscape rest)
                      else match rest with
                        | a :: b :: c :: d :: rest =>
                          match hexUnit? a b c d with
                          | none => .error (.before .invalidEscape rest)
                          | some m =>
                            if isTrailing m then
                              string (pushCodePoint (surrogatePair n m) acc) rest
                            else .error (.before .loneSurrogate rest)
                        | _ => .error (.atEnd .endOfString)
              else string (pushCodePoint n acc) rest
          | _ => .error (.atEnd .endOfString)
        else match escaped? e with
          | none => .error (.before .invalidEscape rest)
          | some c => string (c :: acc) rest
    else if b < 0x20 then .error (.before .controlCharacter rest)
    else string (b :: acc) rest

end JsonSchema.Text
