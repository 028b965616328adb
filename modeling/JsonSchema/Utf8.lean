/-!
# UTF-8

`Utf8.decode` reads bytes as characters one byte at a time and names the first sequence that is not
well formed; `Utf8.encode` writes characters as bytes.
-/

namespace JsonSchema

/-- Raw bytes, in order. -/
abbrev Bytes := List UInt8

namespace Utf8

/-- The bytes of a list of characters. -/
def encode (cs : List Char) : Bytes := cs.flatMap String.utf8EncodeChar

/-- The bytes of a text. -/
def bytes (s : String) : Bytes := encode s.toList

/-- Why bytes are not UTF-8, with the index at which the offending sequence starts. -/
inductive Fault where
  /-- The first `length` bytes of the sequence fit, the byte after them does not. -/
  | invalid (length index : Nat)
  /-- The bytes end inside the sequence. -/
  | incomplete (index : Nat)
deriving DecidableEq

/-- Where the sequence starts. -/
def Fault.index : Fault → Nat
  | invalid _ i => i
  | incomplete i => i

def Fault.message : Fault → String
  | invalid n i => s!"invalid utf-8 sequence of {n} bytes from index {i}"
  | incomplete i => s!"incomplete utf-8 byte sequence from index {i}"

/-- A character that has begun: its bytes so far and those still owed, the range of the next byte,
and the value of the bits read. -/
structure Pending where
  seen : Nat
  owed : Nat
  low : UInt8
  high : UInt8
  code : Nat

/-- What the first byte of a character of several bytes promises. The ranges of the second byte
leave out overlong forms, surrogates and values above `0x10FFFF`. -/
def lead? (b : UInt8) : Option Pending :=
  if 0xC2 ≤ b ∧ b ≤ 0xDF then some ⟨1, 1, 0x80, 0xBF, b.toNat - 0xC0⟩
  else if b = 0xE0 then some ⟨1, 2, 0xA0, 0xBF, 0⟩
  else if b = 0xED then some ⟨1, 2, 0x80, 0x9F, 0xD⟩
  else if 0xE1 ≤ b ∧ b ≤ 0xEF then some ⟨1, 2, 0x80, 0xBF, b.toNat - 0xE0⟩
  else if b = 0xF0 then some ⟨1, 3, 0x90, 0xBF, 0⟩
  else if 0xF1 ≤ b ∧ b ≤ 0xF3 then some ⟨1, 3, 0x80, 0xBF, b.toNat - 0xF0⟩
  else if b = 0xF4 then some ⟨1, 3, 0x80, 0x8F, 4⟩
  else none

/-- Reads the bytes from position `index` on; `cs` are the characters before, latest first, and
`pending` is a character that has begun. -/
def decodeFrom (cs : List Char) (index : Nat) : Option Pending → Bytes → Except Fault (List Char)
  | none, [] => .ok cs.reverse
  | some p, [] => .error (.incomplete (index - p.seen))
  | none, b :: rest =>
    if b < 0x80 then decodeFrom (Char.ofNat b.toNat :: cs) (index + 1) none rest
    else match lead? b with
      | some p => decodeFrom cs (index + 1) (some p) rest
      | none => .error (.invalid 1 index)
  | some p, b :: rest =>
    if p.low ≤ b ∧ b ≤ p.high then
      let code := p.code * 64 + (b.toNat - 0x80)
      if p.owed ≤ 1 then decodeFrom (Char.ofNat code :: cs) (index + 1) none rest
      else decodeFrom cs (index + 1) (some ⟨p.seen + 1, p.owed - 1, 0x80, 0xBF, code⟩) rest
    else .error (.invalid p.seen (index - p.seen))

/-- The characters that the bytes encode. -/
def decode (bs : Bytes) : Except Fault (List Char) := decodeFrom [] 0 none bs

end Utf8
end JsonSchema
