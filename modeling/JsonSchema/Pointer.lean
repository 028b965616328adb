import JsonSchema.Text.Pieces
import JsonSchema.Utf8
/-!
# JSON pointers

A `Pointer` is a position in a document: the list of reference tokens from the root down. Its text
puts a `/` before each token and writes `~` as `~0` and `/` as `~1`; `Pointer.ofText` reads that
text back, and `Pointer.ofFragment` reads the percent-encoded form of a URI fragment.
-/

namespace JsonSchema

/-- A position in a document: member names and array indexes from the root down. -/
structure Pointer where
  tokens : List String
deriving DecidableEq, Inhabited

namespace Pointer

/-- Why a text is not a pointer. -/
inductive Fault where
  /-- A text that is not empty starts with something other than `/`. -/
  | noSlash (text : String)
  /-- A `~` in this token is not followed by `0` or `1`. -/
  | badEscape (token : String)
  /-- The text does not start with `#`. -/
  | notFragment (text : String)
  /-- A `%` in this text is not followed by two hexadecimal digits. -/
  | badPercent (text : String)
  /-- The percent-decoded bytes are not UTF-8. -/
  | notUtf8 (fault : Utf8.Fault)
deriving DecidableEq

def Fault.message : Fault → String
  | noSlash text => s!"JSON Pointer '{text}' must start with '/'"
  | badEscape token => s!"invalid escape sequence in JSON Pointer token '{token}'"
  | notFragment text => s!"'{text}' is not a URI fragment"
  | badPercent text => s!"invalid percent-encoding in '{text}'"
  | notUtf8 fault => s!"URI fragment is not UTF-8: {fault.message}"

/-- The position of the whole document. -/
def root : Pointer := ⟨[]⟩

/-- The position one token further down. -/
def child (p : Pointer) (token : String) : Pointer := ⟨p.tokens ++ [token]⟩

/-- The position of an array element. -/
def index (p : Pointer) (i : Nat) : Pointer := p.child (toString i)

def isRoot (p : Pointer) : Bool := p.tokens.isEmpty

/-- One character as it is written inside a token. -/
def escapeChar (c : Char) : List Char :=
  if c = '~' then ['~', '0'] else if c = '/' then ['~', '1'] else [c]

/-- A token as it is written. -/
def escape (token : List Char) : List Char := token.flatMap escapeChar

/-- The token that is written this way, if every `~` starts an escape. -/
def unescape : List Char → Option (List Char)
  | [] => some []
  | '~' :: '0' :: r => (unescape r).map ('~' :: ·)
  | '~' :: '1' :: r => (unescape r).map ('/' :: ·)
  | c :: r => if c = '~' then none else (unescape r).map (c :: ·)

/-- The characters of the written form. -/
def chars (p : Pointer) : List Char := p.tokens.flatMap fun t => '/' :: escape t.toList

/-- The written form. -/
def text (p : Pointer) : String := String.ofList p.chars

/-- The written form as a URI fragment without percent-encoding, used in messages. -/
def display (p : Pointer) : String := "#" ++ p.text

/-- The token written as `raw`. -/
def readToken (raw : List Char) : Except Fault String :=
  match unescape raw with
  | some token => .ok (String.ofList token)
  | none => .error (.badEscape (String.ofList raw))

/-- The pointer that is written this way. -/
def ofChars : List Char → Except Fault Pointer
  | [] => .ok root
  | c :: r =>
    if c = '/' then do return ⟨← (Text.splitAt '/' r).mapM readToken⟩
    else .error (.noSlash (String.ofList (c :: r)))

/-- The pointer that is written this way. -/
def ofText (s : String) : Except Fault Pointer := ofChars s.toList

/-- The byte written by the two characters after a `%`. A plus sign before a single digit counts as
a leading zero. -/
def hexByte? (a b : Char) : Option UInt8 :=
  match (if a = '+' then some 0 else Text.hexValue? a), Text.hexValue? b with
  | some x, some y => some (UInt8.ofNat (16 * x + y))
  | _, _ => none

/-- The bytes of a percent-encoded text. -/
def percentDecode : List Char → Option Bytes
  | [] => some []
  | '%' :: a :: b :: r => do return (← hexByte? a b) :: (← percentDecode r)
  | c :: r => if c = '%' then none else (percentDecode r).map (String.utf8EncodeChar c ++ ·)

/-- The pointer that a URI fragment names. -/
def ofFragment (s : String) : Except Fault Pointer :=
  match s.toList with
  | '#' :: rest =>
    match percentDecode rest with
    | none => .error (.badPercent (String.ofList rest))
    | some bs =>
      match Utf8.decode bs with
      | .ok cs => ofChars cs
      | .error fault => .error (.notUtf8 fault)
  | _ => .error (.notFragment s)

/-- Positions are listed in the order of their written forms. -/
def precedes (p q : Pointer) : Bool := decide (p.text ≤ q.text)

end Pointer
end JsonSchema
