import JsonSchema.Utf8
/-!
# Faults in JSON text

Why a text is not JSON, and where. A fault counts the bytes that lie after it, which the reader has
at hand when it stops; `Fault.location` turns that into a line and a column.
-/

namespace JsonSchema.Text

/-- Why reading stopped. -/
inductive Cause where
  | endOfList
  | endOfObject
  | endOfString
  | endOfValue
  | expectedColon
  | expectedCommaOrBracket
  | expectedCommaOrBrace
  | expectedLiteral
  | expectedValue
  | invalidEscape
  | invalidNumber
  | numberOutOfRange
  | invalidCodePoint
  | controlCharacter
  | keyNotString
  | loneSurrogate
  | endOfHexEscape
  | trailingComma
  | trailingCharacters
  | tooDeep
deriving DecidableEq

def Cause.message : Cause → String
  | endOfList => "EOF while parsing a list"
  | endOfObject => "EOF while parsing an object"
  | endOfString => "EOF while parsing a string"
  | endOfValue => "EOF while parsing a value"
  | expectedColon => "expected `:`"
  | expectedCommaOrBracket => "expected `,` or `]`"
  | expectedCommaOrBrace => "expected `,` or `\x7d`"
  | expectedLiteral => "expected ident"
  | expectedValue => "expected value"
  | invalidEscape => "invalid escape"
  | invalidNumber => "invalid number"
  | numberOutOfRange => "number out of range"
  | invalidCodePoint => "invalid unicode code point"
  | controlCharacter => "control character (\\u0000-\\u001F) found while parsing a string"
  | keyNotString => "key must be a string"
  | loneSurrogate => "lone leading surrogate in hex escape"
  | endOfHexEscape => "unexpected end of hex escape"
  | trailingComma => "trailing comma"
  | trailingCharacters => "trailing characters"
  | tooDeep => "recursion limit exceeded"

/-- Where the bytes of a text come from. A stream cannot give back a byte it has looked at, so its
position is one further when the fault lies before such a byte. -/
inductive Source where
  | memory
  | stream
deriving DecidableEq

/-- A fault: its cause, the number of bytes after it, and whether the next of them had been looked
at already. -/
structure Fault where
  cause : Cause
  left : Nat
  peeked : Bool
deriving DecidableEq

namespace Fault

/-- A fault noticed after consuming everything before `rest`. -/
def before (cause : Cause) (rest : Bytes) : Fault := ⟨cause, rest.length, false⟩

/-- A fault of the first byte of `rest`, or of the end if there is none. -/
def atHead (cause : Cause) (rest : Bytes) : Fault := ⟨cause, rest.length - 1, false⟩

/-- A fault at the end of the text. -/
def atEnd (cause : Cause) : Fault := ⟨cause, 0, false⟩

/-- The number of bytes of `text` up to the fault. -/
def offset (f : Fault) (text : Bytes) (source : Source) : Nat :=
  let consumed := text.length - f.left
  match source with
  | .memory => consumed
  | .stream => if f.peeked then min (consumed + 1) text.length else consumed

/-- A line counted from one and the number of bytes before the position on that line. -/
structure Location where
  line : Nat
  column : Nat
deriving DecidableEq

/-- The location after some bytes. -/
def Location.after (bs : Bytes) : Location :=
  bs.foldl (fun l b => if b = 0x0A then ⟨l.line + 1, 0⟩ else ⟨l.line, l.column + 1⟩) ⟨1, 0⟩

def location (f : Fault) (text : Bytes) (source : Source) : Location :=
  .after (text.take (f.offset text source))

/-- The cause and the location in words. -/
def message (f : Fault) (text : Bytes) (source : Source) : String :=
  let l := f.location text source
  s!"{f.cause.message} at line {l.line} column {l.column}"

end Fault
end JsonSchema.Text
