import JsonSchema.Format.Scan
/-!
# Host names and email addresses

A host name is a sequence of labels between points; an email address puts a local part and an `@` in
front of one.
-/

namespace JsonSchema.Format

open JsonSchema.Text (splitAt splitFirst)

/-- A letter, digit or hyphen. -/
def isLabelChar (c : Char) : Bool := isAlphanumeric c || c == '-'

/-- A label has 1 to 63 letters, digits and hyphens and does not start with a hyphen. -/
def isLabel : List Char → Bool
  | [] => false
  | c :: r => isAlphanumeric c && r.length ≤ 62 && r.all isLabelChar

/-- Labels between points. -/
def isHost (cs : List Char) : Bool := (splitAt '.' cs).all isLabel

/-- The characters of the words in a local part. -/
def isAtomChar (c : Char) : Bool :=
  isAlphanumeric c || "!#$%&'*+-/=?^_`\x7b|\x7d~".toList.contains c

/-- Words between points. -/
def isLocalPart (cs : List Char) : Bool :=
  (splitAt '.' cs).all fun w => !w.isEmpty && w.all isAtomChar

/-- A local part and a host around an `@`. -/
def isEmail (cs : List Char) : Bool :=
  match splitFirst '@' cs with
  | (name, some host) => isLocalPart name && isHost host
  | (_, none) => false

end JsonSchema.Format
