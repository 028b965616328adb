import JsonSchema.Format.Scan
/-!
# Internet addresses

Addresses of version 4 in dotted decimal form without leading zeros, and of version 6 as RFC 4291
writes them: eight groups of up to four hexadecimal digits, of which `::` leaves out at least one,
and of which a version 4 address may stand for the last two.
-/

namespace JsonSchema.Format

open JsonSchema.Text (splitAt decimal isHexDigit)

/-- A number below 256 of at most three digits, without leading zeros. -/
def isOctet (cs : List Char) : Bool :=
  !cs.isEmpty && cs.length ≤ 3 && cs.all Char.isDigit && decimal cs < 256 &&
    (cs.length == 1 || cs.head? != some '0')

def isIPv4 (cs : List Char) : Bool :=
  let pieces := splitAt '.' cs
  pieces.length == 4 && pieces.all isOctet

/-- One to four hexadecimal digits. -/
def isGroup (cs : List Char) : Bool := !cs.isEmpty && cs.length ≤ 4 && cs.all isHexDigit

/-- The number of groups that the pieces between colons stand for, where only the last may be a
version 4 address, and only if that is `allowed`. -/
def groups? (allowed : Bool) : List (List Char) → Option Nat
  | [] => some 0
  | [p] => if isGroup p then some 1 else if allowed && isIPv4 p then some 2 else none
  | p :: ps => if isGroup p then (groups? allowed ps).map (· + 1) else none

/-- The groups in a text, which may be empty. -/
def groupsIn? (allowed : Bool) (cs : List Char) : Option Nat :=
  if cs.isEmpty then some 0 else groups? allowed (splitAt ':' cs)

/-- The characters before the first `::`, and those after it if there is one. -/
def splitDoubleColon : List Char → List Char × Option (List Char)
  | [] => ([], none)
  | ':' :: ':' :: r => ([], some r)
  | c :: r =>
    let (before, after) := splitDoubleColon r
    (c :: before, after)

def isIPv6 (cs : List Char) : Bool :=
  match splitDoubleColon cs with
  | (whole, none) => groupsIn? true whole == some 8
  | (before, some after) =>
    match groupsIn? false before, groupsIn? true after with
    | some n, some m => n + m ≤ 7
    | _, _ => false

end JsonSchema.Format
