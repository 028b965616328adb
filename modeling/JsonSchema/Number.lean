import JsonSchema.Binary64
/-!
# Numbers of schemas and instances

A `Number` keeps the representation it was written in, so that two integers are never compared
through a rounded value. `Bound` and `Divisor` are the numeric limits of a schema.
-/

namespace JsonSchema

/-- A number as it was written: a signed integer, an unsigned one, or anything else. -/
inductive Number where
  | signed (i : Int64)
  | unsigned (u : UInt64)
  | float (x : Binary64)
deriving DecidableEq, Inhabited

namespace Number

/-- The integer that an integer representation denotes. -/
def integer? : Number → Option Int
  | signed i => some i.toInt
  | unsigned u => some u.toNat
  | float _ => none

/-- The nearest floating point value. -/
def toBinary64 : Number → Binary64
  | signed i => .ofInt i.toInt
  | unsigned u => .ofInt u.toNat
  | float x => x

/-- The order of two numbers. A negative integer lies below every unsigned one, and other integers
are compared without a sign; a floating point operand brings both sides to the nearest floating
point value first. -/
def compare? (a b : Number) : Option Ordering :=
  match a, b with
  | signed i, signed j => some (compare i j)
  | unsigned u, unsigned v => some (compare u v)
  | signed i, unsigned v => some (if i < 0 then .lt else compare i.toUInt64 v)
  | unsigned u, signed j => some (if j < 0 then .gt else compare u j.toUInt64)
  | _, _ => a.toBinary64.compare? b.toBinary64

/-- Equality by value, across representations. -/
def agrees (a b : Number) : Bool := a.compare? b == some .eq

/-- The representation of an integer: unsigned from zero up, signed below. -/
def ofInt? (n : Int) : Option Number :=
  if 0 ≤ n ∧ n < (Nat.pow 2 64 : Int) then some (unsigned (.ofNat n.toNat))
  else if n < 0 ∧ -(Nat.pow 2 63 : Int) ≤ n then some (signed (.ofInt n))
  else none

/-- One spelling for each value: whatever is integral and fits 64 bits becomes an integer. -/
def canonical (a : Number) : Number :=
  match a with
  | signed i => if 0 ≤ i then unsigned i.toUInt64 else a
  | unsigned _ => a
  | float x =>
    if x.isIntegral then
      if x.atLeast (.zero false) && x.less (.ofNat (Nat.pow 2 64 - 1)) then unsigned x.toUInt64
      else if x.less (.zero false) && x.atLeast (.ofInt (-(Nat.pow 2 63 : Int))) then
        signed x.toInt64
      else a
    else a

end Number

/-- The side of a limit on which values are admitted. -/
inductive Side where
  | atMost
  | atLeast
deriving DecidableEq

/-- A limit that may itself be excluded. -/
structure Bound where
  limit : Number
  exclusive : Bool
deriving DecidableEq

/-- Whether the bound admits a number. What is not a number compares with nothing and breaks no
bound. -/
def Bound.admits (b : Bound) (side : Side) (n : Number) : Bool :=
  match n.compare? b.limit, side with
  | some .eq, _ => !b.exclusive
  | some .lt, .atMost => true
  | some .gt, .atMost => false
  | some .lt, .atLeast => false
  | some .gt, .atLeast => true
  | none, _ => true

/-- The step of `multipleOf`. -/
inductive Divisor where
  | unsigned (d : UInt64)
  | float (x : Binary64)
deriving DecidableEq

/-- Whether a number is a multiple: exactly between integers, within a fixed tolerance as soon as a
floating point value takes part. -/
def Divisor.admits (d : Divisor) (n : Number) : Bool :=
  match d, n with
  | .unsigned d, .signed i => i.abs.toUInt64 % d == 0
  | .unsigned d, .unsigned u => u % d == 0
  | .unsigned d, .float x => x.isMultipleOf (.ofNat d.toNat)
  | .float x, n => n.toBinary64.isMultipleOf x

end JsonSchema
