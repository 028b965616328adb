/-!
# Binary floating point numbers of 64 bits

A `Binary64` is its bit pattern. Every finite one is a whole number of *units* of `2 ^ -1074`, the
least positive value, so that comparison, remainder and rounding are exact integer arithmetic.
`Binary64.nearest` rounds a ratio of naturals, counted in units, to the nearest value, ties to the
even neighbour; every other operation is that rounding applied to an exact result.
-/

namespace JsonSchema

/-- A floating point number, given by its bits: a sign, eleven bits of exponent, 52 of fraction. -/
structure Binary64 where
  bits : UInt64
deriving DecidableEq, Inhabited

namespace Binary64

/-- The exponent of the unit: the value one is `2 ^ unitExponent` units. -/
def unitExponent : Nat := 1074

/-- The units in one. -/
def one : Nat := Nat.pow 2 unitExponent

/-- The sign bit. -/
def negative (x : Binary64) : Bool := Nat.pow 2 63 ≤ x.bits.toNat

/-- The biased exponent, below `2048`. -/
def exponentField (x : Binary64) : Nat := x.bits.toNat / Nat.pow 2 52 % Nat.pow 2 11

/-- The trailing bits of the significand. -/
def fractionField (x : Binary64) : Nat := x.bits.toNat % Nat.pow 2 52

def isNaN (x : Binary64) : Bool := x.exponentField == 2047 && x.fractionField != 0

def isInfinite (x : Binary64) : Bool := x.exponentField == 2047 && x.fractionField == 0

def isFinite (x : Binary64) : Bool := x.exponentField != 2047

/-- The distance from zero in units. An infinity counts as `2 ^ 1024`, which lies above every finite
value, so that it orders correctly without a case of its own. -/
def magnitude (x : Binary64) : Nat :=
  if x.exponentField = 0 then x.fractionField
  else (Nat.pow 2 52 + x.fractionField) * Nat.pow 2 (x.exponentField - 1)

/-- The signed number of units. -/
def units (x : Binary64) : Int := if x.negative then -(x.magnitude : Int) else x.magnitude

/-- The pattern with sign `neg` and the remaining bits `body`. -/
def ofParts (neg : Bool) (body : Nat) : Binary64 :=
  ⟨UInt64.ofNat (if neg then Nat.pow 2 63 + body else body)⟩

/-- The bits of infinity without its sign. -/
def infinityBody : Nat := 2047 * Nat.pow 2 52

/-- Positive or negative zero. -/
def zero (neg : Bool) : Binary64 := ofParts neg 0

/-- The quotient `num / den` rounded to the nearest natural, a half to the even one. -/
def roundHalfEven (num den : Nat) : Nat :=
  let q := num / den
  let r := num % den
  if 2 * r < den then q
  else if den < 2 * r then q + 1
  else q + q % 2

/-- The value nearest to `num / den` units, infinite when that is beyond the finite range. The
significand is rounded at the place where it keeps 53 bits; a carry out of it moves into the
exponent by itself, since patterns of one sign are ordered like their values. -/
def nearest (neg : Bool) (num den : Nat) : Binary64 :=
  let shift := Nat.log2 (num / den) - 52
  let body := shift * Nat.pow 2 52 + roundHalfEven num (den * Nat.pow 2 shift)
  ofParts neg (min body infinityBody)

/-- The value nearest to an integer. -/
def ofInt (n : Int) : Binary64 := nearest (n < 0) (n.natAbs * one) 1

/-- The value nearest to a natural number. -/
def ofNat (n : Nat) : Binary64 := ofInt n

/-- The sum of two distances from zero, rounded. -/
def addMagnitudes (x y : Binary64) : Binary64 := nearest false (x.magnitude + y.magnitude) 1

/-- The product of the magnitudes, rounded, under the product of the signs. -/
def mul (x y : Binary64) : Binary64 :=
  nearest (x.negative != y.negative) (x.magnitude * y.magnitude) one

/-- The quotient of the magnitudes for a divisor other than zero, rounded. -/
def div (x y : Binary64) : Binary64 :=
  nearest (x.negative != y.negative) (x.magnitude * one) y.magnitude

/-- The same value with the other sign. -/
def neg (x : Binary64) : Binary64 := ofParts (!x.negative) (x.bits.toNat % Nat.pow 2 63)

/-- The order of two values, `none` if one of them is not a number. -/
def compare? (x y : Binary64) : Option Ordering :=
  if x.isNaN || y.isNaN then none else some (compare x.units y.units)

/-- Whether `x` lies below `y`; what is not a number does not. -/
def less (x y : Binary64) : Bool := x.compare? y == some .lt

/-- Whether `x` is `y` or lies above it; what is not a number does not. -/
def atLeast (x y : Binary64) : Bool := x.compare? y == some .gt || x.compare? y == some .eq

/-! ### Integers -/

/-- Whether the value is finite and has no fraction. -/
def isIntegral (x : Binary64) : Bool := x.isFinite && x.magnitude % one == 0

/-- The integer that a finite integral value denotes. -/
def toInt? (x : Binary64) : Option Int := if x.isIntegral then some (x.units.tdiv one) else none

/-- The value without its fraction, zero for what is not a number. -/
def truncate (x : Binary64) : Int := if x.isNaN then 0 else x.units.tdiv one

/-- The conversion to an unsigned integer, the nearest one where the value is out of range. -/
def toUInt64 (x : Binary64) : UInt64 := .ofNat (min x.truncate.toNat (Nat.pow 2 64 - 1))

/-- The conversion to a signed integer, the nearest one where the value is out of range. -/
def toInt64 (x : Binary64) : Int64 :=
  .ofInt (max (-(Nat.pow 2 63 : Int)) (min x.truncate (Nat.pow 2 63 - 1)))

/-! ### Remainders -/

/-- What is not a number, as it comes from an operation without a result. -/
def nan : Binary64 := ⟨0x7FF8000000000000⟩

/-- The value with a positive sign. -/
def abs (x : Binary64) : Binary64 := ofParts false (x.bits.toNat % Nat.pow 2 63)

/-- The difference, rounded. That of two equal values is zero, negative only if it is the difference
of a negative zero and a positive one. -/
def sub (x y : Binary64) : Binary64 :=
  if x.isNaN || y.isNaN then nan
  else if x.isFinite && y.isFinite then
    nearest (if x.units = y.units then x.negative && !y.negative else x.units < y.units)
      (x.units - y.units).natAbs 1
  else if x.isInfinite && y.isInfinite && x.negative == y.negative then nan
  else if x.isInfinite then x
  else y.neg

/-- The remainder of the division by `d` with a quotient rounded toward zero; it has the sign of
`x`. There is none by zero, of an infinity, or when an operand is not a number. -/
def remainder (x d : Binary64) : Binary64 :=
  if x.isFinite && !d.isNaN && d.magnitude != 0 then
    nearest x.negative (x.magnitude % d.magnitude) 1
  else nan

/-- The distance between one and the next larger value, `2 ^ -52`. -/
def epsilon : Binary64 := ⟨0x3CB0000000000000⟩

/-- Whether the remainder of `x` by `d` lies within `epsilon` of zero or of `d`. -/
def isMultipleOf (x d : Binary64) : Bool :=
  let r := x.remainder d
  r.abs.less epsilon || (r.sub d).abs.less epsilon

end Binary64
end JsonSchema
