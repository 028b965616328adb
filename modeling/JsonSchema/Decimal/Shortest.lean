import JsonSchema.Binary64
/-!
# Shortest decimals

The decimal with the fewest digits that rounds to a given floating point value, and among those the
one nearest to it. For each count of digits only the two decimals around the value need to be tried:
if any decimal of that count rounds to the value, one of these two does.
-/

namespace JsonSchema

/-- The number `digits * 10 ^ exponent`. -/
structure Decimal where
  digits : Nat
  exponent : Int
deriving DecidableEq

namespace Decimal

/-- How many decimal digits a number has. -/
def digitCount (n : Nat) : Nat := (Nat.toDigits 10 n).length

/-- The greatest power of ten that is at most `num / den`, for a positive ratio. -/
def log10 (num den : Nat) : Int :=
  if den ≤ num then (digitCount (num / den) : Int) - 1 else -(digitCount ((den - 1) / num) : Int)

/-- A distance from zero that keeps to the values which round to a given one. Twice the distances
are counted in units, so that the middle between two values is a whole number. -/
structure Interval where
  low : Nat
  high : Nat
  /-- Whether the ends belong to it. -/
  closed : Bool

/-- The middle on either side between a value and its neighbour. The middle rounds to the value
whose last bit is zero. -/
def Interval.around (x : Binary64) : Interval :=
  let body := x.bits.toNat % Nat.pow 2 63
  let below := (Binary64.ofParts false (body - 1)).magnitude
  let above := (Binary64.ofParts false (body + 1)).magnitude
  ⟨below + x.magnitude, x.magnitude + above, body % 2 == 0⟩

/-- Whether `num / den` units lie in the interval. -/
def Interval.has (i : Interval) (num den : Nat) : Bool :=
  if i.closed then i.low * den ≤ 2 * num && 2 * num ≤ i.high * den
  else i.low * den < 2 * num && 2 * num < i.high * den

/-- The ratio of `num / den` to a power of ten. -/
def overPower (num den : Nat) (k : Int) : Nat × Nat :=
  if 0 ≤ k then (num, den * Nat.pow 10 k.toNat) else (num * Nat.pow 10 (-k).toNat, den)

/-- Whether a decimal lies in the interval. -/
def Interval.hasDecimal (i : Interval) (d : Decimal) : Bool :=
  let (num, den) := overPower (d.digits * Binary64.one) 1 (-d.exponent)
  i.has num den

/-- The nearer of the decimals with exponent `k` around `m` units, if one of them lies in the
interval; of two that are equally near the even one. -/
def nearestOn? (i : Interval) (m : Nat) (k : Int) : Option Decimal :=
  let (num, den) := overPower m Binary64.one k
  let floor := num / den
  let near := Binary64.roundHalfEven num den
  let far := if near = floor then floor + 1 else floor
  if i.hasDecimal ⟨near, k⟩ then some ⟨near, k⟩
  else if i.hasDecimal ⟨far, k⟩ then some ⟨far, k⟩
  else none

/-- No value needs more digits. -/
def maxDigits : Nat := 17

/-- The same number without zeros at the end; `rounds` bounds their count. -/
def strip : (rounds : Nat) → Decimal → Decimal
  | 0, d => d
  | n + 1, d =>
    if d.digits != 0 && d.digits % 10 == 0 then strip n ⟨d.digits / 10, d.exponent + 1⟩ else d

/-- The shortest decimal that rounds to the distance of `x` from zero, which is finite and not zero
itself. -/
def shortest (x : Binary64) : Decimal :=
  let m := x.magnitude
  let top := log10 m Binary64.one
  let i := Interval.around x
  let found := (List.range maxDigits).findSome? fun n : Nat => nearestOn? i m (top - n)
  strip maxDigits (found.getD ⟨0, 0⟩)

end Decimal
end JsonSchema
