import Mathlib.Tactic.SplitIfs
import Mathlib.Order.Defs.LinearOrder
import JsonSchema.Number
/-!
# Comparison of numbers

Numbers in integer representation are compared as the integers they denote, whatever their signs
and representations (`Number.compare?_of_integer?`). Any other two numbers are compared after both
are brought to the nearest floating point values.
-/

namespace JsonSchema

/-! ### Words and integers -/

theorem toNat_toUInt64 {i : Int64} (h : 0 ≤ i.toInt) : (i.toUInt64.toNat : Int) = i.toInt := by
  have bits : i.toInt = i.toBitVec.toInt := rfl
  have bound := i.toBitVec.isLt
  rw [← UInt64.toNat_toBitVec, Int64.toBitVec_toUInt64]
  rw [bits, BitVec.toInt_eq_toNat_cond] at h ⊢
  split at h <;> split <;> omega

/-- Without its sign even the least signed integer is an unsigned one. -/
theorem toNat_abs (i : Int64) : i.abs.toUInt64.toNat = i.toInt.natAbs := by
  have bits : i.toInt = i.toBitVec.toInt := rfl
  have bound := i.toBitVec.isLt
  rw [← UInt64.toNat_toBitVec, Int64.toBitVec_toUInt64, Int64.toBitVec_abs, BitVec.toNat_abs, bits,
    BitVec.toInt_eq_msb_cond]
  split_ifs <;> omega

theorem signed_le_iff {i : Int64} : 0 ≤ i ↔ 0 ≤ i.toInt := Int64.le_iff_toInt_le

theorem signed_lt_iff {i : Int64} : i < 0 ↔ i.toInt < 0 := Int64.lt_iff_toInt_lt

theorem compare_unsigned (u v : UInt64) : compare u v = compare (u.toNat : Int) v.toNat := by
  have lt : u < v ↔ (u.toNat : Int) < v.toNat := by rw [UInt64.lt_iff_toNat_lt, Int.ofNat_lt]
  have eq : u = v ↔ (u.toNat : Int) = v.toNat := by rw [← UInt64.toNat_inj, Int.natCast_inj]
  simp only [compare, compareOfLessAndEq, lt, eq]

theorem compare_signed (i j : Int64) : compare i j = compare i.toInt j.toInt := by
  simp only [compare, compareOfLessAndEq, Int64.lt_iff_toInt_lt, Int64.toInt_inj]

namespace Number

variable {m n : Number} {i j : Int}

/-! ### Comparison -/

/-- A negative integer against one without a sign. -/
theorem compare_mixed (i : Int64) (v : UInt64) :
    (if i < 0 then .lt else compare i.toUInt64 v) = compare i.toInt v.toNat := by
  split
  · next negative =>
    have := signed_lt_iff.1 negative
    exact (Int.compare_eq_lt.2 (by omega)).symm
  · next nonnegative =>
    rw [compare_unsigned, toNat_toUInt64 (Int.not_lt.1 (mt signed_lt_iff.2 nonnegative))]

theorem compare?_of_integer? (hm : m.integer? = some i) (hn : n.integer? = some j) :
    m.compare? n = some (compare i j) := by
  cases m with
  | signed i' =>
    cases hm
    cases n with
    | signed j' =>
      cases hn
      rw [compare?, compare_signed]
    | unsigned v =>
      cases hn
      rw [compare?, compare_mixed]
    | float y => cases hn
  | unsigned u =>
    cases hm
    cases n with
    | signed j' =>
      cases hn
      have swapped : (if j' < 0 then .gt else compare u j'.toUInt64) =
          (if j' < 0 then Ordering.lt else compare j'.toUInt64 u).swap := by
        rw [apply_ite Ordering.swap, ← Std.OrientedCmp.eq_swap]
        rfl
      rw [compare?, swapped, compare_mixed, ← Std.OrientedCmp.eq_swap]
    | unsigned v =>
      cases hn
      rw [compare?, compare_unsigned]
    | float y => cases hn
  | float x => cases hm

/-- A floating point number among the two brings both to the nearest floating point values. -/
theorem compare?_of_rounding (h : m.integer? = none ∨ n.integer? = none) :
    m.compare? n = m.toBinary64.compare? n.toBinary64 := by
  cases m with
  | float x => rfl
  | _ =>
    cases n with
    | float y => rfl
    | _ => rcases h with h | h <;> cases h

end Number

end JsonSchema
