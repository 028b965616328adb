import Mathlib.Data.EReal.Basic
import JsonSchema.Proofs.Binary64.Rounding
import JsonSchema.Proofs.Number.Comparison
/-!
# The values of numbers

`Number.value?` is the extended real number that a number denotes, in whatever representation. A
floating point number denotes an integer exactly if conversion says so
(`Binary64.toInt?_eq_some_iff_value?`), and numbers of one value are brought to floating point
numbers of the same units (`Number.units_toBinary64_eq`).
-/

namespace JsonSchema

namespace Binary64

variable {x y z : Binary64} {i : Int} {r s : ℝ} {e : EReal}

/-- The exact value, an extended real number; what is not a number has none. -/
noncomputable def value? (x : Binary64) : Option EReal :=
  if x.isNaN then none
  else if x.isFinite then some (((x.units : ℝ) / (one : ℝ) : ℝ) : EReal)
  else some (if x.negative then ⊥ else ⊤)

theorem value?_of_isFinite (h : x.isFinite = true) :
    x.value? = some (((x.units : ℝ) / (one : ℝ) : ℝ) : EReal) := by
  rw [value?, isNaN_of_isFinite h, h]
  rfl

theorem isNaN_of_value? (h : x.value? = some e) : x.isNaN = false := by
  rw [value?] at h
  split at h
  · cases h
  · next hx => exact Bool.eq_false_iff.2 hx

theorem one_ne_zero_real : (one : ℝ) ≠ 0 := Nat.cast_ne_zero.2 one_pos.ne'

/-- A real value is that of the units. -/
theorem value?_eq_coe_iff : x.value? = some (r : EReal) ↔
    x.isFinite = true ∧ (x.units : ℝ) = r * (one : ℝ) := by
  constructor
  · intro h
    have finite : x.isFinite = true := by
      by_contra infinite
      rw [value?, isNaN_of_value? h, Bool.eq_false_iff.2 infinite] at h
      simp only [Bool.false_eq_true, if_false, Option.some.injEq] at h
      split at h
      · exact EReal.bot_ne_coe r h
      · exact EReal.top_ne_coe r h
    rw [value?_of_isFinite finite, Option.some.injEq, EReal.coe_eq_coe_iff,
      div_eq_iff one_ne_zero_real] at h
    exact ⟨finite, h⟩
  · rintro ⟨finite, units⟩
    rw [value?_of_isFinite finite, units, mul_div_cancel_right₀ r one_ne_zero_real]

theorem toInt?_eq_some_iff_value? : x.toInt? = some i ↔ x.value? = some ((i : ℝ) : EReal) := by
  rw [toInt?_eq_some_iff, value?_eq_coe_iff]
  norm_cast

theorem units_of_infinite (number : x.isNaN = false) (infinite : ¬x.isFinite = true) :
    x.units = if x.negative then -(infinityUnits : Int) else infinityUnits := by
  have above := mt isFinite_iff.2 infinite
  have below := mt isNaN_iff.2 (Bool.eq_false_iff.1 number)
  have magnitude : x.magnitude = infinityUnits := by omega
  rw [units, magnitude]

/-- Numbers of one value have the same units. -/
theorem units_eq_of_value? (hx : x.value? = some e) (hy : y.value? = some e) :
    x.units = y.units := by
  by_cases finite : x.isFinite = true
  · rw [value?_of_isFinite finite] at hx
    rw [← hx, value?_eq_coe_iff, div_mul_cancel₀ _ one_ne_zero_real] at hy
    exact (Int.cast_injective hy.2).symm
  by_cases finite' : y.isFinite = true
  · rw [value?_of_isFinite finite'] at hy
    rw [← hy] at hx
    exact absurd (value?_eq_coe_iff.1 hx).1 finite
  · have nx := isNaN_of_value? hx
    have ny := isNaN_of_value? hy
    have sign : x.negative = y.negative := by
      rw [value?, nx, Bool.eq_false_iff.2 finite] at hx
      rw [value?, ny, Bool.eq_false_iff.2 finite', ← hx] at hy
      cases hnx : x.negative <;> cases hny : y.negative <;> simp [hnx, hny] at hy ⊢
    rw [units_of_infinite nx finite, units_of_infinite ny finite', sign]

theorem value?_eq_of_units (h : x.units = y.units) : x.value? = y.value? := by
  by_cases zero : x.units = 0
  · rw [value?_of_isFinite (isFinite_of_units_eq_zero zero),
      value?_of_isFinite (isFinite_of_units_eq_zero (h ▸ zero)), h]
  · rw [units_inj h zero]

theorem value?_of_units_neg (h : y.units = -x.units) (hx : x.value? = some (r : EReal)) :
    y.value? = some ((-r : ℝ) : EReal) := by
  obtain ⟨finite, units⟩ := value?_eq_coe_iff.1 hx
  refine value?_eq_coe_iff.2 ⟨(isFinite_congr (magnitude_eq_of_units_neg h)).trans finite, ?_⟩
  rw [h, Int.cast_neg, units, neg_mul]

/-- Only the units of a number matter where it is compared. -/
theorem compare?_congr (hx : x.isNaN = false) (hy : y.isNaN = false) (h : x.units = y.units) :
    x.compare? z = y.compare? z := by
  rw [compare?, compare?, hx, hy, h]

end Binary64

namespace Number

variable {m n : Number} {i j : Int} {r : ℝ} {e : EReal}

/-- The exact value, an extended real number; what is not a number has none. -/
noncomputable def value? : Number → Option EReal
  | signed i => some ((i.toInt : ℝ) : EReal)
  | unsigned u => some ((u.toNat : ℝ) : EReal)
  | float x => x.value?

theorem value?_of_integer? (h : n.integer? = some i) : n.value? = some ((i : ℝ) : EReal) := by
  cases n with
  | signed k =>
    cases h
    rfl
  | unsigned u =>
    cases h
    rw [value?, Int.cast_natCast]
  | float x => cases h

theorem eq_of_value? (hn : n.integer? = some j) (h : n.value? = some ((i : ℝ) : EReal)) :
    j = i := by
  rwa [value?_of_integer? hn, Option.some.injEq, EReal.coe_eq_coe_iff, Int.cast_inj] at h

theorem value?_toBinary64_of_integer?_eq_none (h : n.integer? = none) :
    n.toBinary64.value? = n.value? := by
  cases n with
  | float x => rfl
  | _ => cases h

theorem toBinary64_of_integer? (h : n.integer? = some i) : n.toBinary64 = .ofInt i := by
  cases n with
  | float x => cases h
  | _ =>
    cases h
    rfl

theorem isNaN_toBinary64 (h : n.value? = some e) : n.toBinary64.isNaN = false := by
  cases hn : n.integer? with
  | some i =>
    rw [toBinary64_of_integer? hn]
    exact Binary64.isNaN_ofInt i
  | none => exact Binary64.isNaN_of_value? ((value?_toBinary64_of_integer?_eq_none hn).trans h)

/-- What denotes an integer is brought to the floating point number nearest to it. -/
theorem units_toBinary64_of_value? (h : n.value? = some ((i : ℝ) : EReal)) :
    n.toBinary64.units = (Binary64.ofInt i).units := by
  cases hn : n.integer? with
  | some j => rw [toBinary64_of_integer? hn, eq_of_value? hn h]
  | none =>
    rw [← value?_toBinary64_of_integer?_eq_none hn, ← Binary64.toInt?_eq_some_iff_value?] at h
    exact (Binary64.units_ofInt_of_toInt? h).symm

/-- Numbers of one value are brought to floating point numbers of one value. -/
theorem units_toBinary64_eq (hm : m.value? = some e) (hn : n.value? = some e) :
    m.toBinary64.units = n.toBinary64.units := by
  cases integer : m.integer? with
  | some i =>
    have he := (value?_of_integer? integer).symm.trans hm
    rw [units_toBinary64_of_value? (hm.trans he.symm),
      units_toBinary64_of_value? (hn.trans he.symm)]
  | none =>
    cases integer' : n.integer? with
    | some i =>
      have he := (value?_of_integer? integer').symm.trans hn
      rw [units_toBinary64_of_value? (hm.trans he.symm),
        units_toBinary64_of_value? (hn.trans he.symm)]
    | none =>
      exact Binary64.units_eq_of_value? ((value?_toBinary64_of_integer?_eq_none integer).trans hm)
        ((value?_toBinary64_of_integer?_eq_none integer').trans hn)

end Number
end JsonSchema
