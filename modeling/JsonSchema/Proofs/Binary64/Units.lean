import Mathlib.Tactic.Ring
import JsonSchema.Binary64
/-!
# Patterns and units

The distance of a floating point number from zero determines its exponent and its fraction
(`Binary64.magnitude_inj`), so numbers of the same units are the same but for the sign of zero
(`Binary64.units_inj`). Finite numbers lie below `infinityUnits`, infinities lie there, and what is
not a number lies beyond.
-/

namespace JsonSchema.Binary64

variable {x y : Binary64}

/-! ### Fields of a pattern -/

theorem eq_of_parts (sign : x.negative = y.negative) (exponent : x.exponentField = y.exponentField)
    (fraction : x.fractionField = y.fractionField) : x = y := by
  have hx := x.bits.toNat_lt
  have hy := y.bits.toNat_lt
  have p52 : Nat.pow 2 52 = 2 ^ 52 := rfl
  have p63 : Nat.pow 2 63 = 2 ^ 63 := rfl
  have p11 : Nat.pow 2 11 = 2 ^ 11 := rfl
  simp only [negative, exponentField, fractionField, p52, p63, p11, decide_eq_decide] at *
  have bits : x.bits = y.bits := UInt64.toNat_inj.1 (by omega)
  exact congrArg mk bits

theorem fractionField_lt (x : Binary64) : x.fractionField < 2 ^ 52 := Nat.mod_lt _ (by decide)

theorem exponentField_le (x : Binary64) : x.exponentField ≤ 2047 :=
  Nat.le_of_lt_succ (Nat.mod_lt _ (by decide))

section

variable {body : Nat}

theorem toNat_ofParts (neg : Bool) (h : body < 2 ^ 63) :
    (ofParts neg body).bits.toNat = if neg then 2 ^ 63 + body else body := by
  have p63 : Nat.pow 2 63 = 2 ^ 63 := rfl
  rw [ofParts, UInt64.toNat_ofNat', p63]
  cases neg <;> simp only [if_true, Bool.false_eq_true, if_false]
  · omega
  · omega

theorem negative_ofParts (neg : Bool) (h : body < 2 ^ 63) : (ofParts neg body).negative = neg := by
  have p63 : Nat.pow 2 63 = 2 ^ 63 := rfl
  rw [negative, toNat_ofParts neg h, p63]
  cases neg
  · exact decide_eq_false (by simpa using h)
  · exact decide_eq_true (by simp)

theorem exponentField_ofParts (neg : Bool) (h : body < 2 ^ 63) :
    (ofParts neg body).exponentField = body / 2 ^ 52 := by
  have p52 : Nat.pow 2 52 = 2 ^ 52 := rfl
  have p11 : Nat.pow 2 11 = 2 ^ 11 := rfl
  rw [exponentField, toNat_ofParts neg h, p52, p11]
  cases neg <;> simp only [if_true, Bool.false_eq_true, if_false] <;> omega

theorem fractionField_ofParts (neg : Bool) (h : body < 2 ^ 63) :
    (ofParts neg body).fractionField = body % 2 ^ 52 := by
  have p52 : Nat.pow 2 52 = 2 ^ 52 := rfl
  rw [fractionField, toNat_ofParts neg h, p52]
  cases neg
  · rfl
  · simp only [if_true]
    omega

end

/-! ### The distance from zero -/

theorem magnitude_of_subnormal (h : x.exponentField = 0) : x.magnitude = x.fractionField := if_pos h

theorem magnitude_of_normal {k : Nat} (h : x.exponentField = k + 1) :
    x.magnitude = (2 ^ 52 + x.fractionField) * 2 ^ k := by
  rw [magnitude, if_neg (by omega), h]
  rfl

/-- The exponent tells the powers of two between which a normal number lies. -/
theorem magnitude_bounds (h : x.exponentField ≠ 0) :
    2 ^ (51 + x.exponentField) ≤ x.magnitude ∧ x.magnitude < 2 ^ (52 + x.exponentField) := by
  have fraction := x.fractionField_lt
  obtain ⟨k, hk⟩ := Nat.exists_eq_succ_of_ne_zero h
  rw [magnitude_of_normal hk, hk]
  constructor
  · calc 2 ^ (51 + (k + 1)) = 2 ^ 52 * 2 ^ k := by ring
      _ ≤ _ := Nat.mul_le_mul_right _ (by omega)
  · calc (2 ^ 52 + x.fractionField) * 2 ^ k < 2 ^ 53 * 2 ^ k :=
          Nat.mul_lt_mul_of_pos_right (by omega) (Nat.two_pow_pos k)
      _ = 2 ^ (52 + (k + 1)) := by ring

/-- A number of less exponent is less. -/
theorem magnitude_lt (h : x.exponentField < y.exponentField) : x.magnitude < y.magnitude := by
  have hy := (magnitude_bounds (x := y) (by omega)).1
  by_cases hx : x.exponentField = 0
  · have normal : 2 ^ 52 ≤ 2 ^ (51 + y.exponentField) := Nat.pow_le_pow_right (by omega) (by omega)
    rw [magnitude_of_subnormal hx]
    exact x.fractionField_lt.trans_le (normal.trans hy)
  · have apart : 2 ^ (52 + x.exponentField) ≤ 2 ^ (51 + y.exponentField) :=
      Nat.pow_le_pow_right (by omega) (by omega)
    exact (magnitude_bounds hx).2.trans_le (apart.trans hy)

theorem magnitude_inj (h : x.magnitude = y.magnitude) :
    x.exponentField = y.exponentField ∧ x.fractionField = y.fractionField := by
  have exponent : x.exponentField = y.exponentField := by
    rcases Nat.lt_trichotomy x.exponentField y.exponentField with hlt | heq | hgt
    · exact absurd h (magnitude_lt hlt).ne
    · exact heq
    · exact absurd h (magnitude_lt hgt).ne'
  refine ⟨exponent, ?_⟩
  rw [magnitude, magnitude, exponent] at h
  split at h
  · exact h
  · have := Nat.eq_of_mul_eq_mul_right (Nat.pow_pos (by decide)) h
    omega

theorem magnitude_ofParts_sign (neg : Bool) {body : Nat} (h : body < 2 ^ 63) :
    (ofParts neg body).magnitude = (ofParts false body).magnitude := by
  rw [magnitude, magnitude, exponentField_ofParts neg h, exponentField_ofParts false h,
    fractionField_ofParts neg h, fractionField_ofParts false h]

/-- A pattern whose significand may have carried into the exponent. -/
theorem magnitude_ofParts (neg : Bool) {k m : Nat} (hm : m ≤ 2 ^ 53) (hk : k = 0 ∨ 2 ^ 52 ≤ m)
    (h : k * 2 ^ 52 + m < 2 ^ 63) : (ofParts neg (k * 2 ^ 52 + m)).magnitude = m * 2 ^ k := by
  have exponent := exponentField_ofParts neg h
  have fraction := fractionField_ofParts neg h
  rcases Nat.lt_or_ge m (2 ^ 52) with subnormal | normal
  · obtain rfl : k = 0 := by omega
    rw [magnitude_of_subnormal (by omega), fraction, Nat.pow_zero]
    omega
  rcases Nat.lt_or_ge m (2 ^ 53) with plain | carried
  · rw [magnitude_of_normal (k := k) (by omega), fraction]
    congr 1
    omega
  · obtain rfl : m = 2 ^ 53 := by omega
    rw [magnitude_of_normal (k := k + 1) (by omega), fraction]
    have none : (k * 2 ^ 52 + 2 ^ 53) % 2 ^ 52 = 0 := by omega
    rw [none]
    ring

/-! ### Infinities -/

theorem infinityBody_lt : infinityBody < 2 ^ 63 := by decide

/-- The distance of an infinity from zero, `2 ^ 1024` in units. -/
def infinityUnits : Nat := (ofParts false infinityBody).magnitude

theorem infinityUnits_eq {k : Nat} (h : k + 1 = 2047) : infinityUnits = 2 ^ 52 * 2 ^ k := by
  have exponent : (ofParts false infinityBody).exponentField = k + 1 :=
    (exponentField_ofParts false infinityBody_lt).trans h.symm
  have fraction : (ofParts false infinityBody).fractionField = 0 :=
    fractionField_ofParts false infinityBody_lt
  rw [infinityUnits, magnitude_of_normal exponent, fraction, Nat.add_zero]

theorem pow_le_infinityUnits {k : Nat} (h : k ≤ 2098) : 2 ^ k ≤ infinityUnits := by
  obtain ⟨top, eq⟩ : ∃ top, top + 1 = 2047 := ⟨2046, rfl⟩
  rw [infinityUnits_eq eq, ← Nat.pow_add]
  exact Nat.pow_le_pow_right Nat.two_pos (by omega)

theorem magnitude_of_exponentField (h : x.exponentField = 2047) :
    ∃ step > 0, x.magnitude = infinityUnits + x.fractionField * step := by
  obtain ⟨k, eq⟩ : ∃ k, k + 1 = 2047 := ⟨2046, rfl⟩
  refine ⟨2 ^ k, Nat.two_pow_pos k, ?_⟩
  rw [magnitude_of_normal (h.trans eq.symm), infinityUnits_eq eq, Nat.add_mul]

theorem magnitude_lt_infinityUnits (h : x.exponentField ≠ 2047) : x.magnitude < infinityUnits := by
  have exponent := x.exponentField_le
  by_cases hx : x.exponentField = 0
  · rw [magnitude_of_subnormal hx]
    exact x.fractionField_lt.trans_le (pow_le_infinityUnits (by omega))
  · exact (magnitude_bounds hx).2.trans_le (pow_le_infinityUnits (by omega))

theorem isFinite_iff : x.isFinite = true ↔ x.magnitude < infinityUnits := by
  rw [isFinite, bne_iff_ne]
  refine ⟨magnitude_lt_infinityUnits, fun h hx => ?_⟩
  obtain ⟨step, -, magnitude⟩ := magnitude_of_exponentField hx
  omega

theorem isFinite_congr (h : x.magnitude = y.magnitude) : x.isFinite = y.isFinite := by
  rw [Bool.eq_iff_iff, isFinite_iff, isFinite_iff, h]

theorem isInfinite_iff : x.isInfinite = true ↔ x.magnitude = infinityUnits := by
  rw [isInfinite, Bool.and_eq_true, beq_iff_eq, beq_iff_eq]
  constructor
  · rintro ⟨exponent, fraction⟩
    obtain ⟨step, -, magnitude⟩ := magnitude_of_exponentField exponent
    rw [magnitude, fraction, Nat.zero_mul, Nat.add_zero]
  · intro h
    have exponent : x.exponentField = 2047 := by
      by_contra hx
      exact (magnitude_lt_infinityUnits hx).ne h
    obtain ⟨step, pos, magnitude⟩ := magnitude_of_exponentField exponent
    have none : x.fractionField * step = 0 := by omega
    exact ⟨exponent, (Nat.mul_eq_zero.1 none).resolve_right pos.ne'⟩

theorem isNaN_iff : x.isNaN = true ↔ infinityUnits < x.magnitude := by
  have finite := isFinite_iff (x := x)
  have infinite := isInfinite_iff (x := x)
  rw [isFinite, bne_iff_ne] at finite
  rw [isInfinite, Bool.and_eq_true, beq_iff_eq, beq_iff_eq] at infinite
  rw [isNaN, Bool.and_eq_true, beq_iff_eq, bne_iff_ne]
  constructor
  · rintro ⟨exponent, fraction⟩
    have above := mt finite.2 (not_not_intro exponent)
    have apart := mt infinite.2 fun h => fraction h.2
    omega
  · intro h
    have exponent : x.exponentField = 2047 := by
      by_contra hx
      exact absurd (finite.1 hx) (by omega)
    exact ⟨exponent, fun fraction => absurd (infinite.1 ⟨exponent, fraction⟩) (by omega)⟩

theorem isNaN_of_isFinite (h : x.isFinite = true) : x.isNaN = false := by
  have below := isFinite_iff.1 h
  exact Bool.eq_false_iff.2 fun hx => absurd (isNaN_iff.1 hx) (by omega)

/-! ### Signed units -/

theorem units_of_negative (h : x.negative = true) : x.units = -(x.magnitude : Int) := if_pos h

theorem units_of_not_negative (h : x.negative = false) : x.units = x.magnitude :=
  if_neg (Bool.eq_false_iff.1 h)

theorem natAbs_units (x : Binary64) : x.units.natAbs = x.magnitude := by
  cases h : x.negative
  · rw [units_of_not_negative h, Int.natAbs_natCast]
  · rw [units_of_negative h, Int.natAbs_neg, Int.natAbs_natCast]

theorem magnitude_eq_of_units (h : x.units = y.units) : x.magnitude = y.magnitude := by
  rw [← natAbs_units, h, natAbs_units]

theorem magnitude_eq_of_units_neg (h : y.units = -x.units) : y.magnitude = x.magnitude := by
  rw [← natAbs_units, h, Int.natAbs_neg, natAbs_units]

theorem isFinite_of_units_eq_zero (h : x.units = 0) : x.isFinite = true := by
  rw [isFinite_iff, ← natAbs_units, h, Int.natAbs_zero]
  exact (Nat.two_pow_pos 0).trans_le (pow_le_infinityUnits (Nat.zero_le _))

/-- Only the two zeros have the same units. -/
theorem units_inj (h : x.units = y.units) (nonzero : x.units ≠ 0) : x = y := by
  have magnitudes := magnitude_eq_of_units h
  have sign : x.negative = y.negative := by
    rw [units, units] at h
    rw [units] at nonzero
    cases hx : x.negative <;> cases hy : y.negative <;> simp only [hx, hy] at h nonzero ⊢ <;>
      simp at h nonzero <;> omega
  exact eq_of_parts sign (magnitude_inj magnitudes).1 (magnitude_inj magnitudes).2

/-! ### Comparison -/

theorem compare?_of_not_isNaN (hx : x.isNaN = false) (hy : y.isNaN = false) :
    x.compare? y = some (compare x.units y.units) := by
  rw [compare?, hx, hy]
  rfl

theorem less_iff (hx : x.isNaN = false) (hy : y.isNaN = false) :
    x.less y = true ↔ x.units < y.units := by
  rw [less, compare?_of_not_isNaN hx hy, beq_iff_eq, Option.some.injEq, Int.compare_eq_lt]

theorem atLeast_iff (hx : x.isNaN = false) (hy : y.isNaN = false) :
    x.atLeast y = true ↔ y.units ≤ x.units := by
  rw [atLeast, compare?_of_not_isNaN hx hy]
  simp only [Bool.or_eq_true, beq_iff_eq, Option.some.injEq, Int.compare_eq_gt, Int.compare_eq_eq]
  omega

theorem units_eq_of_compare?_eq (h : x.compare? y = some .eq) : x.units = y.units := by
  rw [compare?] at h
  split at h
  · cases h
  · exact Int.compare_eq_eq.1 (Option.some.inj h)

end JsonSchema.Binary64
