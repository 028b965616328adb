import Mathlib.Tactic.Tauto
import JsonSchema.Proofs.Binary64.Rounding
/-!
# Remainders

The remainder of two floating point numbers is exact (`Binary64.units_remainder`). Its difference
from the divisor may be rounded, but only where the remainder itself is as near to zero, so whether
one of the two lies within `epsilon` can be read off exact units (`Binary64.isMultipleOf_iff`). For a
positive divisor the second of them does so for positive numbers only
(`Binary64.isMultipleOf_iff_of_pos`). Neither is the case between integers other than by division
(`Binary64.isMultipleOf_iff_dvd`).
-/

namespace JsonSchema.Binary64

variable {x y d : Binary64}

/-! ### Signs -/

theorem body_lt (x : Binary64) : x.bits.toNat % Nat.pow 2 63 < 2 ^ 63 := Nat.mod_lt _ (by decide)

theorem magnitude_ofParts_body (neg : Bool) (x : Binary64) :
    (ofParts neg (x.bits.toNat % Nat.pow 2 63)).magnitude = x.magnitude := by
  have p52 : Nat.pow 2 52 = 2 ^ 52 := rfl
  have p63 : Nat.pow 2 63 = 2 ^ 63 := rfl
  have p11 : Nat.pow 2 11 = 2 ^ 11 := rfl
  have exponent : (ofParts neg (x.bits.toNat % Nat.pow 2 63)).exponentField = x.exponentField := by
    rw [exponentField_ofParts neg x.body_lt, exponentField, p52, p63, p11]
    omega
  have fraction : (ofParts neg (x.bits.toNat % Nat.pow 2 63)).fractionField = x.fractionField := by
    rw [fractionField_ofParts neg x.body_lt, fractionField, p52, p63]
    omega
  rw [magnitude, magnitude, exponent, fraction]

theorem magnitude_abs (x : Binary64) : x.abs.magnitude = x.magnitude := magnitude_ofParts_body _ x

theorem magnitude_neg (x : Binary64) : x.neg.magnitude = x.magnitude := magnitude_ofParts_body _ x

/-- Without its sign a number is below a positive one if its distance from zero is less. -/
theorem abs_less_iff (hy : y.isNaN = false) (positive : y.negative = false) :
    x.abs.less y = true ↔ x.magnitude < y.magnitude := by
  have bound : y.magnitude ≤ infinityUnits := Nat.le_of_not_lt fun h => by
    rw [isNaN_iff.2 h] at hy
    cases hy
  cases hx : x.abs.isNaN with
  | true =>
    have beyond := isNaN_iff.1 hx
    rw [magnitude_abs] at beyond
    refine iff_of_false ?_ (by omega)
    simp [less, compare?, hx]
  | false =>
    have sign : x.abs.negative = false := negative_ofParts false x.body_lt
    rw [less_iff hx hy, units_of_not_negative sign, units_of_not_negative positive, magnitude_abs,
      Int.ofNat_lt]

/-! ### The remainder -/

section

variable (hx : x.isFinite = true) (hd : d.isNaN = false) (h0 : d.magnitude ≠ 0)

include hx hd h0

theorem remainder_eq : x.remainder d = nearest x.negative (x.magnitude % d.magnitude) 1 := by
  rw [remainder, hx, hd, if_pos]
  simpa using h0

theorem magnitude_remainder : (x.remainder d).magnitude = x.magnitude % d.magnitude := by
  have small := Nat.mod_le x.magnitude d.magnitude
  have below := Nat.mod_lt x.magnitude (Nat.pos_of_ne_zero h0)
  have fits : Fits (x.magnitude % d.magnitude) :=
    x.fits_magnitude.of_dvd d.fits_magnitude small below.le fun c hx hd => (Nat.dvd_mod_iff hd).2 hx
  rw [remainder_eq hx hd h0]
  exact magnitude_nearest_of_fits _ fits (small.trans (isFinite_iff.1 hx).le)

theorem isFinite_remainder : (x.remainder d).isFinite = true := by
  rw [isFinite_iff, magnitude_remainder hx hd h0]
  exact (Nat.mod_le _ _).trans_lt (isFinite_iff.1 hx)

/-- The remainder is not rounded. -/
theorem units_remainder : (x.remainder d).units = x.units.tmod d.units := by
  have magnitude := magnitude_remainder hx hd h0
  have sign : (x.remainder d).negative = x.negative := by
    rw [remainder_eq hx hd h0]
    exact negative_nearest _ _ _
  have grid : (x.magnitude : Int).tmod d.units = (x.magnitude % d.magnitude : Nat) := by
    rw [units]
    split
    · rw [Int.tmod_neg]
      rfl
    · rfl
  cases hn : x.negative
  · rw [units_of_not_negative (sign.trans hn), units_of_not_negative hn, magnitude, grid]
  · rw [units_of_negative (sign.trans hn), units_of_negative hn, magnitude, Int.neg_tmod, grid]

end

theorem remainder_eq_nan (h : ¬(x.isFinite = true ∧ d.isNaN = false ∧ d.magnitude ≠ 0)) :
    x.remainder d = nan := by
  rw [remainder, if_neg]
  simpa [and_assoc] using h

/-! ### The tolerance -/

theorem isNaN_epsilon : epsilon.isNaN = false := by decide +kernel

theorem magnitude_epsilon_le : epsilon.magnitude ≤ infinityUnits :=
  (isFinite_iff.1 (by decide +kernel)).le

theorem abs_less_epsilon_iff : x.abs.less epsilon = true ↔ x.magnitude < epsilon.magnitude :=
  abs_less_iff isNaN_epsilon (by decide +kernel)

theorem lt_epsilon_of_rounded {n : Nat} (h : rounded n 1 < epsilon.magnitude) :
    n < epsilon.magnitude := by
  by_contra above
  have mono : rounded epsilon.magnitude 1 ≤ rounded n 1 := rounded_mono (Nat.le_of_not_lt above)
  rw [rounded_of_fits epsilon.fits_magnitude] at mono
  omega

theorem magnitude_sub (hx : x.isFinite = true) (hy : y.isFinite = true) :
    (x.sub y).magnitude = min (rounded (x.units - y.units).natAbs 1) infinityUnits := by
  rw [sub, isNaN_of_isFinite hx, isNaN_of_isFinite hy, hx, hy]
  exact magnitude_nearest _ _ _

/-- Two numbers of one sign, of which the first one is at least half of the second one, have a
difference that is not rounded. -/
theorem fits_sub (within : x.magnitude ≤ d.magnitude)
    (half : (x.units - d.units).natAbs ≤ x.magnitude) : Fits (x.units - d.units).natAbs := by
  have ux := natAbs_units x
  have ud := natAbs_units d
  refine x.fits_magnitude.of_dvd d.fits_magnitude half (half.trans within) fun c hx hd => ?_
  rw [← ux, ← Int.natCast_dvd] at hx
  rw [← ud, ← Int.natCast_dvd] at hd
  exact Int.natCast_dvd.1 (Int.dvd_sub hx hd)

theorem sub_less_epsilon_iff (hx : x.isFinite = true) (hd : d.isFinite = true)
    (within : x.magnitude ≤ d.magnitude) (above : epsilon.magnitude ≤ x.magnitude) :
    (x.sub d).magnitude < epsilon.magnitude ↔ (x.units - d.units).natAbs < epsilon.magnitude := by
  have bound := magnitude_epsilon_le
  rw [magnitude_sub hx hd]
  constructor
  · intro h
    exact lt_epsilon_of_rounded (by omega)
  · intro h
    rw [rounded_of_fits (fits_sub within (h.le.trans above))]
    omega

theorem magnitude_sub_of_isFinite (hx : x.isFinite = true) (hd : d.isNaN = false)
    (infinite : ¬d.isFinite = true) : (x.sub d).magnitude = d.magnitude := by
  have notInfinite : x.isInfinite = false := by
    refine Bool.eq_false_iff.2 fun h => ?_
    exact absurd (isInfinite_iff.1 h) (isFinite_iff.1 hx).ne
  rw [sub, isNaN_of_isFinite hx, hd, notInfinite, Bool.eq_false_iff.2 infinite]
  simpa using magnitude_neg d

/-- The test is exact. -/
theorem isMultipleOf_iff : x.isMultipleOf d = true ↔
    x.isFinite = true ∧ d.isNaN = false ∧ d.magnitude ≠ 0 ∧
      (x.magnitude % d.magnitude < epsilon.magnitude ∨
        d.isFinite = true ∧ (x.units.tmod d.units - d.units).natAbs < epsilon.magnitude) := by
  rw [isMultipleOf, Bool.or_eq_true, abs_less_epsilon_iff, abs_less_epsilon_iff]
  by_cases defined : x.isFinite = true ∧ d.isNaN = false ∧ d.magnitude ≠ 0
  · obtain ⟨hx, hd, h0⟩ := defined
    have magnitude := magnitude_remainder hx hd h0
    have finite := isFinite_remainder hx hd h0
    have within : (x.remainder d).magnitude ≤ d.magnitude :=
      magnitude ▸ (Nat.mod_lt _ (Nat.pos_of_ne_zero h0)).le
    simp only [hx, hd, h0, ne_eq, not_false_eq_true, true_and]
    rw [← units_remainder hx hd h0, ← magnitude]
    by_cases above : (x.remainder d).magnitude < epsilon.magnitude
    · exact iff_of_true (.inl above) (.inl above)
    simp only [above, false_or]
    -- from here on the remainder is at least the tolerance, where the difference is exact if small
    by_cases hf : d.isFinite = true
    · rw [sub_less_epsilon_iff finite hf within (Nat.le_of_not_lt above)]
      simp only [hf, true_and]
    · rw [magnitude_sub_of_isFinite finite hd hf]
      have far := magnitude_epsilon_le.trans (Nat.le_of_not_lt (mt isFinite_iff.2 hf))
      exact iff_of_false far.not_gt fun h => hf h.1
  · have beyond : ¬nan.magnitude < epsilon.magnitude := by decide +kernel
    have difference : nan.sub d = nan := rfl
    rw [remainder_eq_nan defined, difference]
    refine iff_of_false (fun h => beyond (or_self_iff.1 h)) ?_
    rintro ⟨hx, hd, h0, -⟩
    exact defined ⟨hx, hd, h0⟩

theorem isMultipleOf_congr (h : x.units = y.units) : x.isMultipleOf d = y.isMultipleOf d := by
  have magnitude := magnitude_eq_of_units h
  rw [Bool.eq_iff_iff, isMultipleOf_iff, isMultipleOf_iff, isFinite_congr magnitude, magnitude, h]

/-! ### Positive divisors -/

/-- Only below the divisor, and not at zero, the remainder lies within the tolerance. -/
def FallsShort (x d : Binary64) : Prop :=
  epsilon.magnitude ≤ x.magnitude % d.magnitude ∧
    d.magnitude - x.magnitude % d.magnitude < epsilon.magnitude

/-- Near the divisor lie the remainders of positive numbers only. -/
theorem isMultipleOf_iff_of_pos (positive : 0 < d.units) : x.isMultipleOf d = true ↔
    x.isFinite = true ∧ d.isNaN = false ∧
      (x.magnitude % d.magnitude < epsilon.magnitude ∨ x.negative = false ∧ d.isFinite = true ∧
        d.magnitude - x.magnitude % d.magnitude < epsilon.magnitude) := by
  have ud := natAbs_units d
  have h0 : d.magnitude ≠ 0 := by omega
  have below := Nat.mod_lt x.magnitude (Nat.pos_of_ne_zero h0)
  have hd : d.units = d.magnitude := by omega
  have grid : (x.magnitude : Int).tmod d.magnitude = (x.magnitude % d.magnitude : Nat) := rfl
  rw [isMultipleOf_iff, hd]
  generalize x.magnitude % d.magnitude = r at *
  generalize epsilon.magnitude = e
  cases hn : x.negative
  · rw [units_of_not_negative hn, grid]
    have difference : ((r : Int) - d.magnitude).natAbs = d.magnitude - r := by omega
    simp only [h0, difference, ne_eq, not_false_eq_true, true_and]
  · rw [units_of_negative hn, Int.neg_tmod, grid]
    have far : (-(r : Int) - d.magnitude).natAbs < e → r < e := by
      omega
    simp only [h0, ne_eq, not_false_eq_true, true_and, Bool.true_eq_false, false_and, or_false]
    tauto

/-- Elsewhere only remainders near zero count. -/
theorem isMultipleOf_iff_of_not_fallsShort (positive : 0 < d.units) (near : ¬FallsShort x d) :
    x.isMultipleOf d = true ↔ x.isFinite = true ∧ d.isNaN = false ∧
      x.magnitude % d.magnitude < epsilon.magnitude := by
  have zero : (x.magnitude % d.magnitude < epsilon.magnitude ∨ x.negative = false ∧
      d.isFinite = true ∧ d.magnitude - x.magnitude % d.magnitude < epsilon.magnitude) ↔
      x.magnitude % d.magnitude < epsilon.magnitude :=
    or_iff_left_of_imp fun h => Nat.lt_of_not_le fun above => near ⟨above, h.2.2⟩
  rw [isMultipleOf_iff_of_pos positive, zero]

theorem fallsShort_congr (h : x.magnitude = y.magnitude) : FallsShort x d ↔ FallsShort y d := by
  rw [FallsShort, FallsShort, h]

/-- There a sign changes nothing. -/
theorem isMultipleOf_of_units_neg (positive : 0 < d.units) (h : y.units = -x.units)
    (near : ¬FallsShort x d) : x.isMultipleOf d = y.isMultipleOf d := by
  have magnitude := magnitude_eq_of_units_neg h
  rw [Bool.eq_iff_iff, isMultipleOf_iff_of_not_fallsShort positive near,
    isMultipleOf_iff_of_not_fallsShort positive (mt (fallsShort_congr magnitude).1 near),
    isFinite_congr magnitude, magnitude]

/-! ### Integers -/

theorem mul_one_lt_epsilon_iff {n : Nat} : n * one < epsilon.magnitude ↔ n = 0 := by
  have small : epsilon.magnitude < one := by decide +kernel
  have positive : 0 < epsilon.magnitude := by decide +kernel
  constructor
  · intro h
    by_contra nonzero
    exact absurd (Nat.le_mul_of_pos_left one (Nat.pos_of_ne_zero nonzero)) (by omega)
  · rintro rfl
    rwa [Nat.zero_mul]

section

variable {i k : Int} (hx : x.toInt? = some i) (hd : d.toInt? = some k) (positive : 0 < k)

include hx hd positive

/-- The remainder of an integer by an integer is one, so it does not fall short of the divisor. -/
theorem not_fallsShort_of_toInt? : ¬FallsShort x d := by
  have below := Nat.mod_lt i.natAbs (Int.natAbs_pos.2 positive.ne')
  rw [FallsShort, magnitude_of_toInt? hx, magnitude_of_toInt? hd, Nat.mul_mod_mul_right,
    ← Nat.sub_mul, mul_one_lt_epsilon_iff]
  exact fun h => absurd h.2 (by omega)

/-- Between integers the tolerance is of no effect. -/
theorem isMultipleOf_iff_dvd : x.isMultipleOf d = true ↔ k ∣ i := by
  obtain ⟨finite, -⟩ := toInt?_eq_some_iff.1 hx
  obtain ⟨finite', units⟩ := toInt?_eq_some_iff.1 hd
  have above : 0 < d.units := units ▸ Int.mul_pos positive (Int.natCast_pos.2 one_pos)
  rw [isMultipleOf_iff_of_not_fallsShort above (not_fallsShort_of_toInt? hx hd positive),
    isNaN_of_isFinite finite', magnitude_of_toInt? hx, magnitude_of_toInt? hd,
    Nat.mul_mod_mul_right, mul_one_lt_epsilon_iff, ← Nat.dvd_iff_mod_eq_zero,
    Int.natAbs_dvd_natAbs]
  simp only [finite, true_and]

end

end JsonSchema.Binary64
