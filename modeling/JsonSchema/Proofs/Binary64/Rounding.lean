import Mathlib.Data.Nat.Log
import Mathlib.Tactic.SplitIfs
import JsonSchema.Proofs.Binary64.Units
/-!
# Rounding

`rounded` is the value in units to which `nearest` rounds, before it is cut off at infinity
(`magnitude_nearest`). It keeps order (`rounded_mono`) and leaves alone what has at most 53
significant bits (`rounded_of_fits`), as every floating point number has. So the conversion of an
integer is exact where the integer can be held at all, and never exchanges two integers.
-/

namespace JsonSchema.Binary64

variable {x y : Binary64} {n m num den : Nat} {i j : Int}

/-! ### Numbers of 53 significant bits -/

/-- At most 53 bits from the first one set to the last one. -/
def Fits (n : Nat) : Prop := ∃ m e, m < 2 ^ 53 ∧ n = m * 2 ^ e

theorem fits_magnitude (x : Binary64) : Fits x.magnitude := by
  have fraction := x.fractionField_lt
  rcases Nat.eq_zero_or_pos x.exponentField with subnormal | normal
  · refine ⟨x.fractionField, 0, by omega, ?_⟩
    rw [magnitude_of_subnormal subnormal, Nat.pow_zero, Nat.mul_one]
  · obtain ⟨k, hk⟩ := Nat.exists_eq_succ_of_ne_zero normal.ne'
    exact ⟨2 ^ 52 + x.fractionField, k, by omega, magnitude_of_normal hk⟩

/-- A number that is not larger than two numbers that fit, and on the grid of both. -/
theorem Fits.of_dvd {a b : Nat} (ha : Fits a) (hb : Fits b) (hna : n ≤ a) (hnb : n ≤ b)
    (grid : ∀ c, c ∣ a → c ∣ b → c ∣ n) : Fits n := by
  have below : ∀ {m e : Nat}, m < 2 ^ 53 → n ≤ m * 2 ^ e → 2 ^ e ∣ n → Fits n := by
    rintro m e hm hn ⟨c, rfl⟩
    rw [Nat.mul_comm] at hn
    exact ⟨c, e, (Nat.le_of_mul_le_mul_right hn (Nat.two_pow_pos e)).trans_lt hm, Nat.mul_comm _ _⟩
  obtain ⟨m, e, hm, rfl⟩ := ha
  obtain ⟨m', e', hm', rfl⟩ := hb
  rcases Nat.le_total e e' with h | h
  · exact below hm hna (grid _ (Nat.dvd_mul_left _ _) (Dvd.dvd.mul_left (Nat.pow_dvd_pow 2 h) _))
  · exact below hm' hnb (grid _ (Dvd.dvd.mul_left (Nat.pow_dvd_pow 2 h) _) (Nat.dvd_mul_left _ _))

/-! ### Quotients -/

theorem div_le_roundHalfEven (num den : Nat) : num / den ≤ roundHalfEven num den := by
  simp only [roundHalfEven]
  split
  · exact Nat.le_refl _
  · split <;> omega

theorem roundHalfEven_le (num den : Nat) : roundHalfEven num den ≤ num / den + 1 := by
  simp only [roundHalfEven]
  split
  · omega
  · split <;> omega

theorem roundHalfEven_of_dvd (hd : 0 < den) (h : den ∣ num) :
    roundHalfEven num den = num / den := by
  rw [roundHalfEven, Nat.mod_eq_zero_of_dvd h]
  exact if_pos hd

theorem roundHalfEven_mono (h : n ≤ m) : roundHalfEven n den ≤ roundHalfEven m den := by
  rcases Nat.lt_or_eq_of_le (Nat.div_le_div_right (c := den) h) with apart | same
  · exact (roundHalfEven_le n den).trans (Nat.le_trans apart (div_le_roundHalfEven m den))
  · have rest : n % den ≤ m % den := by
      have hn := Nat.div_add_mod n den
      have hm := Nat.div_add_mod m den
      rw [same] at hn
      omega
    simp only [roundHalfEven, same]
    split_ifs <;> omega

/-! ### Rounding to 53 significant bits -/

/-- The power of two up to which bits are dropped. -/
def place (num den : Nat) : Nat := Nat.log2 (num / den) - 52

/-- The quotient rounded to 53 significant bits. -/
def rounded (num den : Nat) : Nat :=
  roundHalfEven num (den * 2 ^ place num den) * 2 ^ place num den

/-- The significand has 53 bits or carries, unless no bit is dropped. -/
theorem significand_bounds (num den : Nat) :
    roundHalfEven num (den * 2 ^ place num den) ≤ 2 ^ 53 ∧
      (place num den = 0 ∨ 2 ^ 52 ≤ roundHalfEven num (den * 2 ^ place num den)) := by
  have low := div_le_roundHalfEven num (den * 2 ^ place num den)
  have high := roundHalfEven_le num (den * 2 ^ place num den)
  rw [← Nat.div_div_eq_div_mul] at low high
  have below : num / den / 2 ^ place num den < 2 ^ 53 := by
    rw [Nat.div_lt_iff_lt_mul (Nat.two_pow_pos _), ← Nat.pow_add]
    exact Nat.lt_log2_self.trans_le (Nat.pow_le_pow_right Nat.two_pos (by rw [place]; omega))
  refine ⟨by omega, ?_⟩
  rcases Nat.eq_zero_or_pos (place num den) with none | some
  · exact .inl none
  · have nonzero : num / den ≠ 0 := by
      intro h
      rw [place, h] at some
      exact absurd some (by decide)
    have above : 2 ^ 52 ≤ num / den / 2 ^ place num den := by
      rw [Nat.le_div_iff_mul_le (Nat.two_pow_pos _), ← Nat.pow_add]
      have log : 52 + place num den = Nat.log2 (num / den) := by
        rw [place] at some ⊢
        omega
      rw [log]
      exact Nat.log2_self_le nonzero
    exact .inr (above.trans low)

theorem place_mono (den : Nat) (h : n ≤ m) : place n den ≤ place m den := by
  rw [place, place, Nat.log2_eq_log_two, Nat.log2_eq_log_two]
  exact Nat.sub_le_sub_right (Nat.log_mono_right (Nat.div_le_div_right h)) 52

theorem rounded_mono (h : n ≤ m) : rounded n den ≤ rounded m den := by
  rcases Nat.lt_or_eq_of_le (place_mono den h) with apart | same
  · -- more bits are dropped from `m`, which is then rounded to a full significand
    have full := (significand_bounds m den).2.resolve_left (Nat.ne_zero_of_lt apart)
    calc rounded n den ≤ 2 ^ 53 * 2 ^ place n den :=
          Nat.mul_le_mul_right _ (significand_bounds n den).1
      _ = 2 ^ 52 * 2 ^ (place n den + 1) := by ring
      _ ≤ 2 ^ 52 * 2 ^ place m den :=
          Nat.mul_le_mul_left _ (Nat.pow_le_pow_right Nat.two_pos apart)
      _ ≤ rounded m den := Nat.mul_le_mul_right _ full
  · rw [rounded, rounded, same]
    exact Nat.mul_le_mul_right _ (roundHalfEven_mono h)

theorem rounded_of_fits (h : Fits n) : rounded n 1 = n := by
  obtain ⟨m, e, hm, rfl⟩ := h
  have log : Nat.log2 (m * 2 ^ e) ≤ 52 + e := by
    rcases Nat.eq_zero_or_pos m with rfl | hpos
    · rw [Nat.zero_mul]
      exact Nat.zero_le _
    · have nonzero := Nat.mul_ne_zero hpos.ne' (Nat.two_pow_pos e).ne'
      refine Nat.le_of_lt_succ ((Nat.log2_lt nonzero).2 ?_)
      calc m * 2 ^ e < 2 ^ 53 * 2 ^ e := Nat.mul_lt_mul_of_pos_right hm (Nat.two_pow_pos e)
        _ = 2 ^ (52 + e + 1) := by ring
  have dropped : 2 ^ place (m * 2 ^ e) 1 ∣ m * 2 ^ e := by
    refine Dvd.dvd.mul_left (Nat.pow_dvd_pow 2 ?_) m
    rw [place, Nat.div_one]
    omega
  rw [rounded, Nat.one_mul, roundHalfEven_of_dvd (Nat.two_pow_pos _) dropped,
    Nat.div_mul_cancel dropped]

/-- A power of two that divides a number divides what the number is rounded to. -/
theorem dvd_rounded {e : Nat} (h : 2 ^ e ∣ n) : 2 ^ e ∣ rounded n 1 := by
  rw [rounded, Nat.one_mul]
  rcases Nat.le_total (place n 1) e with finer | coarser
  · have dropped : 2 ^ place n 1 ∣ n := (Nat.pow_dvd_pow 2 finer).trans h
    rwa [roundHalfEven_of_dvd (Nat.two_pow_pos _) dropped, Nat.div_mul_cancel dropped]
  · exact Dvd.dvd.mul_left (Nat.pow_dvd_pow 2 coarser) _

/-! ### The nearest value -/

theorem nearest_eq (neg : Bool) (num den : Nat) : nearest neg num den = ofParts neg
    (min (place num den * 2 ^ 52 + roundHalfEven num (den * 2 ^ place num den)) infinityBody) := rfl

theorem negative_nearest (neg : Bool) (num den : Nat) : (nearest neg num den).negative = neg := by
  rw [nearest_eq]
  exact negative_ofParts neg ((Nat.min_le_right _ _).trans_lt infinityBody_lt)

theorem magnitude_nearest (neg : Bool) (num den : Nat) :
    (nearest neg num den).magnitude = min (rounded num den) infinityUnits := by
  obtain ⟨high, low⟩ := significand_bounds num den
  obtain ⟨top, eq⟩ : ∃ top, top + 1 = 2047 := ⟨2046, rfl⟩
  have body : infinityBody = 2047 * 2 ^ 52 := rfl
  have small := infinityBody_lt
  rw [nearest_eq, rounded]
  generalize place num den = k at *
  generalize roundHalfEven num (den * 2 ^ k) = s at *
  rcases Nat.lt_or_ge infinityBody (k * 2 ^ 52 + s) with beyond | within
  · have overflow : infinityUnits ≤ s * 2 ^ k := by
      rw [infinityUnits_eq eq]
      exact Nat.mul_le_mul (by omega) (Nat.pow_le_pow_right Nat.two_pos (by omega))
    rw [Nat.min_eq_right beyond.le, Nat.min_eq_right overflow, infinityUnits]
    exact magnitude_ofParts_sign neg small
  · have below : s * 2 ^ k ≤ infinityUnits := by
      rw [infinityUnits_eq eq]
      rcases Nat.lt_or_ge k top with less | last
      · calc s * 2 ^ k ≤ 2 ^ 53 * 2 ^ k := Nat.mul_le_mul_right _ high
          _ = 2 ^ 52 * 2 ^ (k + 1) := by ring
          _ ≤ 2 ^ 52 * 2 ^ top := Nat.mul_le_mul_left _ (Nat.pow_le_pow_right Nat.two_pos less)
      · obtain rfl : k = top := by omega
        exact Nat.mul_le_mul_right _ (by omega)
    rw [Nat.min_eq_left within, Nat.min_eq_left below]
    exact magnitude_ofParts neg high low (within.trans_lt small)

theorem isNaN_nearest (neg : Bool) (num den : Nat) : (nearest neg num den).isNaN = false := by
  refine Bool.eq_false_iff.2 fun h => ?_
  have beyond := isNaN_iff.1 h
  rw [magnitude_nearest] at beyond
  exact beyond.not_ge (Nat.min_le_right _ _)

theorem magnitude_nearest_of_fits (neg : Bool) (h : Fits n) (hn : n ≤ infinityUnits) :
    (nearest neg n 1).magnitude = n := by
  rw [magnitude_nearest, rounded_of_fits h, Nat.min_eq_left hn]

theorem magnitude_nearest_mono {neg neg' : Bool} (h : n ≤ m) :
    (nearest neg n den).magnitude ≤ (nearest neg' m den).magnitude := by
  rw [magnitude_nearest, magnitude_nearest]
  exact Nat.le_min.2 ⟨(Nat.min_le_left _ _).trans (rounded_mono h), Nat.min_le_right _ _⟩

/-! ### Integers -/

theorem one_eq {k : Nat} (h : unitExponent = k) : one = 2 ^ k := by
  unfold one
  rw [h]
  rfl

theorem one_pos : 0 < one := by
  obtain ⟨k, hk⟩ : ∃ k, unitExponent = k := ⟨_, rfl⟩
  rw [one_eq hk]
  exact Nat.two_pow_pos k

theorem negative_ofInt (i : Int) : (ofInt i).negative = decide (i < 0) := negative_nearest _ _ _

theorem isNaN_ofInt (i : Int) : (ofInt i).isNaN = false := isNaN_nearest _ _ _

theorem units_ofInt_mono (h : i ≤ j) : (ofInt i).units ≤ (ofInt j).units := by
  have hi := negative_ofInt i
  have hj := negative_ofInt j
  have mono {i j : Int} (h : i.natAbs ≤ j.natAbs) : (ofInt i).magnitude ≤ (ofInt j).magnitude :=
    magnitude_nearest_mono (Nat.mul_le_mul_right one h)
  rcases lt_or_ge i 0 with below | above
  · rw [units_of_negative (hi.trans (decide_eq_true below))]
    rcases lt_or_ge j 0 with below' | above'
    · rw [units_of_negative (hj.trans (decide_eq_true below'))]
      exact Int.neg_le_neg (Int.ofNat_le.2 (mono (by omega)))
    · rw [units_of_not_negative (hj.trans (decide_eq_false above'.not_gt))]
      omega
  · rw [units_of_not_negative (hi.trans (decide_eq_false above.not_gt)),
      units_of_not_negative (hj.trans (decide_eq_false (above.trans h).not_gt))]
    exact Int.ofNat_le.2 (mono (by omega))

/-- An integer of at most 53 significant bits is converted to itself. -/
theorem units_ofInt_of_fits (h : Fits (i.natAbs * one)) (hi : i.natAbs * one ≤ infinityUnits) :
    (ofInt i).units = i * one := by
  have magnitude : (ofInt i).magnitude = i.natAbs * one := magnitude_nearest_of_fits _ h hi
  rcases lt_or_ge i 0 with below | above
  · rw [units_of_negative ((negative_ofInt i).trans (decide_eq_true below)), magnitude,
      Int.natCast_mul, Int.ofNat_natAbs_of_nonpos below.le, Int.neg_mul, Int.neg_neg]
  · rw [units_of_not_negative ((negative_ofInt i).trans (decide_eq_false above.not_gt)), magnitude,
      Int.natCast_mul, Int.natAbs_of_nonneg above]

/-- No integer of 64 bits is rounded to an infinity. -/
theorem isFinite_ofInt (h : i.natAbs ≤ 2 ^ 64) : (ofInt i).isFinite = true := by
  obtain ⟨k, hk⟩ : ∃ k, unitExponent = k := ⟨_, rfl⟩
  have small : k = 1074 := hk.symm
  have whole : 2 ^ 64 * one = 1 * 2 ^ (64 + k) := by rw [one_eq hk, Nat.pow_add, Nat.one_mul]
  have fits : Fits (2 ^ 64 * one) := ⟨1, 64 + k, by omega, whole⟩
  rw [isFinite_iff]
  calc (ofInt i).magnitude ≤ rounded (i.natAbs * one) 1 :=
        (magnitude_nearest _ _ _).trans_le (Nat.min_le_left _ _)
    _ ≤ rounded (2 ^ 64 * one) 1 := rounded_mono (Nat.mul_le_mul_right one h)
    _ = 2 ^ (64 + k) := by rw [rounded_of_fits fits, whole, Nat.one_mul]
    _ < 2 ^ (65 + k) := Nat.pow_lt_pow_right (by decide) (by omega)
    _ ≤ infinityUnits := pow_le_infinityUnits (by omega)

theorem units_ofInt_neg (i : Int) : (ofInt (-i)).units = -(ofInt i).units := by
  have magnitude : (ofInt (-i)).magnitude = (ofInt i).magnitude := by
    rw [ofInt, ofInt, magnitude_nearest, magnitude_nearest, Int.natAbs_neg]
  have sign := negative_ofInt i
  have sign' := negative_ofInt (-i)
  rcases lt_trichotomy i 0 with below | rfl | above
  · rw [units_of_negative (sign.trans (decide_eq_true below)),
      units_of_not_negative (sign'.trans (decide_eq_false (by omega))), magnitude, Int.neg_neg]
  · decide +kernel
  · rw [units_of_not_negative (sign.trans (decide_eq_false (by omega))),
      units_of_negative (sign'.trans (decide_eq_true (by omega))), magnitude]

theorem isIntegral_iff : x.isIntegral = true ↔ x.isFinite = true ∧ one ∣ x.magnitude := by
  rw [isIntegral, Bool.and_eq_true, beq_iff_eq, Nat.dvd_iff_mod_eq_zero]

theorem toInt?_eq_some_iff : x.toInt? = some i ↔ x.isFinite = true ∧ x.units = i * one := by
  have grid : one ∣ x.magnitude ↔ (one : Int) ∣ x.units := by
    rw [← natAbs_units, Int.natCast_dvd]
  rw [toInt?]
  constructor
  · intro h
    split at h
    · next integral =>
      obtain ⟨finite, whole⟩ := isIntegral_iff.1 integral
      cases h
      exact ⟨finite, (Int.tdiv_mul_cancel (grid.1 whole)).symm⟩
    · cases h
  · rintro ⟨finite, units⟩
    have whole : one ∣ x.magnitude := grid.2 (units ▸ Int.dvd_mul_left _ _)
    rw [if_pos (isIntegral_iff.2 ⟨finite, whole⟩), units,
      Int.mul_tdiv_cancel _ (Int.natCast_ne_zero.2 one_pos.ne')]

/-- A positive integer is not rounded below one. -/
theorem one_le_units_ofInt (h : 0 < i) : (one : Int) ≤ (ofInt i).units := by
  have kept := (toInt?_eq_some_iff.1 (show (ofInt 1).toInt? = some 1 by decide +kernel)).2
  rw [Int.one_mul] at kept
  exact kept.symm.trans_le (units_ofInt_mono h)

/-- An integer of 64 bits is rounded to an integer. -/
theorem exists_toInt?_ofInt (h : i.natAbs ≤ 2 ^ 64) : ∃ k, (ofInt i).toInt? = some k := by
  obtain ⟨k, hk⟩ : ∃ k, unitExponent = k := ⟨_, rfl⟩
  have finite := isFinite_ofInt h
  have magnitude : (ofInt i).magnitude = min (rounded (i.natAbs * one) 1) infinityUnits :=
    magnitude_nearest _ _ _
  have below := isFinite_iff.1 finite
  have grid : one ∣ (ofInt i).magnitude := by
    rw [magnitude] at below ⊢
    rw [Nat.min_eq_left (by omega), one_eq hk]
    exact dvd_rounded (Nat.dvd_mul_left _ _)
  rw [toInt?, if_pos (isIntegral_iff.2 ⟨finite, grid⟩)]
  exact ⟨_, rfl⟩

theorem isIntegral_eq (x : Binary64) : x.isIntegral = x.toInt?.isSome := by
  rw [toInt?]
  split
  · next h => exact h
  · next h => exact Bool.eq_false_iff.2 h

theorem magnitude_of_toInt? (h : x.toInt? = some i) : x.magnitude = i.natAbs * one := by
  rw [← natAbs_units, (toInt?_eq_some_iff.1 h).2, Int.natAbs_mul, Int.natAbs_natCast]

/-- The integer that a floating point number denotes is converted to that number. -/
theorem units_ofInt_of_toInt? (h : x.toInt? = some i) : (ofInt i).units = x.units := by
  obtain ⟨finite, units⟩ := toInt?_eq_some_iff.1 h
  have magnitude := magnitude_of_toInt? h
  rw [units_ofInt_of_fits (magnitude ▸ x.fits_magnitude) (magnitude ▸ (isFinite_iff.1 finite).le),
    units]

end JsonSchema.Binary64
