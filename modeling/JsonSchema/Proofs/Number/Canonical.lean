import JsonSchema.Proofs.Binary64.Rounding
import JsonSchema.Proofs.Number.Comparison
/-!
# Canonical numbers

The canonical form of a floating point number is the integer it denotes, if there is one of 64 bits
(`Number.canonical_float`). So numbers that compare equal have the same canonical form, unless an
integer is rounded on the way: a comparison with a floating point number brings an integer to the
nearest floating point value, and the canonical form does not (`Number.canonical_eq_iff_of_agrees`).
-/

namespace JsonSchema

namespace Binary64

variable {x y : Binary64}

theorem toInt?_of_units_eq_zero (h : x.units = 0) : x.toInt? = some 0 :=
  toInt?_eq_some_iff.2 ⟨isFinite_of_units_eq_zero h, by rw [h, Int.zero_mul]⟩

/-- Floating point numbers that compare equal denote the same integer, or are one. -/
theorem eq_or_toInt?_eq (h : x.compare? y = some .eq) :
    x = y ∨ (x.toInt? = some 0 ∧ y.toInt? = some 0) := by
  have units := units_eq_of_compare?_eq h
  by_cases hx : x.units = 0
  · exact .inr ⟨toInt?_of_units_eq_zero hx, toInt?_of_units_eq_zero (units ▸ hx)⟩
  · exact .inl (units_inj units hx)

/-! ### Conversion to integers -/

theorem truncate_of_toInt? {i : Int} (h : x.toInt? = some i) : x.truncate = i := by
  obtain ⟨finite, units⟩ := toInt?_eq_some_iff.1 h
  rw [truncate, isNaN_of_isFinite finite, units,
    Int.mul_tdiv_cancel _ (Int.natCast_ne_zero.2 one_pos.ne')]
  rfl

theorem less_iff_of_toInt? {i j : Int} (hx : x.toInt? = some i) (hy : y.toInt? = some j) :
    x.less y = true ↔ i < j := by
  obtain ⟨finite, units⟩ := toInt?_eq_some_iff.1 hx
  obtain ⟨finite', units'⟩ := toInt?_eq_some_iff.1 hy
  rw [less_iff (isNaN_of_isFinite finite) (isNaN_of_isFinite finite'), units, units']
  exact Int.mul_lt_mul_right (Int.natCast_pos.2 one_pos)

theorem atLeast_iff_of_toInt? {i j : Int} (hx : x.toInt? = some i) (hy : y.toInt? = some j) :
    x.atLeast y = true ↔ j ≤ i := by
  obtain ⟨finite, units⟩ := toInt?_eq_some_iff.1 hx
  obtain ⟨finite', units'⟩ := toInt?_eq_some_iff.1 hy
  rw [atLeast_iff (isNaN_of_isFinite finite) (isNaN_of_isFinite finite'), units, units']
  exact Int.mul_le_mul_right (Int.natCast_pos.2 one_pos)

end Binary64

namespace Number

variable {m n : Number} {i j : Int}

/-! ### Canonical forms -/

theorem ofInt?_of_integer? (h : n.integer? = some i) : ofInt? i = some n.canonical := by
  have p64 : (Nat.pow 2 64 : Int) = 2 ^ 64 := rfl
  have p63 : (Nat.pow 2 63 : Int) = 2 ^ 63 := rfl
  cases n with
  | float x => cases h
  | unsigned u =>
    obtain rfl : (u.toNat : Int) = i := Option.some.inj h
    have := u.toNat_lt
    rw [ofInt?, if_pos ⟨by omega, by omega⟩, canonical]
    simp
  | signed k =>
    obtain rfl : k.toInt = i := Option.some.inj h
    have low := k.le_toInt
    have high := k.toInt_lt
    rw [ofInt?, canonical]
    by_cases hk : 0 ≤ k.toInt
    · rw [if_pos ⟨hk, by omega⟩, if_pos (signed_le_iff.2 hk), ← toNat_toUInt64 hk,
        Int.toNat_natCast, UInt64.ofNat_toNat]
    · rw [if_neg fun h => hk h.1, if_pos ⟨by omega, by omega⟩, if_neg (mt signed_le_iff.1 hk),
        Int64.ofInt_toInt]

theorem integer?_of_ofInt? (h : ofInt? i = some n) : n.integer? = some i := by
  have p64 : (Nat.pow 2 64 : Int) = 2 ^ 64 := rfl
  have p63 : (Nat.pow 2 63 : Int) = 2 ^ 63 := rfl
  rw [ofInt?] at h
  split at h
  · cases h
    rename_i hi
    simp only [integer?, UInt64.toNat_ofNat']
    congr 1
    omega
  · split at h
    · cases h
      rw [integer?, Int64.toInt_ofInt_of_le (by omega) (by omega)]
    · cases h

/-- The limits of the two ranges are `0`, `2 ^ 64` and `-2 ^ 63`: the largest unsigned integer is
rounded up, and the least signed one is held exactly. -/
theorem canonical_float (x : Binary64) :
    (float x).canonical = (x.toInt?.bind ofInt?).getD (float x) := by
  have zero : (Binary64.zero false).toInt? = some 0 := by decide +kernel
  have top : (Binary64.ofNat (Nat.pow 2 64 - 1)).toInt? = some (Nat.pow 2 64 : Int) := by
    decide +kernel
  have bottom : (Binary64.ofInt (-(Nat.pow 2 63 : Int))).toInt? = some (-(Nat.pow 2 63 : Int)) := by
    decide +kernel
  have p64 : (Nat.pow 2 64 : Int) = 2 ^ 64 := rfl
  have p63 : (Nat.pow 2 63 : Int) = 2 ^ 63 := rfl
  cases h : x.toInt? with
  | none =>
    have fraction : x.isIntegral = false := by rw [Binary64.isIntegral_eq, h]; rfl
    rw [canonical, fraction]
    rfl
  | some i =>
    have integral : x.isIntegral = true := by rw [Binary64.isIntegral_eq, h]; rfl
    rw [canonical, if_pos integral, Option.bind_some, ofInt?]
    simp only [Bool.and_eq_true, Binary64.atLeast_iff_of_toInt? h zero,
      Binary64.less_iff_of_toInt? h top, Binary64.less_iff_of_toInt? h zero,
      Binary64.atLeast_iff_of_toInt? h bottom]
    split
    · next within =>
      have : Nat.pow 2 64 = 2 ^ 64 := rfl
      rw [Binary64.toUInt64, Binary64.truncate_of_toInt? h, Nat.min_eq_left (by omega)]
      rfl
    · split
      · next within =>
        rw [Binary64.toInt64, Binary64.truncate_of_toInt? h, min_eq_left (by omega),
          max_eq_right (by omega)]
        rfl
      · rfl

/-- An integer is the nearest floating point value itself. -/
def IsExact (n : Number) : Prop := ∀ i, n.integer? = some i → n.toBinary64.toInt? = some i

/-- No integer is rounded when the two are compared. -/
def ComparesExactly (m n : Number) : Prop :=
  (m.integer?.isSome ∧ n.integer?.isSome) ∨ (m.IsExact ∧ n.IsExact)

theorem canonical_of_isExact (h : n.IsExact) :
    n.canonical = (n.toBinary64.toInt?.bind ofInt?).getD (.float n.toBinary64) := by
  cases hi : n.integer? with
  | some i => rw [h i hi, Option.bind_some, ofInt?_of_integer? hi, Option.getD_some]
  | none =>
    cases n with
    | float x => exact canonical_float x
    | _ => cases hi

theorem agrees_iff_of_integer? (hm : m.integer? = some i) (hn : n.integer? = some j) :
    m.agrees n = true ↔ i = j := by
  rw [agrees, compare?_of_integer? hm hn, beq_iff_eq, Option.some.injEq, Int.compare_eq_eq]

theorem agrees_iff_of_rounding (h : ¬(m.integer?.isSome ∧ n.integer?.isSome)) :
    m.agrees n = true ↔ m.toBinary64.compare? n.toBinary64 = some .eq := by
  rw [agrees, beq_iff_eq, compare?_of_rounding]
  simpa only [not_and_or, Option.not_isSome_iff_eq_none] using h

theorem isExact_of_integer?_eq_none (h : n.integer? = none) : n.IsExact := by
  intro i hi
  rw [h] at hi
  cases hi

/-- An integer with the canonical form of the floating point number that it compares equal to is not
rounded. -/
theorem isExact_of_canonical_eq (same : m.canonical = n.canonical) (hn : n.integer? = none)
    (values : m.toBinary64 = n.toBinary64 ∨
      (m.toBinary64.toInt? = some 0 ∧ n.toBinary64.toInt? = some 0)) : m.IsExact := by
  intro i hm
  have canonical := ofInt?_of_integer? hm
  rw [same, canonical_of_isExact (isExact_of_integer?_eq_none hn)] at canonical
  have integer := integer?_of_ofInt? canonical
  cases found : n.toBinary64.toInt?.bind ofInt? with
  | none =>
    rw [found] at integer
    cases integer
  | some c =>
    obtain ⟨j, hj, hc⟩ := Option.bind_eq_some_iff.1 found
    rw [found, Option.getD_some, integer?_of_ofInt? hc, Option.some.injEq] at integer
    rcases values with eq | ⟨zero, zero'⟩
    · rw [eq, hj, integer]
    · rw [zero, ← integer, ← hj, zero']

/-- Numbers that compare equal have one canonical form exactly if none of them is rounded. -/
theorem canonical_eq_iff_of_agrees (h : m.agrees n = true) :
    m.canonical = n.canonical ↔ m.ComparesExactly n := by
  by_cases integers : m.integer?.isSome ∧ n.integer?.isSome
  · obtain ⟨i, hm⟩ := Option.isSome_iff_exists.1 integers.1
    obtain ⟨j, hn⟩ := Option.isSome_iff_exists.1 integers.2
    obtain rfl := (agrees_iff_of_integer? hm hn).1 h
    have same := (ofInt?_of_integer? hm).symm.trans (ofInt?_of_integer? hn)
    exact iff_of_true (Option.some.inj same) (.inl integers)
  · have values := Binary64.eq_or_toInt?_eq ((agrees_iff_of_rounding integers).1 h)
    constructor
    · intro same
      rcases not_and_or.1 integers with hm | hn
      · have hm : m.integer? = none := by simpa using hm
        exact .inr ⟨isExact_of_integer?_eq_none hm,
          isExact_of_canonical_eq same.symm hm (values.imp Eq.symm And.symm)⟩
      · have hn : n.integer? = none := by simpa using hn
        exact .inr ⟨isExact_of_canonical_eq same hn values, isExact_of_integer?_eq_none hn⟩
    · intro exact
      obtain ⟨hm, hn⟩ := exact.resolve_left integers
      rw [canonical_of_isExact hm, canonical_of_isExact hn]
      rcases values with same | ⟨zero, zero'⟩
      · rw [same]
      · rw [zero, zero']
        rfl

end Number
end JsonSchema
