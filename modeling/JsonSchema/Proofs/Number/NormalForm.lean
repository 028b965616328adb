import JsonSchema.Proofs.Number.Canonical
import JsonSchema.Proofs.Number.Value
/-!
# Canonical forms as normal forms

The canonical form keeps the value of a number, is an integer exactly if the value is one of 64 bits
(`Number.integer?_canonical_iff`), and tells values apart: two numbers have the same canonical form
exactly if they have the same value (`Number.canonical_normalForm`).
-/

namespace JsonSchema.Number

variable {m n : Number} {i : Int} {r s : EReal}

/-! ### Integers -/

theorem ofInt?_isSome_iff : (∃ n, ofInt? i = some n) ↔ -2 ^ 63 ≤ i ∧ i < 2 ^ 64 := by
  have p64 : (Nat.pow 2 64 : Int) = 2 ^ 64 := rfl
  have p63 : (Nat.pow 2 63 : Int) = 2 ^ 63 := rfl
  rw [ofInt?]
  constructor
  · rintro ⟨n, h⟩
    split at h
    · omega
    · split at h
      · omega
      · cases h
  · rintro ⟨low, high⟩
    split
    · exact ⟨_, rfl⟩
    · rw [if_pos (by omega)]
      exact ⟨_, rfl⟩

/-- An integer representation stays within 64 bits. -/
theorem range_of_integer? (h : n.integer? = some i) : -2 ^ 63 ≤ i ∧ i < 2 ^ 64 :=
  ofInt?_isSome_iff.1 ⟨_, ofInt?_of_integer? h⟩

/-- A floating point number becomes the integer that it denotes, or stays as it is. -/
theorem canonical_float_cases (x : Binary64) :
    (∃ i, x.toInt? = some i ∧ ofInt? i = some (float x).canonical) ∨
      (float x).canonical = float x := by
  rw [canonical_float]
  cases found : x.toInt?.bind ofInt? with
  | none => exact .inr rfl
  | some c =>
    obtain ⟨i, hi, hc⟩ := Option.bind_eq_some_iff.1 found
    exact .inl ⟨i, hi, hc⟩

/-- A canonical form that is an integer is the one representation of that integer. -/
theorem ofInt?_of_canonical (h : n.canonical.integer? = some i) :
    ofInt? i = some n.canonical := by
  cases hn : n.integer? with
  | some j =>
    have canonical := ofInt?_of_integer? hn
    rw [integer?_of_ofInt? canonical, Option.some.injEq] at h
    rw [← h, canonical]
  | none =>
    cases n with
    | float x =>
      rcases canonical_float_cases x with ⟨j, -, hj⟩ | same
      · rw [integer?_of_ofInt? hj, Option.some.injEq] at h
        rw [← h, hj]
      · rw [same] at h
        cases h
    | _ => cases hn

/-- What does not become an integer is left as it is. -/
theorem exists_float_of_canonical (h : n.canonical.integer? = none) :
    ∃ x, n = float x ∧ n.canonical = float x := by
  cases hn : n.integer? with
  | some i =>
    rw [integer?_of_ofInt? (ofInt?_of_integer? hn)] at h
    cases h
  | none =>
    cases n with
    | float x =>
      rcases canonical_float_cases x with ⟨i, -, hi⟩ | same
      · rw [integer?_of_ofInt? hi] at h
        cases h
      · exact ⟨x, rfl, same⟩
    | _ => cases hn

/-! ### Values -/

theorem integer?_canonical_iff : n.canonical.integer? = some i ↔
    n.value? = some ((i : ℝ) : EReal) ∧ -2 ^ 63 ≤ i ∧ i < 2 ^ 64 := by
  cases hn : n.integer? with
  | some j =>
    rw [integer?_of_ofInt? (ofInt?_of_integer? hn), value?_of_integer? hn, Option.some.injEq,
      Option.some.injEq, EReal.coe_eq_coe_iff, Int.cast_inj]
    exact ⟨fun h => ⟨h, h ▸ range_of_integer? hn⟩, And.left⟩
  | none =>
    cases n with
    | float x =>
      rw [value?, ← Binary64.toInt?_eq_some_iff_value?, ← ofInt?_isSome_iff]
      constructor
      · intro h
        have canonical := ofInt?_of_canonical h
        rcases canonical_float_cases x with ⟨j, hj, hc⟩ | same
        · rw [integer?_of_ofInt? hc] at h
          exact ⟨hj.trans h, _, canonical⟩
        · rw [same] at h
          cases h
      · rintro ⟨hi, c, hc⟩
        rw [canonical_float, hi, Option.bind_some, hc, Option.getD_some, integer?_of_ofInt? hc]
    | _ => cases hn

theorem value?_canonical (n : Number) : n.canonical.value? = n.value? := by
  cases h : n.canonical.integer? with
  | some i => rw [value?_of_integer? h, (integer?_canonical_iff.1 h).1]
  | none =>
    obtain ⟨x, hx, same⟩ := exists_float_of_canonical h
    rw [same, hx]

theorem canonical_canonical (n : Number) : n.canonical.canonical = n.canonical := by
  cases h : n.canonical.integer? with
  | some i => exact Option.some.inj ((ofInt?_of_integer? h).symm.trans (ofInt?_of_canonical h))
  | none =>
    obtain ⟨x, rfl, same⟩ := exists_float_of_canonical h
    rw [same, same]

theorem canonical_eq_of_value? (hm : m.value? = some r) (hn : n.value? = some r) :
    m.canonical = n.canonical := by
  cases h : m.canonical.integer? with
  | some i =>
    obtain ⟨value, range⟩ := integer?_canonical_iff.1 h
    have h' : n.canonical.integer? = some i :=
      integer?_canonical_iff.2 ⟨hn.trans (hm.symm.trans value), range⟩
    exact Option.some.inj ((ofInt?_of_canonical h).symm.trans (ofInt?_of_canonical h'))
  | none =>
    have h' : n.canonical.integer? = none := by
      cases h' : n.canonical.integer? with
      | none => rfl
      | some i =>
        obtain ⟨value, range⟩ := integer?_canonical_iff.1 h'
        rw [integer?_canonical_iff.2 ⟨hm.trans (hn.symm.trans value), range⟩] at h
        cases h
    obtain ⟨x, rfl, same⟩ := exists_float_of_canonical h
    obtain ⟨y, rfl, same'⟩ := exists_float_of_canonical h'
    have units := Binary64.units_eq_of_value? hm hn
    -- the two zeros have the same units, but their canonical form is an integer
    have nonzero : x.units ≠ 0 := by
      intro zero
      have value : (float x).value? = some (((0 : Int) : ℝ) : EReal) :=
        Binary64.toInt?_eq_some_iff_value?.1 (Binary64.toInt?_of_units_eq_zero zero)
      rw [integer?_canonical_iff.2 ⟨value, by decide⟩] at h
      cases h
    rw [Binary64.units_inj units nonzero]

/-- The canonical form is an exact normal form of all that is a number: it is the same exactly for
the same value, has a canonical form of its own, keeps the value, and is an integer only where the
value is one that fits 64 bits. -/
theorem canonical_normalForm (hm : m.value? = some r) (hn : n.value? = some s) :
    (m.canonical = n.canonical ↔ r = s) ∧ m.canonical.canonical = m.canonical ∧
      m.canonical.value? = some r ∧
      ∀ i, m.canonical.integer? = some i ↔
        r = ((i : ℝ) : EReal) ∧ -2 ^ 63 ≤ i ∧ i < 2 ^ 64 := by
  refine ⟨⟨fun same => ?_, ?_⟩, canonical_canonical m, (value?_canonical m).trans hm, fun i => ?_⟩
  · refine Option.some.inj ?_
    rw [← hm, ← hn, ← value?_canonical m, same, value?_canonical n]
  · rintro rfl
    exact canonical_eq_of_value? hm hn
  · rw [integer?_canonical_iff, hm, Option.some.injEq]

/-- A negative zero, and an infinity. -/
theorem canonical_normalForm_zero : (float (.zero true)).value? = some 0 ∧
    (float (.ofParts false Binary64.infinityBody)).value? = some ⊤ ∧
    (float (.zero true)).canonical ≠ (float (.ofParts false Binary64.infinityBody)).canonical ∧
    (float (.zero true)).canonical.integer? = some 0 := by
  have zero : (float (.zero true)).value? = some 0 := by
    have value := Binary64.toInt?_eq_some_iff_value?.1
      (show (Binary64.zero true).toInt? = some 0 by decide +kernel)
    rwa [Int.cast_zero, EReal.coe_zero] at value
  have infinity : (float (.ofParts false Binary64.infinityBody)).value? = some ⊤ := by
    rw [value?, Binary64.value?, if_neg (by decide +kernel), if_neg (by decide +kernel),
      if_neg (by decide +kernel)]
  obtain ⟨apart, -, -, integer⟩ := canonical_normalForm zero infinity
  exact ⟨zero, infinity, fun h => EReal.zero_ne_top (apart.1 h), (integer 0).2 (by simp)⟩

end JsonSchema.Number
