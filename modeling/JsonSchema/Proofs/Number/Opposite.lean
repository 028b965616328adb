import JsonSchema.Proofs.Number.Spelling
/-!
# Numbers of opposite value

Between integers a divisor does not see the sign. The test with floating point numbers sees it only
where the remainder falls short of the divisor by less than the tolerance (`Binary64.FallsShort`),
as that of an integer by an integer never does (`Binary64.not_fallsShort_of_toInt?`). An integer is
told apart from the floating point number of opposite value by a divisor that rounding changes
(`Divisor.admits_opposite_iff`).
-/

namespace JsonSchema

variable {v w : Number} {q : Divisor} {i : Int} {r : ℝ}

namespace Number

theorem value?_neg (i : Int) : ((-(i : ℝ) : ℝ) : EReal) = (((-i : Int) : ℝ) : EReal) := by
  rw [Int.cast_neg]

/-- Numbers of opposite value are brought to floating point numbers of opposite units. -/
theorem units_toBinary64_neg (hv : v.value? = some (r : EReal))
    (hw : w.value? = some ((-r : ℝ) : EReal)) : w.toBinary64.units = -v.toBinary64.units := by
  cases integer : v.integer? with
  | some i =>
    rw [value?_of_integer? integer, Option.some.injEq, EReal.coe_eq_coe_iff] at hv
    rw [← hv, value?_neg] at hw
    rw [units_toBinary64_of_value? hw, toBinary64_of_integer? integer, Binary64.units_ofInt_neg]
  | none =>
    cases integer' : w.integer? with
    | some j =>
      rw [value?_of_integer? integer', Option.some.injEq, EReal.coe_eq_coe_iff] at hw
      rw [← neg_neg r, ← hw, value?_neg] at hv
      rw [units_toBinary64_of_value? hv, toBinary64_of_integer? integer', Binary64.units_ofInt_neg,
        Int.neg_neg]
    | none =>
      rw [← value?_toBinary64_of_integer?_eq_none integer, Binary64.value?_eq_coe_iff] at hv
      rw [← value?_toBinary64_of_integer?_eq_none integer', Binary64.value?_eq_coe_iff] at hw
      have opposite : ((w.toBinary64.units : Int) : ℝ) = ((-v.toBinary64.units : Int) : ℝ) := by
        rw [hw.2, Int.cast_neg, hv.2, neg_mul]
      exact Int.cast_injective opposite

theorem integer?_neg (hv : v.value? = some (r : EReal)) (hw : w.value? = some ((-r : ℝ) : EReal))
    (integer : v.integer? = some i) (same : v.SameKind w) : w.integer? = some (-i) := by
  rw [SameKind, integer] at same
  obtain ⟨j, hj⟩ := Option.isSome_iff_exists.1 same.symm
  rw [value?_of_integer? integer, Option.some.injEq, EReal.coe_eq_coe_iff] at hv
  rw [← hv, value?_neg] at hw
  rw [hj, eq_of_value? hj hw]

end Number

namespace Divisor

theorem ne_unsigned_zero (h : q.IsPositive) : q ≠ unsigned 0 := by
  rintro rfl
  exact h rfl

theorem units_toBinary64_pos (h : q.IsPositive) : 0 < q.toBinary64.units := by
  cases q with
  | float x => exact h
  | unsigned u =>
    have positive : 0 < u.toNat := Nat.pos_of_ne_zero fun zero => h (UInt64.toNat_inj.1 zero)
    have one : (0 : Int) < Binary64.one := Int.natCast_pos.2 Binary64.one_pos
    exact one.trans_le (Binary64.one_le_units_ofInt (Int.natCast_pos.2 positive))

theorem roundsApart_neg (hv : v.value? = some (r : EReal)) (hw : w.value? = some ((-r : ℝ) : EReal))
    (h : q.RoundsApart v) : q.RoundsApart w := by
  obtain ⟨u, i, k, hq, hi, hk, apart⟩ := h
  refine ⟨u, -i, k, hq, ?_, hk, by rwa [dvd_neg, dvd_neg]⟩
  rw [hv, Option.some.injEq, EReal.coe_eq_coe_iff] at hi
  rw [hw, hi, Number.value?_neg]

theorem admits_mixed_neg_iff (positive : q.IsPositive) (hv : v.value? = some (r : EReal))
    (hw : w.value? = some ((-r : ℝ) : EReal)) (near : ¬v.toBinary64.FallsShort q.toBinary64)
    (integer : v.integer? = some i) (float : w.integer? = none) :
    q.admits v = q.admits w ↔ ¬q.RoundsApart v := by
  have units := Number.units_toBinary64_neg hv hw
  -- `w` has the opposite value as a floating point number, so `v` is not rounded
  have kept : v.toBinary64.value? = v.value? := by
    rw [hv, ← neg_neg r]
    refine Binary64.value?_of_units_neg (by rw [units, Int.neg_neg]) ?_
    rw [Number.value?_toBinary64_of_integer?_eq_none float, hw]
  rw [admits_of_integer?_eq_none float,
    ← Binary64.isMultipleOf_of_units_neg (units_toBinary64_pos positive) units near]
  exact admits_eq_isMultipleOf_iff (ne_unsigned_zero positive) integer kept

theorem admits_neg_of_sameKind (positive : q.IsPositive) (hv : v.value? = some (r : EReal))
    (hw : w.value? = some ((-r : ℝ) : EReal)) (near : ¬v.toBinary64.FallsShort q.toBinary64)
    (same : v.SameKind w) : q.admits v = q.admits w := by
  have rounded := Binary64.isMultipleOf_of_units_neg (units_toBinary64_pos positive)
    (Number.units_toBinary64_neg hv hw) near
  cases integer : v.integer? with
  | none =>
    have integer' : w.integer? = none := by simpa [Number.SameKind, integer] using same
    rw [admits_of_integer?_eq_none integer, admits_of_integer?_eq_none integer', rounded]
  | some i =>
    have integer' := Number.integer?_neg hv hw integer same
    cases q with
    | unsigned u =>
      rw [Bool.eq_iff_iff, admits_unsigned_iff integer, admits_unsigned_iff integer', dvd_neg]
    | float x => rwa [admits_float, admits_float]

theorem admits_neg_iff (positive : q.IsPositive) (hv : v.value? = some (r : EReal))
    (hw : w.value? = some ((-r : ℝ) : EReal)) (near : ¬v.toBinary64.FallsShort q.toBinary64) :
    q.admits v = q.admits w ↔ v.SameKind w ∨ ¬q.RoundsApart v := by
  by_cases same : v.SameKind w
  · exact iff_of_true (admits_neg_of_sameKind positive hv hw near same) (.inl same)
  rw [or_iff_right same]
  obtain ⟨i, integer, float⟩ | ⟨i, integer, float⟩ := Number.mixed_of_not_sameKind same
  · exact admits_mixed_neg_iff positive hv hw near integer float
  · have hv' : v.value? = some ((-(-r) : ℝ) : EReal) := by rw [neg_neg, hv]
    have magnitude := Binary64.magnitude_eq_of_units_neg (Number.units_toBinary64_neg hv hw)
    have near' := mt (Binary64.fallsShort_congr (d := q.toBinary64) magnitude).1 near
    have swap : q.RoundsApart v ↔ q.RoundsApart w := ⟨roundsApart_neg hv hw, roundsApart_neg hw hv'⟩
    rw [swap, eq_comm]
    exact admits_mixed_neg_iff positive hw hv' near' integer float

/-- The divisor of a built graph does not see the sign of a number, unless the remainder falls short
of the divisor, or the two spellings differ and rounding changes what the divisor divides. -/
theorem admits_opposite_iff {d : Value} {g : Graph} {id : NodeId} (hd : d.IsDocument)
    (hg : Graph.build d = .ok g) (hq : (g.node id).number.multipleOf = some q)
    (hv : v.value? = some (r : EReal)) (hw : w.value? = some ((-r : ℝ) : EReal))
    (near : ¬v.toBinary64.FallsShort q.toBinary64) :
    q.admits v = q.admits w ↔ v.SameKind w ∨ ¬q.RoundsApart v :=
  admits_neg_iff (Graph.isPositive_multipleOf hd hg hq) hv hw near

/-- Multiples of `2.5`: `7` is no multiple, nor is `-7.0`. -/
theorem admits_opposite_iff_float :
    let q := float ⟨0x4004000000000000⟩
    let v := Number.unsigned 7
    let w := Number.float ⟨0xC01C000000000000⟩
    ∃ g, Graph.build (Graph.multiplesOf q.toNumber) = .ok g ∧
      (g.node Graph.root).number.multipleOf = some q ∧
      v.value? = some (((7 : Int) : ℝ) : EReal) ∧
      w.value? = some ((-((7 : Int) : ℝ) : ℝ) : EReal) ∧
      ¬v.toBinary64.FallsShort q.toBinary64 ∧ q.admits v = q.admits w := by
  intro q v w
  obtain ⟨g, hg, hq⟩ := Graph.exists_build_multiplesOf (q := q) (by decide +kernel)
  have hv : v.value? = some (((7 : Int) : ℝ) : EReal) := Number.value?_of_integer? rfl
  have hw : w.value? = some ((-((7 : Int) : ℝ) : ℝ) : EReal) := by
    rw [Number.value?_neg]
    exact Binary64.toInt?_eq_some_iff_value?.1 (by decide +kernel)
  have near : ¬v.toBinary64.FallsShort q.toBinary64 := by
    rw [Binary64.FallsShort]
    decide +kernel
  exact ⟨g, hg, hq, hv, hw, near, (admits_opposite_iff (Graph.multiplesOf_isDocument _) hg hq hv hw
    near).2 (.inr (not_roundsApart_float _))⟩

/-- The remainder of `0.3` falls short of `0.1`, and that of `-0.3` lies as near to `-0.1`, where it
is not looked for. The rounding of `2 ^ 53 + 1` divides `-2 ^ 53` as a floating point number. -/
theorem admits_opposite_counterexamples :
    (∃ g r, Graph.build (Graph.multiplesOf (.float ⟨0x3FB999999999999A⟩)) = .ok g ∧
      (g.node Graph.root).number.multipleOf = some (float ⟨0x3FB999999999999A⟩) ∧
      (Number.float ⟨0x3FD3333333333333⟩).value? = some ((r : ℝ) : EReal) ∧
      (Number.float ⟨0xBFD3333333333333⟩).value? = some ((-r : ℝ) : EReal) ∧
      (float ⟨0x3FB999999999999A⟩).admits (.float ⟨0x3FD3333333333333⟩) = true ∧
      (float ⟨0x3FB999999999999A⟩).admits (.float ⟨0xBFD3333333333333⟩) = false) ∧
    ∃ g, Graph.build (Graph.multiplesOf (.unsigned 9007199254740993)) = .ok g ∧
      (g.node Graph.root).number.multipleOf = some (unsigned 9007199254740993) ∧
      (Number.unsigned 9007199254740992).value? =
        some (((9007199254740992 : Int) : ℝ) : EReal) ∧
      (Number.float ⟨0xC340000000000000⟩).value? =
        some ((-((9007199254740992 : Int) : ℝ) : ℝ) : EReal) ∧
      (unsigned 9007199254740993).admits (.unsigned 9007199254740992) = false ∧
      (unsigned 9007199254740993).admits (.float ⟨0xC340000000000000⟩) = true := by
  constructor
  · obtain ⟨g, hg, hq⟩ :=
      Graph.exists_build_multiplesOf (q := float ⟨0x3FB999999999999A⟩) (by decide +kernel)
    have value := Binary64.value?_of_isFinite (x := ⟨0x3FD3333333333333⟩) (by decide +kernel)
    exact ⟨g, _, hg, hq, value, Binary64.value?_of_units_neg (by decide +kernel) value,
      by decide +kernel, by decide +kernel⟩
  · obtain ⟨g, hg, hq⟩ :=
      Graph.exists_build_multiplesOf (q := unsigned 9007199254740993) (by decide +kernel)
    refine ⟨g, hg, hq, Number.value?_of_integer? rfl, ?_, by decide +kernel, by decide +kernel⟩
    rw [Number.value?_neg]
    exact Binary64.toInt?_eq_some_iff_value?.1 (by decide +kernel)

end Divisor
end JsonSchema
