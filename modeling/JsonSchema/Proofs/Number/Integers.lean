import JsonSchema.Proofs.Number.Divisors
/-!
# Integers among the numbers

Over the whole range of 64 bits, comparison, bounds and divisors treat numbers in integer
representation as the integers they denote (`Number.integers_exact`).
-/

namespace JsonSchema

theorem Bound.admits_iff {b : Bound} {n : Number} {i j : Int} (hn : n.integer? = some i)
    (hb : b.limit.integer? = some j) :
    (b.admits .atMost n = true ↔ if b.exclusive then i < j else i ≤ j) ∧
      (b.admits .atLeast n = true ↔ if b.exclusive then j < i else j ≤ i) := by
  unfold admits
  rw [Number.compare?_of_integer? hn hb]
  rcases lt_trichotomy i j with lt | rfl | gt
  · rw [Int.compare_eq_lt.2 lt]
    split_ifs <;> simp <;> omega
  · rw [Int.compare_eq_eq.2 rfl]
    split_ifs with h <;> simp [h]
  · rw [Int.compare_eq_gt.2 gt]
    split_ifs <;> simp <;> omega

namespace Number

/-- Integers are compared, bounded and divided exactly. A divisor that is an integer is not zero, so
the division is defined. -/
theorem integers_exact {m n : Number} {i j : Int} (hm : m.integer? = some i)
    (hn : n.integer? = some j) :
    m.compare? n = some (compare i j) ∧
      (∀ exclusive,
        ((Bound.mk n exclusive).admits .atMost m = true ↔ if exclusive then i < j else i ≤ j) ∧
        ((Bound.mk n exclusive).admits .atLeast m = true ↔ if exclusive then j < i else j ≤ i)) ∧
      ∀ (d : Value) (g : Graph) (id : NodeId) (u : UInt64), d.IsDocument → Graph.build d = .ok g →
        (g.node id).number.multipleOf = some (.unsigned u) →
        u ≠ 0 ∧ ((Divisor.unsigned u).admits m = true ↔ (u.toNat : Int) ∣ i) := by
  refine ⟨compare?_of_integer? hm hn, fun exclusive => Bound.admits_iff hm hn, ?_⟩
  intro d g id u hd hg hu
  exact ⟨Graph.isPositive_multipleOf hd hg hu, Divisor.admits_unsigned_iff hm⟩

/-- The least signed integer against the largest unsigned one, and divided by `2 ^ 63`. -/
theorem integers_exact_extremes :
    let m := signed Int64.minValue
    let n := unsigned 18446744073709551615
    m.integer? = some (-9223372036854775808) ∧ n.integer? = some 18446744073709551615 ∧
      m.compare? n = some .lt ∧ (Bound.mk n true).admits .atMost m = true ∧
      ∃ g, Graph.build (Graph.multiplesOf (unsigned 9223372036854775808)) = .ok g ∧
        (g.node Graph.root).number.multipleOf = some (.unsigned 9223372036854775808) ∧
        (Divisor.unsigned 9223372036854775808).admits m = true := by
  intro m n
  have hm : m.integer? = some (-9223372036854775808) := by decide
  have hn : n.integer? = some 18446744073709551615 := by decide
  obtain ⟨order, bounds, divisors⟩ := integers_exact hm hn
  obtain ⟨g, hg, hu⟩ :=
    Graph.exists_build_multiplesOf (q := .unsigned 9223372036854775808) (by decide)
  exact ⟨hm, hn, order, (bounds true).1.2 (by decide), g, hg, hu,
    (divisors _ g _ _ (Graph.multiplesOf_isDocument _) hg hu).2.2 (by decide)⟩

end Number
end JsonSchema
