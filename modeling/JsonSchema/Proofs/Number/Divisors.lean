import Mathlib
import JsonSchema.Proofs.Validation
import JsonSchema.Proofs.Number.Comparison
/-!
# Divisors

The divisors that a built graph holds are positive (`Graph.isPositive_multipleOf`), and each positive
divisor is held by the graph of some schema. Between integers a divisor admits its multiples.
-/

namespace JsonSchema

/-- What the grammar of schemas demands of a divisor. -/
def Divisor.IsPositive : Divisor → Prop
  | unsigned d => d ≠ 0
  | float x => 0 < x.units

instance : ∀ q : Divisor, Decidable q.IsPositive
  | .unsigned d => inferInstanceAs (Decidable (d ≠ 0))
  | .float x => inferInstanceAs (Decidable (0 < x.units))

/-- The number that a schema has for the divisor. -/
def Divisor.toNumber : Divisor → Number
  | unsigned d => .unsigned d
  | float x => .float x

theorem Divisor.admits_unsigned_iff {d : UInt64} {n : Number} {i : Int} (hn : n.integer? = some i) :
    (Divisor.unsigned d).admits n = true ↔ (d.toNat : Int) ∣ i := by
  cases n with
  | signed k =>
    cases hn
    rw [admits, beq_iff_eq, ← UInt64.toNat_inj, UInt64.toNat_mod, toNat_abs, Int.natCast_dvd,
      Nat.dvd_iff_mod_eq_zero]
    rfl
  | unsigned u =>
    cases hn
    rw [admits, beq_iff_eq, ← UInt64.toNat_inj, UInt64.toNat_mod, Int.natCast_dvd_natCast,
      Nat.dvd_iff_mod_eq_zero]
    rfl
  | float x => cases hn

theorem Keywords.isPositive_multipleOf {ks : Keywords} {q : Divisor}
    (h : ks.multipleOf = .ok (some q)) : q.IsPositive := by
  obtain ⟨o, -, h⟩ := bind_eq_ok.1 h
  split at h
  · cases h
  · split at h
    · cases h
    · next nonzero =>
      cases h
      exact nonzero
  · split at h
    · next positive =>
      cases h
      exact positive
    · cases h
  · cases h

theorem Keywords.multipleOf_toNumber {q : Divisor} (h : q.IsPositive) :
    (Keywords.mk .root [("multipleOf", .number q.toNumber)]).multipleOf = .ok (some q) := by
  cases q with
  | unsigned u =>
    have present : (Keywords.mk .root [("multipleOf", .number (.unsigned u))]).multipleOf =
      if u = 0 then Keywords.fail _ "multipleOf" .notPositive else pure (some (.unsigned u)) := rfl
    exact present.trans (if_neg h)
  | float x =>
    have present : (Keywords.mk .root [("multipleOf", .number (.float x))]).multipleOf =
      if 0 < x.units then pure (some (.float x))
      else Keywords.fail _ "multipleOf" .notPositive := rfl
    exact present.trans (if_pos h)

namespace Graph

variable {d : Value} {g : Graph} {q : Divisor}

/-- A divisor that a built graph holds is positive. -/
theorem isPositive_multipleOf (hd : d.IsDocument) (hg : build d = .ok g) {id : NodeId}
    (hq : (g.node id).number.multipleOf = some q) : q.IsPositive := by
  obtain ⟨nodes, h⟩ := built_of_build hd hg
  by_cases hi : id < nodes.length
  · obtain ⟨p, n, -, ⟨v, m, -, hm, rfl⟩, -, hn⟩ := h.exists_position hi
    obtain ⟨ms, -, reads⟩ := Node.compile_eq_ok.1 hm
    have rules := reads.number
    simp only [Keywords.numberRules, bind_eq_ok, pure_eq_ok] at rules
    obtain ⟨o, ho, maximum, -, minimum, -, rules⟩ := rules
    have held : o = some q := by
      rw [← hq, hn]
      exact congrArg NumberRules.multipleOf rules
    exact Keywords.isPositive_multipleOf (held ▸ ho)
  · have hn : g.nodes[id]? = none := by
      rw [Array.getElem?_eq_none_iff, ← size, h.size_eq]
      exact Nat.le_of_not_lt hi
    rw [node, hn] at hq
    cases hq

/-! ### One divisor as a schema -/

/-- The document whose only keyword is `multipleOf`. -/
def multiplesOf (n : Number) : Value := .object [("multipleOf", .number n)]

theorem multiplesOf_isDocument (n : Number) : (multiplesOf n).IsDocument :=
  Value.isDocument_iff.2 ⟨(multiplesOf n).events, rfl⟩

theorem compile_multiplesOf (h : q.IsPositive) : Node.compile .root (multiplesOf q.toNumber) =
    .ok { Node.unconstrained .root with number := ⟨some q, none, none⟩ } := by
  refine Node.compile_eq_ok.2 ⟨_, rfl, rfl, ⟨none, by cbv⟩, ⟨none, by cbv⟩, by cbv, by cbv, by cbv,
    ?_, by cbv, by cbv, by cbv, [], by cbv, rfl⟩
  rw [Keywords.numberRules, Keywords.multipleOf_toNumber h]
  cbv

/-- A built graph holds each positive divisor. -/
theorem exists_build_multiplesOf (h : q.IsPositive) :
    ∃ g, build (multiplesOf q.toNumber) = .ok g ∧ (g.node root).number.multipleOf = some q := by
  have resolved : Aliases.resolve (multiplesOf q.toNumber) = .ok [] := by cbv
  have document := multiplesOf_isDocument q.toNumber
  have node : Compiles (multiplesOf q.toNumber) [] .root
      { Node.unconstrained .root with number := ⟨some q, none, none⟩ } :=
    ⟨_, _, rfl, compile_multiplesOf h, rfl⟩
  obtain ⟨g, f, hg, hn⟩ := exists_build_leaf document resolved node rfl
  exact ⟨g, hg, by rw [hn]; rfl⟩

end Graph
end JsonSchema
