import JsonSchema.Proofs.Binary64.Remainder
import JsonSchema.Proofs.Number.Divisors
import JsonSchema.Proofs.Number.Value
/-!
# The spelling of numbers

A value can be written as an integer or as a floating point number. Integers are compared exactly
with integers, and rounded where they meet a floating point number. So the two spellings are told
apart exactly by a number that is rounded to their value without having it, and by a divisor whose
rounding divides them where it does not itself, or the other way round (`Number.spelling_iff`).
-/

namespace JsonSchema

namespace Number

variable {m n b : Number} {i : Int} {e : EReal}

/-- Both are in integer representation, or neither is. -/
def SameKind (m n : Number) : Prop := m.integer?.isSome = n.integer?.isSome

instance : Decidable (m.SameKind n) := inferInstanceAs (Decidable (_ = _))

/-- The nearest floating point value of `b` is the value of `n`, and `b` itself has another one. -/
def RoundsTo (b n : Number) : Prop := b.value? ≠ n.value? ∧ b.toBinary64.value? = n.value?

theorem exists_integer?_of_roundsTo (h : b.RoundsTo n) : ∃ j, b.integer? = some j := by
  cases hb : b.integer? with
  | some j => exact ⟨j, rfl⟩
  | none => exact absurd ((value?_toBinary64_of_integer?_eq_none hb).symm.trans h.2) h.1

theorem SameKind.integer?_eq (same : m.SameKind n) (hm : m.value? = some e)
    (hn : n.value? = some e) : m.integer? = n.integer? := by
  rw [SameKind] at same
  cases hi : m.integer? with
  | none =>
    rw [hi, Option.isSome_none, eq_comm, Option.isSome_eq_false_iff, Option.isNone_iff_eq_none] at same
    exact same.symm
  | some i =>
    rw [hi] at same
    obtain ⟨j, hj⟩ := Option.isSome_iff_exists.1 same.symm
    rw [hj, eq_of_value? hj (hn.trans (hm.symm.trans (value?_of_integer? hi)))]

theorem mixed_of_not_sameKind (h : ¬m.SameKind n) :
    (∃ i, m.integer? = some i ∧ n.integer? = none) ∨
      ∃ i, n.integer? = some i ∧ m.integer? = none := by
  rw [SameKind] at h
  cases hm : m.integer? <;> cases hn : n.integer? <;> simp [hm, hn] at h ⊢

/-- What a floating point number denotes too is not rounded. -/
theorem value?_toBinary64_of_float (hm : m.value? = some e) (hn : n.value? = some e)
    (float : n.integer? = none) : m.toBinary64.value? = m.value? := by
  rw [Binary64.value?_eq_of_units (units_toBinary64_eq hm hn),
    value?_toBinary64_of_integer?_eq_none float, hn, hm]

/-! ### Comparison -/

/-- Rounding keeps the order to a number, unless another one is rounded to it. -/
theorem compare?_eq_compare?_toBinary64 (kept : n.toBinary64.value? = n.value?)
    (safe : ¬b.RoundsTo n) : n.compare? b = n.toBinary64.compare? b.toBinary64 := by
  cases hi : n.integer? with
  | none => exact compare?_of_rounding (.inl hi)
  | some i =>
    cases hj : b.integer? with
    | none => exact compare?_of_rounding (.inr hj)
    | some j =>
      -- integers are rounded in order, so only two of one rounding can change their order
      have apart : i ≠ j → (Binary64.ofInt i).units ≠ (Binary64.ofInt j).units := by
        intro differ units
        refine safe ⟨?_, ?_⟩
        · rw [value?_of_integer? hi, value?_of_integer? hj]
          simpa using differ.symm
        · rw [toBinary64_of_integer? hj, ← kept, toBinary64_of_integer? hi]
          exact Binary64.value?_eq_of_units units.symm
      rw [compare?_of_integer? hi hj, toBinary64_of_integer? hi, toBinary64_of_integer? hj,
        Binary64.compare?_of_not_isNaN (Binary64.isNaN_ofInt i) (Binary64.isNaN_ofInt j)]
      rcases lt_trichotomy i j with below | rfl | above
      · have order := (Binary64.units_ofInt_mono below.le).lt_of_ne (apart below.ne)
        rw [Int.compare_eq_lt.2 below, Int.compare_eq_lt.2 order]
      · rw [Int.compare_eq_eq.2 rfl, Int.compare_eq_eq.2 rfl]
      · have order := (Binary64.units_ofInt_mono above.le).lt_of_ne (apart above.ne').symm
        rw [Int.compare_eq_gt.2 above, Int.compare_eq_gt.2 order]

theorem compare?_float_eq (hm : m.value? = some e) (hn : n.value? = some e)
    (float : n.integer? = none) : n.compare? b = m.toBinary64.compare? b.toBinary64 := by
  rw [compare?_of_rounding (.inl float)]
  exact Binary64.compare?_congr (isNaN_toBinary64 hn) (isNaN_toBinary64 hm)
    (units_toBinary64_eq hn hm)

theorem compare?_eq_of_sameKind (hm : m.value? = some e) (hn : n.value? = some e)
    (same : m.SameKind n) : m.compare? b = n.compare? b := by
  have rounded := Binary64.compare?_congr (z := b.toBinary64) (isNaN_toBinary64 hm)
    (isNaN_toBinary64 hn) (units_toBinary64_eq hm hn)
  have integers := same.integer?_eq hm hn
  cases hi : m.integer? with
  | none =>
    rw [compare?_of_rounding (.inl hi), compare?_of_rounding (.inl (integers.symm.trans hi)), rounded]
  | some i =>
    cases hj : b.integer? with
    | none => rw [compare?_of_rounding (.inr hj), compare?_of_rounding (.inr hj), rounded]
    | some j => rw [compare?_of_integer? hi hj, compare?_of_integer? (integers.symm.trans hi) hj]

/-- Of an integer and a floating point number of one value, the latter is equal to all that is
rounded to it. -/
theorem compare?_of_roundsTo (hm : m.value? = some e) (hn : n.value? = some e)
    (integer : m.integer? = some i) (float : n.integer? = none) (h : b.RoundsTo m) :
    n.compare? b = some .eq ∧ ∃ o, o ≠ .eq ∧ m.compare? b = some o := by
  obtain ⟨j, hj⟩ := exists_integer?_of_roundsTo h
  constructor
  · have kept := (value?_toBinary64_of_integer?_eq_none float).trans hn
    have rounded := h.2.trans hm
    rw [compare?_of_rounding (.inl float), Binary64.compare?_of_not_isNaN
      (Binary64.isNaN_of_value? kept) (Binary64.isNaN_of_value? rounded),
      Binary64.units_eq_of_value? kept rounded, Int.compare_eq_eq.2 rfl]
  · refine ⟨compare i j, fun equal => h.1 ?_, compare?_of_integer? integer hj⟩
    rw [value?_of_integer? integer, value?_of_integer? hj, Int.compare_eq_eq.1 equal]

/-- Two spellings are in the same order to all other numbers, or one of them is equal to a number
that the other one is not equal to. -/
theorem compare?_spelling (hm : m.value? = some e) (hn : n.value? = some e) :
    (m.SameKind n ∨ ¬b.RoundsTo m) ∧ m.compare? b = n.compare? b ∨
      ¬(m.SameKind n ∨ ¬b.RoundsTo m) ∧ ∃ o, o ≠ .eq ∧
        (m.compare? b = some .eq ∧ n.compare? b = some o ∨
          n.compare? b = some .eq ∧ m.compare? b = some o) := by
  by_cases same : m.SameKind n
  · exact .inl ⟨.inl same, compare?_eq_of_sameKind hm hn same⟩
  have swap : b.RoundsTo m ↔ b.RoundsTo n := by rw [RoundsTo, RoundsTo, hm, hn]
  by_cases rounds : b.RoundsTo m
  · refine .inr ⟨not_or.2 ⟨same, not_not_intro rounds⟩, ?_⟩
    obtain ⟨i, integer, float⟩ | ⟨i, integer, float⟩ := mixed_of_not_sameKind same
    · obtain ⟨equal, o, ho, other⟩ := compare?_of_roundsTo hm hn integer float rounds
      exact ⟨o, ho, .inr ⟨equal, other⟩⟩
    · obtain ⟨equal, o, ho, other⟩ := compare?_of_roundsTo hn hm integer float (swap.1 rounds)
      exact ⟨o, ho, .inl ⟨equal, other⟩⟩
  · refine .inl ⟨.inr rounds, ?_⟩
    obtain ⟨i, -, float⟩ | ⟨i, -, float⟩ := mixed_of_not_sameKind same
    · rw [compare?_float_eq hm hn float,
        compare?_eq_compare?_toBinary64 (value?_toBinary64_of_float hm hn float) rounds]
    · rw [compare?_float_eq hn hm float,
        compare?_eq_compare?_toBinary64 (value?_toBinary64_of_float hn hm float) (mt swap.2 rounds)]

theorem agrees_eq_iff (hm : m.value? = some e) (hn : n.value? = some e) :
    m.agrees b = n.agrees b ↔ m.SameKind n ∨ ¬b.RoundsTo m := by
  obtain ⟨alike, same⟩ | ⟨apart, o, ho, ⟨h, h'⟩ | ⟨h, h'⟩⟩ := compare?_spelling (b := b) hm hn
  · exact iff_of_true (by rw [agrees, agrees, same]) alike
  all_goals
    refine iff_of_false (fun same => ?_) apart
    rw [agrees, agrees, h, h'] at same
    cases o <;> simp at same ho

end Number

variable {m n : Number} {e : EReal}

/-- One of the two sides of a bound tells its limit from what is not equal to it. -/
theorem Bound.admits_eq_iff {b : Bound} (hm : m.value? = some e) (hn : n.value? = some e) :
    (∀ side, b.admits side m = b.admits side n) ↔ m.SameKind n ∨ ¬b.limit.RoundsTo m := by
  obtain ⟨alike, same⟩ | ⟨apart, o, ho, ⟨h, h'⟩ | ⟨h, h'⟩⟩ :=
    Number.compare?_spelling (b := b.limit) hm hn
  · refine iff_of_true (fun side => ?_) alike
    unfold admits
    rw [same]
  all_goals
    refine iff_of_false (fun same => ?_) apart
    have most := same .atMost
    have least := same .atLeast
    unfold admits at most least
    rw [h, h'] at most least
    cases o with
    | eq => exact ho rfl
    | lt => cases exclusive : b.exclusive <;> simp [exclusive] at most least
    | gt => cases exclusive : b.exclusive <;> simp [exclusive] at most least

namespace Divisor

variable {d : Divisor} {i : Int}

/-- The nearest floating point value. -/
def toBinary64 : Divisor → Binary64
  | unsigned d => .ofNat d.toNat
  | float x => x

/-- An integer that divides the value of a number which its rounding does not divide, or the other
way round. -/
def RoundsApart (d : Divisor) (n : Number) : Prop :=
  ∃ (u : UInt64) (i k : Int), d = unsigned u ∧ n.value? = some ((i : ℝ) : EReal) ∧
    (Binary64.ofNat u.toNat).value? = some ((k : ℝ) : EReal) ∧ ¬((u.toNat : Int) ∣ i ↔ k ∣ i)

theorem not_roundsApart_float (x : Binary64) : ¬(float x).RoundsApart n := by
  rintro ⟨u, i, k, h, -⟩
  cases h

theorem admits_float (x : Binary64) (n : Number) :
    (float x).admits n = n.toBinary64.isMultipleOf x := by
  cases n <;> rfl

theorem admits_of_integer?_eq_none (h : n.integer? = none) :
    d.admits n = n.toBinary64.isMultipleOf d.toBinary64 := by
  cases n with
  | float x => cases d <;> rfl
  | _ => cases h

/-- A divisor of 64 bits is rounded to a positive integer. -/
theorem exists_toInt?_toBinary64 {u : UInt64} (h : u ≠ 0) :
    ∃ k : Int, (Binary64.ofNat u.toNat).toInt? = some k ∧ 0 < k := by
  have bound : u.toNat < 2 ^ 64 := u.toNat_lt
  have positive : 0 < u.toNat := Nat.pos_of_ne_zero fun zero => h (UInt64.toNat_inj.1 zero)
  obtain ⟨k, hk⟩ := Binary64.exists_toInt?_ofInt (i := u.toNat) (by omega)
  refine ⟨k, hk, ?_⟩
  have above := Binary64.one_le_units_ofInt (i := u.toNat) (by omega)
  rw [(Binary64.toInt?_eq_some_iff.1 hk).2] at above
  have one : 0 < (Binary64.one : Int) := Int.natCast_pos.2 Binary64.one_pos
  exact (mul_pos_iff_of_pos_right one).1 (one.trans_le above)

/-- An integer that is not rounded itself. -/
theorem admits_eq_isMultipleOf_iff (hd : d ≠ unsigned 0) (hn : n.integer? = some i)
    (kept : n.toBinary64.value? = n.value?) :
    d.admits n = n.toBinary64.isMultipleOf d.toBinary64 ↔ ¬d.RoundsApart n := by
  cases d with
  | float x => exact iff_of_true (admits_float x n) (not_roundsApart_float x)
  | unsigned u =>
    obtain ⟨k, hk, positive⟩ := exists_toInt?_toBinary64 fun h => hd (h ▸ rfl)
    have hx : n.toBinary64.toInt? = some i := by
      rw [Binary64.toInt?_eq_some_iff_value?, kept, Number.value?_of_integer? hn]
    rw [Bool.eq_iff_iff, admits_unsigned_iff hn, toBinary64,
      Binary64.isMultipleOf_iff_dvd hx hk positive, iff_not_comm, iff_comm]
    constructor
    · intro apart
      exact ⟨u, i, k, rfl, Number.value?_of_integer? hn,
        Binary64.toInt?_eq_some_iff_value?.1 hk, apart⟩
    · rintro ⟨u', i', k', hu, hi, hk', apart⟩
      cases hu
      rw [← Binary64.toInt?_eq_some_iff_value?, hk, Option.some.injEq] at hk'
      rwa [Number.eq_of_value? hn hi, hk']

theorem admits_eq_of_sameKind (hm : m.value? = some e) (hn : n.value? = some e)
    (same : m.SameKind n) : d.admits m = d.admits n := by
  have rounded := Binary64.isMultipleOf_congr (d := d.toBinary64) (Number.units_toBinary64_eq hm hn)
  have integers := same.integer?_eq hm hn
  cases hi : m.integer? with
  | none =>
    rw [admits_of_integer?_eq_none hi, admits_of_integer?_eq_none (integers.symm.trans hi), rounded]
  | some i =>
    cases d with
    | unsigned u =>
      rw [Bool.eq_iff_iff, admits_unsigned_iff hi, admits_unsigned_iff (integers.symm.trans hi)]
    | float x => rwa [admits_float, admits_float]

theorem admits_mixed_iff (hd : d ≠ unsigned 0) (hm : m.value? = some e) (hn : n.value? = some e)
    (integer : m.integer? = some i) (float : n.integer? = none) :
    d.admits m = d.admits n ↔ ¬d.RoundsApart m := by
  rw [admits_of_integer?_eq_none float,
    ← Binary64.isMultipleOf_congr (Number.units_toBinary64_eq hm hn)]
  exact admits_eq_isMultipleOf_iff hd integer (Number.value?_toBinary64_of_float hm hn float)

theorem admits_eq_iff (hd : d ≠ unsigned 0) (hm : m.value? = some e) (hn : n.value? = some e) :
    d.admits m = d.admits n ↔ m.SameKind n ∨ ¬d.RoundsApart m := by
  by_cases same : m.SameKind n
  · exact iff_of_true (admits_eq_of_sameKind hm hn same) (.inl same)
  rw [or_iff_right same]
  obtain ⟨i, integer, float⟩ | ⟨i, integer, float⟩ := Number.mixed_of_not_sameKind same
  · exact admits_mixed_iff hd hm hn integer float
  · have swap : d.RoundsApart m ↔ d.RoundsApart n := by rw [RoundsApart, RoundsApart, hm, hn]
    rw [swap, eq_comm]
    exact admits_mixed_iff hd hn hm integer float

end Divisor

namespace Number

/-- Two spellings of one real number agree with the same numbers, are admitted by the same bounds
and by the same divisors, unless one is an integer and the other is not, and what they meet is
rounded to their value, or is a divisor that rounding makes to divide it or not to divide it. -/
theorem spelling_iff {a a' : Number} {r : ℝ} (h : a.value? = some (r : EReal))
    (h' : a'.value? = some (r : EReal)) :
    (∀ b : Number, a.agrees b = a'.agrees b ↔ a.SameKind a' ∨ ¬b.RoundsTo a) ∧
      (∀ b : Bound, (∀ side, b.admits side a = b.admits side a') ↔
        a.SameKind a' ∨ ¬b.limit.RoundsTo a) ∧
      ∀ d : Divisor, d ≠ .unsigned 0 →
        (d.admits a = d.admits a' ↔ a.SameKind a' ∨ ¬d.RoundsApart a) :=
  ⟨fun _ => agrees_eq_iff h h', fun _ => Bound.admits_eq_iff h h',
    fun _ hd => Divisor.admits_eq_iff hd h h'⟩

/-- The integer `10 ^ 18` and the same in scientific notation: both have the limit `10 ^ 18 - 1000`
below them, which has another rounding. -/
theorem spelling_iff_scientific :
    let a := unsigned 1000000000000000000
    let a' := float ⟨0x43ABC16D674EC800⟩
    a.value? = some (((1000000000000000000 : Int) : ℝ) : EReal) ∧
      a'.value? = some (((1000000000000000000 : Int) : ℝ) : EReal) ∧ ¬a.SameKind a' ∧
      ∀ exclusive side, (Bound.mk (unsigned 999999999999999000) exclusive).admits side a =
        (Bound.mk (unsigned 999999999999999000) exclusive).admits side a' := by
  intro a a'
  have h : a.value? = some (((1000000000000000000 : Int) : ℝ) : EReal) := value?_of_integer? rfl
  have h' : a'.value? = some (((1000000000000000000 : Int) : ℝ) : EReal) :=
    Binary64.toInt?_eq_some_iff_value?.1 (by decide +kernel)
  have apart : (unsigned 999999999999999000).toBinary64.toInt? ≠ some 1000000000000000000 := by
    decide +kernel
  obtain ⟨-, bounds, -⟩ := spelling_iff h h'
  refine ⟨h, h', by decide, fun exclusive => (bounds ⟨_, exclusive⟩).2 (.inr fun rounds => ?_)⟩
  exact apart (Binary64.toInt?_eq_some_iff_value?.2 (rounds.2.trans h))

/-- The integer `2 ^ 53` and the same as a floating point number, against `2 ^ 53 + 1`. -/
theorem spelling_rounded :
    let a := unsigned 9007199254740992
    let a' := float ⟨0x4340000000000000⟩
    let b := unsigned 9007199254740993
    a.value? = some (((9007199254740992 : Int) : ℝ) : EReal) ∧
      a'.value? = some (((9007199254740992 : Int) : ℝ) : EReal) ∧
      a.agrees b = false ∧ a'.agrees b = true ∧
      (Bound.mk b true).admits .atMost a = true ∧ (Bound.mk b true).admits .atMost a' = false ∧
      (Divisor.unsigned 9007199254740993).admits a = false ∧
      (Divisor.unsigned 9007199254740993).admits a' = true :=
  ⟨value?_of_integer? rfl, Binary64.toInt?_eq_some_iff_value?.1 (by decide +kernel),
    by decide +kernel, by decide +kernel, by decide +kernel, by decide +kernel, by decide +kernel,
    by decide +kernel⟩

end Number
end JsonSchema
