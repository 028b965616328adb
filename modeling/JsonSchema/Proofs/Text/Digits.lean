import Mathlib.Algebra.Group.Nat.Defs
import Mathlib.Data.List.Basic
import Mathlib.Data.List.Induction
import JsonSchema.Text.Pieces
/-!
# Decimal digits

The digits of a number and the number of digits belong together, without zeros in front
(`toDigits_decimal`) or in a fixed width (`padded_decimal`).
-/

namespace JsonSchema.Text

theorem decimal_eq_ofDigitChars (cs : List Char) : decimal cs = Nat.ofDigitChars 10 cs 0 :=
  Nat.ofDigitChars_eq_foldl.symm

theorem decimal_toDigits (i : Nat) : decimal (Nat.toDigits 10 i) = i := by
  rw [decimal_eq_ofDigitChars, Nat.ofDigitChars_ten_toDigits]

theorem decimal_append_singleton (cs : List Char) (c : Char) :
    decimal (cs ++ [c]) = 10 * decimal cs + (c.toNat - '0'.toNat) := by
  simp [decimal]

/-- A digit is that of its value. -/
theorem digitChar_of_isDigit {c : Char} (h : c.isDigit = true) :
    c.toNat - '0'.toNat < 10 ∧ (c.toNat - '0'.toNat).digitChar = c := by
  obtain ⟨h1, h2⟩ := Char.isDigit_iff_toNat.1 h
  have lt : c.toNat - '0'.toNat < 10 := by
    have : '9'.toNat = '0'.toNat + 9 := rfl
    omega
  refine ⟨lt, Char.toNat_inj.1 ?_⟩
  rw [Nat.toNat_digitChar_of_lt_ten lt]
  have : '0'.toNat = 48 := rfl
  omega

/-! ### Without zeros in front -/

theorem head_toDigits {i : Nat} (h : 0 < i) : (Nat.toDigits 10 i).head? ≠ some '0' := by
  induction i using Nat.base_induction 10 (by decide) with
  | single m hm =>
    rw [Nat.toDigits_of_lt_base hm]
    simp only [List.head?_cons, ne_eq, Option.some.injEq, Nat.digitChar_eq_zero]
    omega
  | digit m k hk hm ih =>
    rw [← Nat.toDigits_append_toDigits (by decide) hm hk,
      List.head?_append_of_ne_nil _ Nat.toDigits_ne_nil]
    exact ih hm

/-- Digits without a leading zero are those of their value. -/
theorem toDigits_decimal (cs : List Char) (hne : cs ≠ []) (hd : ∀ c ∈ cs, c.isDigit = true)
    (h0 : cs = ['0'] ∨ cs.head? ≠ some '0') : Nat.toDigits 10 (decimal cs) = cs := by
  induction cs using List.reverseRecOn with
  | nil => exact absurd rfl hne
  | append_singleton cs c ih =>
    obtain ⟨hlt, hc⟩ := digitChar_of_isDigit (hd c (by simp))
    have value := decimal_append_singleton cs c
    by_cases hcs : cs = []
    · subst hcs
      rw [value, show decimal [] = 0 from rfl, Nat.mul_zero, Nat.zero_add,
        Nat.toDigits_of_lt_base hlt, hc, List.nil_append]
    · have hh : cs.head? ≠ some '0' := by
        rcases h0 with h0 | h0
        · exact absurd (congrArg List.length h0) (by simpa using hcs)
        · rwa [List.head?_append_of_ne_nil _ hcs] at h0
      have front := ih hcs (fun c hc => hd c (by simp [hc])) (.inr hh)
      have hpos : 0 < decimal cs := by
        refine Nat.pos_of_ne_zero fun hz => ?_
        rw [hz, Nat.toDigits_zero] at front
        exact hh (by rw [← front]; rfl)
      rw [value, ← Nat.toDigits_append_toDigits (by decide) hpos hlt, front,
        Nat.toDigits_of_lt_base hlt, hc]

/-! ### In a fixed width -/

/-- The last digits of a number, as many as the width is. -/
def padded : (width : Nat) → Nat → List Char
  | 0, _ => []
  | w + 1, n => padded w (n / 10) ++ [(n % 10).digitChar]

@[simp] theorem length_padded (w n : Nat) : (padded w n).length = w := by
  induction w generalizing n with
  | zero => rfl
  | succ w ih => rw [padded, List.length_append, ih, List.length_singleton]

theorem isDigit_of_mem_padded {w n : Nat} : ∀ c ∈ padded w n, c.isDigit = true := by
  induction w generalizing n with
  | zero => exact List.forall_mem_nil _
  | succ w ih =>
    rw [padded, List.forall_mem_append, List.forall_mem_singleton]
    exact ⟨ih, by rw [Nat.isDigit_digitChar]; exact decide_eq_true (Nat.mod_lt n (by decide))⟩

/-- A number is that of its digits, if they fit in the width. -/
theorem decimal_padded {w n : Nat} (h : n < 10 ^ w) : decimal (padded w n) = n := by
  induction w generalizing n with
  | zero => exact (Nat.lt_one_iff.1 h).symm
  | succ w ih =>
    have hlt : n % 10 < 10 := Nat.mod_lt n (by decide)
    have zero : '0'.toNat = 48 := rfl
    rw [padded, decimal_append_singleton, Nat.toNat_digitChar_of_lt_ten hlt, zero,
      ih (Nat.div_lt_of_lt_mul (by rwa [Nat.pow_succ'] at h))]
    omega

/-- Digits are those of their value in the width that they take. -/
theorem padded_decimal (cs : List Char) (hd : ∀ c ∈ cs, c.isDigit = true) :
    padded cs.length (decimal cs) = cs ∧ decimal cs < 10 ^ cs.length := by
  induction cs using List.reverseRecOn with
  | nil => exact ⟨rfl, Nat.one_pos⟩
  | append_singleton cs c ih =>
    obtain ⟨hlt, hc⟩ := digitChar_of_isDigit (hd c (by simp))
    obtain ⟨front, bound⟩ := ih fun c hc => hd c (by simp [hc])
    rw [decimal_append_singleton, List.length_append, List.length_singleton, padded, Nat.pow_succ]
    refine ⟨?_, by omega⟩
    rw [Nat.mul_add_div (by decide), Nat.div_eq_of_lt hlt, Nat.add_zero, front, Nat.mul_add_mod,
      Nat.mod_eq_of_lt hlt, hc]

end JsonSchema.Text
