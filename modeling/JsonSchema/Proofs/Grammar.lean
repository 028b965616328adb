import Mathlib.Computability.Language
import JsonSchema.Proofs.Text.Pieces
/-!
# Languages of texts

The operations of which grammars are made, on languages of lists of characters: choice is `+`,
sequence `*` and repetition `∗`. A separator that cannot occur in the part before it tells where
that part ends, so a text is cut there (`mem_sep_iff`, `mem_opt_sep_iff`, `mem_opt_front_iff`).
-/

namespace JsonSchema.Grammar

open JsonSchema.Text
open scoped Computability

variable {A B L : Language Char} {p q : Char → Prop} {c x : Char}
  {cs r : List Char} {n : Nat}

/-- The texts of one character that satisfies `p`. -/
def one (p : Char → Prop) : Language Char := {w | ∃ c, p c ∧ w = [c]}

/-- One given character. -/
def char (c : Char) : Language Char := one (· = c)

/-- A part that may be left out. -/
def opt (L : Language Char) : Language Char := 1 + L

/-! ### Characters -/

theorem mem_one : cs ∈ one p ↔ ∃ c, p c ∧ cs = [c] := Iff.rfl

@[simp] theorem nil_mem_one : [] ∈ one p ↔ False := by simp [mem_one]

@[simp] theorem cons_mem_one : x :: r ∈ one p ↔ p x ∧ r = [] := by
  simp [mem_one]

theorem mem_one_mul : cs ∈ one p * L ↔ ∃ c r, cs = c :: r ∧ p c ∧ r ∈ L := by
  rw [Language.mem_mul]
  constructor
  · rintro ⟨_, ⟨c, hc, rfl⟩, r, hr, rfl⟩
    exact ⟨c, r, rfl, hc, hr⟩
  · rintro ⟨c, r, rfl, hc, hr⟩
    exact ⟨[c], ⟨c, hc, rfl⟩, r, hr, rfl⟩

@[simp] theorem nil_mem_one_mul : [] ∈ one p * L ↔ False := by simp [mem_one_mul]

@[simp] theorem cons_mem_one_mul : x :: r ∈ one p * L ↔ p x ∧ r ∈ L := by
  rw [mem_one_mul]
  constructor
  · rintro ⟨c, r, h, hc, hr⟩
    cases h
    exact ⟨hc, hr⟩
  · rintro ⟨hx, hr⟩
    exact ⟨x, r, rfl, hx, hr⟩

theorem mem_char_mul : cs ∈ char c * L ↔ ∃ r, cs = c :: r ∧ r ∈ L := by
  rw [char, mem_one_mul]
  constructor
  · rintro ⟨_, r, rfl, rfl, hr⟩
    exact ⟨r, rfl, hr⟩
  · rintro ⟨r, rfl, hr⟩
    exact ⟨c, r, rfl, rfl, hr⟩

theorem one_congr (h : ∀ c, p c ↔ q c) : one p = one q := by
  rw [funext fun c => propext (h c)]

theorem one_add_one : one p + one q = one fun c => p c ∨ q c := by
  ext w
  rw [Language.mem_add, mem_one, mem_one, mem_one]
  simp only [or_and_right, exists_or]

theorem mem_opt : cs ∈ opt L ↔ cs = [] ∨ cs ∈ L := Language.mem_add 1 L cs

/-- A repetition is empty or begins with the first of its parts. -/
theorem mem_kstar_iff : cs ∈ L∗ ↔ cs = [] ∨ cs ∈ L * L∗ := by
  rw [← Language.mem_one, ← Language.mem_add, one_add_mul_kstar]

theorem mem_one_kstar : cs ∈ (one p)∗ ↔ ∀ c ∈ cs, p c := by
  induction cs with
  | nil => exact iff_of_true (Language.nil_mem_kstar _) (List.forall_mem_nil _)
  | cons c cs ih => rw [mem_kstar_iff, cons_mem_one_mul, ih, List.forall_mem_cons]; simp

theorem mem_one_plus : cs ∈ one p * (one p)∗ ↔ cs ≠ [] ∧ ∀ c ∈ cs, p c := by
  cases cs with
  | nil => simp
  | cons c cs => rw [cons_mem_one_mul, mem_one_kstar, List.forall_mem_cons]; simp

theorem mem_one_pow : cs ∈ one p ^ n ↔ cs.length = n ∧ ∀ c ∈ cs, p c := by
  induction n generalizing cs with
  | zero =>
    rw [pow_zero, Language.mem_one, List.length_eq_zero_iff]
    exact (and_iff_left_of_imp fun h => by simp [h]).symm
  | succ n ih =>
    rw [pow_succ']
    cases cs with
    | nil => simp
    | cons c cs => simp [ih, and_left_comm]

/-- If one of two things is repeated, each of the second kind is followed by some of the first. -/
theorem add_kstar (A B : Language Char) : (A + B)∗ = A∗ * (B * A∗)∗ := by
  have first : A ≤ A + B := (add_le_iff.1 le_rfl).1
  have second : B ≤ A + B := (add_le_iff.1 le_rfl).2
  apply le_antisymm
  · refine kstar_le_of_mul_le_right ?_ ?_
    · calc (1 : Language Char) = 1 * 1 := (one_mul 1).symm
        _ ≤ A∗ * (B * A∗)∗ := mul_le_mul' one_le_kstar one_le_kstar
    · rw [add_mul]
      apply add_le
      · rw [← mul_assoc]
        exact mul_le_mul_left mul_kstar_le_kstar _
      · calc B * (A∗ * (B * A∗)∗) = B * A∗ * (B * A∗)∗ := (mul_assoc _ _ _).symm
          _ ≤ (B * A∗)∗ := mul_kstar_le_kstar
          _ = 1 * (B * A∗)∗ := (one_mul _).symm
          _ ≤ A∗ * (B * A∗)∗ := mul_le_mul_left one_le_kstar _
  · have stretch : B * A∗ ≤ (A + B)∗ := by
      calc B * A∗ ≤ (A + B)∗ * (A + B)∗ := mul_le_mul' (second.trans le_kstar) (kstar_mono first)
        _ = (A + B)∗ := kstar_mul_kstar _
    calc A∗ * (B * A∗)∗
      _ ≤ (A + B)∗ * (A + B)∗∗ := mul_le_mul' (kstar_mono first) (kstar_mono stretch)
      _ = (A + B)∗ := by rw [kstar_idem, kstar_mul_kstar]

/-! ### Alphabets -/

/-- What all of some characters have is found by looking at each. -/
theorem forall_mem_of_all [DecidablePred p] (h : (cs.all fun c => decide (p c)) = true) :
    ∀ c ∈ cs, p c :=
  fun c hc => of_decide_eq_true (List.all_eq_true.1 h c hc)

/-- All characters of all texts satisfy `p`. -/
def Over (p : Char → Prop) (L : Language Char) : Prop := ∀ w ∈ L, ∀ c ∈ w, p c

theorem Over.mono (h : Over p L) (hpq : ∀ c, p c → q c) : Over q L :=
  fun w hw c hc => hpq c (h w hw c hc)

theorem Over.not_mem (h : Over (· ≠ c) L) (hw : cs ∈ L) : c ∉ cs := fun hc => h cs hw c hc rfl

theorem over_one (h : ∀ c, q c → p c) : Over p (one q) := by
  rintro w ⟨c, hc, rfl⟩ x hx
  exact List.mem_singleton.1 hx ▸ h c hc

theorem over_one_of_false {allowed : Char → Bool} (h : allowed c = false) :
    Over (· ≠ c) (one (allowed · = true)) := by
  refine over_one ?_
  rintro x hx rfl
  rw [h] at hx
  cases hx

theorem over_char (h : p c) : Over p (char c) := over_one fun _ hx => hx ▸ h

theorem over_epsilon : Over p 1 := by
  rintro w rfl c ⟨⟩

theorem over_add (hA : Over p A) (hB : Over p B) : Over p (A + B) := by
  rintro w (hw | hw)
  · exact hA w hw
  · exact hB w hw

theorem over_opt (h : Over p L) : Over p (opt L) := over_add over_epsilon h

theorem over_mul (hA : Over p A) (hB : Over p B) : Over p (A * B) := by
  rintro w ⟨a, ha, b, hb, rfl⟩ c hc
  rcases List.mem_append.1 hc with hc | hc
  · exact hA a ha c hc
  · exact hB b hb c hc

theorem over_kstar (h : Over p L) : Over p L∗ := by
  rintro w ⟨parts, rfl, hparts⟩ c hc
  obtain ⟨part, hp, hc⟩ := List.mem_flatten.1 hc
  exact h part (hparts part hp) c hc

/-! ### Separators -/

theorem mem_sep : cs ∈ A * (char c * B) ↔ ∃ a ∈ A, ∃ b ∈ B, cs = a ++ c :: b := by
  rw [Language.mem_mul]
  constructor
  · rintro ⟨a, ha, w, hw, rfl⟩
    obtain ⟨b, rfl, hb⟩ := mem_char_mul.1 hw
    exact ⟨a, ha, b, hb, rfl⟩
  · rintro ⟨a, ha, b, hb, rfl⟩
    exact ⟨a, ha, c :: b, mem_char_mul.2 ⟨b, rfl, hb⟩, rfl⟩

theorem mem_sep_iff (hA : Over (· ≠ c) A) : cs ∈ A * (char c * B) ↔
    ∃ a b, splitFirst c cs = (a, some b) ∧ a ∈ A ∧ b ∈ B := by
  rw [mem_sep]
  constructor
  · rintro ⟨a, ha, b, hb, rfl⟩
    exact ⟨a, b, splitFirst_append (hA.not_mem ha), ha, hb⟩
  · rintro ⟨a, b, hs, ha, hb⟩
    exact ⟨a, ha, b, hb, (splitFirst_eq_some.1 hs).2⟩

/-- The separator and what is behind it may be left out. -/
theorem mem_opt_sep_iff (hA : Over (· ≠ c) A) : cs ∈ A * opt (char c * B) ↔
    (splitFirst c cs).1 ∈ A ∧ ∀ b, (splitFirst c cs).2 = some b → b ∈ B := by
  rw [opt, mul_add, mul_one, Language.mem_add, mem_sep_iff hA]
  rcases splitFirst_cases c cs with ⟨hc, hs⟩ | ⟨a, b, -, rfl, hs⟩
  · rw [hs]
    simp
  · have present : a ++ c :: b ∉ A := fun h => hA.not_mem h (by simp)
    rw [hs]
    simp [present]

/-- The separator and what is in front of it may be left out. -/
theorem mem_opt_front_iff (hA : Over (· ≠ c) A) (hB : Over (· ≠ c) B) :
    cs ∈ opt (A * char c) * B ↔
      (∃ a b, splitFirst c cs = (a, some b) ∧ a ∈ A ∧ b ∈ B) ∨
        (splitFirst c cs).2 = none ∧ cs ∈ B := by
  rw [opt, add_mul, one_mul, mul_assoc, Language.mem_add, mem_sep_iff hA]
  rcases splitFirst_cases c cs with ⟨-, hs⟩ | ⟨a, b, -, rfl, hs⟩
  · rw [hs]
    simp
  · have present : a ++ c :: b ∉ B := fun h => hB.not_mem h (by simp)
    rw [hs]
    simp [present]

/-- Parts between separators. -/
theorem mem_list_iff (hA : Over (· ≠ c) A) :
    cs ∈ A * (char c * A)∗ ↔ ∀ a ∈ splitAt c cs, a ∈ A := by
  have unfolded : A * (char c * A)∗ = A * opt (char c * (A * (char c * A)∗)) := by
    rw [← mul_assoc (char c), opt, one_add_mul_kstar]
  induction cs using split_induction c with
  | last l hl =>
    rw [unfolded, mem_opt_sep_iff hA, splitFirst_of_not_mem hl, splitAt_of_not_mem hl]
    simp
  | split l r hl ih =>
    rw [unfolded, mem_opt_sep_iff hA, splitFirst_append hl, splitAt_append hl,
      List.forall_mem_cons]
    simp only [Option.some.injEq, forall_eq']
    exact and_congr_right fun _ => ih

end JsonSchema.Grammar
