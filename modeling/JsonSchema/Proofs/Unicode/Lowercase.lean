import JsonSchema.Proofs.Unicode.Tables
import JsonSchema.Proofs.Utf8
import JsonSchema.Unicode.Case
/-!
# Lower case

What lower case gives is in lower case already, so putting a text into lower case again leaves it as
it is (`Unicode.settled_of_mem_lowerFrom`, `Unicode.lowerFrom_of_settled`). White space and the marks
of ASCII before the letters are neither changed nor given (`Unicode.lowerChar_cases`).

Both are facts about the table of lower case letters. They are checked for its runs rather than for
the letters in them: two runs of which one lies above the other need no closer look.
-/

namespace JsonSchema.Unicode

/-! ### Runs -/

variable {m m' : Mapping} {n k : Nat} {r : Range} {cs : List Char}

theorem Mapping.image?_eq_some_iff : m.image? n = some k ↔
    ∃ i, i < m.span ∧ i % m.step = 0 ∧ n = m.first + i ∧ k = m.target + i := by
  unfold image?
  constructor
  · intro h
    split at h
    · next inside =>
      obtain ⟨lo, hi, step⟩ := inside
      cases h
      exact ⟨n - m.first, by omega, step, by omega, rfl⟩
    · cases h
  · rintro ⟨i, hi, step, rfl, rfl⟩
    rw [if_pos ⟨by omega, by omega, by rwa [Nat.add_sub_cancel_left]⟩, Nat.add_sub_cancel_left]

/-- Whether `span` code points from `first` on all lie outside a range. -/
def outside (first span : Nat) (r : Range) : Bool := (first + span).ble r.1 || r.2.blt first

theorem not_mem_of_outside {first span i : Nat} (h : outside first span r = true) (hi : i < span) :
    ¬(r.1 ≤ first + i ∧ first + i ≤ r.2) := by
  simp only [outside, Bool.or_eq_true, Nat.ble_eq, Nat.blt_eq] at h
  omega

/-- Whether nothing that the one mapping gives is changed by the other. -/
def Mapping.settles (m m' : Mapping) : Bool :=
  (m.target + m.span).ble m'.first || (m'.first + m'.span).ble m.target ||
    (List.range m.span).all fun i => i % m.step != 0 || (m'.image? (m.target + i)).isNone

theorem Mapping.image?_of_settles (h : m.settles m' = true) (hk : m.image? n = some k) :
    m'.image? k = none := by
  obtain ⟨i, hi, step, -, rfl⟩ := image?_eq_some_iff.1 hk
  simp only [settles, Bool.or_eq_true, Nat.ble_eq, List.all_eq_true, List.mem_range, bne_iff_ne,
    Option.isNone_iff_eq_none] at h
  rcases h with (below | above) | closely
  · rw [image?, if_neg (by omega)]
  · rw [image?, if_neg (by omega)]
  · exact (closely i hi).resolve_left fun odd => odd step

/-! ### The table -/

/-- What lower case gives without the table. -/
def specialLowerings : List Mapping :=
  [⟨0x3A3, 1, 1, 0x3C2⟩, ⟨0x3A3, 1, 1, 0x3C3⟩, ⟨0x130, 1, 1, 0x69⟩, ⟨0x130, 1, 1, 0x307⟩]

/-- All that lower case changes. -/
def lowerings : List Mapping := specialLowerings ++ lowerMappings

/-- Code points that are not given: white space, and what comes before the letters of ASCII. -/
def unreached : List Range := (0, 0x40) :: whiteSpaceRanges

/-- Code points that are not changed: these and the small letters of ASCII. -/
def unchanged : List Range := (0x5B, 0x7F) :: unreached

/-- Whether a mapping gives characters that no mapping changes, and keeps out of the ranges that are
not given and not changed. -/
def Mapping.sound (ms : List Mapping) (given changed : List Range) (m : Mapping) : Bool :=
  ms.all m.settles && given.all (outside m.target m.span) && changed.all (outside m.first m.span) &&
    outside m.target m.span (0xD800, 0xDFFF) && (m.target + m.span).ble 0x110000

theorem all_sound_of_spells {given changed : List Range} (h : Spells lowerTable cs)
    (sound : let ms := specialLowerings ++ mappingsFrom (numbersFrom [] none cs).reverse
      ms.all (Mapping.sound ms given changed) = true) :
    lowerings.all (Mapping.sound lowerings given changed) = true := by
  rw [lowerings, lowerMappings, h.mappings_eq]
  exact sound

theorem all_sound : lowerings.all (Mapping.sound lowerings unreached unchanged) = true := by
  rw [unchanged, unreached, whiteSpaceRanges_eq]
  apply all_sound_of_spells
  · unfold lowerTable
    repeat' (apply Spells.cons; exact String.toList_ofList)
    exact .nil
  · decide +kernel

theorem image_of_mem (hm : m ∈ lowerings) (hk : m.image? n = some k) :
    (∀ m' ∈ lowerings, m'.image? k = none) ∧ (∀ r ∈ unreached, ¬(r.1 ≤ k ∧ k ≤ r.2)) ∧
      (∀ r ∈ unchanged, ¬(r.1 ≤ n ∧ n ≤ r.2)) ∧ k.isValidChar := by
  have sound := List.all_eq_true.1 all_sound m hm
  simp only [Mapping.sound, Bool.and_eq_true, List.all_eq_true] at sound
  obtain ⟨⟨⟨⟨settles, given⟩, changed⟩, surrogates⟩, bound⟩ := sound
  refine ⟨fun m' hm' => m.image?_of_settles (settles m' hm') hk, ?_⟩
  obtain ⟨i, hi, -, rfl, rfl⟩ := Mapping.image?_eq_some_iff.1 hk
  refine ⟨fun r hr => not_mem_of_outside (given r hr) hi,
    fun r hr => not_mem_of_outside (changed r hr) hi, ?_⟩
  have apart := not_mem_of_outside surrogates hi
  rw [Nat.ble_eq] at bound
  rw [Nat.isValidChar]
  omega

/-! ### Characters -/

variable {b a : List Char} {c x : Char}

/-- A character that lower case leaves as it is. -/
def Settled (c : Char) : Prop := ∀ m ∈ lowerings, m.image? c.toNat = none

theorem settled_of_unchanged (hr : r ∈ unchanged) (h : r.1 ≤ c.toNat ∧ c.toNat ≤ r.2) :
    Settled c := by
  intro m hm
  cases hk : m.image? c.toNat with
  | none => rfl
  | some k => exact absurd h ((image_of_mem hm hk).2.2.1 r hr)

theorem lowerChar_of_settled (h : Settled c) : lowerChar b a c = [c] := by
  have sigma : c.toNat ≠ 0x3A3 := fun hc => by
    have := h ⟨0x3A3, 1, 1, 0x3C2⟩ (by simp [lowerings, specialLowerings])
    simp [Mapping.image?, hc] at this
  have dotted : c.toNat ≠ 0x130 := fun hc => by
    have := h ⟨0x130, 1, 1, 0x69⟩ (by simp [lowerings, specialLowerings])
    simp [Mapping.image?, hc] at this
  have plain : (lowerMappings.findSome? fun m => m.image? c.toNat) = none :=
    List.findSome?_eq_none_iff.2 fun m hm => h m (List.mem_append_right _ hm)
  rw [lowerChar, if_neg sigma, if_neg dotted, plain, Option.getD_none, Char.ofNat_toNat]

theorem settled_of_findSome? (sigma : c.toNat ≠ 0x3A3) (dotted : c.toNat ≠ 0x130)
    (h : (lowerMappings.findSome? fun m => m.image? c.toNat) = none) : Settled c := by
  have special : ∀ m ∈ specialLowerings, m.span = 1 ∧ (m.first = 0x3A3 ∨ m.first = 0x130) := by decide
  intro m hm
  rcases List.mem_append.1 hm with hm | hm
  · obtain ⟨span, first⟩ := special m hm
    rw [Mapping.image?, if_neg (by omega)]
  · exact List.findSome?_eq_none_iff.1 h m hm

/-- A character is left as it is, or a mapping gives what stands for it. -/
theorem lowerChar_cases (b a : List Char) (c : Char) : Settled c ∧ lowerChar b a c = [c] ∨
    lowerChar b a c ≠ [] ∧
      ∀ x ∈ lowerChar b a c, ∃ m ∈ lowerings, m.image? c.toNat = some x.toNat := by
  by_cases settled : Settled c
  · exact .inl ⟨settled, lowerChar_of_settled settled⟩
  refine .inr ?_
  unfold lowerChar
  split
  · next sigma =>
    rw [sigma]
    split
    · refine ⟨List.cons_ne_nil _ _, fun x hx => ⟨⟨0x3A3, 1, 1, 0x3C2⟩, ?_, ?_⟩⟩
      · simp [lowerings, specialLowerings]
      · rw [List.mem_singleton.1 hx]
        rfl
    · refine ⟨List.cons_ne_nil _ _, fun x hx => ⟨⟨0x3A3, 1, 1, 0x3C3⟩, ?_, ?_⟩⟩
      · simp [lowerings, specialLowerings]
      · rw [List.mem_singleton.1 hx]
        rfl
  · next sigma =>
    split
    · next dotted =>
      rw [dotted]
      refine ⟨List.cons_ne_nil _ _, fun x hx => ?_⟩
      simp only [List.mem_cons, List.not_mem_nil, or_false] at hx
      rcases hx with rfl | rfl
      · exact ⟨⟨0x130, 1, 1, 0x69⟩, by simp [lowerings, specialLowerings], rfl⟩
      · exact ⟨⟨0x130, 1, 1, 0x307⟩, by simp [lowerings, specialLowerings], rfl⟩
    · next dotted =>
      cases hk : lowerMappings.findSome? fun m => m.image? c.toNat with
      | none => exact absurd (settled_of_findSome? sigma dotted hk) settled
      | some k =>
        obtain ⟨m, hm, image⟩ := List.exists_of_findSome?_eq_some hk
        have hm := List.mem_append_right specialLowerings hm
        refine ⟨List.cons_ne_nil _ _, fun x hx => ⟨m, hm, ?_⟩⟩
        rw [List.mem_singleton.1 hx, image, Option.getD_some]
        exact congrArg some (Utf8.toNat_ofNat_char (image_of_mem hm image).2.2.2).symm

theorem lowerChar_ne_nil : lowerChar b a c ≠ [] := by
  rcases lowerChar_cases b a c with ⟨-, h⟩ | ⟨h, -⟩
  · rw [h]
    exact List.cons_ne_nil _ _
  · exact h

/-- What lower case gives is in lower case. -/
theorem settled_of_mem_lowerChar (h : x ∈ lowerChar b a c) : Settled x := by
  rcases lowerChar_cases b a c with ⟨settled, same⟩ | ⟨-, images⟩
  · rw [same] at h
    rwa [List.mem_singleton.1 h]
  · obtain ⟨m, hm, image⟩ := images x h
    exact (image_of_mem hm image).1

/-- What lower case gives in the ranges that are not given was there before. -/
theorem eq_of_mem_lowerChar (h : x ∈ lowerChar b a c) (hr : r ∈ unreached)
    (bounds : r.1 ≤ x.toNat ∧ x.toNat ≤ r.2) : x = c := by
  rcases lowerChar_cases b a c with ⟨-, same⟩ | ⟨-, images⟩
  · rw [same] at h
    exact List.mem_singleton.1 h
  · obtain ⟨m, hm, image⟩ := images x h
    exact absurd bounds ((image_of_mem hm image).2.1 r hr)

theorem exists_of_isBlank (h : isBlank c = true) :
    ∃ r ∈ unreached, r.1 ≤ c.toNat ∧ c.toNat ≤ r.2 := by
  have white : inRanges c.toNat whiteSpaceRanges = true := h
  obtain ⟨r, hr, bounds⟩ := exists_of_inRanges white
  exact ⟨r, List.mem_cons_of_mem _ hr, bounds⟩

theorem settled_of_isBlank (h : isBlank c = true) : Settled c := by
  obtain ⟨r, hr, bounds⟩ := exists_of_isBlank h
  exact settled_of_unchanged (List.mem_cons_of_mem _ hr) bounds

/-! ### Texts -/

theorem exists_of_mem_lowerFrom (h : x ∈ lowerFrom b cs) : ∃ c ∈ cs, ∃ b a, x ∈ lowerChar b a c := by
  induction cs generalizing b with
  | nil => cases h
  | cons c cs ih =>
    rcases List.mem_append.1 h with h | h
    · exact ⟨c, List.mem_cons_self, _, _, h⟩
    · obtain ⟨d, hd, given⟩ := ih h
      exact ⟨d, List.mem_cons_of_mem _ hd, given⟩

theorem settled_of_mem_lowerFrom (h : x ∈ lowerFrom b cs) : Settled x := by
  obtain ⟨c, -, b, a, h⟩ := exists_of_mem_lowerFrom h
  exact settled_of_mem_lowerChar h

theorem lowerFrom_of_settled (h : ∀ c ∈ cs, Settled c) : lowerFrom b cs = cs := by
  induction cs generalizing b with
  | nil => rfl
  | cons c cs ih =>
    obtain ⟨hc, hcs⟩ := List.forall_mem_cons.1 h
    rw [lowerFrom, lowerChar_of_settled hc, ih hcs, List.singleton_append]

theorem lowerFrom_eq_nil_iff : lowerFrom b cs = [] ↔ cs = [] := by
  cases cs with
  | nil => exact iff_of_true rfl rfl
  | cons c cs => simp [lowerFrom, lowerChar_ne_nil]

theorem exists_of_head?_lowerFrom (h : (lowerFrom b cs).head? = some x) :
    ∃ c, cs.head? = some c ∧ ∃ b a, x ∈ lowerChar b a c := by
  cases cs with
  | nil => cases h
  | cons c cs =>
    obtain ⟨y, ys, first⟩ := List.exists_cons_of_ne_nil (lowerChar_ne_nil (b := b) (a := cs) (c := c))
    rw [lowerFrom, first, List.cons_append, List.head?_cons, Option.some.injEq] at h
    exact ⟨c, rfl, b, cs, by rw [first, h]; exact List.mem_cons_self⟩

theorem exists_of_getLast?_lowerFrom (h : (lowerFrom b cs).getLast? = some x) :
    ∃ c, cs.getLast? = some c ∧ ∃ b a, x ∈ lowerChar b a c := by
  induction cs generalizing b with
  | nil => cases h
  | cons c cs ih =>
    cases cs with
    | nil =>
      rw [lowerFrom, lowerFrom, List.append_nil] at h
      exact ⟨c, rfl, _, _, List.mem_of_getLast? h⟩
    | cons d cs =>
      have rest : lowerFrom (c :: b) (d :: cs) ≠ [] := by simp [lowerFrom_eq_nil_iff]
      rw [lowerFrom, List.getLast?_append, List.getLast?_eq_some_getLast rest, Option.some_or] at h
      obtain ⟨e, last, given⟩ := ih ((List.getLast?_eq_some_getLast rest).trans h)
      exact ⟨e, by rwa [List.getLast?_cons_cons], given⟩

end JsonSchema.Unicode
