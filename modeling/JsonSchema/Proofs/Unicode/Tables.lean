import Mathlib
import JsonSchema.Unicode.Property
/-!
# Tables

The tables of characters are texts, of which a proof can make nothing before their characters are
listed (`Spells`). The ranges of white space are read off here, and that the letters of ASCII are
among the alphabetic characters.
-/

namespace JsonSchema.Unicode

/-- The characters of all rows of a table in order. -/
inductive Spells : List String → List Char → Prop where
  | nil : Spells [] []
  | cons {row : String} {rows : List String} {cs ds : List Char} (h : row.toList = cs)
      (rest : Spells rows ds) : Spells (row :: rows) (cs ++ ds)

variable {table : List String} {cs ds : List Char}

theorem Spells.toList_join (h : Spells table cs) : (String.join table).toList = cs := by
  induction h with
  | nil => rfl
  | cons h _ ih => rw [String.join_cons, String.toList_append, h, ih]

theorem Spells.mappings_eq (h : Spells table cs) :
    mappings table = mappingsFrom (numbersFrom [] none cs).reverse := by
  rw [mappings, numbers, h.toList_join]

theorem Spells.ranges_eq {rs : List Range} (h : Spells table cs)
    (hr : rangesFrom [] 0 (numbersFrom [] none cs).reverse = rs) : ranges table = rs := by
  rw [ranges, numbers, h.toList_join, hr]

theorem whiteSpaceRanges_eq : whiteSpaceRanges = [(9, 13), (32, 32), (133, 133), (160, 160),
    (5760, 5760), (8192, 8202), (8232, 8233), (8239, 8239), (8287, 8287), (12288, 12288)] := by
  apply Spells.ranges_eq
  · unfold whiteSpaceTable
    repeat' (apply Spells.cons; exact String.toList_ofList)
    exact .nil
  · decide +kernel

theorem isBlank_eq (c : Char) : isBlank c = inRanges c.toNat [(9, 13), (32, 32), (133, 133),
    (160, 160), (5760, 5760), (8192, 8202), (8232, 8233), (8239, 8239), (8287, 8287),
    (12288, 12288)] := by
  rw [← whiteSpaceRanges_eq]
  rfl

theorem exists_of_inRanges {n : Nat} {rs : List Range} (h : inRanges n rs = true) :
    ∃ r ∈ rs, r.1 ≤ n ∧ n ≤ r.2 := by
  induction rs with
  | nil => cases h
  | cons r rs ih =>
    obtain ⟨lo, hi⟩ := r
    simp only [inRanges, Bool.and_eq_true, Bool.or_eq_true, decide_eq_true_eq] at h
    rcases h.2 with le | rest
    · exact ⟨(lo, hi), List.mem_cons_self, h.1, le⟩
    · obtain ⟨r, hr, bounds⟩ := ih rest
      exact ⟨r, List.mem_cons_of_mem _ hr, bounds⟩

/-! ### Letters -/

theorem Spells.take_ranges_eq {n : Nat} {rs : List Range} (h : Spells table cs)
    (hr : (rangesFrom [] 0 (numbersFrom [] none cs).reverse).take n = rs) :
    (ranges table).take n = rs := by
  rw [h.ranges_eq rfl, hr]

theorem take_alphabeticRanges : alphabeticRanges.take 2 = [(65, 90), (97, 122)] := by
  apply Spells.take_ranges_eq
  · unfold alphabeticTable
    repeat' (apply Spells.cons; exact String.toList_ofList)
    exact .nil
  · decide +kernel

theorem inRanges_of_take {n : Nat} {rs : List Range} (first : rs.take 2 = [(65, 90), (97, 122)])
    (h : 65 ≤ n ∧ n ≤ 90 ∨ 97 ≤ n ∧ n ≤ 122) : inRanges n rs = true := by
  rcases rs with _ | ⟨a, _ | ⟨b, rs⟩⟩
  · cases first
  · cases first
  · obtain ⟨rfl, rfl⟩ : a = (65, 90) ∧ b = (97, 122) := by simpa using first
    simp only [inRanges, Bool.and_eq_true, Bool.or_eq_true, decide_eq_true_eq]
    omega

theorem alphabetic_of_isAlpha {c : Char} (h : c.isAlpha = true) :
    Property.alphabetic.holds c.toNat = true := by
  refine inRanges_of_take take_alphabeticRanges ?_
  simpa [Char.isAlpha, Char.isUpper, Char.isLower, UInt32.le_iff_toNat_le] using h

end JsonSchema.Unicode
