import Mathlib.Data.List.DropRight
import JsonSchema.Extension
import JsonSchema.Proofs.Text.Pieces
import JsonSchema.Proofs.Unicode.Lowercase
/-!
# Lists of extensions

The extensions that a text lists are not empty, hold no comma, begin with no dot and end with no white
space. White space around an entry is taken away before the dots in front of it, so white space behind
such dots stays: exactly then an entry begins with white space, and exactly then the list is another
one when it is written with commas and read again (`Extension.split_normalForm`).
-/

namespace JsonSchema

namespace Unicode

variable {cs : List Char} {c : Char}

theorem trim_eq (cs : List Char) : trim cs = (cs.dropWhile isBlank).rdropWhile isBlank := rfl

theorem mem_of_mem_trim (h : c ∈ trim cs) : c ∈ cs :=
  (List.dropWhile_suffix isBlank).subset ((List.rdropWhile_prefix isBlank _).subset h)

theorem isBlank_of_getLast?_trim (h : (trim cs).getLast? = some c) : isBlank c = false := by
  have nonempty : trim cs ≠ [] := by
    rintro empty
    rw [empty] at h
    cases h
  rw [List.getLast?_eq_some_getLast nonempty, Option.some.injEq] at h
  exact h ▸ Bool.eq_false_of_not_eq_true (List.rdropWhile_last_not isBlank _ nonempty)

theorem trim_eq_self (first : ∀ c ∈ cs.head?, isBlank c = false)
    (last : ∀ c ∈ cs.getLast?, isBlank c = false) : trim cs = cs := by
  have front : cs.dropWhile isBlank = cs := by
    cases cs with
    | nil => rfl
    | cons c cs => rw [List.dropWhile_cons, if_neg (by simp [first c rfl])]
  rw [trim_eq, front, List.rdropWhile_eq_self_iff]
  intro nonempty
  simp [last _ (List.getLast?_eq_some_getLast nonempty)]

theorem length_trim_lt (h : ∃ c ∈ cs.head?, isBlank c = true) : (trim cs).length < cs.length := by
  obtain ⟨c, hc, blank⟩ := h
  cases cs with
  | nil => cases hc
  | cons d cs =>
    cases hc
    calc (trim (c :: cs)).length
      _ ≤ ((c :: cs).dropWhile isBlank).length := (List.rdropWhile_prefix isBlank _).length_le
      _ = (cs.dropWhile isBlank).length := by rw [List.dropWhile_cons, if_pos blank]
      _ ≤ cs.length := (List.dropWhile_suffix isBlank).length_le
      _ < (c :: cs).length := Nat.lt_succ_self _

end Unicode

namespace Extension

open Text (splitAt)
open Unicode (trim isBlank lowerFrom Settled)

variable {piece entry cs : List Char} {c : Char}

/-! ### One entry -/

/-- White space stands behind the dots in front of an entry. -/
def BlankAfterDots (piece : List Char) : Prop := ∃ dots b rest,
  trim piece = dots ++ b :: rest ∧ (∀ c ∈ dots, c = '.') ∧ isBlank b = true

/-- A text begins with white space. -/
def BeginsBlank (cs : List Char) : Prop := ∃ c ∈ cs.head?, isBlank c = true

/-- What is left of a piece, before it is put into lower case. -/
def bare (piece : List Char) : List Char := (trim piece).dropWhile (· = '.')

theorem normal_eq (piece : List Char) : normal piece = lowerFrom [] (bare piece) := rfl

theorem bare_suffix (piece : List Char) : bare piece <:+ trim piece := List.dropWhile_suffix _

theorem settled_of_mem_normal (h : c ∈ normal piece) : Settled c := Unicode.settled_of_mem_lowerFrom h

theorem exists_dots (piece : List Char) :
    ∃ dots, trim piece = dots ++ bare piece ∧ ∀ c ∈ dots, c = '.' := by
  refine ⟨(trim piece).takeWhile (· = '.'), List.takeWhile_append_dropWhile.symm, fun c hc => ?_⟩
  simpa using List.mem_takeWhile_imp hc

theorem ne_dot_of_head?_bare (h : (bare piece).head? = some c) : c ≠ '.' := by
  have := List.head?_dropWhile_not (· = '.') (trim piece)
  rw [← bare, h] at this
  simpa using this

theorem isBlank_dot : isBlank '.' = false := by
  rw [Unicode.isBlank_eq]
  decide

/-- No comma in a piece, none in its entry. -/
theorem comma_not_mem_normal (h : ',' ∉ piece) : ',' ∉ normal piece := by
  intro hx
  obtain ⟨c, hc, b, a, given⟩ := Unicode.exists_of_mem_lowerFrom hx
  have same := Unicode.eq_of_mem_lowerChar given List.mem_cons_self (by decide)
  exact h (Unicode.mem_of_mem_trim ((bare_suffix piece).subset (same ▸ hc)))

theorem ne_dot_of_head?_normal (h : (normal piece).head? = some c) : c ≠ '.' := by
  rintro rfl
  obtain ⟨c, hc, b, a, given⟩ := Unicode.exists_of_head?_lowerFrom h
  have same := Unicode.eq_of_mem_lowerChar given List.mem_cons_self (by decide)
  exact ne_dot_of_head?_bare hc same.symm

theorem eq_of_isBlank {b a : List Char} {x : Char} (h : x ∈ Unicode.lowerChar b a c)
    (blank : isBlank x = true) : x = c := by
  obtain ⟨r, hr, bounds⟩ := Unicode.exists_of_isBlank blank
  exact Unicode.eq_of_mem_lowerChar h hr bounds

theorem isBlank_of_getLast?_normal (h : (normal piece).getLast? = some c) : isBlank c = false := by
  rw [normal_eq] at h
  obtain ⟨d, hd, b, a, given⟩ := Unicode.exists_of_getLast?_lowerFrom h
  refine Bool.eq_false_of_not_eq_true fun blank => ?_
  obtain rfl := eq_of_isBlank given blank
  obtain ⟨dots, whole, -⟩ := exists_dots piece
  have last : (trim piece).getLast? = some c := by rw [whole, List.getLast?_append, hd, Option.some_or]
  rw [Unicode.isBlank_of_getLast?_trim last] at blank
  cases blank

theorem beginsBlank_normal_iff : BeginsBlank (normal piece) ↔ BlankAfterDots piece := by
  constructor
  · rintro ⟨c, hc, blank⟩
    obtain ⟨d, hd, b, a, given⟩ := Unicode.exists_of_head?_lowerFrom hc
    obtain rfl := eq_of_isBlank given blank
    obtain ⟨dots, whole, all⟩ := exists_dots piece
    obtain ⟨rest, hr⟩ := List.head?_eq_some_iff.1 hd
    exact ⟨dots, c, rest, hr ▸ whole, all, blank⟩
  · rintro ⟨dots, b, rest, whole, all, blank⟩
    have ne : b ≠ '.' := by
      rintro rfl
      rw [isBlank_dot] at blank
      cases blank
    have behind : bare piece = b :: rest := by
      rw [bare, whole, List.dropWhile_append_of_pos (by simpa using all), List.dropWhile_cons,
        if_neg (by simpa using ne)]
    refine ⟨b, ?_, blank⟩
    rw [normal_eq, behind, lowerFrom, Unicode.lowerChar_of_settled (Unicode.settled_of_isBlank blank)]
    rfl

/-- An entry that begins with no white space is its own entry. -/
theorem normal_normal (h : ¬BeginsBlank (normal piece)) : normal (normal piece) = normal piece := by
  have trimmed : trim (normal piece) = normal piece := by
    refine Unicode.trim_eq_self (fun c hc => ?_) fun c hc => isBlank_of_getLast?_normal hc
    exact Bool.eq_false_of_not_eq_true fun blank => h ⟨c, hc, blank⟩
  have bared : bare (normal piece) = normal piece := by
    rw [bare, trimmed]
    cases hn : normal piece with
    | nil => rfl
    | cons c cs =>
      have first : (normal piece).head? = some c := by rw [hn]; rfl
      rw [List.dropWhile_cons, if_neg]
      simpa using ne_dot_of_head?_normal first
  rw [normal_eq, bared, Unicode.lowerFrom_of_settled fun c hc => settled_of_mem_normal hc]

/-- An entry that begins with white space is not its own entry: that one is shorter. -/
theorem normal_normal_ne (h : BeginsBlank (normal piece)) : normal (normal piece) ≠ normal piece := by
  intro same
  have settled : ∀ c ∈ bare (normal piece), Settled c := fun c hc =>
    settled_of_mem_normal (Unicode.mem_of_mem_trim ((bare_suffix _).subset hc))
  rw [normal_eq (normal piece), Unicode.lowerFrom_of_settled settled] at same
  have shorter : (bare (normal piece)).length < (normal piece).length :=
    Nat.lt_of_le_of_lt (bare_suffix _).length_le (Unicode.length_trim_lt h)
  rw [same] at shorter
  exact Nat.lt_irrefl _ shorter

/-! ### Lists of entries -/

/-- The entries of a text, as lists of characters. -/
def entries (cs : List Char) : List (List Char) :=
  ((splitAt ',' cs).map normal).filter (!·.isEmpty)

theorem split_eq (text : String) : split text = (entries text.toList).map String.ofList := rfl

theorem mem_entries : entry ∈ entries cs ↔
    ∃ piece ∈ splitAt ',' cs, normal piece = entry ∧ entry ≠ [] := by
  simp only [entries, List.mem_filter, List.mem_map, Bool.not_eq_true', List.isEmpty_eq_false_iff]
  constructor
  · rintro ⟨⟨piece, hp, rfl⟩, nonempty⟩
    exact ⟨piece, hp, rfl, nonempty⟩
  · rintro ⟨piece, hp, rfl, nonempty⟩
    exact ⟨⟨piece, hp, rfl⟩, nonempty⟩

theorem comma_not_mem_entry (h : entry ∈ entries cs) : ',' ∉ entry := by
  obtain ⟨piece, hp, rfl, -⟩ := mem_entries.1 h
  exact comma_not_mem_normal (Text.not_mem_of_mem_splitAt hp)

theorem exists_beginsBlank_iff :
    (∃ entry ∈ entries cs, BeginsBlank entry) ↔ ∃ piece ∈ splitAt ',' cs, BlankAfterDots piece := by
  constructor
  · rintro ⟨entry, h, blank⟩
    obtain ⟨piece, hp, rfl, -⟩ := mem_entries.1 h
    exact ⟨piece, hp, beginsBlank_normal_iff.1 blank⟩
  · rintro ⟨piece, hp, h⟩
    have blank := beginsBlank_normal_iff.2 h
    refine ⟨_, mem_entries.2 ⟨piece, hp, rfl, ?_⟩, blank⟩
    intro empty
    obtain ⟨c, hc, -⟩ := blank
    rw [empty] at hc
    cases hc

/-- Entries written with commas are read as the entries of each. -/
theorem entries_intercalate : entries ([','].intercalate (entries cs)) =
    ((entries cs).map normal).filter (!·.isEmpty) := by
  by_cases none : entries cs = []
  · rw [none]
    rfl
  · rw [entries, Text.splitAt_intercalate none fun entry h => comma_not_mem_entry h]

theorem intercalate_split (text : String) :
    (",".intercalate (split text)).toList = [','].intercalate (entries text.toList) := by
  rw [String.toList_intercalate, split_eq, List.map_map]
  simp [Function.comp_def]

theorem filter_map_eq_self_iff {α : Type} {f : α → α} {p : α → Bool} {l : List α}
    (h : ∀ a ∈ l, p a = true) : (l.map f).filter p = l ↔ ∀ a ∈ l, f a = a := by
  constructor
  · intro same
    -- the filter drops nothing, since it leaves as many elements as there were
    have all : (l.map f).filter p = l.map f := by
      refine List.filter_sublist.eq_of_length ?_
      rw [same, List.length_map]
    intro a ha
    have fixed : l.map f = l.map id := by rw [List.map_id, ← all, same]
    exact List.map_inj_left.1 fixed a ha
  · intro fixed
    have same : l.map f = l := (List.map_congr_left fixed).trans (List.map_id l)
    rw [same, List.filter_eq_self.2 h]

/-- A list is read back from its entries with commas exactly if none of them begins with white
space. -/
theorem split_intercalate_split_iff (text : String) :
    split (",".intercalate (split text)) = split text ↔
      ∀ entry ∈ entries text.toList, ¬BeginsBlank entry := by
  have injective : Function.Injective (List.map String.ofList) :=
    List.map_injective_iff.2 fun _ _ h => String.ofList_injective h
  rw [split_eq (",".intercalate _), intercalate_split, split_eq, injective.eq_iff,
    entries_intercalate, filter_map_eq_self_iff]
  · refine forall₂_congr fun entry h => ?_
    obtain ⟨piece, -, rfl, -⟩ := mem_entries.1 h
    exact ⟨fun same blank => normal_normal_ne blank same, normal_normal⟩
  · intro entry h
    obtain ⟨-, -, -, nonempty⟩ := mem_entries.1 h
    simpa using nonempty

theorem forall_not_beginsBlank_iff : (∀ entry ∈ entries cs, ¬BeginsBlank entry) ↔
    ∀ piece ∈ splitAt ',' cs, ¬BlankAfterDots piece := by
  have negated : ¬(∃ entry ∈ entries cs, BeginsBlank entry) ↔
      ¬∃ piece ∈ splitAt ',' cs, BlankAfterDots piece := not_congr exists_beginsBlank_iff
  simpa only [not_exists, not_and] using negated

/-- The extensions that a text lists are not empty, without commas, without a dot in front and without
white space at the end. They begin with no white space, and are read back when they are written with
commas, exactly if no entry of the text has white space behind dots in front. -/
theorem split_normalForm (text : String) :
    (∀ e ∈ split text, e ≠ "" ∧ ',' ∉ e.toList ∧ e.toList.head? ≠ some '.' ∧
      ∀ c ∈ e.toList.getLast?, isBlank c = false) ∧
    ((∀ e ∈ split text, ¬BeginsBlank e.toList) ↔
      ∀ piece ∈ splitAt ',' text.toList, ¬BlankAfterDots piece) ∧
    (split (",".intercalate (split text)) = split text ↔
      ∀ piece ∈ splitAt ',' text.toList, ¬BlankAfterDots piece) := by
  refine ⟨fun e he => ?_, ?_, ?_⟩
  · obtain ⟨entry, h, rfl⟩ := List.mem_map.1 he
    have comma := comma_not_mem_entry h
    obtain ⟨piece, -, rfl, nonempty⟩ := mem_entries.1 h
    rw [String.toList_ofList]
    refine ⟨by simpa using nonempty, comma, fun dot => ne_dot_of_head?_normal dot rfl, ?_⟩
    exact fun c hc => isBlank_of_getLast?_normal hc
  · rw [← forall_not_beginsBlank_iff, split_eq, List.forall_mem_map]
    simp only [String.toList_ofList]
  · rw [split_intercalate_split_iff, forall_not_beginsBlank_iff]

/-! ### A blank behind a dot -/

theorem normal_of_bare (h : bare piece = cs) (settled : ∀ c ∈ cs, Settled c) : normal piece = cs := by
  rw [normal_eq, h, Unicode.lowerFrom_of_settled settled]

theorem split_of_bare {text : String} (chars : text.toList = piece) (comma : ',' ∉ piece)
    (h : bare piece = cs) (settled : ∀ c ∈ cs, Settled c) (nonempty : cs ≠ []) :
    split text = [String.ofList cs] := by
  rw [split_eq, entries, chars, Text.splitAt_of_not_mem comma, List.map_singleton,
    normal_of_bare h settled]
  simp [nonempty]

theorem settled_json : ∀ c ∈ [' ', 'j', 's', 'o', 'n'], Settled c := by
  have ascii : ∀ c ∈ [' ', 'j', 's', 'o', 'n'],
      c.toNat ≤ 0x40 ∨ 0x5B ≤ c.toNat ∧ c.toNat ≤ 0x7F := by simp
  intro c hc
  rcases ascii c hc with front | small
  · have mem : (0, 0x40) ∈ Unicode.unchanged := List.mem_cons_of_mem _ List.mem_cons_self
    exact Unicode.settled_of_unchanged mem ⟨Nat.zero_le _, front⟩
  · exact Unicode.settled_of_unchanged List.mem_cons_self small

/-- The white space behind the dot stays in the extension, and is gone when the list is read again. -/
theorem split_blankAfterDot : split ". json" = [" json"] ∧
    split (",".intercalate [" json"]) = ["json"] := by
  have blank := funext Unicode.isBlank_eq
  refine ⟨split_of_bare String.toList_ofList (by decide) ?_ settled_json (List.cons_ne_nil _ _),
    split_of_bare String.toList_ofList (by decide) ?_ (fun c hc => ?_) (List.cons_ne_nil _ _)⟩
  · rw [bare, trim, blank]
    decide
  · rw [bare, trim, blank]
    decide
  · exact settled_json c (List.mem_cons_of_mem _ hc)

end Extension
end JsonSchema
