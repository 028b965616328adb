import JsonSchema.Proofs.Grammar
import JsonSchema.Proofs.Pattern.Bounds
/-!
# The language of an expression

An expression without assertions matches the words of a language, wherever they stand
(`matches_iff`). A pattern that is anchored at both ends and has no other assertions matches the
texts of the language of what stands between the anchors (`exists_compile_anchored`).
-/

namespace JsonSchema.Pattern

open Grammar
open scoped Computability

variable {text w : List Char} {i j k n : Nat} {c : Char} {A B : Language Char}

/-! ### Words at a place -/

/-- A word of the language stands between two places. -/
def Spans (text : List Char) (L : Language Char) (i j : Nat) : Prop :=
  ∃ w ∈ L, w <+: text.drop i ∧ j = i + w.length

theorem spans_epsilon : Spans text 1 i j ↔ j = i := by
  constructor
  · rintro ⟨w, rfl, -, rfl⟩
    rfl
  · rintro rfl
    exact ⟨[], rfl, List.nil_prefix, rfl⟩

theorem spans_add : Spans text (A + B) i j ↔ Spans text A i j ∨ Spans text B i j := by
  simp only [Spans, Language.mem_add, or_and_right, exists_or]

theorem append_prefix_drop {u v : List Char} : u ++ v <+: text.drop i ↔
    u <+: text.drop i ∧ v <+: text.drop (i + u.length) := by
  rw [← List.drop_drop]
  constructor
  · rintro ⟨r, hr⟩
    rw [← hr, List.append_assoc, List.drop_left]
    exact ⟨List.prefix_append _ _, List.prefix_append _ _⟩
  · rintro ⟨⟨r, hr⟩, hv⟩
    rw [← hr, List.drop_left] at hv
    rw [← hr]
    exact (List.prefix_append_right_inj u).2 hv

theorem spans_mul : Spans text (A * B) i k ↔ ∃ j, Spans text A i j ∧ Spans text B j k := by
  constructor
  · rintro ⟨_, ⟨u, hu, v, hv, rfl⟩, here, rfl⟩
    obtain ⟨front, back⟩ := append_prefix_drop.1 here
    exact ⟨_, ⟨u, hu, front, rfl⟩, v, hv, back, by simp [Nat.add_assoc]⟩
  · rintro ⟨_, ⟨u, hu, front, rfl⟩, v, hv, back, rfl⟩
    exact ⟨u ++ v, Language.append_mem_mul hu hv, append_prefix_drop.2 ⟨front, back⟩, by
      simp [Nat.add_assoc]⟩

theorem spans_one {p : Char → Prop} :
    Spans text (one p) i j ↔ (∃ c, p c ∧ text[i]? = some c) ∧ j = i + 1 := by
  have first {c : Char} : [c] <+: text.drop i ↔ text[i]? = some c := by
    rw [← List.head?_drop]
    cases text.drop i <;> simp [eq_comm]
  constructor
  · rintro ⟨_, ⟨c, hc, rfl⟩, here, rfl⟩
    exact ⟨⟨c, hc, first.1 here⟩, rfl⟩
  · rintro ⟨⟨c, hc, here⟩, rfl⟩
    exact ⟨[c], ⟨c, hc, rfl⟩, first.2 here, rfl⟩

theorem spans_pow {R : Nat → Nat → Prop} (h : ∀ i j, R i j ↔ Spans text A i j) :
    Copies R n i j ↔ Spans text (A ^ n) i j := by
  induction n generalizing i with
  | zero => exact spans_epsilon.symm
  | succ n ih =>
    rw [pow_succ', spans_mul]
    exact exists_congr fun m => and_congr (h i m) ih

/-- A word that stands between the ends of a text is the text. -/
theorem spans_text_iff : Spans text A 0 text.length ↔ text ∈ A := by
  constructor
  · rintro ⟨w, hw, here, length⟩
    rw [Nat.zero_add] at length
    rw [List.drop_zero] at here
    rwa [← here.eq_of_length length.symm]
  · exact fun h => ⟨text, h, List.prefix_rfl, (Nat.zero_add _).symm⟩

/-! ### Sets -/

namespace CharSet

variable {rs ss : List (Char × Char)} {d : Char} {s : String}

theorem mem_range {a b : Char} : c ∈ range a b ↔ a ≤ c ∧ c ≤ b := by
  show (range a b).mem c.toNat = true ↔ _
  simp [mem, Char.le_def, UInt32.le_iff_toNat_le]

theorem mem_union {s t : CharSet} : c ∈ union s t ↔ c ∈ s ∨ c ∈ t :=
  Bool.or_eq_true_iff

theorem mem_compl {s : CharSet} : c ∈ compl s ↔ c ∉ s := by
  show (compl s).mem c.toNat = true ↔ ¬s.mem c.toNat = true
  simp [mem]

theorem le_and_le_iff : d ≤ c ∧ c ≤ d ↔ c = d :=
  ⟨fun h => Char.le_antisymm h.2 h.1, fun h => h ▸ ⟨Char.le_refl _, Char.le_refl _⟩⟩

theorem mem_single : c ∈ single d ↔ c = d := mem_range.trans le_and_le_iff

/-- The union of ranges as a class is read, without an empty set behind the last. -/
def classOf : List (Char × Char) → CharSet
  | [] => empty
  | [r] => range r.1 r.2
  | r :: rs => union (range r.1 r.2) (classOf rs)

theorem mem_classOf : c ∈ classOf rs ↔ ∃ r ∈ rs, r.1 ≤ c ∧ c ≤ r.2 := by
  fun_induction classOf rs with
  | case1 => exact iff_of_false Bool.false_ne_true (by simp)
  | case2 r => simp [mem_range]
  | case3 r rs _ ih => rw [mem_union, mem_range, ih, List.exists_mem_cons_iff]

theorem mem_classOf_append : c ∈ classOf (rs ++ ss) ↔ c ∈ classOf rs ∨ c ∈ classOf ss := by
  simp only [mem_classOf, List.mem_append, or_and_right, exists_or]

/-- The characters of a text, each a range of its own. -/
def singles (s : String) : List (Char × Char) := s.toList.map fun c => (c, c)

theorem mem_classOf_singles : c ∈ classOf (singles s) ↔ c ∈ s.toList := by
  simp [mem_classOf, singles, le_and_le_iff]

end CharSet

/-! ### Expressions -/

namespace Regex

/-- The words that an expression without assertions matches. -/
def lang : Regex → Language Char
  | empty => 1
  | set s => one (· ∈ s)
  | look _ => 0
  | seq r s => r.lang * s.lang
  | alt r s => r.lang + s.lang
  | repeated r min max => {w | ∃ n, Allows min max n ∧ w ∈ r.lang ^ n}

/-- Whether an expression has no assertions. -/
def isPlain : Regex → Bool
  | empty | set _ => true
  | look _ => false
  | seq r s | alt r s => r.isPlain && s.isPlain
  | repeated r _ _ => r.isPlain

variable {r : Regex} {rs : List Regex}

theorem matches_iff (h : r.isPlain = true) : r.Matches text i j ↔ Spans text r.lang i j := by
  induction r generalizing i j with
  | empty => exact spans_epsilon.symm
  | set s => exact spans_one.symm
  | look l => cases h
  | seq r s ihr ihs =>
    rw [isPlain, Bool.and_eq_true] at h
    rw [lang, spans_mul]
    exact exists_congr fun m => and_congr (ihr h.1) (ihs h.2)
  | alt r s ihr ihs =>
    rw [isPlain, Bool.and_eq_true] at h
    rw [lang, spans_add]
    exact or_congr (ihr h.1) (ihs h.2)
  | repeated r min max ih =>
    simp only [Matches, spans_pow fun _ _ => ih h]
    constructor
    · rintro ⟨n, allowed, w, hw, here⟩
      exact ⟨w, ⟨n, allowed, hw⟩, here⟩
    · rintro ⟨w, ⟨n, allowed, hw⟩, here⟩
      exact ⟨n, allowed, w, hw, here⟩

@[simp] theorem lang_empty : empty.lang = 1 := rfl

@[simp] theorem lang_alt {s : Regex} : (alt r s).lang = r.lang + s.lang := rfl

@[simp] theorem lang_any : (repeated r 0 none).lang = r.lang∗ := by
  ext w
  rw [Language.kstar_eq_iSup_pow, Language.mem_iSup]
  exact exists_congr fun n => and_iff_right ⟨Nat.zero_le n, by simp⟩

@[simp] theorem lang_some : (repeated r 1 none).lang = r.lang * r.lang∗ := by
  ext w
  rw [Language.kstar_eq_iSup_pow, Language.mul_iSup, Language.mem_iSup]
  constructor
  · rintro ⟨n, ⟨least, -⟩, hw⟩
    refine ⟨n - 1, ?_⟩
    rwa [← pow_succ', Nat.sub_add_cancel least]
  · rintro ⟨n, hw⟩
    rw [← pow_succ'] at hw
    exact ⟨n + 1, ⟨Nat.le_add_left 1 n, by simp⟩, hw⟩

@[simp] theorem lang_option : (repeated r 0 (some 1)).lang = opt r.lang := by
  ext w
  rw [mem_opt]
  constructor
  · rintro ⟨n, ⟨-, most⟩, hw⟩
    rcases Nat.le_one_iff_eq_zero_or_eq_one.1 (most 1 rfl) with rfl | rfl
    · exact .inl hw
    · rw [pow_one] at hw
      exact .inr hw
  · rintro (rfl | hw)
    · exact ⟨0, ⟨Nat.le_refl 0, by simp⟩, rfl⟩
    · exact ⟨1, ⟨Nat.zero_le 1, by simp⟩, by rwa [pow_one]⟩

@[simp] theorem lang_times (n : Nat) : (repeated r n (some n)).lang = r.lang ^ n := by
  ext w
  constructor
  · rintro ⟨m, ⟨least, most⟩, hw⟩
    rwa [Nat.le_antisymm least (most n rfl)]
  · intro hw
    refine ⟨n, ⟨Nat.le_refl n, ?_⟩, hw⟩
    rintro m ⟨⟩
    exact Nat.le_refl n

/-! ### Classes and sequences -/

/-- One given character. -/
def char (c : Char) : Regex := set (.single c)

/-- One of the characters in some ranges. -/
def oneOf (rs : List (Char × Char)) : Regex := set (.classOf rs)

@[simp] theorem lang_char : (char c).lang = Grammar.char c :=
  one_congr fun _ => CharSet.mem_single

@[simp] theorem lang_oneOf {rs : List (Char × Char)} :
    (oneOf rs).lang = one (· ∈ CharSet.classOf rs) := rfl

def inOrder (rs : List Regex) : Regex := rs.foldr seq empty

@[simp] theorem lang_inOrder_nil : (inOrder []).lang = 1 := rfl

@[simp] theorem lang_inOrder_cons : (inOrder (r :: rs)).lang = r.lang * (inOrder rs).lang := rfl

@[simp] theorem lang_inOrder_append {ss : List Regex} :
    (inOrder (rs ++ ss)).lang = (inOrder rs).lang * (inOrder ss).lang := by
  induction rs with
  | nil => rw [List.nil_append, lang_inOrder_nil, one_mul]
  | cons r rs ih => rw [List.cons_append, lang_inOrder_cons, lang_inOrder_cons, ih, mul_assoc]

theorem matches_inOrder : (inOrder rs).Matches text i j ↔ MatchesAll text rs i j := by
  induction rs generalizing i with
  | nil => exact Iff.rfl
  | cons r rs ih => exact exists_congr fun m => and_congr_right fun _ => ih

theorem mem_upTo {rs : List (Char × Char)} :
    w ∈ (repeated (oneOf rs) 0 (some n)).lang ↔ w.length ≤ n ∧ ∀ c ∈ w, c ∈ CharSet.classOf rs := by
  constructor
  · rintro ⟨m, ⟨-, most⟩, hw⟩
    obtain ⟨rfl, each⟩ := mem_one_pow.1 hw
    exact ⟨most n rfl, each⟩
  · rintro ⟨most, each⟩
    exact ⟨w.length, ⟨Nat.zero_le _, by simpa using most⟩, mem_one_pow.2 ⟨rfl, each⟩⟩

/-! ### Anchors -/

/-- The expressions one after the other, from one end of the text to the other. -/
def anchored (rs : List Regex) : Regex := inOrder (look .textStart :: (rs ++ [look .textEnd]))

theorem matches_textStart (hi : i ≤ text.length) :
    (look .textStart).Matches text i j ↔ i = 0 ∧ j = 0 := by
  cases i with
  | zero => simp [Matches, Look.holds, placeAt, before]
  | succ i =>
    have inside : text[i]? = some text[i] := List.getElem?_eq_getElem hi
    simp [Matches, Look.holds, placeAt, before, inside]

theorem matches_textEnd (hi : i ≤ text.length) :
    (look .textEnd).Matches text i j ↔ i = text.length ∧ j = text.length := by
  simp only [Matches, Look.holds, placeAt, Option.isNone_iff_eq_none, List.getElem?_eq_none_iff]
  omega

theorem matches_anchored (plain : (inOrder rs).isPlain = true) (hi : i ≤ text.length) :
    (anchored rs).Matches text i j ↔
      i = 0 ∧ j = text.length ∧ text ∈ (inOrder rs).lang := by
  have parts : (anchored rs).Matches text i j ↔ ∃ m, (look .textStart).Matches text i m ∧
      ∃ k, (inOrder rs).Matches text m k ∧ (look .textEnd).Matches text k j := by
    simp only [anchored, matches_inOrder, MatchesAll, matchesAll_append, exists_eq_right']
  rw [parts]
  constructor
  · rintro ⟨m, start, k, middle, finish⟩
    obtain ⟨rfl, rfl⟩ := (matches_textStart hi).1 start
    obtain ⟨rfl, rfl⟩ := (matches_textEnd (middle.le_length hi)).1 finish
    exact ⟨rfl, rfl, spans_text_iff.1 ((matches_iff plain).1 middle)⟩
  · rintro ⟨rfl, rfl, htext⟩
    have middle := (matches_iff plain).2 (spans_text_iff.2 htext)
    exact ⟨0, (matches_textStart hi).2 ⟨rfl, rfl⟩, text.length, middle,
      (matches_textEnd (Nat.le_refl _)).2 ⟨rfl, rfl⟩⟩

theorem matchesIn_anchored (plain : (inOrder rs).isPlain = true) (h : (anchored rs).Bounded) :
    (anchored rs).matchesIn text = true ↔ text ∈ (inOrder rs).lang := by
  rw [matchesIn_iff h]
  constructor
  · rintro ⟨i, j, hi, found⟩
    exact ((matches_anchored plain hi).1 found).2.2
  · intro htext
    have start : 0 ≤ text.length := Nat.zero_le _
    exact ⟨0, text.length, start, (matches_anchored plain start).2 ⟨rfl, rfl, htext⟩⟩

end Regex

/-- What a pattern matches that is anchored at both ends. -/
theorem exists_compile_anchored {source : String} {rs : List Regex}
    (read : Regex.read? source = some (.anchored rs))
    (plain : (Regex.inOrder rs).isPlain = true) :
    ∃ p, compile? source = some p ∧
      ∀ s, p.isMatch s = true ↔ s.toList ∈ (Regex.inOrder rs).lang := by
  refine ⟨⟨source, .anchored rs⟩, ?_, fun s => ?_⟩
  · rw [compile?, read]
    rfl
  · exact Regex.matchesIn_anchored plain (Regex.bounded_of_read? read)

theorem exists_compile_check {source : String} {rs : List Regex} {check : List Char → Bool}
    (read : Regex.read? source = some (.anchored rs)) (plain : (Regex.inOrder rs).isPlain = true)
    (h : ∀ cs, cs ∈ (Regex.inOrder rs).lang ↔ check cs = true) :
    ∃ p, compile? source = some p ∧ ∀ s, p.isMatch s = check s.toList := by
  obtain ⟨p, compiled, matched⟩ := exists_compile_anchored read plain
  exact ⟨p, compiled, fun s => Bool.eq_iff_iff.2 ((matched s).trans (h s.toList))⟩

end JsonSchema.Pattern
