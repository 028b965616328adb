import JsonSchema.Pattern.Regex
/-!
# What an expression matches

Places in a text are counted from zero. `Regex.Matches text i j` says that an expression matches
what stands between the places `i` and `j`, by recursion on the expression. The search by tails
finds whether there is such a pair of places (`matchesIn_iff`): at a place the expression is
nullable exactly if it matches from there to there (`nullable_iff`), and its tails behind a
character match exactly what it matches beyond that character (`exists_tails_iff`).

A repetition can read the empty text any number of times, so only the copies that read something
are followed. That is right where the least number of copies is not above the greatest (`Bounded`),
for then the copies still due can be empty ones.
-/

namespace JsonSchema.Pattern

variable {text : List Char} {i j k m n : Nat} {c : Char}

/-! ### Places -/

def before (text : List Char) : Nat → Option Char
  | 0 => none
  | i + 1 => text[i]?

def placeAt (text : List Char) (i : Nat) : Place := ⟨before text i, text[i]?⟩

theorem placeAt_of_drop {cs : List Char} (h : text.drop i = c :: cs) :
    placeAt text i = ⟨before text i, some c⟩ ∧ before text (i + 1) = some c ∧
      text.drop (i + 1) = cs := by
  have here : text[i]? = some c := by
    rw [← List.head?_drop, h]
    rfl
  refine ⟨by rw [placeAt, here], here, ?_⟩
  rw [← List.tail_drop, h]
  rfl

/-! ### Copies -/

/-- `n` steps of the relation one after the other. -/
def Copies (R : Nat → Nat → Prop) : Nat → Nat → Nat → Prop
  | 0, i, j => j = i
  | n + 1, i, k => ∃ j, R i j ∧ Copies R n j k

namespace Copies

variable {R : Nat → Nat → Prop}

theorem le (onward : ∀ i j, R i j → i ≤ j) (h : Copies R n i j) : i ≤ j := by
  induction n generalizing i with
  | zero => exact Nat.le_of_eq (Eq.symm h)
  | succ n ih =>
    obtain ⟨m, first, rest⟩ := h
    exact Nat.le_trans (onward i m first) (ih rest)

/-- Empty copies in front. -/
theorem pad (here : R i i) (h : Copies R n i j) (k : Nat) : Copies R (k + n) i j := by
  induction k with
  | zero => rwa [Nat.zero_add]
  | succ k ih =>
    rw [Nat.succ_add]
    exact ⟨i, here, ih⟩

theorem one_of_self (onward : ∀ i j, R i j → i ≤ j) (h : Copies R (n + 1) i i) : R i i := by
  obtain ⟨j, first, rest⟩ := h
  have back : j = i := Nat.le_antisymm (rest.le onward) (onward i j first)
  rwa [back] at first

/-- The first copy that reads something. The copies before it are empty. -/
theorem exists_first (onward : ∀ i j, R i j → i ≤ j) (h : Copies R n i k) (hik : i < k) :
    ∃ j l, i < j ∧ R i j ∧ Copies R l j k ∧ l < n ∧ (R i i ∨ n = l + 1) := by
  induction n with
  | zero => exact absurd h (Nat.ne_of_gt hik)
  | succ n ih =>
    obtain ⟨j, first, rest⟩ := h
    rcases Nat.lt_or_eq_of_le (onward i j first) with reads | rfl
    · exact ⟨j, n, reads, first, rest, Nat.lt_succ_self n, .inr rfl⟩
    · obtain ⟨j, l, reads, next, rest, fewer, -⟩ := ih rest
      exact ⟨j, l, reads, next, rest, Nat.lt_succ_of_lt fewer, .inl first⟩

end Copies

/-! ### Matches -/

namespace Regex

def Allows (min : Nat) (max : Option Nat) (n : Nat) : Prop := min ≤ n ∧ ∀ m ∈ max, n ≤ m

/-- The expression matches the text between two places. -/
def Matches (text : List Char) : Regex → Nat → Nat → Prop
  | empty, i, j => j = i
  | set s, i, j => (∃ c ∈ s, text[i]? = some c) ∧ j = i + 1
  | look l, i, j => l.holds (placeAt text i) = true ∧ j = i
  | seq r s, i, k => ∃ j, r.Matches text i j ∧ s.Matches text j k
  | alt r s, i, j => r.Matches text i j ∨ s.Matches text i j
  | repeated r min max, i, j => ∃ n, Allows min max n ∧ Copies (r.Matches text) n i j

/-- Expressions one after the other match the text between two places. -/
def MatchesAll (text : List Char) : List Regex → Nat → Nat → Prop
  | [], i, j => j = i
  | r :: rs, i, k => ∃ j, r.Matches text i j ∧ MatchesAll text rs j k

/-- No repetition asks for more copies than it allows. -/
def Bounded : Regex → Prop
  | empty | set _ | look _ => True
  | seq r s | alt r s => r.Bounded ∧ s.Bounded
  | repeated r min max => (∀ m ∈ max, min ≤ m) ∧ r.Bounded

variable {r s : Regex} {rs ss : List Regex} {min : Nat} {max : Option Nat}

theorem Matches.le (h : r.Matches text i j) : i ≤ j := by
  induction r generalizing i j with
  | empty => exact Nat.le_of_eq (Eq.symm h)
  | set s =>
    obtain ⟨-, rfl⟩ := h
    exact Nat.le_succ i
  | look l => exact Nat.le_of_eq h.2.symm
  | seq r s ihr ihs =>
    obtain ⟨m, first, second⟩ := h
    exact Nat.le_trans (ihr first) (ihs second)
  | alt r s ihr ihs => exact h.elim ihr ihs
  | repeated r min max ih =>
    obtain ⟨n, -, copies⟩ := h
    exact copies.le fun _ _ => ih

theorem Matches.le_length (h : r.Matches text i j) (hi : i ≤ text.length) : j ≤ text.length := by
  induction r generalizing i j with
  | empty => exact Eq.symm h ▸ hi
  | set s =>
    obtain ⟨⟨c, -, here⟩, rfl⟩ := h
    exact (List.getElem?_eq_some_iff.1 here).1
  | look l => exact h.2 ▸ hi
  | seq r s ihr ihs =>
    obtain ⟨m, first, second⟩ := h
    exact ihs second (ihr first hi)
  | alt r s ihr ihs => exact h.elim (ihr · hi) (ihs · hi)
  | repeated r min max ih =>
    obtain ⟨n, -, copies⟩ := h
    clear min max
    induction n generalizing i with
    | zero => exact Eq.symm copies ▸ hi
    | succ n again =>
      obtain ⟨m, first, rest⟩ := copies
      exact again (ih first hi) rest

theorem MatchesAll.le (h : MatchesAll text rs i j) : i ≤ j := by
  induction rs generalizing i with
  | nil => exact Nat.le_of_eq (Eq.symm h)
  | cons r rs ih =>
    obtain ⟨m, first, rest⟩ := h
    exact Nat.le_trans first.le (ih rest)

theorem MatchesAll.le_length (h : MatchesAll text rs i j) (hi : i ≤ text.length) :
    j ≤ text.length := by
  induction rs generalizing i with
  | nil => exact Eq.symm h ▸ hi
  | cons r rs ih =>
    obtain ⟨m, first, rest⟩ := h
    exact ih rest (first.le_length hi)

theorem matchesAll_append : MatchesAll text (rs ++ ss) i k ↔
    ∃ j, MatchesAll text rs i j ∧ MatchesAll text ss j k := by
  induction rs generalizing i with
  | nil => simp [MatchesAll]
  | cons r rs ih =>
    simp only [List.cons_append, MatchesAll, ih]
    constructor
    · rintro ⟨m, first, j, rest, behind⟩
      exact ⟨j, ⟨m, first, rest⟩, behind⟩
    · rintro ⟨j, ⟨m, first, rest⟩, behind⟩
      exact ⟨m, first, j, rest, behind⟩

theorem matchesAll_singleton : MatchesAll text [r] i j ↔ r.Matches text i j := by
  simp [MatchesAll]

/-! ### Nullability -/

theorem nullable_iff (h : r.Bounded) :
    r.nullable (placeAt text i) = true ↔ r.Matches text i i := by
  induction r generalizing i with
  | empty => simp [nullable, Matches]
  | set s => simp [nullable, Matches]
  | look l => simp [nullable, Matches]
  | seq r s ihr ihs =>
    simp only [nullable, Bool.and_eq_true, ihr h.1, ihs h.2, Matches]
    constructor
    · rintro ⟨first, second⟩
      exact ⟨i, first, second⟩
    · rintro ⟨j, first, second⟩
      have back : j = i := Nat.le_antisymm second.le first.le
      rw [back] at first second
      exact ⟨first, second⟩
  | alt r s ihr ihs => simp only [nullable, Bool.or_eq_true, ihr h.1, ihs h.2, Matches]
  | repeated r min max ih =>
    simp only [nullable, Bool.or_eq_true, decide_eq_true_eq, ih h.2, Matches]
    constructor
    · rintro (rfl | here)
      · exact ⟨0, ⟨Nat.le_refl 0, fun m _ => Nat.zero_le m⟩, rfl⟩
      · have none : Copies (r.Matches text) 0 i i := rfl
        exact ⟨min, ⟨Nat.le_refl min, h.1⟩, none.pad here min⟩
    · rintro ⟨n, ⟨least, -⟩, copies⟩
      cases n with
      | zero => exact .inl (Nat.le_zero.1 least)
      | succ n => exact .inr (copies.one_of_self fun _ _ => Matches.le)

theorem allNullable_iff (h : ∀ r ∈ rs, r.Bounded) :
    allNullable (placeAt text i) rs = true ↔ MatchesAll text rs i i := by
  induction rs with
  | nil => simp [allNullable, MatchesAll]
  | cons r rs ih =>
    obtain ⟨hr, hrs⟩ := List.forall_mem_cons.1 h
    have rest := ih hrs
    simp only [allNullable, List.all_cons, Bool.and_eq_true, nullable_iff hr, MatchesAll] at rest ⊢
    rw [rest]
    constructor
    · rintro ⟨first, rest⟩
      exact ⟨i, first, rest⟩
    · rintro ⟨j, first, rest⟩
      have back : j = i := Nat.le_antisymm rest.le first.le
      rw [back] at first rest
      exact ⟨first, rest⟩

/-! ### Tails -/

/-- What is matched by tails with more expressions behind them. -/
theorem exists_map_append {ts : List (List Regex)} {P : Nat → Prop} (rs : List Regex)
    (h : ∀ j, (∃ t ∈ ts, MatchesAll text t m j) ↔ P j) :
    (∃ t ∈ ts.map (· ++ rs), MatchesAll text t m k) ↔ ∃ j, P j ∧ MatchesAll text rs j k := by
  simp only [List.mem_map, ← h]
  constructor
  · rintro ⟨_, ⟨t, ht, rfl⟩, both⟩
    obtain ⟨j, front, back⟩ := matchesAll_append.1 both
    exact ⟨j, ⟨t, ht, front⟩, back⟩
  · rintro ⟨j, ⟨t, ht, front⟩, back⟩
    exact ⟨t ++ rs, ⟨t, ht, rfl⟩, matchesAll_append.2 ⟨j, front, back⟩⟩

/-- A repetition that reads something does so first with one copy, and the copies still due may be
empty if a copy can be. -/
theorem matches_repeated_iff (h : (repeated r min max).Bounded) :
    (max ≠ some 0 ∧ ∃ j, (i < j ∧ r.Matches text i j) ∧
      (repeated r (if r.nullable (placeAt text i) = true then 0 else min - 1)
        (max.map (· - 1))).Matches text j k) ↔
    i < k ∧ (repeated r min max).Matches text i k := by
  obtain ⟨least, bounded⟩ := h
  simp only [Matches]
  constructor
  · rintro ⟨some, j, ⟨reads, first⟩, n, ⟨enough, notMany⟩, rest⟩
    have copies : Copies (r.Matches text) (n + 1) i k := ⟨j, first, rest⟩
    have more : ∀ m ∈ max, n + 1 ≤ m := by
      rintro m rfl
      have := notMany (m - 1) rfl
      have : m ≠ 0 := fun zero => some (congrArg _ zero)
      omega
    refine ⟨Nat.lt_of_lt_of_le reads (rest.le fun _ _ => Matches.le), ?_⟩
    -- copies that are still due are empty ones, so they may as well come first
    by_cases due : min ≤ n + 1
    · exact ⟨n + 1, ⟨due, more⟩, copies⟩
    · have here : r.Matches text i i := by
        rw [← nullable_iff bounded]
        split at enough
        · assumption
        · omega
      have padded := copies.pad here (min - (n + 1))
      rw [Nat.sub_add_cancel (Nat.le_of_not_le due)] at padded
      exact ⟨min, ⟨Nat.le_refl min, least⟩, padded⟩
  · rintro ⟨onward, n, ⟨enough, notMany⟩, copies⟩
    obtain ⟨j, l, reads, first, rest, fewer, empty⟩ :=
      copies.exists_first (fun _ _ => Matches.le) onward
    refine ⟨?_, j, ⟨reads, first⟩, l, ⟨?_, ?_⟩, rest⟩
    · rintro rfl
      have := notMany 0 rfl
      omega
    · split
      · exact Nat.zero_le l
      next none =>
        rw [nullable_iff bounded] at none
        have : n = l + 1 := empty.resolve_left none
        omega
    · intro m hm
      obtain ⟨m, rfl, rfl⟩ := Option.map_eq_some_iff.1 hm
      have := notMany m rfl
      omega

/-- What is read by two parts is read beyond a place by the first, or else by the second where the
first is empty. -/
theorem onward_iff {Q : Nat → Nat → Prop} (onward : ∀ i j, Q i j → i ≤ j) :
    (∃ j, (i < j ∧ r.Matches text i j) ∧ Q j k) ∨ r.Matches text i i ∧ i < k ∧ Q i k ↔
      i < k ∧ ∃ j, r.Matches text i j ∧ Q j k := by
  constructor
  · rintro (⟨j, ⟨reads, first⟩, rest⟩ | ⟨here, reads, rest⟩)
    · exact ⟨Nat.lt_of_lt_of_le reads (onward j k rest), j, first, rest⟩
    · exact ⟨reads, i, here, rest⟩
  · rintro ⟨reads, j, first, rest⟩
    rcases Nat.lt_or_eq_of_le first.le with beyond | rfl
    · exact .inl ⟨j, ⟨beyond, first⟩, rest⟩
    · exact .inr ⟨first, reads, rest⟩

/-- The tails behind a character match what the expression matches beyond it. -/
theorem exists_tails_iff (h : r.Bounded) (hc : text[i]? = some c) :
    (∃ t ∈ r.tails (placeAt text i) c, MatchesAll text t (i + 1) k) ↔
      i < k ∧ r.Matches text i k := by
  induction r generalizing k with
  | empty =>
    simp only [tails, Matches]
    exact iff_of_false (by simp) (by omega)
  | set s =>
    simp only [tails, Matches, hc]
    by_cases member : c ∈ s
    · simp [MatchesAll, member]
      omega
    · simp [member]
  | look l =>
    simp only [tails, Matches]
    exact iff_of_false (by simp) (by omega)
  | seq r s ihr ihs =>
    have front := exists_map_append [s] (k := k) fun j => ihr (k := j) h.1
    simp only [matchesAll_singleton] at front
    simp only [tails, List.mem_append, or_and_right, exists_or, front, List.mem_ite_nil_right,
      and_assoc, exists_and_left, nullable_iff h.1, ihs h.2, Matches]
    simpa only [and_assoc] using onward_iff fun _ _ => Matches.le
  | alt r s ihr ihs =>
    simp only [tails, List.mem_append, or_and_right, exists_or, ihr h.1, ihs h.2, Matches,
      and_or_left]
  | repeated r min max ih =>
    let due := repeated r (if r.nullable (placeAt text i) = true then 0 else min - 1)
      (max.map (· - 1))
    have front := exists_map_append [due] (k := k) fun j => ih (k := j) h.2
    rw [← matches_repeated_iff h, tails]
    split
    next none => simp [none]
    next some =>
      rw [front, and_iff_right some]
      exact exists_congr fun j => and_congr_right fun _ => matchesAll_singleton

theorem exists_tailsOf_iff (h : ∀ r ∈ rs, r.Bounded) (hc : text[i]? = some c) :
    (∃ t ∈ tailsOf (placeAt text i) c rs, MatchesAll text t (i + 1) k) ↔
      i < k ∧ MatchesAll text rs i k := by
  induction rs generalizing k with
  | nil =>
    simp only [tailsOf, MatchesAll]
    exact iff_of_false (by simp) (by omega)
  | cons r rs ih =>
    obtain ⟨hr, hrs⟩ := List.forall_mem_cons.1 h
    have front := exists_map_append rs (k := k) fun j => exists_tails_iff (k := j) hr hc
    simp only [tailsOf, List.mem_append, or_and_right, exists_or, front, List.mem_ite_nil_right,
      and_assoc, exists_and_left, nullable_iff hr, ih hrs, MatchesAll]
    simpa only [and_assoc] using onward_iff fun _ _ => MatchesAll.le

theorem bounded_of_mem_tails {p : Place} {t : List Regex} (h : r.Bounded) (ht : t ∈ r.tails p c)
    (hs : s ∈ t) : s.Bounded := by
  induction r generalizing t with
  | empty => cases ht
  | set s' =>
    rw [tails] at ht
    split at ht
    · rw [List.mem_singleton.1 ht] at hs
      cases hs
    · cases ht
  | look l => cases ht
  | seq r s' ihr ihs =>
    rw [tails, List.mem_append, List.mem_ite_nil_right, List.mem_map] at ht
    rcases ht with ⟨t, ht, rfl⟩ | ⟨-, ht⟩
    · rcases List.mem_append.1 hs with hs | hs
      · exact ihr h.1 ht hs
      · exact List.mem_singleton.1 hs ▸ h.2
    · exact ihs h.2 ht hs
  | alt r s' ihr ihs =>
    rw [tails, List.mem_append] at ht
    exact ht.elim (ihr h.1 · hs) (ihs h.2 · hs)
  | repeated r min max ih =>
    rw [tails] at ht
    split at ht
    · cases ht
    · obtain ⟨t, among, rfl⟩ := List.mem_map.1 ht
      rcases List.mem_append.1 hs with hs | hs
      · exact ih h.2 among hs
      · rw [List.mem_singleton.1 hs]
        refine ⟨fun m hm => ?_, h.2⟩
        obtain ⟨m, rfl, rfl⟩ := Option.map_eq_some_iff.1 hm
        have := h.1 m rfl
        split <;> omega

theorem bounded_of_mem_tailsOf {p : Place} {t : List Regex} (h : ∀ r ∈ rs, r.Bounded)
    (ht : t ∈ tailsOf p c rs) : ∀ s ∈ t, s.Bounded := by
  induction rs with
  | nil => cases ht
  | cons r rs ih =>
    obtain ⟨hr, hrs⟩ := List.forall_mem_cons.1 h
    rw [tailsOf, List.mem_append, List.mem_ite_nil_right, List.mem_map] at ht
    rcases ht with ⟨t, ht, rfl⟩ | ⟨-, ht⟩
    · exact List.forall_mem_append.2 ⟨fun s => bounded_of_mem_tails hr ht, hrs⟩
    · exact ih hrs ht

/-! ### The search -/

theorem exists_matchesAll_iff : (∃ k, MatchesAll text rs i k) ↔
    MatchesAll text rs i i ∨ ∃ k, i < k ∧ MatchesAll text rs i k := by
  constructor
  · rintro ⟨k, all⟩
    rcases Nat.lt_or_eq_of_le all.le with beyond | rfl
    · exact .inr ⟨k, beyond, all⟩
    · exact .inl all
  · rintro (here | ⟨k, -, all⟩)
    · exact ⟨i, here⟩
    · exact ⟨k, all⟩

/-- One of the matches that have begun comes to an end, or one that begins at the place or later
does. -/
def Found (text : List Char) (r : Regex) (begun : List (List Regex)) (i : Nat) : Prop :=
  (∃ rs ∈ begun, ∃ k, MatchesAll text rs i k) ∨
    ∃ j k, i ≤ j ∧ j ≤ text.length ∧ r.Matches text j k

variable {begun : List (List Regex)} {cs : List Char}

/-- A match that begins at the place is one of those that have begun. -/
theorem found_iff (hi : i ≤ text.length) : Found text r begun i ↔
    (∃ rs ∈ [r] :: begun, ∃ k, MatchesAll text rs i k) ∨
      ∃ j k, i + 1 ≤ j ∧ j ≤ text.length ∧ r.Matches text j k := by
  simp only [Found, List.mem_cons, exists_eq_or_imp, matchesAll_singleton]
  constructor
  · rintro (old | ⟨j, k, hij, hj, new⟩)
    · exact .inl (.inr old)
    · rcases Nat.lt_or_eq_of_le hij with later | rfl
      · exact .inr ⟨j, k, later, hj, new⟩
      · exact .inl (.inl ⟨k, new⟩)
  · rintro ((⟨k, new⟩ | old) | ⟨j, k, hij, hj, new⟩)
    · exact .inr ⟨i, k, Nat.le_refl i, hi, new⟩
    · exact .inl old
    · exact .inr ⟨j, k, Nat.le_of_succ_le hij, hj, new⟩

theorem any_allNullable_iff (h : ∀ rs ∈ begun, ∀ s ∈ rs, s.Bounded) :
    begun.any (allNullable (placeAt text i)) = true ↔ ∃ rs ∈ begun, MatchesAll text rs i i := by
  rw [List.any_eq_true]
  exact exists_congr fun rs => and_congr_right fun hrs => allNullable_iff (h rs hrs)

theorem exists_flatMap_tailsOf_iff (h : ∀ rs ∈ begun, ∀ s ∈ rs, s.Bounded)
    (hc : text[i]? = some c) :
    (∃ t ∈ (begun.flatMap (tailsOf (placeAt text i) c)).eraseDups,
      ∃ k, MatchesAll text t (i + 1) k) ↔
    ∃ rs ∈ begun, ∃ k, i < k ∧ MatchesAll text rs i k := by
  simp only [List.mem_eraseDups, List.mem_flatMap]
  constructor
  · rintro ⟨t, ⟨rs, hrs, ht⟩, k, all⟩
    exact ⟨rs, hrs, k, (exists_tailsOf_iff (h rs hrs) hc).1 ⟨t, ht, all⟩⟩
  · rintro ⟨rs, hrs, k, all⟩
    obtain ⟨t, ht, all⟩ := (exists_tailsOf_iff (h rs hrs) hc).2 all
    exact ⟨t, ⟨rs, hrs, ht⟩, k, all⟩

theorem searchFrom_iff (hr : r.Bounded) (hbegun : ∀ rs ∈ begun, ∀ s ∈ rs, s.Bounded)
    (hi : i ≤ text.length) (hcs : text.drop i = cs) :
    searchFrom r (before text i) begun cs = true ↔ Found text r begun i := by
  have live {begun : List (List Regex)} (h : ∀ rs ∈ begun, ∀ s ∈ rs, s.Bounded) :
      ∀ rs ∈ [r] :: begun, ∀ s ∈ rs, s.Bounded :=
    List.forall_mem_cons.2 ⟨by simpa using hr, h⟩
  -- on the text that is left, whatever has begun before it
  induction cs generalizing i begun with
  | nil =>
    have last : i = text.length := Nat.le_antisymm hi (List.drop_eq_nil_iff.1 hcs)
    have place : placeAt text i = ⟨before text i, none⟩ := by
      rw [placeAt, List.getElem?_eq_none (Nat.le_of_eq last.symm)]
    have no_later : ¬∃ j k, i + 1 ≤ j ∧ j ≤ text.length ∧ r.Matches text j k := by
      rintro ⟨j, k, hij, hj, -⟩
      omega
    rw [searchFrom, ← place, any_allNullable_iff (live hbegun), found_iff hi,
      or_iff_left no_later]
    refine exists_congr fun rs => and_congr_right fun _ => ?_
    rw [exists_matchesAll_iff, or_iff_left]
    rintro ⟨k, beyond, all⟩
    have := all.le_length hi
    omega
  | cons c cs ih =>
    obtain ⟨place, next, rest⟩ := placeAt_of_drop hcs
    have here : text[i]? = some c := next
    have inside : i + 1 ≤ text.length := (List.getElem?_eq_some_iff.1 here).1
    let begun' := (([r] :: begun).flatMap (tailsOf (placeAt text i) c)).eraseDups
    have bounded : ∀ t ∈ begun', ∀ s ∈ t, s.Bounded := by
      intro t ht
      obtain ⟨rs, hrs, ht⟩ := List.mem_flatMap.1 (List.mem_eraseDups.1 ht)
      exact bounded_of_mem_tailsOf (live hbegun rs hrs) ht
    have onward : searchFrom r (some c) begun' cs = true ↔ Found text r begun' (i + 1) :=
      next ▸ ih bounded inside rest
    rw [searchFrom, ← place, Bool.or_eq_true, onward, Found, any_allNullable_iff (live hbegun),
      exists_flatMap_tailsOf_iff (live hbegun) here, found_iff hi, ← or_assoc, ← exists_or]
    simp only [← and_or_left, ← exists_matchesAll_iff]

/-- The search finds whether the expression matches some part of a text. -/
theorem matchesIn_iff (h : r.Bounded) :
    r.matchesIn text = true ↔ ∃ i j, i ≤ text.length ∧ r.Matches text i j := by
  have none : ∀ rs ∈ ([] : List (List Regex)), ∀ s ∈ rs, s.Bounded := by simp
  refine (searchFrom_iff (i := 0) h none (Nat.zero_le _) rfl).trans ?_
  simp [Found]

end Regex
end JsonSchema.Pattern
