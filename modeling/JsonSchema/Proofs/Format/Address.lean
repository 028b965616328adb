import Mathlib.Data.List.Infix
import Mathlib.Tactic.IntervalCases
import JsonSchema.Format
import JsonSchema.Proofs.Grammar
import JsonSchema.Proofs.Text.Digits
/-!
# Addresses

The grammar of addresses as RFC 3986 writes it, and that the checks of the formats `ipv4` and `ipv6`
read exactly its texts (`isIPv4_iff`, `isIPv6_iff`). The nine lines of the grammar for addresses of
version 6 say that there are eight groups, or up to seven around an elision (`mem_ipv6Address`); in
front of the elision no two colons stand together, so it is found at the first two that do.
-/

namespace JsonSchema

namespace Grammar

open scoped Computability

/-- The characters from one to another. -/
def range (a b : Char) : Language Char := one fun c => a ≤ c ∧ c ≤ b

def digit : Language Char := range '0' '9'

def hexdig : Language Char := digit + range 'a' 'f' + range 'A' 'F'

/-- The numbers from 0 to 255. -/
def decOctet : Language Char :=
  digit +
  range '1' '9' * digit +
  char '1' * digit * digit +
  char '2' * range '0' '4' * digit +
  char '2' * char '5' * range '0' '5'

def ipv4Address : Language Char :=
  decOctet * char '.' * decOctet * char '.' * decOctet * char '.' * decOctet

/-- One to four hexadecimal digits. -/
def h16 : Language Char := hexdig + hexdig ^ 2 + hexdig ^ 3 + hexdig ^ 4

/-- The last two groups. -/
def ls32 : Language Char := h16 * char ':' * h16 + ipv4Address

/-- Up to `n` times. -/
def upTo (n : Nat) (L : Language Char) : Language Char := {w | ∃ k ≤ n, w ∈ L ^ k}

/-- What stands for groups that are left out. -/
def elision : Language Char := char ':' * char ':'

def ipv6Address : Language Char :=
  (h16 * char ':') ^ 6 * ls32 +
  elision * (h16 * char ':') ^ 5 * ls32 +
  opt h16 * elision * (h16 * char ':') ^ 4 * ls32 +
  opt (upTo 1 (h16 * char ':') * h16) * elision * (h16 * char ':') ^ 3 * ls32 +
  opt (upTo 2 (h16 * char ':') * h16) * elision * (h16 * char ':') ^ 2 * ls32 +
  opt (upTo 3 (h16 * char ':') * h16) * elision * (h16 * char ':') * ls32 +
  opt (upTo 4 (h16 * char ':') * h16) * elision * ls32 +
  opt (upTo 5 (h16 * char ':') * h16) * elision * h16 +
  opt (upTo 6 (h16 * char ':') * h16) * elision

end Grammar

namespace Format

open Grammar JsonSchema.Text

variable {c a b : Char} {cs l r : List Char} {n : Nat}

theorem isDigit_iff_le : c.isDigit = true ↔ '0' ≤ c ∧ c ≤ '9' := Char.isDigit_iff_toNat

theorem isHexDigit_iff_le : isHexDigit c = true ↔
    ('0' ≤ c ∧ c ≤ '9') ∨ ('a' ≤ c ∧ c ≤ 'f') ∨ ('A' ≤ c ∧ c ≤ 'F') := by
  unfold isHexDigit hexValue?
  split
  · simp [*]
  · split
    · simp [*]
    · split
      · simp [*]
      · simp [*]

theorem eq_iff_toNat {x : Char} : x = c ↔ x.toNat = c.toNat := Char.toNat_inj.symm

theorem le_iff_toNat : a ≤ b ↔ a.toNat ≤ b.toNat := Iff.rfl

theorem isOctet_iff : isOctet cs = true ↔ cs ∈ decOctet := by
  simp only [isOctet, decOctet, digit, range, char, mul_assoc, Language.mem_add]
  rcases cs with _ | ⟨a, _ | ⟨b, _ | ⟨c, _ | ⟨d, r⟩⟩⟩⟩
  · simp
  · simp [decimal, isDigit_iff_le, le_iff_toNat]
    omega
  · simp [decimal, isDigit_iff_le, eq_iff_toNat, le_iff_toNat]
    omega
  · simp [decimal, isDigit_iff_le, eq_iff_toNat, le_iff_toNat]
    omega
  · simp

theorem isGroup_iff : isGroup cs = true ↔ cs ∈ h16 := by
  simp only [isGroup, h16, pow_succ', pow_zero, mul_one, hexdig, digit, range, one_add_one,
    Language.mem_add]
  rcases cs with _ | ⟨a, _ | ⟨b, _ | ⟨c, _ | ⟨d, _ | ⟨e, r⟩⟩⟩⟩⟩
  · simp
  · simp [isHexDigit_iff_le, or_assoc]
  · simp [isHexDigit_iff_le, or_assoc]
  · simp [isHexDigit_iff_le, or_assoc]
  · simp [isHexDigit_iff_le, or_assoc]
  · simp

theorem over_decOctet : Over (fun c => c.isDigit = true) decOctet := by
  intro w hw c hc
  have octet := isOctet_iff.2 hw
  simp only [isOctet, Bool.and_eq_true] at octet
  exact List.all_eq_true.1 octet.1.1.2 c hc

theorem over_h16 : Over (fun c => isHexDigit c = true) h16 := by
  intro w hw c hc
  have group := isGroup_iff.2 hw
  simp only [isGroup, Bool.and_eq_true] at group
  exact List.all_eq_true.1 group.2 c hc

theorem not_mem_decOctet (hc : c.isDigit = false) (h : cs ∈ decOctet) : c ∉ cs := by
  intro hmem
  rw [over_decOctet cs h c hmem] at hc
  cases hc

/-- Four octets with points between them. -/
theorem isIPv4_iff : isIPv4 cs = true ↔ cs ∈ ipv4Address := by
  simp only [isIPv4, Bool.and_eq_true, beq_iff_eq, List.all_eq_true, isOctet_iff, ipv4Address,
    mul_assoc, mem_sep]
  constructor
  · rintro ⟨four, octets⟩
    have joined := intercalate_splitAt '.' cs
    obtain ⟨a, b, c, d, pieces⟩ := List.length_eq_four.1 four
    rw [pieces] at octets joined
    simp only [List.forall_mem_cons] at octets
    obtain ⟨ha, hb, hc, hd, -⟩ := octets
    refine ⟨a, ha, _, ⟨b, hb, _, ⟨c, hc, d, hd, rfl⟩, rfl⟩, ?_⟩
    simpa [List.intercalate_cons_cons, eq_comm] using joined
  · rintro ⟨a, ha, _, ⟨b, hb, _, ⟨c, hc, d, hd, rfl⟩, rfl⟩, rfl⟩
    have point {w : List Char} (hw : w ∈ decOctet) : '.' ∉ w := not_mem_decOctet rfl hw
    rw [splitAt_append (point ha), splitAt_append (point hb), splitAt_append (point hc),
      splitAt_of_not_mem (point hd)]
    simp [ha, hb, hc, hd]

/-! ### Addresses of version 6 -/

/-- A number of groups with colons between them. At the `end` of an address, one of version 4 may
stand for the last two. -/
def groups (final : Bool) : Nat → Language Char
  | 0 => 1
  | 1 => h16
  | n + 2 => h16 * (char ':' * groups final (n + 1)) + if final ∧ n = 0 then ipv4Address else 0

variable {final : Bool}

theorem groups_false (n : Nat) : groups false (n + 1) = (h16 * char ':') ^ n * h16 := by
  induction n with
  | zero => rw [pow_zero, one_mul]; rfl
  | succ n ih =>
    rw [groups, ih, if_neg (by simp), add_zero, pow_succ']
    simp only [mul_assoc]

theorem groups_true (n : Nat) : groups true (n + 2) = (h16 * char ':') ^ n * ls32 := by
  induction n with
  | zero => simp [groups, ls32, mul_assoc]
  | succ n ih =>
    rw [groups, ih, if_neg (by simp), add_zero, pow_succ']
    simp only [mul_assoc]

/-- The groups in front of those that are left out. -/
def front (n : Nat) : Language Char := {w | ∃ k ≤ n, w ∈ groups false k}

theorem front_zero : front 0 = 1 := by
  ext w
  constructor
  · rintro ⟨k, hk, hw⟩
    obtain rfl := Nat.le_zero.1 hk
    exact hw
  · exact fun hw => ⟨0, le_rfl, hw⟩

theorem front_succ (n : Nat) : front (n + 1) = opt (upTo n (h16 * char ':') * h16) := by
  ext w
  rw [mem_opt]
  constructor
  · rintro ⟨k, hk, hw⟩
    cases k with
    | zero => exact .inl hw
    | succ k =>
      rw [groups_false] at hw
      obtain ⟨a, ha, b, hb, rfl⟩ := hw
      exact .inr ⟨a, ⟨k, by omega, ha⟩, b, hb, rfl⟩
  · rintro (rfl | ⟨a, ⟨k, hk, ha⟩, b, hb, rfl⟩)
    · exact ⟨0, by omega, rfl⟩
    · refine ⟨k + 1, by omega, ?_⟩
      rw [groups_false]
      exact Language.append_mem_mul ha hb

theorem upTo_zero (L : Language Char) : upTo 0 L = 1 := by
  ext w
  constructor
  · rintro ⟨k, hk, hw⟩
    obtain rfl := Nat.le_zero.1 hk
    exact hw
  · exact fun hw => ⟨0, le_rfl, hw⟩

theorem mem_front_mul {L : Language Char} {k : Nat} :
    cs ∈ front k * L ↔ ∃ n ≤ k, cs ∈ groups false n * L := by
  simp only [Language.mem_mul, front]
  constructor
  · rintro ⟨a, ⟨n, hn, ha⟩, b, hb, rfl⟩
    exact ⟨n, hn, a, ha, b, hb, rfl⟩
  · rintro ⟨n, hn, a, ha, b, hb, rfl⟩
    exact ⟨a, ⟨n, hn, ha⟩, b, hb, rfl⟩

/-- Eight groups, or up to seven around an elision. -/
theorem mem_ipv6Address : cs ∈ ipv6Address ↔ cs ∈ groups true 8 ∨
    ∃ n m, n + m ≤ 7 ∧ cs ∈ groups false n * (elision * groups true m) := by
  -- one summand a line, by the number of groups behind the elision
  have lines : ipv6Address = groups true 8 + front 0 * (elision * groups true 7) +
      front 1 * (elision * groups true 6) + front 2 * (elision * groups true 5) +
      front 3 * (elision * groups true 4) + front 4 * (elision * groups true 3) +
      front 5 * (elision * groups true 2) + front 6 * (elision * groups true 1) +
      front 7 * (elision * groups true 0) := by
    simp only [ipv6Address, front_zero, front_succ, groups_true, upTo_zero, one_mul, pow_zero,
      pow_one, mul_assoc]
    simp only [groups, mul_one]
  rw [lines]
  simp only [Language.mem_add, mem_front_mul]
  constructor
  · rintro ((((((((h | ⟨n, hn, h⟩) | ⟨n, hn, h⟩) | ⟨n, hn, h⟩) | ⟨n, hn, h⟩) | ⟨n, hn, h⟩) |
      ⟨n, hn, h⟩) | ⟨n, hn, h⟩) | ⟨n, hn, h⟩)
    · exact .inl h
    all_goals exact .inr ⟨n, _, by omega, h⟩
  · rintro (h | ⟨n, m, hnm, h⟩)
    · simp only [h, true_or]
    · have line : ∃ k ≤ 7 - m, cs ∈ groups false k * (elision * groups true m) :=
        ⟨n, by omega, h⟩
      have few : m ≤ 7 := by omega
      interval_cases m <;> simp only [line, true_or, or_true]

theorem over_ipv4Address : Over (fun c => c.isDigit = true ∨ c = '.') ipv4Address := by
  have octet : Over (fun c => c.isDigit = true ∨ c = '.') decOctet :=
    over_decOctet.mono fun _ => .inl
  have point : Over (fun c => c.isDigit = true ∨ c = '.') (char '.') := over_char (.inr rfl)
  exact over_mul (over_mul (over_mul (over_mul (over_mul (over_mul octet point) octet) point) octet)
    point) octet

theorem colon_not_mem_h16 (h : l ∈ h16) : ':' ∉ l := by
  intro hc
  have := over_h16 l h ':' hc
  revert this
  decide

theorem colon_not_mem_ipv4Address (h : l ∈ ipv4Address) : ':' ∉ l := by
  intro hc
  rcases over_ipv4Address l h ':' hc with h | h <;> cases h

theorem h16_not_mem_ipv4Address (h : l ∈ h16) : l ∉ ipv4Address := by
  intro h'
  have point : '.' ∈ l := by
    rw [ipv4Address, mul_assoc, mem_sep] at h'
    obtain ⟨a, -, b, -, rfl⟩ := h'
    simp
  have := over_h16 l h '.' point
  revert this
  decide

/-- Without colons a text is at most one group, or an address of version 4. -/
theorem mem_groups_of_not_mem (h : ':' ∉ l) : l ∈ groups final (n + 1) ↔
    n = 0 ∧ l ∈ h16 ∨ n = 1 ∧ final = true ∧ l ∈ ipv4Address := by
  cases n with
  | zero => simp [groups]
  | succ n =>
    have apart : l ∉ h16 * (char ':' * groups final (n + 1)) := by
      intro hl
      obtain ⟨a, -, b, -, rfl⟩ := mem_sep.1 hl
      simp at h
    rw [groups, Language.mem_add, or_iff_right apart]
    split
    next hn => simp only [hn, Nat.zero_add, true_and, Nat.one_ne_zero, false_and, false_or]
    next hn =>
      refine iff_of_false (Language.notMem_zero l) ?_
      rintro (⟨⟨⟩, -⟩ | ⟨h1, hf, -⟩)
      exact hn ⟨hf, by omega⟩

theorem mem_groups_append (h : ':' ∉ l) : l ++ ':' :: r ∈ groups final (n + 1) ↔
    ∃ k, n = k + 1 ∧ l ∈ h16 ∧ r ∈ groups final (k + 1) := by
  have colon : ':' ∈ l ++ ':' :: r := by simp
  cases n with
  | zero =>
    refine iff_of_false (fun hl => colon_not_mem_h16 hl colon) ?_
    rintro ⟨k, hk, -⟩
    cases hk
  | succ n =>
    have apart : l ++ ':' :: r ∉ (if final ∧ n = 0 then ipv4Address else 0) := by
      split
      · exact fun hl => colon_not_mem_ipv4Address hl colon
      · exact Language.notMem_zero _
    have cut : splitFirst ':' (l ++ ':' :: r) = (l, some r) := splitFirst_append h
    rw [groups, Language.mem_add, or_iff_left apart, mem_sep_iff fun w hw c hc => ?_, cut]
    · constructor
      · rintro ⟨_, _, ⟨⟩, hl, hr⟩
        exact ⟨n, rfl, hl, hr⟩
      · rintro ⟨k, hk, hl, hr⟩
        cases hk
        exact ⟨l, r, rfl, hl, hr⟩
    · rintro rfl
      exact colon_not_mem_h16 hw hc

theorem groups?_cons_cons (piece next : List Char) (pieces : List (List Char)) :
    groups? final (piece :: next :: pieces) =
      if isGroup piece then (groups? final (next :: pieces)).map (· + 1) else none := rfl

theorem groups?_cons_ne_zero (piece : List Char) (pieces : List (List Char)) :
    groups? final (piece :: pieces) ≠ some 0 := by
  cases pieces with
  | nil =>
    rw [groups?]
    split
    · rintro ⟨⟩
    · split <;> rintro ⟨⟩
  | cons next pieces =>
    rw [groups?_cons_cons]
    split
    · simp
    · rintro ⟨⟩

theorem groups?_splitAt : groups? final (splitAt ':' cs) = some (n + 1) ↔
    cs ∈ groups final (n + 1) := by
  induction cs using split_induction ':' generalizing n with
  | last l hl =>
    rw [splitAt_of_not_mem hl, mem_groups_of_not_mem hl, groups?, ← isGroup_iff]
    split
    case isTrue group =>
      have := h16_not_mem_ipv4Address (isGroup_iff.1 group)
      simp [group, this]
    case isFalse group =>
      rw [← isIPv4_iff]
      split
      next address =>
        rw [Bool.and_eq_true] at address
        simp [group, address]
      next address =>
        rw [Bool.and_eq_true] at address
        simp [group, address]
  | split l r hl ih =>
    obtain ⟨piece, pieces, hp⟩ := List.exists_cons_of_ne_nil (splitAt_ne_nil ':' r)
    rw [splitAt_append hl, mem_groups_append hl, ← isGroup_iff]
    rw [hp] at ih ⊢
    rw [groups?_cons_cons]
    split
    case isTrue group =>
      simp only [group, true_and, Option.map_eq_some_iff]
      constructor
      · rintro ⟨m, hm, same⟩
        cases m with
        | zero => exact absurd hm (groups?_cons_ne_zero piece pieces)
        | succ k => exact ⟨k, by omega, ih.1 hm⟩
      · rintro ⟨k, rfl, hr⟩
        exact ⟨k + 1, ih.2 hr, rfl⟩
    case isFalse group => simp [group]

theorem groupsIn?_eq_some : groupsIn? final cs = some n ↔ cs ∈ groups final n := by
  have empty (n : Nat) : [] ∉ groups final (n + 1) := by
    rw [mem_groups_of_not_mem (by simp)]
    rintro (⟨-, h⟩ | ⟨-, -, h⟩)
    · exact absurd (isGroup_iff.2 h) (by decide)
    · exact absurd (isIPv4_iff.2 h) (by decide)
  unfold groupsIn?
  cases cs with
  | nil =>
    cases n with
    | zero => exact iff_of_true rfl rfl
    | succ n => exact iff_of_false (by simp) (empty n)
  | cons c r =>
    rw [if_neg (by simp)]
    cases n with
    | succ n => exact groups?_splitAt
    | zero =>
      obtain ⟨piece, pieces, hp⟩ := List.exists_cons_of_ne_nil (splitAt_ne_nil ':' (c :: r))
      rw [hp]
      exact iff_of_false (groups?_cons_ne_zero piece pieces) (by rintro ⟨⟩)

theorem over_groups (n : Nat) :
    Over (fun c => isHexDigit c = true ∨ c = '.' ∨ c = ':') (groups final n) := by
  have group : Over (fun c => isHexDigit c = true ∨ c = '.' ∨ c = ':') h16 :=
    over_h16.mono fun _ => .inl
  have colon : Over (fun c => isHexDigit c = true ∨ c = '.' ∨ c = ':') (char ':') :=
    over_char (.inr (.inr rfl))
  have address : Over (fun c => isHexDigit c = true ∨ c = '.' ∨ c = ':') ipv4Address := by
    refine over_ipv4Address.mono ?_
    rintro c (hc | hc)
    · exact .inl (isHexDigit_iff_le.2 (.inl (isDigit_iff_le.1 hc)))
    · exact .inr (.inl hc)
  match n with
  | 0 => exact over_epsilon
  | 1 => exact group
  | n + 2 =>
    refine over_add (over_mul group (over_mul colon (over_groups (n + 1)))) ?_
    split
    · exact address
    · rintro w ⟨⟩

theorem over_ipv6Address :
    Over (fun c => isHexDigit c = true ∨ c = '.' ∨ c = ':') ipv6Address := by
  have colon : Over (fun c => isHexDigit c = true ∨ c = '.' ∨ c = ':') (char ':') :=
    over_char (.inr (.inr rfl))
  intro w hw
  rcases mem_ipv6Address.1 hw with h | ⟨n, m, -, h⟩
  · exact over_groups 8 w h
  · exact over_mul (over_groups n) (over_mul (over_mul colon colon) (over_groups m)) w h

/-! ### The elision -/

/-- Behind a colon in front of the elision there is a group. -/
def SingleColons : List Char → Prop := EachFollowed ':' fun r => ∃ c r', r = c :: r' ∧ c ≠ ':'

theorem groups_cases (h : l ∈ groups final (n + 1)) :
    (l ≠ [] ∧ ':' ∉ l) ∨
      ∃ a b k, l = a ++ ':' :: b ∧ n = k + 1 ∧ a ≠ [] ∧ ':' ∉ a ∧ b ∈ groups final (k + 1) := by
  have group {l : List Char} (hl : l ∈ h16) : l ≠ [] ∧ ':' ∉ l := by
    refine ⟨?_, colon_not_mem_h16 hl⟩
    rintro rfl
    exact absurd (isGroup_iff.2 hl) (by decide)
  cases n with
  | zero => exact .inl (group h)
  | succ n =>
    rw [groups, Language.mem_add, mem_sep] at h
    rcases h with ⟨a, ha, b, hb, rfl⟩ | h
    · exact .inr ⟨a, b, n, rfl, rfl, (group ha).1, (group ha).2, hb⟩
    · split at h
      · refine .inl ⟨?_, colon_not_mem_ipv4Address h⟩
        rintro rfl
        exact absurd (isIPv4_iff.2 h) (by decide)
      · exact absurd h (Language.notMem_zero l)

theorem exists_of_mem_groups (h : l ∈ groups final (n + 1)) : ∃ c r, l = c :: r ∧ c ≠ ':' := by
  rcases groups_cases h with ⟨nonempty, hl⟩ | ⟨a, b, k, rfl, -, nonempty, ha, -⟩
  · obtain ⟨c, r, rfl⟩ := List.exists_cons_of_ne_nil nonempty
    exact ⟨c, r, rfl, (List.ne_and_not_mem_of_not_mem_cons hl).1.symm⟩
  · obtain ⟨c, r, rfl⟩ := List.exists_cons_of_ne_nil nonempty
    exact ⟨c, r ++ ':' :: b, rfl, (List.ne_and_not_mem_of_not_mem_cons ha).1.symm⟩

theorem singleColons_of_mem_groups (h : l ∈ groups final n) : SingleColons l := by
  induction n generalizing l with
  | zero =>
    obtain rfl : l = [] := h
    exact eachFollowed_nil
  | succ n ih =>
    rcases groups_cases h with ⟨-, hl⟩ | ⟨a, b, k, rfl, rfl, -, ha, hb⟩
    · exact eachFollowed_of_not_mem hl
    · rw [SingleColons, eachFollowed_append ha, eachFollowed_cons]
      exact ⟨fun _ => exists_of_mem_groups hb, ih hb⟩

theorem splitDoubleColon_append (h : SingleColons l) (r : List Char) :
    splitDoubleColon (l ++ ':' :: ':' :: r) = (l, some r) := by
  induction l with
  | nil => rfl
  | cons c l ih =>
    obtain ⟨first, rest⟩ := eachFollowed_cons.1 h
    rw [List.cons_append, splitDoubleColon, ih rest]
    rintro r' rfl same
    obtain ⟨x, l', rfl, hx⟩ := first rfl
    exact hx (List.cons.inj same).1

theorem splitDoubleColon_of_singleColons (h : SingleColons l) : splitDoubleColon l = (l, none) := by
  induction l with
  | nil => rfl
  | cons c l ih =>
    obtain ⟨first, rest⟩ := eachFollowed_cons.1 h
    rw [splitDoubleColon, ih rest]
    rintro r' rfl rfl
    obtain ⟨x, l', same, hx⟩ := first rfl
    exact hx (List.cons.inj same).1.symm

theorem append_of_splitDoubleColon {o : Option (List Char)} (h : splitDoubleColon cs = (l, o)) :
    cs = l ++ o.elim [] fun r => ':' :: ':' :: r := by
  fun_induction splitDoubleColon cs generalizing l o with
  | case1 =>
    cases h
    rfl
  | case2 r =>
    cases h
    rfl
  | case3 c r _ before after hr ih =>
    cases h
    rw [List.cons_append, ← ih hr]

/-- The addresses that are read are those of the grammar. -/
theorem isIPv6_iff : isIPv6 cs = true ↔ cs ∈ ipv6Address := by
  rw [mem_ipv6Address]
  constructor
  · intro h
    unfold isIPv6 at h
    split at h
    next whole hs =>
      have joined := append_of_splitDoubleColon hs
      rw [Option.elim_none, List.append_nil] at joined
      rw [beq_iff_eq, groupsIn?_eq_some] at h
      exact .inl (joined ▸ h)
    next before after hs =>
      split at h
      next n m hn hm =>
        have joined := append_of_splitDoubleColon hs
        rw [groupsIn?_eq_some] at hn hm
        rw [decide_eq_true_eq] at h
        refine .inr ⟨n, m, h, ?_⟩
        rw [elision, mul_assoc, mem_sep]
        exact ⟨before, hn, ':' :: after, mem_char_mul.2 ⟨after, rfl, hm⟩, joined⟩
      next => cases h
  · rintro (h | ⟨n, m, hnm, h⟩)
    · have whole := splitDoubleColon_of_singleColons (singleColons_of_mem_groups h)
      rw [isIPv6, whole]
      simp [groupsIn?_eq_some.2 h]
    · rw [elision, mul_assoc, mem_sep] at h
      obtain ⟨before, hn, w, hw, rfl⟩ := h
      obtain ⟨after, rfl, hm⟩ := mem_char_mul.1 hw
      rw [isIPv6, splitDoubleColon_append (singleColons_of_mem_groups hn)]
      simp [groupsIn?_eq_some.2 hn, groupsIn?_eq_some.2 hm, hnm]

end Format

end JsonSchema
