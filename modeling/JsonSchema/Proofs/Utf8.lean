import Mathlib.Tactic.IntervalCases
import JsonSchema.Utf8
/-!
# Decoding UTF-8 undoes encoding

The decoder succeeds exactly on the bytes of characters, with those characters
(`Utf8.decode_eq_ok_iff`). Both directions go one character at a time: the decoder takes the bytes
of a character for it (`decodeFrom_encodeChar`), and bytes on which it succeeds begin with those of a
character (`exists_of_decodeFrom`). What the first byte of a character promises about the second is
what keeps out overlong forms, surrogates and values that are too large (`takes_leadThree`,
`takes_leadFour`).
-/

namespace JsonSchema.Utf8

variable {cs ds : List Char} {i k q r u v : Nat} {p : Pending} {b : UInt8} {bs rest : Bytes}

theorem toNat_ofNat_of_lt (h : v < 256) : (UInt8.ofNat v).toNat = v := UInt8.toNat_ofNat_of_lt' h

theorem eq_ofNat (h : b.toNat = v) : b = UInt8.ofNat v := by
  rw [← h, UInt8.ofNat_toNat]

theorem toNat_ofNat_char (h : v.isValidChar) : (Char.ofNat v).val.toNat = v := by
  rw [Char.ofNat, dif_pos h]
  rfl

/-! ### What a first byte promises -/

/-- A later byte with these six bits fits. -/
def Pending.Takes (p : Pending) (r : Nat) : Prop :=
  r < 64 ∧ p.low.toNat ≤ r + 0x80 ∧ r + 0x80 ≤ p.high.toNat

/-- Only later bytes fit. -/
def Pending.OnlyLater (p : Pending) : Prop := 0x80 ≤ p.low.toNat ∧ p.high.toNat ≤ 0xBF

/-- The promise of the first byte of three. -/
def leadThree (k : Nat) : Pending :=
  ⟨1, 2, if k = 0 then 0xA0 else 0x80, if k = 0xD then 0x9F else 0xBF, k⟩

/-- The promise of the first byte of four. -/
def leadFour (k : Nat) : Pending :=
  ⟨1, 3, if k = 0 then 0x90 else 0x80, if k = 4 then 0x8F else 0xBF, k⟩

theorem takes_any {seen owed code : Nat} : (Pending.mk seen owed 0x80 0xBF code).Takes r ↔ r < 64 := by
  simp only [Pending.Takes, UInt8.reduceToNat]
  omega

theorem onlyLater_any {seen owed code : Nat} : (Pending.mk seen owed 0x80 0xBF code).OnlyLater :=
  ⟨Nat.le_refl 0x80, Nat.le_refl 0xBF⟩

theorem onlyLater_leadThree (k : Nat) : (leadThree k).OnlyLater := by
  unfold Pending.OnlyLater leadThree
  dsimp only
  split_ifs <;> decide

theorem onlyLater_leadFour (k : Nat) : (leadFour k).OnlyLater := by
  unfold Pending.OnlyLater leadFour
  dsimp only
  split_ifs <;> decide

theorem takes_leadThree :
    (leadThree k).Takes r ↔ r < 64 ∧ (k = 0 → 0x20 ≤ r) ∧ (k = 0xD → r < 0x20) := by
  unfold Pending.Takes leadThree
  dsimp only
  split_ifs <;> simp only [UInt8.reduceToNat] <;> omega

theorem takes_leadFour :
    (leadFour k).Takes r ↔ r < 64 ∧ (k = 0 → 0x10 ≤ r) ∧ (k = 4 → r < 0x10) := by
  unfold Pending.Takes leadFour
  dsimp only
  split_ifs <;> simp only [UInt8.reduceToNat] <;> omega

theorem lead?_two (h : 2 ≤ k) (h' : k < 32) :
    lead? (UInt8.ofNat (k + 0xC0)) = some ⟨1, 1, 0x80, 0xBF, k⟩ := by
  interval_cases k <;> rfl

theorem lead?_three (h : k < 16) : lead? (UInt8.ofNat (k + 0xE0)) = some (leadThree k) := by
  interval_cases k <;> rfl

theorem lead?_four (h : k ≤ 4) : lead? (UInt8.ofNat (k + 0xF0)) = some (leadFour k) := by
  interval_cases k <;> rfl

theorem toNat_of_lead? (h : lead? b = some p) : 0xC2 ≤ b.toNat ∧ b.toNat ≤ 0xF4 := by
  unfold lead? at h
  simp only [UInt8.le_iff_toNat_le, ← UInt8.toNat_inj, UInt8.reduceToNat] at h
  split_ifs at h <;> omega

/-- A byte that begins a character of several bytes is the first of two, of three or of four. -/
theorem exists_of_lead? (h : lead? b = some p) :
    (∃ k, 2 ≤ k ∧ k < 32 ∧ b = UInt8.ofNat (k + 0xC0)) ∨
    (∃ k < 16, b = UInt8.ofNat (k + 0xE0)) ∨ ∃ k ≤ 4, b = UInt8.ofNat (k + 0xF0) := by
  have range := toNat_of_lead? h
  by_cases two : b.toNat < 0xE0
  · exact .inl ⟨b.toNat - 0xC0, by omega, by omega, eq_ofNat (by omega)⟩
  by_cases three : b.toNat < 0xF0
  · exact .inr (.inl ⟨b.toNat - 0xE0, by omega, eq_ofNat (by omega)⟩)
  · exact .inr (.inr ⟨b.toNat - 0xF0, by omega, eq_ofNat (by omega)⟩)

/-! ### The bytes of a character -/

theorem encodeChar_one (h : v < 0x80) : String.utf8EncodeChar (Char.ofNat v) = [UInt8.ofNat v] := by
  rw [String.utf8EncodeChar, toNat_ofNat_char (.inl (by omega)), if_pos (by omega)]

theorem encodeChar_two (h : 2 ≤ k) (h' : k < 32) (hr : r < 64) :
    String.utf8EncodeChar (Char.ofNat (k * 64 + r)) =
      [UInt8.ofNat (k + 0xC0), UInt8.ofNat (r + 0x80)] := by
  have bits : (k * 64 + r) / 64 % 0x20 = k ∧ (k * 64 + r) % 0x40 = r := by omega
  rw [String.utf8EncodeChar, toNat_ofNat_char (.inl (by omega)), if_neg (by omega),
    if_pos (by omega), bits.1, bits.2]

theorem encodeChar_three (hk : k < 16) (hr : (leadThree k).Takes r) (hq : q < 64) :
    String.utf8EncodeChar (Char.ofNat ((k * 64 + r) * 64 + q)) =
      [UInt8.ofNat (k + 0xE0), UInt8.ofNat (r + 0x80), UInt8.ofNat (q + 0x80)] := by
  obtain ⟨lt, overlong, surrogate⟩ := takes_leadThree.1 hr
  generalize hv : (k * 64 + r) * 64 + q = v
  have valid : v.isValidChar := by
    by_cases v < 0xD800
    · exact .inl ‹_›
    · exact .inr ⟨by omega, by omega⟩
  have bits : v / 4096 % 0x10 = k ∧ v / 64 % 0x40 = r ∧ v % 0x40 = q := by omega
  rw [String.utf8EncodeChar, toNat_ofNat_char valid, if_neg (by omega), if_neg (by omega),
    if_pos (by omega), bits.1, bits.2.1, bits.2.2]

theorem encodeChar_four (hk : k ≤ 4) (hr : (leadFour k).Takes r) (hq : q < 64) (hu : u < 64) :
    String.utf8EncodeChar (Char.ofNat (((k * 64 + r) * 64 + q) * 64 + u)) =
      [UInt8.ofNat (k + 0xF0), UInt8.ofNat (r + 0x80), UInt8.ofNat (q + 0x80),
        UInt8.ofNat (u + 0x80)] := by
  obtain ⟨lt, overlong, large⟩ := takes_leadFour.1 hr
  generalize hv : ((k * 64 + r) * 64 + q) * 64 + u = v
  have bits : v / 262144 % 0x08 = k ∧ v / 4096 % 0x40 = r ∧ v / 64 % 0x40 = q ∧ v % 0x40 = u := by
    omega
  rw [String.utf8EncodeChar, toNat_ofNat_char (.inr ⟨by omega, by omega⟩), if_neg (by omega),
    if_neg (by omega), if_neg (by omega), bits.1, bits.2.1, bits.2.2.1, bits.2.2.2]

/-! ### One byte -/

theorem decodeFrom_begin (hp : lead? b = some p) :
    decodeFrom cs i none (b :: rest) = decodeFrom cs (i + 1) (some p) rest := by
  have several : ¬b < 0x80 := by
    have range := toNat_of_lead? hp
    rw [UInt8.lt_iff_toNat_lt, show (0x80 : UInt8).toNat = 0x80 from rfl]
    omega
  rw [decodeFrom, if_neg several, hp]

theorem Pending.Takes.range (h : p.Takes r) :
    p.low ≤ UInt8.ofNat (r + 0x80) ∧ UInt8.ofNat (r + 0x80) ≤ p.high := by
  obtain ⟨lt, low, high⟩ := h
  rw [UInt8.le_iff_toNat_le, UInt8.le_iff_toNat_le, toNat_ofNat_of_lt (by omega)]
  exact ⟨low, high⟩

theorem decodeFrom_last (ho : p.owed = 1) (hr : p.Takes r) :
    decodeFrom cs i (some p) (UInt8.ofNat (r + 0x80) :: rest) =
      decodeFrom (Char.ofNat (p.code * 64 + r) :: cs) (i + 1) none rest := by
  have lt := hr.1
  rw [decodeFrom, if_pos hr.range, if_pos (by omega), toNat_ofNat_of_lt (by omega),
    Nat.add_sub_cancel]

theorem decodeFrom_more {n : Nat} (ho : p.owed = n + 2) (hr : p.Takes r) :
    decodeFrom cs i (some p) (UInt8.ofNat (r + 0x80) :: rest) =
      decodeFrom cs (i + 1) (some ⟨p.seen + 1, n + 1, 0x80, 0xBF, p.code * 64 + r⟩) rest := by
  have lt := hr.1
  rw [decodeFrom, if_pos hr.range, if_neg (by omega), toNat_ofNat_of_lt (by omega),
    Nat.add_sub_cancel, ho]
  rfl

/-- What is owed has to come. -/
theorem exists_takes (later : p.OnlyLater) (h : decodeFrom cs i (some p) bs = .ok ds) :
    ∃ r rest, p.Takes r ∧ bs = UInt8.ofNat (r + 0x80) :: rest := by
  obtain ⟨low, high⟩ := later
  cases bs with
  | nil => cases h
  | cons b rest =>
    rw [decodeFrom] at h
    split at h
    · next range =>
      rw [UInt8.le_iff_toNat_le, UInt8.le_iff_toNat_le] at range
      refine ⟨b.toNat - 0x80, rest, ⟨by omega, by omega, by omega⟩, ?_⟩
      rw [← eq_ofNat (b := b) (by omega)]
    · cases h

/-! ### One character -/

theorem decodeFrom_one (h : v < 0x80) : decodeFrom cs i none (UInt8.ofNat v :: rest) =
    decodeFrom (Char.ofNat v :: cs) (i + 1) none rest := by
  have hb := toNat_ofNat_of_lt (show v < 256 by omega)
  rw [decodeFrom, if_pos (by rw [UInt8.lt_iff_toNat_lt, hb]; exact h), hb]

theorem decodeFrom_two (h : 2 ≤ k) (h' : k < 32) (hr : r < 64) :
    decodeFrom cs i none (UInt8.ofNat (k + 0xC0) :: UInt8.ofNat (r + 0x80) :: rest) =
      decodeFrom (Char.ofNat (k * 64 + r) :: cs) (i + 2) none rest := by
  rw [decodeFrom_begin (lead?_two h h'), decodeFrom_last rfl (takes_any.2 hr)]

theorem decodeFrom_three (hk : k < 16) (hr : (leadThree k).Takes r) (hq : q < 64) :
    decodeFrom cs i none
        (UInt8.ofNat (k + 0xE0) :: UInt8.ofNat (r + 0x80) :: UInt8.ofNat (q + 0x80) :: rest) =
      decodeFrom (Char.ofNat ((k * 64 + r) * 64 + q) :: cs) (i + 3) none rest := by
  rw [decodeFrom_begin (lead?_three hk), decodeFrom_more (n := 0) rfl hr,
    decodeFrom_last rfl (takes_any.2 hq)]
  rfl

theorem decodeFrom_four (hk : k ≤ 4) (hr : (leadFour k).Takes r) (hq : q < 64) (hu : u < 64) :
    decodeFrom cs i none (UInt8.ofNat (k + 0xF0) :: UInt8.ofNat (r + 0x80) ::
        UInt8.ofNat (q + 0x80) :: UInt8.ofNat (u + 0x80) :: rest) =
      decodeFrom (Char.ofNat (((k * 64 + r) * 64 + q) * 64 + u) :: cs) (i + 4) none rest := by
  rw [decodeFrom_begin (lead?_four hk), decodeFrom_more (n := 1) rfl hr,
    decodeFrom_more (n := 0) rfl (takes_any.2 hq), decodeFrom_last rfl (takes_any.2 hu)]
  rfl

/-- The decoder takes the bytes of a character for it. -/
theorem decodeFrom_encodeChar (cs : List Char) (i : Nat) (c : Char) (rest : Bytes) : ∃ j,
    decodeFrom cs i none (String.utf8EncodeChar c ++ rest) = decodeFrom (c :: cs) j none rest := by
  obtain ⟨v, hv, rfl⟩ : ∃ v, v.isValidChar ∧ Char.ofNat v = c := ⟨c.toNat, c.valid, c.ofNat_toNat⟩
  have lt : v < 0x110000 := by rcases hv with hv | ⟨-, hv⟩ <;> omega
  by_cases one : v < 0x80
  · rw [encodeChar_one one]
    exact ⟨_, decodeFrom_one one⟩
  by_cases two : v < 0x800
  · obtain ⟨k, r, h, h', hr, rfl⟩ : ∃ k r, 2 ≤ k ∧ k < 32 ∧ r < 64 ∧ v = k * 64 + r :=
      ⟨v / 64, v % 64, by omega, by omega, by omega, by omega⟩
    rw [encodeChar_two h h' hr]
    exact ⟨_, decodeFrom_two h h' hr⟩
  by_cases three : v < 0x10000
  · obtain ⟨k, r, q, hk, hr, hq, rfl⟩ : ∃ k r q, k < 16 ∧ (leadThree k).Takes r ∧ q < 64 ∧
        v = (k * 64 + r) * 64 + q := by
      refine ⟨v / 4096, v / 64 % 64, v % 64, by omega, takes_leadThree.2 ?_, by omega, by omega⟩
      rcases hv with hv | ⟨hv, -⟩ <;> omega
    rw [encodeChar_three hk hr hq]
    exact ⟨_, decodeFrom_three hk hr hq⟩
  · obtain ⟨k, r, q, u, hk, hr, hq, hu, rfl⟩ : ∃ k r q u, k ≤ 4 ∧ (leadFour k).Takes r ∧ q < 64 ∧
        u < 64 ∧ v = ((k * 64 + r) * 64 + q) * 64 + u :=
      ⟨v / 262144, v / 4096 % 64, v / 64 % 64, v % 64, by omega, takes_leadFour.2 (by omega),
        by omega, by omega, by omega⟩
    rw [encodeChar_four hk hr hq hu]
    exact ⟨_, decodeFrom_four hk hr hq hu⟩

/-- Bytes on which the decoder succeeds begin with those of a character. -/
theorem exists_of_decodeFrom (h : decodeFrom cs i none (b :: bs) = .ok ds) :
    ∃ c rest j, b :: bs = String.utf8EncodeChar c ++ rest ∧
      decodeFrom (c :: cs) j none rest = .ok ds := by
  by_cases one : b.toNat < 0x80
  · obtain ⟨v, hv, rfl⟩ : ∃ v < 0x80, b = UInt8.ofNat v := ⟨b.toNat, one, eq_ofNat rfl⟩
    rw [decodeFrom_one hv] at h
    exact ⟨_, bs, _, by rw [encodeChar_one hv]; rfl, h⟩
  obtain ⟨p, hp⟩ : ∃ p, lead? b = some p := by
    rw [decodeFrom, if_neg (by rwa [UInt8.lt_iff_toNat_lt])] at h
    split at h
    · exact ⟨_, ‹_›⟩
    · cases h
  have begun := h
  rw [decodeFrom_begin hp] at begun
  obtain ⟨k, hk, hk', rfl⟩ | ⟨k, hk, rfl⟩ | ⟨k, hk, rfl⟩ := exists_of_lead? hp
  · cases (lead?_two hk hk').symm.trans hp
    obtain ⟨r, rest, hr, rfl⟩ := exists_takes onlyLater_any begun
    have hr := takes_any.1 hr
    rw [decodeFrom_two hk hk' hr] at h
    exact ⟨_, rest, _, by rw [encodeChar_two hk hk' hr]; rfl, h⟩
  · cases (lead?_three hk).symm.trans hp
    obtain ⟨r, rest, hr, rfl⟩ := exists_takes (onlyLater_leadThree k) begun
    rw [decodeFrom_more (n := 0) rfl hr] at begun
    obtain ⟨q, rest, hq, rfl⟩ := exists_takes onlyLater_any begun
    have hq := takes_any.1 hq
    rw [decodeFrom_three hk hr hq] at h
    exact ⟨_, rest, _, by rw [encodeChar_three hk hr hq]; rfl, h⟩
  · cases (lead?_four hk).symm.trans hp
    obtain ⟨r, rest, hr, rfl⟩ := exists_takes (onlyLater_leadFour k) begun
    rw [decodeFrom_more (n := 1) rfl hr] at begun
    obtain ⟨q, rest, hq, rfl⟩ := exists_takes onlyLater_any begun
    rw [decodeFrom_more (n := 0) rfl hq] at begun
    obtain ⟨u, rest, hu, rfl⟩ := exists_takes onlyLater_any begun
    have hq := takes_any.1 hq
    have hu := takes_any.1 hu
    rw [decodeFrom_four hk hr hq hu] at h
    exact ⟨_, rest, _, by rw [encodeChar_four hk hr hq hu]; rfl, h⟩

/-! ### All bytes -/

theorem encode_cons (c : Char) (cs : List Char) :
    encode (c :: cs) = String.utf8EncodeChar c ++ encode cs := List.flatMap_cons

theorem decodeFrom_encode (es : List Char) :
    decodeFrom cs i none (encode es) = .ok (cs.reverse ++ es) := by
  induction es generalizing cs i with
  | nil => rw [List.append_nil]; rfl
  | cons c es ih =>
    obtain ⟨j, hj⟩ := decodeFrom_encodeChar cs i c (encode es)
    rw [encode_cons, hj, ih, List.reverse_cons, List.append_assoc, List.singleton_append]

theorem encode_of_decodeFrom (h : decodeFrom cs i none bs = .ok ds) :
    ∃ es, ds = cs.reverse ++ es ∧ encode es = bs := by
  induction hn : bs.length using Nat.strongRecOn generalizing bs cs i with
  | ind n ih =>
    cases bs with
    | nil =>
      cases h
      exact ⟨[], (List.append_nil _).symm, rfl⟩
    | cons b bs =>
      obtain ⟨c, rest, j, split, h⟩ := exists_of_decodeFrom h
      have shorter : rest.length < n := by
        have := List.length_pos_iff.2 (String.utf8EncodeChar_ne_nil (c := c))
        rw [← hn, split, List.length_append]
        omega
      obtain ⟨es, rfl, rfl⟩ := ih _ shorter h rfl
      refine ⟨c :: es, ?_, ?_⟩
      · rw [List.reverse_cons, List.append_assoc, List.singleton_append]
      · rw [encode_cons, split]

/-- The decoder succeeds exactly on the bytes of characters, with these. -/
theorem decode_eq_ok_iff : decode bs = .ok ds ↔ encode ds = bs := by
  constructor
  · intro h
    obtain ⟨es, rfl, he⟩ := encode_of_decodeFrom h
    exact he
  · rintro rfl
    exact decodeFrom_encode ds

end JsonSchema.Utf8
