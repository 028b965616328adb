import JsonSchema.Proofs.Pointer.Grammar
import JsonSchema.Proofs.Utf8
/-!
# Which URI fragments are pointers

`Pointer.Encodes` is percent-encoding: two hexadecimal digits after a `%` stand for a byte, any other
character for its own bytes. A fragment is read as a pointer exactly if it starts with `#` and what
follows encodes the written form of the pointer, as long as no `%` in it is followed by a plus sign
(`Pointer.ofFragment_accepts`). A plus sign counts as the digit `0` there: the fragment is read as
if it were one (`Pointer.percentDecode_eq_some_iff`).
-/

namespace JsonSchema.Pointer

variable {a b c : Char} {cs l r rest : List Char} {bs : Bytes} {p : Pointer} {s t : String}

/-! ### Percent-encoding -/

/-- The bytes that a percent-encoded text stands for. -/
inductive Encodes : List Char → Bytes → Prop where
  | nil : Encodes [] []
  | triple {a b : Char} {x y : Nat} {r : List Char} {bs : Bytes} (first : Text.hexValue? a = some x)
    (second : Text.hexValue? b = some y) (rest : Encodes r bs) :
    Encodes ('%' :: a :: b :: r) (UInt8.ofNat (16 * x + y) :: bs)
  | plain {c : Char} {r : List Char} {bs : Bytes} (plain : c ≠ '%') (rest : Encodes r bs) :
    Encodes (c :: r) (String.utf8EncodeChar c ++ bs)

/-- Every `%` is followed by two hexadecimal digits. -/
def TriplesClosed (cs : List Char) : Prop :=
  Text.EachFollowed '%' (fun after => ∃ a b r, after = a :: b :: r ∧
    Text.isHexDigit a = true ∧ Text.isHexDigit b = true) cs

theorem ne_percent_of_isHexDigit (h : Text.isHexDigit c = true) : c ≠ '%' := by
  rintro rfl
  exact absurd h (by decide)

theorem isHexDigit_iff : Text.isHexDigit c = true ↔ ∃ x, Text.hexValue? c = some x :=
  Option.isSome_iff_exists

theorem triplesClosed_cons (h : c ≠ '%') : TriplesClosed (c :: r) ↔ TriplesClosed r := by
  rw [TriplesClosed, Text.eachFollowed_cons]
  exact and_iff_right fun hc => absurd hc h

theorem triplesClosed_percent : TriplesClosed ('%' :: l) ↔
    ∃ a b r, l = a :: b :: r ∧ Text.isHexDigit a = true ∧ Text.isHexDigit b = true ∧
      TriplesClosed r := by
  rw [TriplesClosed, Text.eachFollowed_cons, ← TriplesClosed]
  constructor
  · rintro ⟨digits, rest⟩
    obtain ⟨a, b, r, rfl, ha, hb⟩ := digits rfl
    rw [triplesClosed_cons (ne_percent_of_isHexDigit ha),
      triplesClosed_cons (ne_percent_of_isHexDigit hb)] at rest
    exact ⟨a, b, r, rfl, ha, hb, rest⟩
  · rintro ⟨a, b, r, rfl, ha, hb, rest⟩
    rw [triplesClosed_cons (ne_percent_of_isHexDigit ha),
      triplesClosed_cons (ne_percent_of_isHexDigit hb)]
    exact ⟨fun _ => ⟨a, b, r, rfl, ha, hb⟩, rest⟩

theorem Encodes.triplesClosed (h : Encodes cs bs) : TriplesClosed cs := by
  induction h with
  | nil => exact Text.eachFollowed_nil
  | triple first second _ ih =>
    exact triplesClosed_percent.2
      ⟨_, _, _, rfl, isHexDigit_iff.2 ⟨_, first⟩, isHexDigit_iff.2 ⟨_, second⟩, ih⟩
  | plain plain _ ih => exact (triplesClosed_cons plain).2 ih

theorem TriplesClosed.exists_encodes (h : TriplesClosed cs) : ∃ bs, Encodes cs bs := by
  induction hn : cs.length using Nat.strongRecOn generalizing cs with
  | ind n ih =>
    cases cs with
    | nil => exact ⟨[], .nil⟩
    | cons c r =>
      by_cases hc : c = '%'
      · subst hc
        obtain ⟨a, b, r, rfl, ha, hb, closed⟩ := triplesClosed_percent.1 h
        obtain ⟨x, hx⟩ := isHexDigit_iff.1 ha
        obtain ⟨y, hy⟩ := isHexDigit_iff.1 hb
        obtain ⟨bs, rest⟩ := ih r.length (by simp at hn; omega) closed rfl
        exact ⟨_, .triple hx hy rest⟩
      · obtain ⟨bs, rest⟩ := ih r.length (by simp at hn; omega) ((triplesClosed_cons hc).1 h) rfl
        exact ⟨_, .plain hc rest⟩

theorem Encodes.unique {bs' : Bytes} (h : Encodes cs bs) (h' : Encodes cs bs') : bs = bs' := by
  induction h generalizing bs' with
  | nil => cases h'; rfl
  | triple first second _ ih =>
    cases h' with
    | triple first' second' rest' =>
      cases first.symm.trans first'
      cases second.symm.trans second'
      rw [ih rest']
    | plain plain => exact absurd rfl plain
  | plain plain _ ih =>
    cases h' with
    | triple => exact absurd rfl plain
    | plain _ rest' => rw [ih rest']

/-- The texts that encode bytes, each of them certain bytes. -/
theorem existsUnique_encodes_iff : (∃! bs, Encodes cs bs) ↔ TriplesClosed cs := by
  constructor
  · rintro ⟨bs, h, -⟩
    exact h.triplesClosed
  · intro h
    obtain ⟨bs, h⟩ := h.exists_encodes
    exact ⟨bs, h, fun bs' h' => h'.unique h⟩

/-! ### Signs -/

/-- A text with a `0` for each plus sign behind a `%`. -/
def unsigned : List Char → List Char
  | '%' :: '+' :: r => '%' :: '0' :: unsigned r
  | c :: r => c :: unsigned r
  | [] => []

theorem unsigned_sign : unsigned ('%' :: '+' :: r) = '%' :: '0' :: unsigned r := rfl

theorem unsigned_cons (h : ∀ r', c :: r ≠ '%' :: '+' :: r') : unsigned (c :: r) = c :: unsigned r := by
  rw [unsigned]
  rintro r' rfl rfl
  exact h r' rfl

theorem unsigned_cons_of_ne (h : c ≠ '%') : unsigned (c :: r) = c :: unsigned r :=
  unsigned_cons fun _ he => h (List.cons.inj he).1

theorem unsigned_eq (h : ¬['%', '+'] <:+: cs) : unsigned cs = cs := by
  induction cs with
  | nil => rfl
  | cons c r ih =>
    rw [unsigned_cons, ih fun hr => h (hr.trans (List.suffix_cons c r).isInfix)]
    intro r' he
    exact h ⟨[], r', by simp [he]⟩

theorem Encodes.unsigned_eq (h : Encodes cs bs) : unsigned cs = cs := by
  refine Pointer.unsigned_eq ?_
  rintro ⟨before, after, rfl⟩
  obtain ⟨a, b, r, he, ha, -⟩ := h.triplesClosed before ('+' :: after) (by simp)
  cases he
  exact absurd ha (by decide)

theorem exists_unsigned_cons (c : Char) (r : List Char) :
    ∃ l, unsigned (c :: r) = c :: l ∧ l.length = r.length := by
  have length (cs : List Char) : (unsigned cs).length = cs.length := by
    fun_induction unsigned cs with
    | case1 r ih => simp [ih]
    | case2 c r _ ih => simp [ih]
    | case3 => rfl
  by_cases sign : ∃ r', c :: r = '%' :: '+' :: r'
  · obtain ⟨r', he⟩ := sign
    cases he
    exact ⟨'0' :: unsigned r', rfl, by simp [length]⟩
  · exact ⟨unsigned r, unsigned_cons fun r' he => sign ⟨r', he⟩, length r⟩

theorem hexByte?_sign : hexByte? '+' b = hexByte? '0' b := rfl

theorem hexByte?_eq_some {byte : UInt8} (h : a ≠ '+') : hexByte? a b = some byte ↔
    ∃ x y, Text.hexValue? a = some x ∧ Text.hexValue? b = some y ∧ byte = UInt8.ofNat (16 * x + y) := by
  rw [hexByte?, if_neg h]
  cases Text.hexValue? a <;> cases Text.hexValue? b <;> simp [eq_comm]

/-- Behind a `%` and a digit that stays as it is, the other digit stays as it is too. -/
theorem encodes_triple_iff (h : a ≠ '+') : Encodes ('%' :: a :: unsigned (b :: r)) bs ↔
    ∃ byte bs', hexByte? a b = some byte ∧ bs = byte :: bs' ∧ Encodes (unsigned r) bs' := by
  simp only [hexByte?_eq_some h]
  constructor
  · intro encodes
    generalize hl : unsigned (b :: r) = digits at encodes
    cases encodes with
    | plain plain => exact absurd rfl plain
    | @triple _ b' x y r' bs' first second rest =>
      obtain ⟨l, hb, -⟩ := exists_unsigned_cons b r
      cases hb.symm.trans hl
      rw [unsigned_cons_of_ne (ne_percent_of_isHexDigit (isHexDigit_iff.2 ⟨y, second⟩))] at hl
      cases hl
      exact ⟨_, bs', ⟨x, y, first, second, rfl⟩, rfl, rest⟩
  · rintro ⟨byte, bs', ⟨x, y, first, second, rfl⟩, rfl, rest⟩
    rw [unsigned_cons_of_ne (ne_percent_of_isHexDigit (isHexDigit_iff.2 ⟨y, second⟩))]
    exact .triple first second rest

theorem encodes_unsigned_triple : Encodes (unsigned ('%' :: a :: b :: r)) bs ↔
    ∃ byte bs', hexByte? a b = some byte ∧ bs = byte :: bs' ∧ Encodes (unsigned r) bs' := by
  by_cases sign : a = '+'
  · subst sign
    rw [unsigned_sign, encodes_triple_iff (by decide), hexByte?_sign]
  · rw [unsigned_cons fun r' he => sign (List.cons.inj (List.cons.inj he).2).1]
    by_cases percent : a = '%'
    · -- a second percent sign is no digit
      subst percent
      have digit : hexByte? '%' b = none := rfl
      obtain ⟨l, hl, -⟩ := exists_unsigned_cons '%' (b :: r)
      rw [hl]
      refine iff_of_false (fun encodes => ?_) ?_
      · cases encodes with
        | plain plain => exact absurd rfl plain
        | triple first => cases first
      · rintro ⟨byte, bs', h, -⟩
        cases digit.symm.trans h
    · rw [unsigned_cons_of_ne percent, encodes_triple_iff sign]

/-- Decoding reads a plus sign behind a `%` as the digit `0`. -/
theorem percentDecode_eq_some_iff : percentDecode cs = some bs ↔ Encodes (unsigned cs) bs := by
  fun_induction percentDecode cs generalizing bs with
  | case1 =>
    constructor
    · rintro ⟨⟩
      exact .nil
    · rintro ⟨⟩
      rfl
  | case2 a b r ih =>
    rw [encodes_unsigned_triple]
    simp only [Option.bind_eq_bind, Option.bind_eq_some_iff, Option.pure_def, Option.some.injEq, ih]
    constructor
    · rintro ⟨byte, hbyte, bs', rest, rfl⟩
      exact ⟨byte, bs', hbyte, rfl, rest⟩
    · rintro ⟨byte, bs', hbyte, rfl, rest⟩
      exact ⟨byte, hbyte, bs', rest, rfl⟩
  | case3 r short =>
    obtain ⟨l, hl, length⟩ := exists_unsigned_cons '%' r
    rw [hl]
    refine iff_of_false (by simp) fun encodes => ?_
    cases encodes with
    | plain plain => exact absurd rfl plain
    | triple =>
      match r, length with
      | a :: b :: r, _ => exact short a b r rfl rfl
  | case4 c r _ hc ih =>
    rw [unsigned_cons_of_ne hc, Option.map_eq_some_iff]
    constructor
    · rintro ⟨bs', rest, rfl⟩
      exact .plain hc (ih.1 rest)
    · intro encodes
      generalize hl : unsigned r = digits at encodes
      cases encodes with
      | triple => exact absurd rfl hc
      | plain _ rest => exact ⟨_, ih.2 (hl ▸ rest), rfl⟩

/-! ### Reading fragments -/

/-- What a fragment is read as has a written form that the text behind the `#` encodes, up to signs. -/
theorem ofFragment_eq_ok_iff : ofFragment s = .ok p ↔
    ∃ rest, s.toList = '#' :: rest ∧ Encodes (unsigned rest) (Utf8.bytes p.text) := by
  have written : Utf8.bytes p.text = Utf8.encode p.chars := by
    rw [Utf8.bytes, text, String.toList_ofList]
  rw [written]
  simp only [← percentDecode_eq_some_iff]
  unfold ofFragment
  split
  · next rest hs =>
    simp only [hs, List.cons.injEq, true_and, exists_eq_left']
    cases percentDecode rest with
    | none => simp
    | some bs =>
      simp only [Option.some.injEq, eq_comm (a := bs), ← Utf8.decode_eq_ok_iff]
      cases Utf8.decode bs with
      | ok cs => rw [ofChars_eq_ok_iff, Except.ok.injEq, eq_comm]
      | error fault => simp
  · next h =>
    refine iff_of_false (by simp) ?_
    rintro ⟨rest, hs, -⟩
    exact h rest hs

theorem exists_text_eq_iff : (∃ p : Pointer, p.text = t) ↔ IsWritten t.toList := by
  rw [← exists_chars_iff]
  refine exists_congr fun p => ?_
  rw [← String.toList_inj, text, String.toList_ofList]

theorem exists_ofFragment_iff : (∃ p, ofFragment s = .ok p ∧ p.text = t) ↔
    ∃ rest, s.toList = '#' :: rest ∧ Encodes (unsigned rest) (Utf8.bytes t) ∧
      IsWritten t.toList := by
  simp only [ofFragment_eq_ok_iff, ← exists_text_eq_iff]
  constructor
  · rintro ⟨p, ⟨rest, hs, encodes⟩, rfl⟩
    exact ⟨rest, hs, encodes, p, rfl⟩
  · rintro ⟨rest, hs, encodes, p, rfl⟩
    exact ⟨p, ⟨rest, hs, encodes⟩, rfl⟩

/-- A fragment is accepted exactly if it starts with `#` and what follows, with a `0` for each plus
sign behind a `%`, encodes a written form. Where no plus sign follows a `%` that is what follows as it
stands, and every encoding of a written form is read as the pointer. -/
theorem ofFragment_accepts (s t : String) :
    ((∃ p, ofFragment s = .ok p ∧ p.text = t) ↔
      ∃ rest, s.toList = '#' :: rest ∧ Encodes (unsigned rest) (Utf8.bytes t) ∧
        IsWritten t.toList) ∧
    (¬['%', '+'] <:+: s.toList → ((∃ p, ofFragment s = .ok p ∧ p.text = t) ↔
      ∃ rest, s.toList = '#' :: rest ∧ Encodes rest (Utf8.bytes t) ∧ IsWritten t.toList)) ∧
    ∀ rest, s.toList = '#' :: rest → ((∃! bs, Encodes rest bs) ↔ TriplesClosed rest) ∧
      ∀ p : Pointer, p.text = t → Encodes rest (Utf8.bytes t) → ofFragment s = .ok p := by
  refine ⟨exists_ofFragment_iff, fun sign => ?_,
    fun rest hs => ⟨existsUnique_encodes_iff, fun p ht encodes => ?_⟩⟩
  · rw [exists_ofFragment_iff]
    refine exists_congr fun rest => and_congr_right fun hs => ?_
    rw [unsigned_eq fun hr => sign (hr.trans (hs ▸ (List.suffix_cons '#' rest).isInfix))]
  · subst ht
    exact ofFragment_eq_ok_iff.2 ⟨rest, hs, encodes.unsigned_eq.symm ▸ encodes⟩

/-- The two bytes of a letter with an accent, with digits in either case. -/
theorem ofFragment_accent : ¬['%', '+'] <:+: "#/%c3%A9".toList ∧
    (∃ p, ofFragment "#/%c3%A9" = .ok p ∧ p.text = "/é") ∧ ofFragment "#/%c3%A9" = .ok ⟨["é"]⟩ := by
  obtain ⟨-, accepted, read⟩ := ofFragment_accepts "#/%c3%A9" "/é"
  have sign : ¬['%', '+'] <:+: "#/%c3%A9".toList := by decide +kernel
  have accent : Utf8.bytes "/é" = [47, 195, 169] := by decide
  have encodes : Encodes "/%c3%A9".toList (Utf8.bytes "/é") := by
    rw [accent]
    exact .plain (c := '/') (by decide) (.triple (x := 12) (y := 3) rfl rfl
      (.triple (x := 10) (y := 9) rfl rfl .nil))
  have written : IsWritten "/é".toList := exists_chars_iff.1 ⟨⟨["é"]⟩, rfl⟩
  exact ⟨sign, (accepted sign).2 ⟨_, rfl, encodes, written⟩, (read _ rfl).2 ⟨["é"]⟩ rfl encodes⟩

/-- A plus sign in the place of a digit is accepted. -/
theorem ofFragment_signed_digit :
    ofFragment "#/%+5" = .ok ⟨["\x05"]⟩ ∧ ¬TriplesClosed "/%+5".toList := by
  refine ⟨by decide, fun closed => ?_⟩
  obtain ⟨a, b, r, he, ha, -⟩ := closed ['/'] ['+', '5'] rfl
  cases he
  exact absurd ha (by decide)

end JsonSchema.Pointer
