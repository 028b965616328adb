import JsonSchema.Proofs.Pointer.WrittenForm
/-!
# Which texts are written forms of pointers

A text is read as a pointer exactly if it is the written form of that pointer
(`Pointer.ofChars_eq_ok_iff`), so each pointer has one written form only. The texts that are written
forms are empty or start with a slash, and every `~` in them begins an escape
(`Pointer.exists_chars_iff`).
-/

namespace JsonSchema

namespace Pointer

variable {c : Char} {cs l r raw token : List Char} {p : Pointer}

/-! ### Escapes -/

/-- Every `~` is followed by `0` or `1`. -/
def EscapesClosed (cs : List Char) : Prop :=
  Text.EachFollowed '~' (fun after => after.head? = some '0' ∨ after.head? = some '1') cs

theorem escapesClosed_nil : EscapesClosed [] := Text.eachFollowed_nil

theorem escapesClosed_cons : EscapesClosed (c :: cs) ↔
    (c = '~' → cs.head? = some '0' ∨ cs.head? = some '1') ∧ EscapesClosed cs :=
  Text.eachFollowed_cons

theorem escapesClosed_append : EscapesClosed (l ++ '/' :: r) ↔ EscapesClosed l ∧ EscapesClosed r := by
  induction l with
  | nil => simp [escapesClosed_cons, escapesClosed_nil]
  | cons c l ih =>
    rw [List.cons_append, escapesClosed_cons, ih, escapesClosed_cons, and_assoc]
    refine and_congr_left fun _ => imp_congr_right fun _ => ?_
    cases l <;> simp

theorem escapesClosed_iff_pieces :
    EscapesClosed cs ↔ ∀ piece ∈ Text.splitAt '/' cs, EscapesClosed piece := by
  induction cs using Text.split_induction '/' with
  | last l hl => rw [Text.splitAt_of_not_mem hl, List.forall_mem_singleton]
  | split l r hl ih => rw [Text.splitAt_append hl, List.forall_mem_cons, escapesClosed_append, ih]

/-- A token can be read exactly if every `~` begins an escape. -/
theorem exists_unescape_iff : (∃ token, unescape raw = some token) ↔ EscapesClosed raw := by
  fun_induction unescape raw with
  | case1 => exact iff_of_true ⟨[], rfl⟩ escapesClosed_nil
  | case2 r ih => simp [escapesClosed_cons, ← ih]
  | case3 r ih => simp [escapesClosed_cons, ← ih]
  | case4 r h0 h1 =>
    simp only [reduceCtorEq, exists_false, false_iff, escapesClosed_cons, forall_const]
    rintro ⟨h | h, -⟩
    · obtain ⟨r, rfl⟩ := List.head?_eq_some_iff.1 h
      exact h0 r rfl rfl
    · obtain ⟨r, rfl⟩ := List.head?_eq_some_iff.1 h
      exact h1 r rfl rfl
  | case5 c r _ _ hc ih => simp [escapesClosed_cons, hc, ← ih]

theorem escape_cons (c : Char) (cs : List Char) : escape (c :: cs) = escapeChar c ++ escape cs :=
  List.flatMap_cons

theorem escapeChar_of_plain (h : c ≠ '~') (h' : c ≠ '/') : escapeChar c = [c] := by
  rw [escapeChar, if_neg h, if_neg h']

/-- A piece without a slash is the written form of the token that it is read as. -/
theorem escape_of_unescape (slash : '/' ∉ raw) (h : unescape raw = some token) :
    escape token = raw := by
  fun_induction unescape raw generalizing token with
  | case1 => cases h; rfl
  | case2 r ih =>
    obtain ⟨t, ht, rfl⟩ := Option.map_eq_some_iff.1 h
    rw [escape_cons, ih (by simp_all) ht]
    rfl
  | case3 r ih =>
    obtain ⟨t, ht, rfl⟩ := Option.map_eq_some_iff.1 h
    rw [escape_cons, ih (by simp_all) ht]
    rfl
  | case4 r _ _ => cases h
  | case5 c r _ _ hc ih =>
    obtain ⟨t, ht, rfl⟩ := Option.map_eq_some_iff.1 h
    obtain ⟨hs, slash⟩ := List.ne_and_not_mem_of_not_mem_cons slash
    rw [escape_cons, escapeChar_of_plain hc (Ne.symm hs), ih slash ht, List.singleton_append]

theorem readToken_eq_ok {t : String} (slash : '/' ∉ raw) :
    readToken raw = .ok t ↔ escape t.toList = raw := by
  constructor
  · intro h
    unfold readToken at h
    split at h
    · next token hu =>
      cases h
      rw [String.toList_ofList]
      exact escape_of_unescape slash hu
    · cases h
  · rintro rfl
    exact readToken_escape t

/-! ### Whole texts -/

theorem isOk_readToken_iff : (∃ t, readToken raw = .ok t) ↔ EscapesClosed raw := by
  rw [← exists_unescape_iff]
  unfold readToken
  cases unescape raw <;> simp

/-- A text is read as a pointer exactly if it is the written form of that pointer. -/
theorem ofChars_eq_ok_iff : ofChars cs = .ok p ↔ p.chars = cs := by
  constructor
  · intro h
    unfold ofChars at h
    split at h
    · cases h; rfl
    · next c r =>
      split at h
      · next hc =>
        subst hc
        obtain ⟨ts, hts, h⟩ := bind_eq_ok.1 h
        cases h
        have pieces := (List.forall₂_and_left _ _).2
          ⟨fun piece hp => Text.not_mem_of_mem_splitAt hp, mapM_eq_ok.1 hts⟩
        have written : Text.splitAt '/' r = ts.map fun t => escape t.toList := by
          rw [← List.forall₂_eq_eq_eq, List.forall₂_map_right_iff]
          exact pieces.imp fun raw t h => ((readToken_eq_ok h.1).1 h.2).symm
        rw [chars, ← Text.flatMap_splitAt, written, List.flatMap_map]
      · cases h
  · rintro rfl
    exact ofChars_chars p

/-- The written forms. -/
def IsWritten (cs : List Char) : Prop := (cs = [] ∨ cs.head? = some '/') ∧ EscapesClosed cs

theorem exists_chars_iff : (∃ p : Pointer, p.chars = cs) ↔ IsWritten cs := by
  simp only [← ofChars_eq_ok_iff, IsWritten]
  cases cs with
  | nil => simp [ofChars, escapesClosed_nil]
  | cons c r =>
    by_cases hc : c = '/'
    · subst hc
      have tokens : (∃ p, ofChars ('/' :: r) = .ok p) ↔
          Succeeds ((Text.splitAt '/' r).mapM readToken) := by
        rw [exists_eq_ok, ofChars, if_pos rfl, succeeds_bind]
        exact exists_congr fun ts => and_iff_left (succeeds_pure _)
      have slash : EscapesClosed ('/' :: r) ↔ EscapesClosed r := by simp [escapesClosed_cons]
      rw [tokens, succeeds_mapM, slash, escapesClosed_iff_pieces]
      simp only [← isOk_readToken_iff, exists_eq_ok, List.head?_cons, or_true, true_and]
    · simp [ofChars, hc]

theorem ofText_eq_ok_iff {s : String} : ofText s = .ok p ↔ p.text = s := by
  rw [ofText, ofChars_eq_ok_iff, text, ← String.toList_inj, String.toList_ofList]

end Pointer
end JsonSchema
