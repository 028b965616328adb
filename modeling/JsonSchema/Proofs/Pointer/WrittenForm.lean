import JsonSchema.Pointer
import JsonSchema.Proofs.Except
import JsonSchema.Proofs.Text.Pieces
/-!
# The written form of a pointer

Reading the written form of a pointer gives the pointer back (`Pointer.ofChars_chars`): no token has
a slash in its written form, so the slashes are those before tokens. So different pointers are written
differently (`Pointer.text_injective`), and ordering positions by their written forms orders them.
-/

namespace JsonSchema

namespace Pointer

variable {t : String} {ts : List String} {cs : List Char}

theorem slash_not_mem_escape (cs : List Char) : '/' ∉ escape cs := by
  induction cs with
  | nil => exact List.not_mem_nil
  | cons c cs ih =>
    rw [escape, List.flatMap_cons, List.mem_append, not_or]
    refine ⟨?_, ih⟩
    unfold escapeChar
    split
    · decide
    · split
      · decide
      · next hc => exact fun h => hc (List.mem_singleton.1 h).symm

theorem unescape_cons_of_ne {c : Char} (h : c ≠ '~') :
    unescape (c :: cs) = (unescape cs).map (c :: ·) := by
  rw [unescape, if_neg h]
  · rintro _ rfl
    exact absurd rfl h
  · rintro _ rfl
    exact absurd rfl h

theorem unescape_escape (cs : List Char) : unescape (escape cs) = some cs := by
  induction cs with
  | nil => rfl
  | cons c cs ih =>
    rw [escape] at ih
    rw [escape, List.flatMap_cons, escapeChar]
    split
    · next hc => subst hc; simp [unescape, ih]
    · split
      · next hc => subst hc; simp [unescape, ih]
      · next h _ => rw [List.singleton_append, unescape_cons_of_ne h, ih]; rfl

theorem readToken_escape (t : String) : readToken (escape t.toList) = .ok t := by
  rw [readToken, unescape_escape]
  exact congrArg _ String.ofList_toList

/-- The pieces between the slashes of a written form are the written tokens. -/
theorem splitAt_chars (t : String) (ts : List String) :
    Text.splitAt '/' (escape t.toList ++ chars ⟨ts⟩) = (t :: ts).map fun t => escape t.toList := by
  induction ts generalizing t with
  | nil =>
    rw [chars, List.flatMap_nil, List.append_nil]
    exact Text.splitAt_of_not_mem (slash_not_mem_escape _)
  | cons u us ih =>
    rw [chars, List.flatMap_cons, List.cons_append, Text.splitAt_append (slash_not_mem_escape _)]
    exact congrArg _ (ih u)

theorem ofChars_chars (p : Pointer) : ofChars p.chars = .ok p := by
  obtain ⟨ts⟩ := p
  cases ts with
  | nil => rfl
  | cons t ts =>
    have tokens : List.Forall₂ (fun raw t => readToken raw = .ok t)
        ((t :: ts).map fun t => escape t.toList) (t :: ts) :=
      List.forall₂_map_left_iff.2 (List.forall₂_same.2 fun t _ => readToken_escape t)
    rw [← splitAt_chars, ← mapM_eq_ok] at tokens
    rw [chars, List.flatMap_cons, List.cons_append, ofChars, if_pos rfl, bind_eq_ok]
    exact ⟨t :: ts, tokens, rfl⟩

theorem ofText_text (p : Pointer) : ofText p.text = .ok p := by
  rw [ofText, text, String.toList_ofList, ofChars_chars]

theorem text_injective : Function.Injective text := fun p q h => by
  have hp := ofText_text p
  rw [h, ofText_text q] at hp
  exact (Except.ok.inj hp).symm

/-! ### The order of positions -/

theorem precedes_trans {p q r : Pointer} (h : p.precedes q = true) (h' : q.precedes r = true) :
    p.precedes r = true :=
  decide_eq_true (String.le_trans (of_decide_eq_true h) (of_decide_eq_true h'))

theorem precedes_total (p q : Pointer) : (p.precedes q || q.precedes p) = true := by
  rw [Bool.or_eq_true]
  exact (String.le_total p.text q.text).imp decide_eq_true decide_eq_true

theorem precedes_antisymm {p q : Pointer} (h : p.precedes q = true) (h' : q.precedes p = true) :
    p = q :=
  text_injective (String.le_antisymm (of_decide_eq_true h) (of_decide_eq_true h'))

end Pointer
end JsonSchema
