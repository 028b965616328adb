import JsonSchema.Text.Pieces
/-!
# Pieces of texts

The pieces of a text are those before its separators and the one after the last (`splitAt_append`),
so a property of texts can be shown separator by separator (`split_induction`). What is before the
first separator does not contain it (`splitFirst_eq_some`). `EachFollowed` says what comes behind
each occurrence of a character.
-/

namespace JsonSchema.Text

variable {c x : Char} {l r cs piece : List Char} {P : List Char → Prop}

/-! ### Splitting -/

theorem splitAt_of_not_mem (h : c ∉ l) : splitAt c l = [l] := by
  induction l with
  | nil => rfl
  | cons x l ih =>
    obtain ⟨hx, hl⟩ := List.ne_and_not_mem_of_not_mem_cons h
    rw [splitAt, if_neg (Ne.symm hx), ih hl]

theorem splitAt_append (h : c ∉ l) : splitAt c (l ++ c :: r) = l :: splitAt c r := by
  induction l with
  | nil => rw [List.nil_append, splitAt, if_pos rfl]
  | cons x l ih =>
    obtain ⟨hx, hl⟩ := List.ne_and_not_mem_of_not_mem_cons h
    rw [List.cons_append, splitAt, if_neg (Ne.symm hx), ih hl]

/-- A property of all texts: of those without `c`, and of a text with `c` if it holds of what comes
after the first one. -/
theorem split_induction (c : Char) (last : ∀ l, c ∉ l → P l)
    (split : ∀ l r, c ∉ l → P r → P (l ++ c :: r)) (cs : List Char) : P cs := by
  induction hn : cs.length using Nat.strongRecOn generalizing cs with
  | ind n ih =>
    by_cases hc : c ∈ cs
    · obtain ⟨l, r, rfl, hl⟩ := List.eq_append_cons_of_mem hc
      refine split l r hl (ih r.length ?_ r rfl)
      rw [← hn, List.length_append, List.length_cons]
      omega
    · exact last cs hc

theorem flatMap_splitAt (c : Char) (cs : List Char) :
    (splitAt c cs).flatMap (c :: ·) = c :: cs := by
  induction cs using split_induction c with
  | last l hl => rw [splitAt_of_not_mem hl, List.flatMap_singleton]
  | split l r hl ih => rw [splitAt_append hl, List.flatMap_cons, ih, List.cons_append]

theorem not_mem_of_mem_splitAt (h : piece ∈ splitAt c cs) :
    c ∉ piece := by
  induction cs using split_induction c with
  | last l hl =>
    rw [splitAt_of_not_mem hl] at h
    exact List.mem_singleton.1 h ▸ hl
  | split l r hl ih =>
    rw [splitAt_append hl] at h
    rcases List.mem_cons.1 h with rfl | h
    · exact hl
    · exact ih h

theorem splitAt_ne_nil (c : Char) (cs : List Char) : splitAt c cs ≠ [] := by
  induction cs using split_induction c with
  | last l hl => simp [splitAt_of_not_mem hl]
  | split l r hl ih => simp [splitAt_append hl]

/-- A separator separates the pieces before it from those after it. -/
theorem splitAt_append_append : splitAt c (l ++ c :: r) = splitAt c l ++ splitAt c r := by
  induction l using split_induction c with
  | last l hl => rw [splitAt_append hl, splitAt_of_not_mem hl, List.singleton_append]
  | split k l hk ih =>
    rw [List.append_assoc, List.cons_append, splitAt_append hk, ih, splitAt_append hk,
      List.cons_append]

theorem splitAt_intercalate {pieces : List (List Char)} (nonempty : pieces ≠ [])
    (h : ∀ piece ∈ pieces, c ∉ piece) : splitAt c ([c].intercalate pieces) = pieces := by
  induction pieces with
  | nil => exact absurd rfl nonempty
  | cons piece pieces ih =>
    obtain ⟨first, others⟩ := List.forall_mem_cons.1 h
    cases pieces with
    | nil => rw [List.intercalate_singleton, splitAt_of_not_mem first]
    | cons next pieces =>
      rw [List.intercalate_cons_cons, List.append_assoc, List.singleton_append,
        splitAt_append first, ih (List.cons_ne_nil _ _) others]

theorem intercalate_splitAt (c : Char) (cs : List Char) : [c].intercalate (splitAt c cs) = cs := by
  induction cs using split_induction c with
  | last l hl => rw [splitAt_of_not_mem hl, List.intercalate_singleton]
  | split l r hl ih =>
    obtain ⟨piece, pieces, hp⟩ := List.exists_cons_of_ne_nil (splitAt_ne_nil c r)
    rw [splitAt_append hl, hp, List.intercalate_cons_cons, ← hp, ih, List.append_assoc,
      List.singleton_append]

theorem splitFirst_of_not_mem (h : c ∉ l) : splitFirst c l = (l, none) := by
  induction l with
  | nil => rfl
  | cons x l ih =>
    obtain ⟨hx, hl⟩ := List.ne_and_not_mem_of_not_mem_cons h
    rw [splitFirst, if_neg (Ne.symm hx), ih hl]

theorem splitFirst_append (h : c ∉ l) : splitFirst c (l ++ c :: r) = (l, some r) := by
  induction l with
  | nil => rw [List.nil_append, splitFirst, if_pos rfl]
  | cons x l ih =>
    obtain ⟨hx, hl⟩ := List.ne_and_not_mem_of_not_mem_cons h
    rw [List.cons_append, splitFirst, if_neg (Ne.symm hx), ih hl]

theorem splitFirst_cases (c : Char) (cs : List Char) :
    (c ∉ cs ∧ splitFirst c cs = (cs, none)) ∨
      ∃ l r, c ∉ l ∧ cs = l ++ c :: r ∧ splitFirst c cs = (l, some r) := by
  by_cases hc : c ∈ cs
  · obtain ⟨l, r, rfl, hl⟩ := List.eq_append_cons_of_mem hc
    exact .inr ⟨l, r, hl, rfl, splitFirst_append hl⟩
  · exact .inl ⟨hc, splitFirst_of_not_mem hc⟩

theorem splitFirst_eq_some : splitFirst c cs = (l, some r) ↔ c ∉ l ∧ cs = l ++ c :: r := by
  constructor
  · intro h
    rcases splitFirst_cases c cs with ⟨-, hn⟩ | ⟨l', r', hl, rfl, hs⟩
    · rw [hn] at h
      cases h
    · rw [hs] at h
      cases h
      exact ⟨hl, rfl⟩
  · rintro ⟨hl, rfl⟩
    exact splitFirst_append hl

/-! ### What follows a character -/

/-- What follows each `c` is as `P` says. -/
def EachFollowed (c : Char) (P : List Char → Prop) (cs : List Char) : Prop :=
  ∀ before after, cs = before ++ c :: after → P after

theorem eachFollowed_nil : EachFollowed c P [] := by
  intro before after h
  cases before <;> cases h

theorem eachFollowed_cons :
    EachFollowed c P (x :: cs) ↔ (x = c → P cs) ∧ EachFollowed c P cs := by
  constructor
  · intro h
    refine ⟨?_, fun before after hcs => ?_⟩
    · rintro rfl
      exact h [] cs rfl
    · exact h (x :: before) after (by rw [hcs, List.cons_append])
  · rintro ⟨first, rest⟩ before after h
    cases before with
    | nil =>
      obtain ⟨rfl, rfl⟩ := List.cons.inj h
      exact first rfl
    | cons y before => exact rest before after (List.cons.inj h).2

theorem eachFollowed_append (h : c ∉ l) : EachFollowed c P (l ++ r) ↔ EachFollowed c P r := by
  induction l with
  | nil => rfl
  | cons x l ih =>
    obtain ⟨hx, hl⟩ := List.ne_and_not_mem_of_not_mem_cons h
    rw [List.cons_append, eachFollowed_cons, ih hl]
    exact and_iff_right fun same => absurd same.symm hx

theorem eachFollowed_of_not_mem (h : c ∉ l) : EachFollowed c P l := by
  rw [← List.append_nil l, eachFollowed_append h]
  exact eachFollowed_nil

theorem not_infix_iff_eachFollowed :
    ¬[c, x] <:+: cs ↔ EachFollowed c (fun r => r.head? ≠ some x) cs := by
  constructor
  · rintro absent before after rfl next
    obtain ⟨r, rfl⟩ := List.head?_eq_some_iff.1 next
    exact absent ⟨before, r, by simp⟩
  · rintro each ⟨before, after, rfl⟩
    exact each before (x :: after) (by simp) rfl

end JsonSchema.Text
