import Mathlib.Data.List.Basic
import JsonSchema.Pattern
import JsonSchema.Proofs.Pattern.Matching
/-!
# Bounds of repetitions

The reader refuses a repetition whose least number of copies is above the greatest
(`le_of_readBounds`), and everything else it reads is put together from parts. So all expressions
that are read have sound bounds (`Regex.bounded_of_read?`), and a pattern matches a string exactly
if its expression matches some part of it (`isMatch_iff`).
-/

namespace JsonSchema.Pattern

variable {f : Flags} {p q : Progress} {g : Group} {c : Char} {cs rest r : List Char} {min : Nat}
  {max : Option Nat}

/-! ### Parts -/

def Piece.Bounded (p : Piece) : Prop := p.regex.Bounded

theorem Piece.bounded_concat {ps : List Piece} (h : ∀ p ∈ ps, p.Bounded) :
    (Piece.concat ps).Bounded := by
  unfold Piece.concat
  split
  · trivial
  · exact h _ (List.mem_singleton_self _)
  · exact List.foldlRecOn _ _ trivial fun q hq p hp => ⟨h p hp, hq⟩

theorem Piece.bounded_choice {ps : List Piece} (h : ∀ p ∈ ps, p.Bounded) :
    (Piece.choice ps).Bounded := by
  unfold Piece.choice
  split
  · trivial
  · exact h _ (List.mem_singleton_self _)
  next p ps _ =>
    obtain ⟨first, others⟩ := List.forall_mem_cons.1 h
    exact List.foldlRecOn _ _ first fun q hq p hp => ⟨others p hp, hq⟩

structure Group.Bounded (g : Group) : Prop where
  branches : ∀ p ∈ g.branches, p.Bounded
  parts : ∀ p ∈ g.parts, p.Bounded

theorem Group.Bounded.value (h : g.Bounded) : g.value.Bounded :=
  Piece.bounded_choice (List.forall_mem_cons.2 ⟨Piece.bounded_concat h.parts, h.branches⟩)

namespace Progress

/-- All parts that have been read have sound bounds. -/
structure Bounded (p : Progress) : Prop where
  group : p.group.Bounded
  enclosing : ∀ g ∈ p.enclosing, g.Bounded

theorem bounded_start : start.Bounded := ⟨⟨by simp [start], by simp [start]⟩, by simp [start]⟩

theorem Bounded.push (h : p.Bounded) {piece : Piece} (hp : piece.Bounded) : (p.push piece).Bounded :=
  ⟨⟨h.group.branches, List.forall_mem_cons.2 ⟨hp, h.group.parts⟩⟩, h.enclosing⟩

theorem Bounded.branch (h : p.Bounded) : p.branch.Bounded :=
  ⟨⟨List.forall_mem_cons.2 ⟨Piece.bounded_concat h.group.parts, h.group.branches⟩, by
    simp [Progress.branch]⟩, h.enclosing⟩

theorem Bounded.openWith (h : p.Bounded) : (p.openWith f).Bounded :=
  ⟨⟨by simp [Progress.openWith], by simp [Progress.openWith]⟩,
    List.forall_mem_cons.2 ⟨h.group, h.enclosing⟩⟩

theorem Bounded.close? (h : p.Bounded) (hq : p.close? = some q) : q.Bounded := by
  unfold Progress.close? at hq
  split at hq
  · cases hq
  next outer enclosing same =>
    cases hq
    obtain ⟨first, others⟩ := List.forall_mem_cons.1 (same ▸ h.enclosing)
    exact push ⟨first, others⟩ h.group.value

theorem Bounded.repeat? (h : p.Bounded) (order : ∀ m ∈ max, min ≤ m)
    (hq : p.repeat? min max = some q) : q.Bounded := by
  unfold Progress.repeat? at hq
  split at hq
  · cases hq
  next piece parts same =>
    split at hq
    · cases hq
      obtain ⟨last, others⟩ := List.forall_mem_cons.1 (same ▸ h.group.parts)
      exact ⟨⟨h.group.branches, List.forall_mem_cons.2 ⟨⟨order, last⟩, others⟩⟩, h.enclosing⟩
    · cases hq

end Progress

/-! ### Steps of the reader -/

theorem le_of_readBounds (h : readBounds f cs = some (min, max, rest)) : ∀ m ∈ max, min ≤ m := by
  obtain ⟨⟨n, tail⟩, -, h⟩ := Option.bind_eq_some_iff.1 h
  dsimp only at h
  split at h
  · cases h
    rintro m ⟨⟩
    exact Nat.le_refl _
  · split at h
    · cases h
      rintro m ⟨⟩
    · split at h
      · split at h
        next order =>
          cases h
          rintro m ⟨⟩
          exact order
        · cases h
      · cases h
  · cases h

theorem Progress.Bounded.openNamed (h : p.Bounded) (hq : openNamed p cs = some (q, rest)) :
    q.Bounded := by
  obtain ⟨⟨name, tail⟩, -, hq⟩ := Option.bind_eq_some_iff.1 hq
  dsimp only at hq
  split at hq
  · cases hq
  · split at hq
    · cases hq
      exact Bounded.openWith ⟨h.group, h.enclosing⟩
    · cases hq

theorem Progress.Bounded.openGroup (h : p.Bounded) (hq : openGroup p cs = some (q, rest)) :
    q.Bounded := by
  unfold Pattern.openGroup at hq
  split at hq
  · cases hq
  · cases hq
  · cases hq
  · cases hq
  · exact h.openNamed hq
  · exact h.openNamed hq
  · split at hq
    · cases hq
      exact h.openWith
    next directives _ _ _ _ =>
      split at hq
      · cases hq
      · cases hq
        have flagged : Bounded { p with flags := p.flags.putAll directives } :=
          ⟨h.group, h.enclosing⟩
        exact flagged.push trivial
    · cases hq
  · cases hq
    exact h.openWith

/-- Whatever is read next, the bounds stay sound. -/
theorem Progress.Bounded.step (h : p.Bounded) (hq : step p c r = some (q, rest)) : q.Bounded := by
  have one {regex : Regex} (hr : regex.Bounded) : (p.pushRegex regex).Bounded := h.push hr
  have again {min : Nat} {max : Option Nat} {r : List Char} (order : ∀ m ∈ max, min ≤ m)
      (hq : (p.repeat? min max).map (·, skipLazy r) = some (q, rest)) : q.Bounded := by
    obtain ⟨_, repeated, ⟨⟩⟩ := Option.map_eq_some_iff.1 hq
    exact h.repeat? order repeated
  unfold Pattern.step at hq
  dsimp only at hq
  -- one case for each character that has a meaning, in the order of the reader
  split at hq
  case h_1 => exact h.openGroup hq
  case h_2 =>
    obtain ⟨_, closed, ⟨⟩⟩ := Option.map_eq_some_iff.1 hq
    exact h.close? closed
  case h_3 =>
    cases hq
    exact h.branch
  case h_4 =>
    obtain ⟨⟨part, tail⟩, -, ⟨⟩⟩ := Option.map_eq_some_iff.1 hq
    exact h.push trivial
  case h_5 => exact again (by simp) hq
  case h_6 => exact again (by simp) hq
  case h_7 => exact again (by simp) hq
  case h_8 =>
    obtain ⟨⟨min, max, tail⟩, bounds, hq⟩ := Option.bind_eq_some_iff.1 hq
    exact again (le_of_readBounds bounds) hq
  case h_9 =>
    obtain ⟨⟨escape, tail⟩, -, hq⟩ := Option.map_eq_some_iff.1 hq
    cases escape with
    | literal d =>
      cases hq
      exact one trivial
    | look l =>
      cases hq
      exact one trivial
    | set s =>
      cases hq
      exact one trivial
  case h_10 =>
    obtain ⟨s, -, ⟨⟩⟩ := Option.map_eq_some_iff.1 hq
    exact one trivial
  case h_11 =>
    cases hq
    exact one trivial
  case h_12 =>
    cases hq
    exact one trivial
  case h_13 =>
    cases hq
    exact one trivial

theorem Piece.bounded_of_readFrom {n : Nat} {piece : Piece} (h : p.Bounded)
    (hp : readFrom n p cs = some piece) : piece.Bounded := by
  induction n generalizing p cs with
  | zero => cases hp
  | succ n ih =>
    rw [readFrom] at hp
    split at hp
    · split at hp
      · cases hp
        exact h.group.value
      · cases hp
    · obtain ⟨⟨q, rest⟩, hq, hp⟩ := Option.bind_eq_some_iff.1 hp
      exact ih (h.step hq) hp

/-- Expressions that are read ask for no more copies than they allow. -/
theorem Regex.bounded_of_read? {s : String} {r : Regex} (h : Regex.read? s = some r) :
    r.Bounded := by
  obtain ⟨piece, hp, h⟩ := Option.bind_eq_some_iff.1 h
  split at h
  · cases h
    exact Piece.bounded_of_readFrom Progress.bounded_start hp
  · cases h

/-- A pattern matches a string if its expression matches some part of it. -/
theorem isMatch_iff {source s : String} {p : Pattern} (h : compile? source = some p) :
    p.isMatch s = true ↔
      ∃ i j, i ≤ s.toList.length ∧ p.regex.Matches s.toList i j := by
  obtain ⟨r, hr, rfl⟩ := Option.map_eq_some_iff.1 h
  exact Regex.matchesIn_iff (Regex.bounded_of_read? hr)

end JsonSchema.Pattern
