import JsonSchema.Pattern
import JsonSchema.Proofs.Unicode.Tables
/-!
# Reading in stages

A pattern is read in rounds, so a run of the reader can be cut into stages (`readFrom_rounds`). Whether
a name of a group is allowed is looked up in the tables of characters, which are not evaluated with
the pattern: a name of letters is allowed (`isNameChar_of_isAlpha`), and the stage behind it begins
inside the group (`readFrom_named`).
-/

namespace JsonSchema.Pattern

open Unicode (Spells alphabetic_of_isAlpha)

variable {p q : Progress} {name cs r : List Char} {c : Char} {k n : Nat} {piece : Piece}

deriving instance DecidableEq for Piece

/-- What has been read after some rounds, and the text that is left. -/
def rounds : Nat → Progress → List Char → Option (Progress × List Char)
  | 0, p, cs => some (p, cs)
  | n + 1, p, cs =>
    match p.flags.skip cs with
    | [] => none
    | c :: r => (step p c r).bind fun q => rounds n q.1 q.2

theorem readFrom_rounds (h : rounds k p cs = some (q, r)) :
    readFrom (k + n) p cs = readFrom n q r := by
  induction k generalizing p cs with
  | zero =>
    cases h
    rw [Nat.zero_add]
  | succ k ih =>
    cases hs : p.flags.skip cs with
    | nil =>
      rw [rounds, hs] at h
      cases h
    | cons c r =>
      rw [rounds, hs] at h
      obtain ⟨q, hq, rest⟩ := Option.bind_eq_some_iff.1 h
      rw [Nat.succ_add, readFrom, hs]
      simp only [hq, Option.bind_some, ih rest]

theorem cutAt?_append (h : c ∉ name) : cutAt? [c] (name ++ c :: r) = some (name, r) := by
  induction name with
  | nil => simp [cutAt?]
  | cons d name ih =>
    obtain ⟨other, rest⟩ := List.ne_and_not_mem_of_not_mem_cons h
    simp [cutAt?, other, ih rest]

theorem isNameChar_of_isAlpha (h : c.isAlpha = true) (first : Bool) : isNameChar first c = true := by
  simp [isNameChar, alphabetic_of_isAlpha h]

/-- A name of letters begins a group, if it is the first. -/
theorem readFrom_named (blanks : p.flags.spaced = false) (fresh : p.names = [])
    (nonempty : name ≠ []) (letters : ∀ c ∈ name, c.isAlpha = true) :
    readFrom (n + 1) p ('(' :: '?' :: 'P' :: '<' :: (name ++ '>' :: r)) =
      readFrom n ({ p with names := [String.ofList name] }.openWith p.flags) r := by
  have skip (cs : List Char) : p.flags.skip cs = cs := by simp [Flags.skip, blanks]
  have mark : '>' ∉ name := fun h => absurd (letters '>' h) (by decide)
  obtain ⟨c, rest, rfl⟩ := List.exists_cons_of_ne_nil nonempty
  obtain ⟨first, others⟩ := List.forall_mem_cons.1 letters
  have allowed : isNameChar true c = true ∧ ∀ d ∈ rest, isNameChar false d = true :=
    ⟨isNameChar_of_isAlpha first true, fun d hd => isNameChar_of_isAlpha (others d hd) false⟩
  have opened : openNamed p (c :: rest ++ '>' :: r) =
      some ({ p with names := [String.ofList (c :: rest)] }.openWith p.flags, r) := by
    rw [openNamed, cutAt?_append mark]
    simpa [fresh] using allowed
  rw [readFrom, skip]
  simp only [step, openGroup, skip, opened, Option.bind_some]

/-- A pattern with a named group is read up to that group, whose name ends at the `m`-th character,
and then from inside it on. -/
theorem readFrom_start (k n m : Nat) (name : List Char) (size : cs.length = k + n)
    (front : ((rounds k .start cs).any fun s => !s.1.flags.spaced && s.1.names.isEmpty &&
      s.2 == '(' :: '?' :: 'P' :: '<' :: (name ++ '>' :: cs.drop m)) = true)
    (nonempty : name ≠ []) (letters : ∀ c ∈ name, c.isAlpha = true)
    (back : ((rounds k .start cs).bind fun s =>
      readFrom n ({ s.1 with names := [String.ofList name] }.openWith s.1.flags) (cs.drop m)) =
        some piece) :
    readFrom (cs.length + 1) .start cs = some piece := by
  cases h : rounds k .start cs with
  | none =>
    rw [h] at back
    cases back
  | some s =>
    obtain ⟨q, left⟩ := s
    simp only [h, Option.any_some, Bool.and_eq_true, Bool.not_eq_true', List.isEmpty_iff,
      beq_iff_eq] at front
    obtain ⟨⟨blanks, fresh⟩, rfl⟩ := front
    rw [h, Option.bind_some] at back
    rw [size, Nat.add_assoc, readFrom_rounds h, readFrom_named blanks fresh nonempty letters, back]

/-- The expression that rows of text write, from what is read of their characters. -/
theorem Regex.read?_of_spells {rows : List String} (h : Spells rows cs)
    (read : readFrom (cs.length + 1) .start cs = some piece)
    (limits : piece.depth ≤ maxDepth ∧ piece.regex.weight ≤ maxWeight) :
    Regex.read? (String.join rows) = some piece.regex := by
  simp only [Regex.read?, h.toList_join, read, Option.bind_some, if_pos limits]

end JsonSchema.Pattern
