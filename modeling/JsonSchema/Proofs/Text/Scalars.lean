import JsonSchema.Proofs.Except
import JsonSchema.Proofs.Sentences
import JsonSchema.Text.Reader
/-!
# Scalars that are read

Reading a number yields one in the representation of its value: an integer is signed only if it is
negative (`Text.readsNormal_number`). Reading a scalar fails for reasons inside it; none of its readers
reports that something follows the text.
-/

namespace JsonSchema

namespace Text

/-- A fault in a value, not after it. -/
def Fault.IsInside (f : Fault) : Prop := f.cause ≠ .trailingCharacters

/-- A reader finds a number in normal representation, or fails inside of it. -/
abbrev ReadsNormal (x : Except Fault (Number × Bytes)) : Prop :=
  Yields (fun r => r.1.IsNormal) Fault.IsInside x

theorem isNormal_ofInteger (negative : Bool) (n : Nat) : (ofInteger negative n).IsNormal := by
  unfold ofInteger
  split
  · trivial
  · split
    · next h =>
      have value : (Int64.ofInt (-n)).toInt = -n := by
        refine Int64.toInt_ofInt_of_le ?_ ?_
        · have : (n : Int) ≤ 2 ^ 63 := by exact_mod_cast h.2
          omega
        · omega
      show (Int64.ofInt (-n)).toInt < 0
      omega
    · trivial

theorem readsNormal_finishFloat (negative : Bool) (n : Nat) (e : Int) (rest : Bytes) :
    ReadsNormal (finishFloat negative n e rest) := by
  unfold finishFloat
  split
  · trivial
  · rintro ⟨⟩

theorem readsNormal_unsignedExponent (negative : Bool) (n : Nat) (e : Int) (down : Bool)
    (bs : Bytes) : ReadsNormal (unsignedExponent negative n e down bs) := by
  cases bs with
  | nil => rintro ⟨⟩
  | cons b rest =>
    simp only [unsignedExponent]
    split
    · rintro ⟨⟩
    · split
      · exact readsNormal_finishFloat _ _ _ _
      · split
        · rintro ⟨⟩
        · trivial

theorem readsNormal_tail (negative : Bool) (n : Nat) (e : Int) (bs : Bytes) :
    ReadsNormal (tail negative n e bs) := by
  unfold tail
  split
  · split
    · exact readsNormal_unsignedExponent _ _ _ _ _
    · exact readsNormal_finishFloat _ _ _ _
  · exact readsNormal_finishFloat _ _ _ _

theorem readsNormal_fraction (negative : Bool) (n : Nat) (e : Int) (bs : Bytes) :
    ReadsNormal (fraction negative n e bs) := by
  simp only [fraction]
  split
  · split
    · rintro ⟨⟩
    · rintro ⟨⟩
  · exact readsNormal_tail _ _ _ _

theorem readsNormal_afterInteger (negative : Bool) (n extra : Nat) (bs : Bytes) :
    ReadsNormal (afterInteger negative n extra bs) := by
  -- what follows the digits is no fraction and no exponent
  have last (rest : Bytes) : ReadsNormal
      (if extra = 0 then .ok (ofInteger negative n, rest) else finishFloat negative n extra rest) := by
    split
    · exact isNormal_ofInteger _ _
    · exact readsNormal_finishFloat _ _ _ _
  unfold afterInteger
  split
  · split
    · exact readsNormal_fraction _ _ _ _
    · split
      · exact readsNormal_unsignedExponent _ _ _ _ _
      · exact last _
  · exact last _

/-- A number is read in the representation of its value. -/
theorem readsNormal_number (negative : Bool) (bs : Bytes) : ReadsNormal (number negative bs) := by
  cases bs with
  | nil => rintro ⟨⟩
  | cons b rest =>
    simp only [number]
    split
    · rintro ⟨⟩
    · split
      · split
        · rintro ⟨⟩
        · exact readsNormal_afterInteger _ _ _ _
      · exact readsNormal_afterInteger _ _ _ _
    · exact readsNormal_afterInteger _ _ _ _

theorem failsWith_literal (word bs : Bytes) : FailsWith Fault.IsInside (literal word bs) := by
  induction word generalizing bs with
  | nil => trivial
  | cons w word ih =>
    cases bs with
    | nil => rintro ⟨⟩
    | cons b rest =>
      rw [literal]
      split
      · exact ih rest
      · rintro ⟨⟩

theorem failsWith_string (acc bs : Bytes) : FailsWith Fault.IsInside (string acc bs) := by
  fun_induction string acc bs with
  | case2 acc rest =>
    unfold finishString
    split
    · trivial
    · rintro ⟨⟩
  | _ => first | assumption | rintro ⟨⟩

end Text
end JsonSchema
