import Mathlib.Data.List.Infix
import JsonSchema.Format
import JsonSchema.Proofs.Text.Pieces
/-!
# Host names

A host name has at most 255 bytes and is made of labels with points between them, each of up to 63
letters, digits and hyphens (`isHost_iff`). An email address has a host name behind its `@`, which
occurs nowhere else. A label does not begin with a hyphen, but it may end with one
(`labels_of_isValid`).
-/

namespace JsonSchema.Format

open JsonSchema.Text

variable {l cs name : List Char} {s : String}

/-- Up to 63 letters, digits and hyphens, at least one, of which the first is not a hyphen. -/
structure Label (l : List Char) : Prop where
  nonempty : l ≠ []
  length_le : l.length ≤ 63
  char : ∀ c ∈ l, c.isAlphanum = true ∨ c = '-'
  first : l.head? ≠ some '-'

/-- A label that does not end with a hyphen either. -/
def ClosedLabel (l : List Char) : Prop := Label l ∧ l.getLast? ≠ some '-'

theorem isLabelChar_iff {c : Char} : isLabelChar c = true ↔ c.isAlphanum = true ∨ c = '-' := by
  simp [isLabelChar, isAlphanumeric]

theorem isLabel_iff : isLabel l = true ↔ Label l := by
  cases l with
  | nil => exact iff_of_false Bool.false_ne_true fun h => h.nonempty rfl
  | cons c r =>
    simp only [isLabel, Bool.and_eq_true, decide_eq_true_eq, List.all_eq_true, isLabelChar_iff]
    constructor
    · rintro ⟨⟨first, length⟩, rest⟩
      refine ⟨List.cons_ne_nil c r, Nat.succ_le_succ length, ?_, ?_⟩
      · exact List.forall_mem_cons.2 ⟨.inl first, rest⟩
      · rintro ⟨⟩
        cases first
    · rintro ⟨-, length, char, first⟩
      obtain ⟨hc, rest⟩ := List.forall_mem_cons.1 char
      refine ⟨⟨hc.resolve_right ?_, Nat.le_of_succ_le_succ length⟩, rest⟩
      rintro rfl
      exact first rfl

theorem Label.point_not_mem (h : Label l) : '.' ∉ l := by
  intro hp
  rcases h.char '.' hp with h | h <;> cases h

theorem Label.at_not_mem (h : Label l) : '@' ∉ l := by
  intro hp
  rcases h.char '@' hp with h | h <;> cases h

theorem splitAt_labels {labels : List (List Char)} (nonempty : labels ≠ [])
    (each : ∀ l ∈ labels, Label l) (h : cs = ['.'].intercalate labels) :
    splitAt '.' cs = labels := by
  rw [h, splitAt_intercalate nonempty fun l hl => (each l hl).point_not_mem]

theorem isHost_iff : isHost cs = true ↔ ∃ labels : List (List Char), labels ≠ [] ∧
    (∀ l ∈ labels, Label l) ∧ cs = ['.'].intercalate labels := by
  simp only [isHost, List.all_eq_true, isLabel_iff]
  constructor
  · intro h
    exact ⟨splitAt '.' cs, splitAt_ne_nil '.' cs, h, (intercalate_splitAt '.' cs).symm⟩
  · rintro ⟨labels, nonempty, h, hs⟩
    rwa [splitAt_labels nonempty h hs]

theorem at_not_mem_of_isHost (h : isHost cs = true) : '@' ∉ cs := by
  intro hat
  have among : '@' ∈ (splitAt '.' cs).flatMap ('.' :: ·) := by
    rw [flatMap_splitAt]
    exact List.mem_cons_of_mem _ hat
  obtain ⟨l, hl, hat⟩ := List.mem_flatMap.1 among
  rcases List.mem_cons.1 hat with hat | hat
  · cases hat
  · exact (isLabel_iff.1 (List.all_eq_true.1 h l hl)).at_not_mem hat

theorem isEmail_iff : isEmail cs = true ↔ ∃ name host, '@' ∉ name ∧ isLocalPart name = true ∧
    isHost host = true ∧ cs = name ++ '@' :: host := by
  unfold isEmail
  rcases splitFirst_cases '@' cs with ⟨absent, hs⟩ | ⟨name, host, hname, rfl, hs⟩
  · rw [hs]
    refine iff_of_false Bool.false_ne_true ?_
    rintro ⟨name, host, -, -, -, rfl⟩
    exact absent (by simp)
  · rw [hs, Bool.and_eq_true]
    constructor
    · rintro ⟨hlocal, hhost⟩
      exact ⟨name, host, hname, hlocal, hhost, rfl⟩
    · rintro ⟨name', host', hname', hlocal, hhost, same⟩
      have cut : splitFirst '@' (name ++ '@' :: host) = (name', some host') :=
        splitFirst_eq_some.2 ⟨hname', same⟩
      rw [hs] at cut
      cases cut
      exact ⟨hlocal, hhost⟩

/-! ### The formats -/

/-- A text of at most 255 bytes that consists of one or more labels of a kind, with points between
them. -/
structure HostName (Kind : List Char → Prop) (s : String) : Prop where
  size_le : s.utf8ByteSize ≤ 255
  labels : ∃ labels : List (List Char), labels ≠ [] ∧ (∀ l ∈ labels, Kind l) ∧
    s.toList = ['.'].intercalate labels

theorem isValid_hostname_iff : Format.hostname.isValid s = true ↔ HostName Label s := by
  simp only [isValid, Bool.and_eq_true, decide_eq_true_eq, isHost_iff]
  exact ⟨fun ⟨size, labels⟩ => ⟨size, labels⟩, fun h => ⟨h.size_le, h.labels⟩⟩

theorem isValid_email_iff : Format.email.isValid s = true ↔ s.utf8ByteSize ≤ 255 ∧
    ∃ name host : String, s = name ++ "@" ++ host ∧ '@' ∉ name.toList ∧ '@' ∉ host.toList ∧
      isLocalPart name.toList = true ∧ HostName Label host := by
  have parts (s : String) : Format.email.isValid s = true ↔ s.utf8ByteSize ≤ 255 ∧
      isEmail s.toList = true := by
    simp only [isValid, Bool.and_eq_true, decide_eq_true_eq]
    rfl
  rw [parts, isEmail_iff]
  refine and_congr_right fun size => ?_
  constructor
  · rintro ⟨name, host, hname, hlocal, hhost, hs⟩
    have cut : s = String.ofList name ++ "@" ++ String.ofList host := by
      rw [← String.toList_inj]
      simp [hs]
    have shorter : (String.ofList host).utf8ByteSize ≤ 255 := by
      rw [cut, String.utf8ByteSize_append] at size
      omega
    refine ⟨String.ofList name, String.ofList host, cut, ?_, ?_, ?_, shorter, ?_⟩
    · rwa [String.toList_ofList]
    · rw [String.toList_ofList]
      exact at_not_mem_of_isHost hhost
    · rwa [String.toList_ofList]
    · rw [String.toList_ofList]
      exact isHost_iff.1 hhost
  · rintro ⟨name, host, rfl, hname, -, hlocal, hhost⟩
    exact ⟨name.toList, host.toList, hname, hlocal, isHost_iff.2 hhost.labels, by simp⟩

/-- A host name is accepted exactly if it consists of labels, and so is what stands behind the only
`@` of an email address. Those whose labels do not end with hyphens are the accepted ones in which
no piece between points does. -/
theorem labels_of_isValid (s : String) :
    (Format.hostname.isValid s = true ↔ HostName Label s) ∧
    (Format.email.isValid s = true ↔ s.utf8ByteSize ≤ 255 ∧
      ∃ name host : String, s = name ++ "@" ++ host ∧ '@' ∉ name.toList ∧ '@' ∉ host.toList ∧
        isLocalPart name.toList = true ∧ HostName Label host) ∧
    (HostName ClosedLabel s ↔ Format.hostname.isValid s = true ∧
      ∀ l ∈ splitAt '.' s.toList, l.getLast? ≠ some '-') := by
  refine ⟨isValid_hostname_iff, isValid_email_iff, ?_⟩
  rw [isValid_hostname_iff]
  constructor
  · rintro ⟨size, labels, nonempty, each, hs⟩
    have labelled : ∀ l ∈ labels, Label l := fun l hl => (each l hl).1
    refine ⟨⟨size, labels, nonempty, labelled, hs⟩, fun l hl => ?_⟩
    rw [splitAt_labels nonempty labelled hs] at hl
    exact (each l hl).2
  · rintro ⟨⟨size, labels, nonempty, each, hs⟩, closed⟩
    rw [splitAt_labels nonempty each hs] at closed
    exact ⟨size, labels, nonempty, fun l hl => ⟨each l hl, closed l hl⟩, hs⟩

/-- The label of this host name ends with a hyphen, also behind an `@`. -/
theorem isValid_endsInHyphen : (Format.hostname.isValid "a-" = true ∧
    Format.email.isValid "a@a-" = true) ∧ ¬HostName ClosedLabel "a-" := by
  refine ⟨by decide, ?_⟩
  rintro ⟨-, labels, nonempty, each, hs⟩
  refine (each ['a', '-'] ?_).2 rfl
  rw [← splitAt_labels nonempty (fun l hl => (each l hl).1) hs]
  decide

end JsonSchema.Format
