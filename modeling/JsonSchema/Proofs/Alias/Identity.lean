import JsonSchema.Proofs.Alias.Collecting
import JsonSchema.Proofs.Building
import JsonSchema.Proofs.Pointer.Lookup
/-!
# Positions are identified by their pointers

A pointer is put together from tokens and taken apart again without loss, whatever characters the
tokens have, and two pointers are the same text exactly if they have the same tokens. So where
collecting the references of a document goes down to a value, the pointer built on the way addresses
that value and no other (`Pointer.identifies_position`).
-/

namespace JsonSchema

namespace Pointer

variable {p q : Pointer} {t : String}

/-! ### Putting pointers together -/

theorem foldl_child (p : Pointer) (ts : List String) : ts.foldl child p = p.below ts := by
  induction ts generalizing p with
  | nil => exact below_nil.symm
  | cons t ts ih => rw [List.foldl_cons, ih, child_eq_below, below_below, List.singleton_append]

theorem foldl_child_root (ts : List String) : ts.foldl child root = ⟨ts⟩ := foldl_child _ _

theorem chars_foldl_child (p : Pointer) (ts : List String) :
    (ts.foldl child p).chars = ts.foldl writtenChild p.chars :=
  (List.foldl_hom chars fun p t => (chars_child p t).symm).symm

theorem text_eq_iff : p.text = q.text ↔ p.tokens = q.tokens := by
  constructor
  · intro h
    rw [text_injective h]
  · intro h
    rw [text, chars, h]
    rfl

end Pointer

/-! ### Descending into a document -/

namespace Aliases

variable {d v : Value} {p : Pointer}

/-- The values that are met are those that the pointers built on the way address. -/
theorem mem_met_iff (hd : d.IsDocument) : (p, v) ∈ met .root d ↔ d.pointer? p.chars = some v := by
  rw [(met_perm_places .root d).mem_iff, Value.mem_places hd, Value.pointer?_chars]

theorem nodup_text_met (hd : d.IsDocument) : ((met .root d).map (·.1.text)).Nodup := by
  have positions : ((met .root d).map (·.1)).Nodup :=
    ((met_perm_places .root d).map _).nodup_iff.2 (Value.nodup_places hd .root)
  rw [show (met .root d).map (·.1.text) = ((met .root d).map (·.1)).map Pointer.text by simp]
  exact positions.map Pointer.text_injective

end Aliases

open Pointer Aliases in
/-- Pointers identify positions: tokens are put into the text of a pointer and come out of it
unchanged, a text that is read as a pointer is put together again from its tokens, and in a document
the positions built while its references are collected address the values at which they are built,
each another one. -/
theorem Pointer.identifies_position :
    (∀ ts : List String, (ts.foldl child root).chars = ts.foldl writtenChild [] ∧
      writtenTokens (ts.foldl writtenChild []) = ts ∧ (ts.foldl child root).tokens = ts) ∧
    (∀ s p, ofText s = .ok p →
      p.text = s ∧ writtenTokens s.toList = p.tokens ∧ p.tokens.foldl child root = p) ∧
    (∀ p q : Pointer, p.text = q.text ↔ p.tokens = q.tokens) ∧
    ∀ d : Value, d.IsDocument → collect .root d = requests (met .root d) ∧
      (∀ p v, (p, v) ∈ met .root d ↔ d.pointer? p.chars = some v) ∧
      ((met .root d).map (·.1.text)).Nodup := by
  refine ⟨fun ts => ?_, fun s p h => ?_, fun p q => text_eq_iff, fun d hd => ?_⟩
  · have written := chars_foldl_child root ts
    rw [foldl_child_root] at written ⊢
    refine ⟨written, ?_, rfl⟩
    show writtenTokens (ts.foldl writtenChild root.chars) = ts
    rw [← written, writtenTokens_chars]
  · obtain rfl := ofText_eq_ok_iff.1 h
    refine ⟨rfl, ?_, foldl_child_root _⟩
    rw [text, String.toList_ofList, writtenTokens_chars]
  · exact ⟨collect_eq .root d, fun p v => mem_met_iff hd, nodup_text_met hd⟩

/-- A document with names that are empty, contain a slash or look like an escape. -/
def escaped : Value := .object [("", .array [.null]), ("a/b", .object [("~01", .boolean true)])]

open Pointer Aliases in
theorem escaped_positions :
    ofText "/a~1b/~001" = .ok ⟨["a/b", "~01"]⟩ ∧ writtenTokens "/a~1b/~001".toList = ["a/b", "~01"] ∧
    escaped.IsDocument ∧ escaped.pointer? "/a~1b/~001".toList = some (.boolean true) ∧
    escaped.pointer? "//0".toList = some .null := by
  obtain ⟨-, read, -, documents⟩ := identifies_position
  have parsed : ofText "/a~1b/~001" = .ok ⟨["a/b", "~01"]⟩ := rfl
  have document : escaped.IsDocument := Value.isDocument_iff.2 ⟨escaped.events, rfl⟩
  obtain ⟨-, addressed, -⟩ := documents escaped document
  have inner : (⟨["a/b", "~01"]⟩, .boolean true) ∈ met .root escaped := by
    simp [escaped, met, metMembers, metElements, child, root]
  have first : (⟨["", "0"]⟩, .null) ∈ met .root escaped := by
    rw [show (⟨["", "0"]⟩ : Pointer) = (root.child "").index 0 from rfl]
    simp [escaped, met, metMembers, metElements]
  exact ⟨parsed, (read _ _ parsed).2.1, document, (addressed _ _).1 inner, (addressed _ _).1 first⟩

end JsonSchema
