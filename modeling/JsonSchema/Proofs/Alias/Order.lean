import Mathlib
import JsonSchema.Proofs.Alias.Table
import JsonSchema.Proofs.Building
/-!
# The order of following

The local references of a document may be followed in any order: the table that is found has the same
entries, or none is found in either order (`Aliases.followAll_perm`). To follow them all succeeds if
each stands for something, which no order changes, and what is found then is determined.
-/

namespace JsonSchema.Aliases

variable {d : Value} {pb : Problem}

/-- What can be followed in one order can be followed in any other, with the same table. -/
theorem exists_followAll_of_followAll (hp : pb.Of d) {ps qs : List Pointer} (hps : ps.Nodup)
    (hqs : qs.Nodup) (all : ∀ p, p ∈ ps ↔ d.request? p ≠ none)
    (all' : ∀ p, p ∈ qs ↔ d.request? p ≠ none) {found : AliasTable}
    (h : followAll pb ps [] ps = .ok found) :
    ∃ found', followAll pb qs [] qs = .ok found' ∧ sort found' = sort found := by
  obtain ⟨found', h'⟩ := (exists_followAll hp all').2 ((exists_followAll hp all).1 ⟨found, h⟩)
  have keys := (grows_followAll hp hps (fun p hp => (all p).1 hp) h).nodup List.nodup_nil
  have keys' := (grows_followAll hp hqs (fun p hp => (all' p).1 hp) h').nodup List.nodup_nil
  refine ⟨found', h', sort_eq_sort keys' keys ?_⟩
  rintro ⟨p, c⟩
  rw [mem_followAll hp all' h', mem_followAll hp all h]

/-- Following the local references of a document one after the other, in any order, succeeds exactly
if it does in the order of their written forms, and the table is the same then. -/
theorem followAll_perm (hd : d.IsDocument) {requested : AliasTable}
    (hr : collect .root d = .ok requested) {ps : List Pointer}
    (perm : ps.Perm ((sort requested).map (·.1))) (table : AliasTable) :
    (∃ found, followAll ⟨d, sort requested⟩ ps [] ps = .ok found ∧ sort found = table) ↔
      resolve d = .ok table := by
  have hp := problem_of_collect hd hr
  have all' : ∀ p, p ∈ (sort requested).map (·.1) ↔ d.request? p ≠ none :=
    fun p => mem_requested hd hr
  have all : ∀ p, p ∈ ps ↔ d.request? p ≠ none := fun p => perm.mem_iff.trans (all' p)
  have nodup' : ((sort requested).map (·.1)).Nodup :=
    ((List.mergeSort_perm _ _).map _).nodup_iff.2 (nodup_collect hd hr)
  have nodup : ps.Nodup := perm.nodup_iff.2 nodup'
  rw [resolve_eq_ok]
  constructor
  · rintro ⟨found, h, rfl⟩
    exact ⟨requested, hr, exists_followAll_of_followAll hp nodup nodup' all all' h⟩
  · rintro ⟨requested', hr', found, h, rfl⟩
    cases hr.symm.trans hr'
    exact exists_followAll_of_followAll hp nodup' nodup all' all h

/-- A document in which one reference leads to another. -/
def chained : Value :=
  .object [("a", .object [("$ref", .string "#/c")]), ("b", .object [("$ref", .string "#/a")]),
    ("c", .object [])]

/-- The second reference may be followed before the first, to which it leads. -/
theorem followAll_chained : chained.IsDocument ∧ ∃ requested,
    collect .root chained = .ok requested ∧
    [⟨["b"]⟩, ⟨["a"]⟩].Perm ((sort requested).map (·.1)) ∧
    ∃ found, followAll ⟨chained, sort requested⟩ [⟨["b"]⟩, ⟨["a"]⟩] [] [⟨["b"]⟩, ⟨["a"]⟩] =
      .ok found ∧ sort found = [(⟨["a"]⟩, ⟨["c"]⟩), (⟨["b"]⟩, ⟨["c"]⟩)] := by
  have document : chained.IsDocument := Value.isDocument_iff.2 ⟨chained.events, rfl⟩
  have collected : collect .root chained = .ok [(⟨["a"]⟩, ⟨["c"]⟩), (⟨["b"]⟩, ⟨["a"]⟩)] := by cbv
  have resolved : resolve chained = .ok [(⟨["a"]⟩, ⟨["c"]⟩), (⟨["b"]⟩, ⟨["c"]⟩)] := by cbv
  have sorted : (sort [(⟨["a"]⟩, ⟨["c"]⟩), (⟨["b"]⟩, ⟨["a"]⟩)]).map (·.1) = [⟨["a"]⟩, ⟨["b"]⟩] := by
    cbv
  have swapped : [(⟨["b"]⟩ : Pointer), ⟨["a"]⟩].Perm [⟨["a"]⟩, ⟨["b"]⟩] := .swap _ _ _
  rw [← sorted] at swapped
  exact ⟨document, _, collected, swapped, (followAll_perm document collected swapped _).2 resolved⟩

end JsonSchema.Aliases
