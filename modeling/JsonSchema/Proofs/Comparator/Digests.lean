import JsonSchema.Proofs.Comparator.Agreement
import JsonSchema.Proofs.Digest.Same
import JsonSchema.Proofs.Number.Canonical
/-!
# Agreement and digests

A value that a comparator takes for the expected one has the digest of the expected one, unless an
integer was rounded when it was compared with a floating point number
(`Comparator.digest_eq_of_matched`).
-/

namespace JsonSchema

/-- The numbers that are compared when the first value is expected and the second one comes. -/
inductive Value.Compares : Value → Value → Number → Number → Prop where
  | number (m n : Number) : Compares (.number m) (.number n) m n
  | item {es vs : List Value} {e v : Value} {m n : Number} (hev : (e, v) ∈ es.zip vs)
      (h : Compares e v m n) : Compares (.array es) (.array vs) m n
  | member {es vs : Members} {k : String} {e v : Value} {m n : Number} (he : (k, e) ∈ es)
      (hv : (k, v) ∈ vs) (h : Compares e v m n) : Compares (.object es) (.object vs) m n

namespace Value

open Event (Same)

variable {e v : Value}

/-- Values that agree are the same, where no number is rounded. -/
theorem Agrees.same (h : e.Agrees v) (he : e.IsDocument)
    (exact : ∀ m n, e.Compares v m n → m.ComparesExactly n) : Same e.events v.events := by
  induction e using Value.induction generalizing v with
  | null | boolean | string =>
    cases h
    exact .scalar trivial
  | number m =>
    cases h with
    | number h => exact .number ((Number.canonical_eq_iff_of_agrees h).2 (exact _ _ (.number _ _)))
  | array es ih =>
    cases h with
    | @array _ vs items =>
      obtain ⟨length, items⟩ := List.forall₂_iff_zip.1 items
      rw [events, events, elementEvents_eq, elementEvents_eq]
      refine .array (List.forall₂_map_left_iff.2 (List.forall₂_map_right_iff.2 ?_))
      refine List.forall₂_iff_zip.2 ⟨length, fun {e v} hev => ?_⟩
      have mem := (List.of_mem_zip hev).1
      exact ih e mem (items hev) (he.item mem) fun m n h => exact m n (.item hev h)
  | object es ih =>
    cases h with
    | @object _ vs distinct names members =>
      have perm : es.names.Perm vs.names :=
        (List.perm_ext_iff_of_nodup he.nodup distinct).2 fun k => (names k).symm
      -- the expected members in the order of the actual ones
      obtain ⟨es₁, perm, same⟩ := exists_perm_of_map_perm perm
      have paired : List.Forall₂ (· = ·) (es₁.map (·.1)) (vs.map (·.1)) :=
        List.forall₂_eq_eq_eq ▸ same
      rw [List.forall₂_map_left_iff, List.forall₂_map_right_iff] at paired
      obtain ⟨length, paired⟩ := List.forall₂_iff_zip.1 paired
      rw [events, events, memberEvents_eq, memberEvents_eq]
      refine .object (perm.map _) (by rw [List.map_map, List.map_map]; exact same) ?_
      simp only [List.map_map, List.forall₂_map_left_iff, List.forall₂_map_right_iff]
      refine List.forall₂_iff_zip.2 ⟨length, fun {p q} hpq => ?_⟩
      obtain ⟨k, e⟩ := p
      obtain ⟨k', v⟩ := q
      obtain rfl : k = k' := paired hpq
      have mem : (k, e) ∈ es := perm.mem_iff.2 (List.of_mem_zip hpq).1
      have mem' : (k, v) ∈ vs := (List.of_mem_zip hpq).2
      exact ih k e mem (members k e v mem mem') (he.member mem) fun m n h =>
        exact m n (.member mem mem' h)

end Value

namespace Comparator

variable {e v : Value}

/-- What matches a document has the digest of the document, unless an integer was rounded. -/
theorem digest_eq_of_matched (he : e.IsDocument)
    (matched : ((expecting e).feedAll v.events).matched = true)
    (exact : ∀ m n, e.Compares v m n → m.ComparesExactly n) :
    (Hasher.empty.feedAll v.events).take.1 = (Hasher.empty.feedAll e.events).take.1 := by
  have agrees := (matched_feedAll_events he v).1 matched
  exact (agrees.same he exact).digest_eq.symm

/-- Deep in a value, an integer that comes as a floating point number and one that no floating point
number can hold. -/
theorem digest_eq_of_matched_nested :
    let e := Value.object [("a", .array [.number (.unsigned 1), .number (.unsigned 9007199254740993)])]
    let v := Value.object [("a", .array [.number (.float ⟨0x3FF0000000000000⟩),
      .number (.signed 9007199254740993)])]
    e.IsDocument ∧ ((expecting e).feedAll v.events).matched = true ∧
      (∀ m n, e.Compares v m n → m.ComparesExactly n) ∧
      (Hasher.empty.feedAll v.events).take.1 = (Hasher.empty.feedAll e.events).take.1 := by
  intro e v
  have he : e.IsDocument := by
    refine .object (by decide) ?_
    simp only [List.forall_mem_cons]
    exact ⟨.array (by simp [Value.IsDocument.number]), by simp⟩
  have matched : ((expecting e).feedAll v.events).matched = true := by decide +kernel
  have exact : ∀ m n, e.Compares v m n → m.ComparesExactly n := by
    intro m n h
    simp only [e, v] at h
    cases h with
    | member he hv h =>
      obtain ⟨-, rfl⟩ := Prod.mk.inj (List.mem_singleton.1 he)
      obtain ⟨-, rfl⟩ := Prod.mk.inj (List.mem_singleton.1 hv)
      cases h with
      | item hev h =>
        simp only [List.zip_cons_cons, List.zip_nil_right, List.mem_cons, List.not_mem_nil,
          or_false, Prod.mk.injEq] at hev
        obtain ⟨rfl, rfl⟩ | ⟨rfl, rfl⟩ := hev <;> cases h
        · refine .inr ⟨fun i hi => ?_, Number.isExact_of_integer?_eq_none rfl⟩
          cases hi
          decide +kernel
        · exact .inl ⟨rfl, rfl⟩
  exact ⟨he, matched, exact, digest_eq_of_matched he matched exact⟩

/-- An integer that no floating point number can hold is rounded to one: the two compare equal, and
their digests differ. -/
theorem digest_ne_of_rounded :
    let e := Value.number (.unsigned 9007199254740993)
    let v := Value.number (.float ⟨0x4340000000000000⟩)
    e.IsDocument ∧ ((expecting e).feedAll v.events).matched = true ∧
      (Hasher.empty.feedAll v.events).take.1 ≠ (Hasher.empty.feedAll e.events).take.1 := by
  intro e v
  exact ⟨.number _, by decide +kernel, by decide +kernel⟩

end Comparator
end JsonSchema
