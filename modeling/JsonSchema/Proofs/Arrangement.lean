import Mathlib.Data.List.Dedup
import Mathlib.Data.List.Sort
import JsonSchema.Proofs.Document
/-!
# Arrangements of members

`Value.arrange` puts the members of every object of a value into another arrangement. Two are of
interest: `Value.sorted` has them by name and keeps all of them, `Value.toDocument` keeps the last
one of each name, as reading a text does. They are the same for a value in which no object repeats
a name (`Value.toDocument_eq_sorted`).
-/

namespace JsonSchema

/-! ### Members in their place -/

namespace Members

variable {ms ms' : Members} {k : String} {v : Value}

theorem eq_or_mem_of_mem_insert {p : String × Value} (h : p ∈ ms.insert k v) :
    p = (k, v) ∨ p ∈ ms := by
  induction ms with
  | nil => exact .inl (List.mem_singleton.1 h)
  | cons m ms ih =>
    unfold insert at h
    split at h
    · exact List.mem_cons.1 h
    · split at h
      · exact (List.mem_cons.1 h).imp_right (List.mem_cons_of_mem m)
      · rcases List.mem_cons.1 h with rfl | h
        · exact .inr List.mem_cons_self
        · exact (ih h).imp_right (List.mem_cons_of_mem m)

theorem sorted_insert (h : ms.names.Pairwise (· < ·)) : (ms.insert k v).names.Pairwise (· < ·) := by
  induction ms with
  | nil => exact List.pairwise_singleton _ _
  | cons m ms ih =>
    obtain ⟨head, tail⟩ := List.pairwise_cons.1 h
    unfold insert
    split
    · next hk =>
      refine List.pairwise_cons.2 ⟨fun n hn => ?_, h⟩
      rcases List.mem_cons.1 hn with rfl | hn
      · exact hk
      · exact String.lt_trans hk (head n hn)
    · split
      · next hk => exact List.pairwise_cons.2 ⟨hk ▸ head, tail⟩
      · next hlt hne =>
        have hm : m.1 < k := by
          by_contra hc
          exact hne (String.le_antisymm (String.not_lt.1 hc) (String.not_lt.1 hlt))
        refine List.pairwise_cons.2 ⟨fun n hn => ?_, ih tail⟩
        obtain ⟨p, hp, rfl⟩ := List.mem_map.1 hn
        rcases eq_or_mem_of_mem_insert hp with rfl | hp
        · exact hm
        · exact head _ (List.mem_map_of_mem hp)

/-- A member of a new name takes the place of no other. -/
theorem perm_insert (h : k ∉ ms.names) : (ms.insert k v).Perm ((k, v) :: ms) := by
  induction ms with
  | nil => exact List.Perm.refl _
  | cons m ms ih =>
    obtain ⟨hne, hms⟩ : k ≠ m.1 ∧ k ∉ names ms := not_or.1 (mt List.mem_cons.2 h)
    rw [insert, if_neg hne]
    split
    · exact List.Perm.refl _
    · exact ((ih hms).cons m).trans (.swap (k, v) m ms)

/-! ### Arrangements of a list of members -/

/-- The members by name; those of one name stay in their order. -/
def sort (ms : Members) : Members := ms.mergeSort fun a b => decide (a.1 ≤ b.1)

/-- The members by name, the last one of each name. -/
def collapse (ms : Members) : Members := ms.foldl (fun l m => l.insert m.1 m.2) []

theorem perm_sort (ms : Members) : ms.sort.Perm ms := List.mergeSort_perm _ _

theorem sorted_sort (ms : Members) : ms.sort.Pairwise fun a b => a.1 ≤ b.1 :=
  List.pairwise_mergeSort' (fun a b => a.1 ≤ b.1) ms

theorem sorted_foldl_insert (h : ms.names.Pairwise (· < ·)) :
    (ms'.foldl (fun l m => l.insert m.1 m.2) ms).names.Pairwise (· < ·) := by
  induction ms' generalizing ms with
  | nil => exact h
  | cons m ms' ih => exact ih (sorted_insert h)

theorem sorted_collapse (ms : Members) : ms.collapse.names.Pairwise (· < ·) :=
  sorted_foldl_insert List.Pairwise.nil

theorem subset_foldl_insert (ms ms' : Members) :
    ms'.foldl (fun l m => l.insert m.1 m.2) ms ⊆ ms ++ ms' := by
  induction ms' generalizing ms with
  | nil => exact List.subset_append_left ms []
  | cons m ms' ih =>
    intro p hp
    rcases List.mem_append.1 (ih _ hp) with hp | hp
    · rcases eq_or_mem_of_mem_insert hp with rfl | hp
      · simp
      · exact List.mem_append_left _ hp
    · exact List.mem_append_right _ (List.mem_cons_of_mem m hp)

theorem collapse_subset (ms : Members) : ms.collapse ⊆ ms := subset_foldl_insert [] ms

theorem mem_names_cons {n : String} {m : String × Value} :
    n ∈ names (m :: ms) ↔ n = m.1 ∨ n ∈ ms.names := List.mem_cons

theorem mem_names_insert {n : String} : n ∈ (ms.insert k v).names ↔ n = k ∨ n ∈ ms.names := by
  induction ms with
  | nil => exact mem_names_cons
  | cons m ms ih =>
    unfold insert
    split
    · exact mem_names_cons
    · split
      · next hk => simp [mem_names_cons, hk]
      · rw [mem_names_cons, mem_names_cons, ih, or_left_comm]

theorem mem_names_foldl_insert {n : String} :
    n ∈ (ms'.foldl (fun l m => l.insert m.1 m.2) ms).names ↔ n ∈ ms.names ∨ n ∈ ms'.names := by
  induction ms' generalizing ms with
  | nil => simp [names]
  | cons m ms' ih =>
    rw [List.foldl_cons, ih, mem_names_insert, mem_names_cons, or_assoc, or_left_comm]

/-- Each name is kept once. -/
theorem length_collapse (ms : Members) : ms.collapse.length = ms.names.dedup.length := by
  have distinct : ms.collapse.names.Nodup := (sorted_collapse ms).imp fun h => String.ne_of_lt h
  have perm : ms.collapse.names.Perm ms.names.dedup := by
    refine (List.perm_ext_iff_of_nodup distinct (List.nodup_dedup _)).2 fun n => ?_
    rw [collapse, mem_names_foldl_insert, List.mem_dedup]
    simp [names]
  rw [← perm.length_eq, names, List.length_map]

theorem perm_foldl_insert (h : (ms ++ ms').names.Nodup) :
    (ms'.foldl (fun l m => l.insert m.1 m.2) ms).Perm (ms ++ ms') := by
  induction ms' generalizing ms with
  | nil => rw [List.append_nil]; exact List.Perm.refl _
  | cons m ms' ih =>
    -- the name of `m` is not among those in place already, so `m` replaces nothing
    have fresh : m.1 ∉ ms.names := by
      intro hm
      rw [names, List.map_append, List.nodup_append] at h
      exact h.2.2 _ hm _ List.mem_cons_self rfl
    have inserted : (ms.insert m.1 m.2 ++ ms').Perm (ms ++ m :: ms') :=
      ((perm_insert fresh).append_right ms').trans List.perm_middle.symm
    exact (ih ((inserted.map _).nodup_iff.2 h)).trans inserted

theorem perm_collapse (h : ms.names.Nodup) : ms.collapse.Perm ms :=
  perm_foldl_insert (show Members.names ([] ++ ms) |>.Nodup from h)

/-- Members with distinct names are in order in one way only. -/
theorem eq_of_perm_of_sorted (hn : ms.names.Nodup) (hp : ms.Perm ms')
    (h : ms.Pairwise fun a b => a.1 ≤ b.1) (h' : ms'.Pairwise fun a b => a.1 ≤ b.1) : ms = ms' := by
  refine hp.eq_of_pairwise (fun a b ha hb hab hba => ?_) h h'
  exact List.inj_on_of_nodup_map hn ha (hp.mem_iff.2 hb) (String.le_antisymm hab hba)

theorem sorted_of_names (h : ms.names.Pairwise (· < ·)) : ms.Pairwise fun a b => a.1 ≤ b.1 :=
  (List.pairwise_map.1 h).imp fun hab => String.not_lt.1 fun hba =>
    String.lt_irrefl _ (String.lt_trans hab hba)

theorem collapse_eq_sort (h : ms.names.Nodup) : ms.collapse = ms.sort := by
  have perm := perm_collapse h
  exact eq_of_perm_of_sorted ((perm.map _).nodup_iff.2 h) (perm.trans (perm_sort ms).symm)
    (sorted_of_names (sorted_collapse ms)) (sorted_sort ms)

theorem collapse_of_sorted (h : ms.names.Pairwise (· < ·)) : ms.collapse = ms := by
  have nodup : ms.names.Nodup := h.imp fun h => String.ne_of_lt h
  have perm := perm_collapse nodup
  exact eq_of_perm_of_sorted ((perm.map _).nodup_iff.2 nodup) perm
    (sorted_of_names (sorted_collapse ms)) (sorted_of_names h)

end Members

namespace Value

variable {f : Members → Members} {v : Value} {vs : List Value} {ms : Members}

/-! ### Arrangements of a value -/

mutual

/-- The value with the members of every object arranged. -/
def arrange (f : Members → Members) : Value → Value
  | .array vs => .array (arrangeItems f vs)
  | .object ms => .object (f (arrangeMembers f ms))
  | v => v

/-- The elements of an array with the members of every object arranged. -/
def arrangeItems (f : Members → Members) : List Value → List Value
  | [] => []
  | v :: vs => v.arrange f :: arrangeItems f vs

/-- The members of an object, in their order, with those of every inner object arranged. -/
def arrangeMembers (f : Members → Members) : List (String × Value) → List (String × Value)
  | [] => []
  | (k, v) :: ms => (k, v.arrange f) :: arrangeMembers f ms

end

theorem arrangeItems_eq (vs : List Value) : arrangeItems f vs = vs.map (arrange f) := by
  induction vs with
  | nil => rfl
  | cons v vs ih => rw [arrangeItems, ih, List.map_cons]

theorem arrangeMembers_eq (ms : Members) :
    arrangeMembers f ms = ms.map fun m => (m.1, m.2.arrange f) := by
  induction ms with
  | nil => rfl
  | cons m ms ih => rw [arrangeMembers, ih, List.map_cons]

theorem arrange_array (vs : List Value) :
    (Value.array vs).arrange f = .array (vs.map (arrange f)) := by
  rw [arrange, arrangeItems_eq]

theorem arrange_object (ms : Members) :
    (Value.object ms).arrange f = .object (f (ms.map fun m => (m.1, m.2.arrange f))) := by
  rw [arrange, arrangeMembers_eq]

theorem names_arranged (ms : Members) :
    Members.names (ms.map fun m => (m.1, m.2.arrange f)) = ms.names := by
  rw [Members.names, List.map_map]
  rfl

/-- The value with the members of every object by name. -/
def sorted (v : Value) : Value := v.arrange Members.sort

/-- The value with the members of every object by name, the last one of each name. -/
def toDocument (v : Value) : Value := v.arrange Members.collapse

/-! ### Distinct names -/

/-- No object of the value repeats a name. -/
inductive Distinct : Value → Prop where
  | null : Distinct .null
  | boolean (b : Bool) : Distinct (.boolean b)
  | number (n : Number) : Distinct (.number n)
  | string (s : String) : Distinct (.string s)
  | array {vs : List Value} (items : ∀ v ∈ vs, Distinct v) : Distinct (.array vs)
  | object {ms : Members} (names : ms.names.Nodup) (members : ∀ m ∈ ms, Distinct m.2) :
      Distinct (.object ms)

theorem toDocument_eq_sorted (h : v.Distinct) : v.toDocument = v.sorted := by
  induction v using Value.induction with
  | array vs ih =>
    cases h with
    | array items =>
      rw [toDocument, sorted, arrange_array, arrange_array]
      exact congrArg Value.array (List.map_congr_left fun v hv => ih v hv (items v hv))
  | object ms ih =>
    cases h with
    | object names members =>
      have inner : (ms.map fun m => (m.1, m.2.arrange Members.collapse)) =
          ms.map fun m => (m.1, m.2.arrange Members.sort) :=
        List.map_congr_left fun m hm => Prod.ext rfl (ih m.1 m.2 hm (members m hm))
      rw [toDocument, sorted, arrange_object, arrange_object, inner, Members.collapse_eq_sort]
      rwa [names_arranged]
  | _ => rfl

/-- A document is arranged already. -/
theorem IsDocument.toDocument_eq (h : v.IsDocument) : v.toDocument = v := by
  induction v using Value.induction with
  | array vs ih =>
    have inner : vs.map (arrange Members.collapse) = vs :=
      (List.map_congr_left fun v hv => ih v hv (h.item hv)).trans (List.map_id' vs)
    rw [toDocument, arrange_array, inner]
  | object ms ih =>
    have inner : (ms.map fun m => (m.1, m.2.arrange Members.collapse)) = ms := by
      refine (List.map_congr_left fun m hm => ?_).trans (List.map_id ms)
      exact Prod.ext rfl (ih m.1 m.2 hm (h.member hm))
    rw [toDocument, arrange_object, inner]
    cases h with
    | object sorted _ => rw [Members.collapse_of_sorted sorted]
  | _ => rfl

end Value
end JsonSchema
