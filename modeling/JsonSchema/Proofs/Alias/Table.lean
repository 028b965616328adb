import Mathlib.Data.List.Perm.Subperm
import JsonSchema.Proofs.Alias.Resolution
import JsonSchema.Proofs.Pointer.WrittenForm
/-!
# The entries of the table of references

Each local reference of a document is collected once (`Aliases.nodup_collect`), and following them
adds at most one entry for each (`Aliases.Grows`): while a reference is being followed it is not free,
so none that is followed on its way adds it. Tables with the same entries are equal once they are
sorted (`Aliases.sort_eq_sort`).
-/

namespace JsonSchema.Aliases

variable {d : Value} {pb : Problem}

/-! ### The positions of the local references -/

section

variable {p : Pointer} {table : AliasTable}

theorem subperm_request {v : Value} (h : request p v = .ok table) :
    (table.map (·.1)).Subperm [p] := by
  obtain ⟨-, rfl⟩ := request_eq_ok.1 h
  cases v.target? with
  | none => exact List.nil_subperm
  | some t => exact List.Subperm.refl _

theorem subperm_collectElements {vs : List Value}
    (ih : ∀ v ∈ vs, ∀ p table, collect p v = .ok table →
      (table.map (·.1)).Subperm ((v.places p).map (·.1)))
    {i : Nat} (h : collectElements p i vs = .ok table) :
    (table.map (·.1)).Subperm ((Value.elementPlaces p i vs).map (·.1)) := by
  induction vs generalizing i table with
  | nil => cases h; exact List.nil_subperm
  | cons v vs ihv =>
    simp only [collectElements, bind_eq_ok, pure_eq_ok] at h
    obtain ⟨a, ha, b, hb, rfl⟩ := h
    rw [Value.elementPlaces, List.map_append, List.map_append]
    exact (ih v (by simp) _ a ha).append (ihv (fun w hw => ih w (by simp [hw])) hb)

theorem subperm_collectMembers {ms : Members}
    (ih : ∀ k v, (k, v) ∈ ms → ∀ p table, collect p v = .ok table →
      (table.map (·.1)).Subperm ((v.places p).map (·.1)))
    (h : collectMembers p ms = .ok table) :
    (table.map (·.1)).Subperm ((Value.memberPlaces p ms).map (·.1)) := by
  induction ms generalizing table with
  | nil => cases h; exact List.nil_subperm
  | cons m ms ihm =>
    obtain ⟨k, v⟩ := m
    simp only [collectMembers, bind_eq_ok, pure_eq_ok] at h
    obtain ⟨a, ha, b, hb, rfl⟩ := h
    rw [Value.memberPlaces, List.map_append, List.map_append]
    exact (ih k v (by simp) _ a ha).append (ihm (fun k' w hw => ih k' w (by simp [hw])) hb)

/-- Each place is collected at most once. -/
theorem subperm_collect (v : Value) (p : Pointer) (table : AliasTable)
    (h : collect p v = .ok table) : (table.map (·.1)).Subperm ((v.places p).map (·.1)) := by
  induction v using Value.induction generalizing p table with
  | array vs ih => exact (subperm_collectElements ih h).cons_right p
  | object ms ih =>
    simp only [collect, bind_eq_ok, pure_eq_ok] at h
    obtain ⟨a, ha, b, hb, rfl⟩ := h
    rw [List.map_append]
    have parts := (subperm_collectMembers ih ha).append (subperm_request hb)
    exact parts.trans (List.perm_append_singleton _ _).subperm
  | _ => cases h; exact List.nil_subperm

theorem nodup_collect (hd : d.IsDocument) (h : collect .root d = .ok table) :
    (table.map (·.1)).Nodup := by
  obtain ⟨l, perm, sub⟩ := subperm_collect d .root table h
  exact perm.nodup_iff.1 ((Value.nodup_places hd .root).sublist sub)

end

/-! ### The growth of the table -/

/-- A table has grown by references that were free, each once. -/
structure Grows (free : List Pointer) (table table' : AliasTable) : Prop where
  nodup : (table.map (·.1)).Nodup → (table'.map (·.1)).Nodup
  keys : ∀ q ∈ table'.map (·.1), q ∈ table.map (·.1) ∨ q ∈ free

namespace Grows

variable {free : List Pointer} {t t₁ t₂ : AliasTable} {source x : Pointer}

theorem refl (free : List Pointer) (t : AliasTable) : Grows free t t := ⟨id, fun _ => .inl⟩

theorem trans (h : Grows free t t₁) (h' : Grows free t₁ t₂) : Grows free t t₂ := by
  refine ⟨h'.nodup ∘ h.nodup, fun q hq => ?_⟩
  rcases h'.keys q hq with hq | hq
  · exact h.keys q hq
  · exact .inr hq

/-- The reference that has been followed was not free in the meantime. -/
theorem append (h : Grows (free.erase source) t t₁) (hf : free.Nodup) (hs : source ∈ free)
    (hl : t.lookup source = none) : Grows free t (t₁ ++ [(source, x)]) := by
  have outside : source ∉ t.map (·.1) := by
    rw [← lookup_isSome_iff_mem, hl]
    exact Bool.false_ne_true
  have fresh : source ∉ t₁.map (·.1) := fun hm =>
    (h.keys source hm).elim outside hf.not_mem_erase
  constructor
  · intro hn
    rw [List.map_append, List.map_singleton, List.nodup_append]
    refine ⟨h.nodup hn, List.nodup_singleton _, fun q hq q' hq' he => ?_⟩
    obtain rfl := List.mem_singleton.1 hq'
    exact fresh (he ▸ hq)
  · intro q hq
    rw [List.map_append, List.mem_append, List.map_singleton, List.mem_singleton] at hq
    rcases hq with hq | rfl
    · exact (h.keys q hq).imp_right List.mem_of_mem_erase
    · exact .inr hs

end Grows

mutual

theorem grows_follow (hp : pb.Of d) (free : List Pointer) (hf : free.Nodup) (table : AliasTable)
    (source : Pointer) {x : Pointer} {table' : AliasTable} (named : d.request? source ≠ none)
    (h : follow pb free table source = .ok (x, table')) : Grows free table table' := by
  cases hl : table.lookup source with
  | some done =>
    rw [follow, hl] at h
    cases h
    exact .refl _ _
  | none =>
    by_cases hs : source ∈ free
    · obtain ⟨target, ht⟩ := Option.ne_none_iff_exists'.1 named
      obtain ⟨y, table₁, table₂, hw, -, hy, -, rfl⟩ :=
        (follow_eq_ok hl hs ((hp.requested source).trans ht)).1 h
      have walked := grows_walk hp (free.erase source) (hf.erase source) table source target .root
        pb.document target.tokens hw
      refine Grows.append (walked.trans ?_) hf hs hl
      rcases hy with ⟨ha, hc⟩ | ⟨-, -, rfl⟩
      · exact grows_follow hp (free.erase source) (hf.erase source) table₁ y (hp.isAlias.1 ha) hc
      · exact .refl _ _
    · rw [follow, hl] at h
      simp only [dif_neg hs] at h
      cases h
termination_by (free.length, 0)
decreasing_by all_goals exact Prod.Lex.left _ _ (length_erase_lt ‹_›)

theorem grows_walk (hp : pb.Of d) (free : List Pointer) (hf : free.Nodup) (table : AliasTable)
    (source target p : Pointer) (v : Value) (ts : List String) {y : Pointer} {table' : AliasTable}
    (h : walk pb free table source target p v ts = .ok (y, table')) : Grows free table table' := by
  match ts with
  | [] =>
    unfold walk at h
    cases h
    exact .refl _ _
  | token :: ts =>
    unfold walk at h
    split at h
    · next ha =>
      split at h
      · simp only [bind_eq_ok] at h
        obtain ⟨⟨c, table₁⟩, hc, u, -, w, -, hw⟩ := h
        exact (grows_follow hp free hf table p (hp.isAlias.1 ha) hc).trans
          (grows_walk hp free hf table₁ source target (c.child token) w ts hw)
      · cases h
    · simp only [bind_eq_ok] at h
      obtain ⟨w, -, hw⟩ := h
      exact grows_walk hp free hf table source target (p.child token) w ts hw
termination_by (free.length, ts.length + 1)

end

theorem grows_followAll (hp : pb.Of d) {free ps : List Pointer} (hf : free.Nodup)
    {table table' : AliasTable} (named : ∀ p ∈ ps, d.request? p ≠ none)
    (h : followAll pb free table ps = .ok table') : Grows free table table' := by
  induction ps generalizing table with
  | nil => cases h; exact .refl _ _
  | cons p ps ih =>
    simp only [followAll, bind_eq_ok] at h
    obtain ⟨⟨c, table₁⟩, hc, h⟩ := h
    exact (grows_follow hp free hf table p (named p (by simp)) hc).trans
      (ih (fun q hq => named q (by simp [hq])) h)

/-! ### Tables in order -/

theorem eq_of_keys_eq {table : AliasTable} (hn : (table.map (·.1)).Nodup) {e e' : Pointer × Pointer}
    (he : e ∈ table) (he' : e' ∈ table) (h : e.1 = e'.1) : e = e' :=
  List.inj_on_of_nodup_map hn he he' h

/-- Tables with the same entries are sorted into the same table. -/
theorem sort_eq_sort {table table' : AliasTable} (hn : (table.map (·.1)).Nodup)
    (hn' : (table'.map (·.1)).Nodup) (h : ∀ e, e ∈ table ↔ e ∈ table') :
    sort table = sort table' := by
  have perm : table.Perm table' :=
    (List.perm_ext_iff_of_nodup hn.of_map hn'.of_map).2 h
  have sorted : ∀ t : AliasTable, (sort t).Pairwise fun a b => a.1.precedes b.1 = true :=
    List.pairwise_mergeSort (fun _ _ _ => Pointer.precedes_trans) fun _ _ => Pointer.precedes_total _ _
  refine List.Perm.eq_of_pairwise (fun a b ha hb hab hba => ?_) (sorted table) (sorted table')
    (((List.mergeSort_perm _ _).trans perm).trans (List.mergeSort_perm _ _).symm)
  exact eq_of_keys_eq hn (List.mem_mergeSort.1 ha) ((h b).2 (List.mem_mergeSort.1 hb))
    (Pointer.precedes_antisymm hab hba)

end JsonSchema.Aliases
