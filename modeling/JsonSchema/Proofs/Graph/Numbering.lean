import Mathlib.Data.List.Nodup
import JsonSchema.Graph.Positions
import JsonSchema.Proofs.Node.Renaming
/-!
# Numbers handed out on the way

A position has the number of its place in the order in which positions are met
(`Positions.Numbered`), and keeps it from then on. So to number a node (`renumbers_node`) is to replace
what it refers to by a function that tells the numbers of all positions met (`Positions.Agrees`), also
of those that are met later.
-/

namespace JsonSchema

open Aliases (canonical)

variable {table : AliasTable} {p q : Pointer} {ps qs : List Pointer} {id r : NodeId}
  {f : Pointer → NodeId}

/-! ### Positions and their numbers -/

namespace Positions

variable {s : Positions}

/-- Each position has the number of its place in the order. -/
def Numbered (s : Positions) : Prop := ∀ p id, s.ids.lookup p = some id ↔ s.order[id]? = some p

/-- The numbers handed out are values of a function. -/
def Agrees (s : Positions) (f : Pointer → NodeId) : Prop :=
  ∀ p id, s.ids.lookup p = some id → f p = id

/-- The numbers once positions got theirs in turn. -/
def internAll (table : AliasTable) (s : Positions) (ps : List Pointer) : Positions :=
  ps.foldl (fun s p => (s.intern table p).2) s

theorem position_eq (h : s.order[id]? = some p) : s.position id = p := by
  rw [position, Array.getD_eq_getD_getElem?, h, Option.getD_some]

theorem exists_agrees (s : Positions) : ∃ f, s.Agrees f :=
  ⟨fun p => (s.ids.lookup p).getD 0, fun p id hp => by simp only [hp, Option.getD_some]⟩

theorem intern_of_some (h : s.ids.lookup (canonical table p) = some id) :
    s.intern table p = (id, s) := by
  simp only [intern, h]

theorem intern_of_none (h : s.ids.lookup (canonical table p) = none) :
    s.intern table p = (s.order.size,
      ⟨(canonical table p, s.order.size) :: s.ids, s.order.push (canonical table p)⟩) := by
  simp only [intern, h]

theorem lookup_intern : (s.intern table p).2.ids.lookup q =
    if q = canonical table p then some (s.intern table p).1 else s.ids.lookup q := by
  cases h : s.ids.lookup (canonical table p) with
  | some id =>
    rw [intern_of_some h]
    split
    · next hq => rw [hq, h]
    · rfl
  | none =>
    rw [intern_of_none h, List.lookup_cons]
    by_cases hq : q = canonical table p
    · simp [hq]
    · simp [hq, beq_false_of_ne hq]

theorem internAll_cons :
    s.internAll table (p :: ps) = (s.intern table p).2.internAll table ps := rfl

/-- A number once handed out stays. -/
theorem lookup_intern_of_lookup (h : s.ids.lookup q = some id) :
    (s.intern table p).2.ids.lookup q = some id := by
  rw [lookup_intern]
  split
  · next hq =>
    rw [hq] at h
    rw [intern_of_some h]
  · exact h

theorem Agrees.of_internAll (h : (s.internAll table ps).Agrees f) : s.Agrees f := by
  induction ps generalizing s with
  | nil => exact h
  | cons p ps ih => exact fun q id hq => ih h q id (lookup_intern_of_lookup hq)

theorem Agrees.intern_eq (h : (s.intern table p).2.Agrees f) :
    (s.intern table p).1 = f (canonical table p) :=
  (h _ _ (by rw [lookup_intern, if_pos rfl])).symm

theorem order_internAll : s.order.toList <+: (s.internAll table ps).order.toList := by
  induction ps generalizing s with
  | nil => exact List.prefix_rfl
  | cons p ps ih =>
    rw [internAll_cons]
    refine List.IsPrefix.trans ?_ ih
    cases h : s.ids.lookup (canonical table p) with
    | some id =>
      rewrite [intern_of_some h]
      exact List.prefix_rfl
    | none =>
      rw [intern_of_none h, Array.toList_push]
      exact List.prefix_append _ _

theorem numbered_empty : empty.Numbered := by
  intro p id
  simp [empty]

theorem Numbered.intern (h : s.Numbered) : (s.intern table p).2.Numbered := by
  cases hc : s.ids.lookup (canonical table p) with
  | some id => rwa [intern_of_some hc]
  | none =>
    intro q id
    have number : (s.intern table p).1 = s.order.size := by rw [intern_of_none hc]
    have fresh (j : NodeId) : s.order[j]? ≠ some (canonical table p) := fun hj => by
      rw [(h _ j).2 hj] at hc
      cases hc
    rw [lookup_intern, number, intern_of_none hc, Array.getElem?_push]
    by_cases hq : q = canonical table p
    · subst hq
      by_cases hid : id = s.order.size
      · simp [hid]
      · simp [hid, Ne.symm hid, fresh id]
    · by_cases hid : id = s.order.size
      · simp [hid, hq, Ne.symm hq, h q]
      · simp [hq, hid, h q id]

theorem Numbered.internAll (h : s.Numbered) : (s.internAll table ps).Numbered := by
  induction ps generalizing s with
  | nil => exact h
  | cons p ps ih => exact ih h.intern

theorem Numbered.mem_order_iff (h : s.Numbered) : p ∈ s.order ↔ ∃ id, s.ids.lookup p = some id := by
  simp only [Array.mem_iff_getElem?, h p]

theorem Numbered.mem_order_internAll (h : s.Numbered) :
    q ∈ (s.internAll table ps).order ↔ q ∈ s.order ∨ ∃ p ∈ ps, q = canonical table p := by
  induction ps generalizing s with
  | nil => simp [Positions.internAll]
  | cons p ps ih =>
    have one : q ∈ (s.intern table p).2.order ↔ q ∈ s.order ∨ q = canonical table p := by
      rw [h.intern.mem_order_iff, h.mem_order_iff, lookup_intern]
      by_cases hq : q = canonical table p <;> simp [hq]
    rw [internAll_cons, ih h.intern, one, or_assoc]
    simp only [List.mem_cons, exists_eq_or_imp]

theorem Numbered.nodup (h : s.Numbered) : s.order.toList.Nodup := by
  rw [List.nodup_iff_getElem?_ne_getElem?]
  intro i j hij hj he
  rw [Array.length_toList] at hj
  rw [Array.getElem?_toList, Array.getElem?_toList] at he
  have at_j := (h s.order[j] j).2 (Array.getElem?_eq_getElem hj)
  have at_i := (h s.order[j] i).2 (he.trans (Array.getElem?_eq_getElem hj))
  exact Nat.ne_of_lt hij (Option.some.inj (at_i.symm.trans at_j))

/-- The place of a position in the order is its number. -/
theorem Numbered.agrees (h : s.Numbered) : s.Agrees fun p => s.order.toList.idxOf p := by
  intro p id hp
  obtain ⟨hid, rfl⟩ := Array.getElem?_eq_some_iff.1 ((h p id).1 hp)
  exact h.nodup.idxOf_getElem id (by simpa using hid)

end Positions

/-! ### References of one node -/

theorem mem_addReference {rs : List NodeId} : r ∈ addReference id rs ↔ r = id ∨ r ∈ rs := by
  induction rs with
  | nil => simp [addReference]
  | cons r' rs ih =>
    rw [addReference]
    split
    · exact List.mem_cons
    · split
      · next hid => simp [hid]
      · rw [List.mem_cons, ih, List.mem_cons, or_left_comm]

theorem pairwise_addReference {rs : List NodeId} (h : rs.Pairwise (· < ·)) :
    (addReference id rs).Pairwise (· < ·) := by
  induction rs with
  | nil => exact List.pairwise_singleton _ _
  | cons r rs ih =>
    obtain ⟨first, rest⟩ := List.pairwise_cons.1 h
    rw [addReference]
    split
    · next hid =>
      refine List.pairwise_cons.2 ⟨List.forall_mem_cons.2 ⟨hid, fun r' hr => ?_⟩, h⟩
      exact Nat.lt_trans hid (first r' hr)
    · split
      · exact h
      · next hlt hne =>
        refine List.pairwise_cons.2 ⟨fun r' hr => ?_, ih rest⟩
        rcases mem_addReference.1 hr with rfl | hr
        · exact Nat.lt_of_le_of_ne (Nat.le_of_not_lt hlt) (Ne.symm hne)
        · exact first r' hr

namespace Node

variable {n : Node NodeId}

theorem mem_references : r ∈ n.references ↔ r ∈ n.subschemas := by
  have (ids rs : List NodeId) :
      r ∈ ids.foldl (fun rs id => addReference id rs) rs ↔ r ∈ rs ∨ r ∈ ids := by
    induction ids generalizing rs with
    | nil => simp
    | cons id ids ih => rw [List.foldl_cons, ih, mem_addReference, List.mem_cons, or_left_comm, or_assoc]
  rw [references, this, or_iff_right List.not_mem_nil]

theorem pairwise_references (n : Node NodeId) : n.references.Pairwise (· < ·) := by
  have (ids rs : List NodeId) (h : rs.Pairwise (· < ·)) :
      (ids.foldl (fun rs id => addReference id rs) rs).Pairwise (· < ·) := by
    induction ids generalizing rs with
    | nil => exact h
    | cons id ids ih => exact ih _ (pairwise_addReference h)
  exact this _ [] List.Pairwise.nil

end Node

/-! ### Nodes with numbers -/

/-- The state once positions became references in turn. -/
def referAll (table : AliasTable) (s : Referring) (ps : List Pointer) : Referring :=
  ps.foldl (fun s p => ((refer table p).run s).2) s

theorem referAll_append {s : Referring} :
    referAll table s (ps ++ qs) = referAll table (referAll table s ps) qs := List.foldl_append

theorem positions_referAll {s : Referring} :
    (referAll table s ps).positions = s.positions.internAll table ps := by
  induction ps generalizing s with
  | nil => rfl
  | cons p ps ih => exact ih

theorem references_referAll {s : Referring} (h : (referAll table s ps).positions.Agrees f) :
    (referAll table s ps).references =
      (ps.map (f ∘ canonical table)).foldl (fun rs id => addReference id rs) s.references := by
  induction ps generalizing s with
  | nil => rfl
  | cons p ps ih =>
    have after : ((s.positions.intern table p).2.internAll table ps).Agrees f := by
      rwa [positions_referAll] at h
    have first : (s.positions.intern table p).1 = f (canonical table p) :=
      after.of_internAll.intern_eq
    rw [List.map_cons, List.foldl_cons, Function.comp_apply, ← first]
    exact ih h

/-- A computation makes references of `ps` in turn, and its result is `a` if `f` tells the numbers. -/
def Renumbers {α : Type} (table : AliasTable) (f : Pointer → NodeId) (c : StateM Referring α)
    (ps : List Pointer) (a : α) : Prop :=
  ∀ s, (referAll table s ps).positions.Agrees f → c.run s = (a, referAll table s ps)

namespace Renumbers

variable {α β : Type} {c : StateM Referring α} {k : α → StateM Referring β} {a : α} {b : β}

theorem pure (a : α) : Renumbers table f (pure a) [] a := fun _ _ => rfl

theorem bind (h : Renumbers table f c ps a) (hk : Renumbers table f (k a) qs b) :
    Renumbers table f (c >>= k) (ps ++ qs) b := by
  intro s hs
  rw [referAll_append] at hs ⊢
  have before : (referAll table s ps).positions.Agrees f := by
    rw [positions_referAll] at hs
    exact hs.of_internAll
  rw [StateT.run_bind, h s before]
  exact hk _ hs

/-- The last step of a computation. -/
theorem map {g : α → β} (h : Renumbers table f c ps a) :
    Renumbers table f (c >>= fun x => Pure.pure (g x)) ps (g a) := by
  simpa only [List.append_nil] using h.bind (k := fun x => Pure.pure (g x)) (Renumbers.pure (g a))

theorem refer (p : Pointer) : Renumbers table f (refer table p) [p] (f (canonical table p)) := by
  intro s hs
  have number : (s.positions.intern table p).1 = f (canonical table p) := by
    rw [positions_referAll] at hs
    exact Positions.Agrees.intern_eq hs
  exact Prod.ext number rfl

theorem mapM {ρ σ : Type} {k : ρ → StateM Referring σ} {g : ρ → σ} {schemas : ρ → List Pointer}
    (h : ∀ x, Renumbers table f (k x) (schemas x) (g x)) (xs : List ρ) :
    Renumbers table f (xs.mapM k) (xs.flatMap schemas) (xs.map g) := by
  induction xs with
  | nil => exact .pure _
  | cons x xs ih =>
    rw [List.mapM_cons, List.flatMap_cons, List.map_cons]
    exact (h x).bind ih.map

theorem optionMapM {ρ σ : Type} {k : ρ → StateM Referring σ} {g : ρ → σ}
    {schemas : ρ → List Pointer} (h : ∀ x, Renumbers table f (k x) (schemas x) (g x)) (o : Option ρ) :
    Renumbers table f (o.mapM k) (o.toList.flatMap schemas) (o.map g) := by
  cases o with
  | none => exact .pure _
  | some x => simpa using (h x).map (g := some)

end Renumbers

variable (table f)

theorem renumbers_list (ps : List Pointer) :
    Renumbers table f (ps.mapM (refer table)) ps (ps.map (f ∘ canonical table)) := by
  have h : Renumbers table f (ps.mapM (refer table)) (ps.flatMap fun p => [p])
      (ps.map (f ∘ canonical table)) := Renumbers.mapM Renumbers.refer ps
  rwa [← List.map_eq_flatMap, List.map_id'] at h

theorem renumbers_items (i : Items Pointer) :
    Renumbers table f (i.mapM (refer table)) i.schemas (i.map (f ∘ canonical table)) := by
  cases i with
  | uniform p => exact (Renumbers.refer p).map
  | tuple ps => exact (renumbers_list table f ps).map

theorem renumbers_additional (a : Additional Pointer) :
    Renumbers table f (a.mapM (refer table)) a.schemas (a.map (f ∘ canonical table)) := by
  cases a with
  | forbidden => exact .pure _
  | schema p => exact (Renumbers.refer p).map

theorem renumbers_named {κ : Type} (es : List (κ × Pointer)) :
    Renumbers table f (es.mapM (mapSchemaM (refer table))) (es.map (·.2))
      (es.map fun (k, p) => (k, (f ∘ canonical table) p)) := by
  have schemas : es.map (·.2) = es.flatMap fun e => [e.2] := List.map_eq_flatMap
  rw [schemas]
  exact Renumbers.mapM (fun e => (Renumbers.refer e.2).map) es

theorem renumbers_composition (c : Composition Pointer) :
    Renumbers table f (c.mapM (refer table)) c.schemas (c.map (f ∘ canonical table)) := by
  have excluded : Renumbers table f (c.not.mapM (refer table)) c.not.toList
      (c.not.map (f ∘ canonical table)) := by
    have h : Renumbers table f (c.not.mapM (refer table)) (c.not.toList.flatMap fun p => [p])
        (c.not.map (f ∘ canonical table)) := Renumbers.optionMapM Renumbers.refer c.not
    rwa [← List.map_eq_flatMap, List.map_id'] at h
  unfold Composition.mapM Composition.schemas Composition.map
  rw [List.append_assoc, List.append_assoc]
  exact (renumbers_list table f c.allOf).bind <| (renumbers_list table f c.anyOf).bind <|
    (renumbers_list table f c.oneOf).bind excluded.map

theorem renumbers_array (a : ArrayRules Pointer) :
    Renumbers table f (a.mapM (refer table)) a.schemas (a.map (f ∘ canonical table)) :=
  (Renumbers.optionMapM (renumbers_items table f) a.items).bind
    (Renumbers.optionMapM (renumbers_additional table f) a.additional).map

theorem renumbers_object (o : ObjectRules Pointer) :
    Renumbers table f (o.mapM (refer table)) o.schemas (o.map (f ∘ canonical table)) := by
  unfold ObjectRules.mapM ObjectRules.schemas ObjectRules.map
  rw [List.append_assoc, List.append_assoc]
  exact (renumbers_named table f o.properties).bind <| (renumbers_named table f o.patterns).bind <|
    (Renumbers.optionMapM (renumbers_additional table f) o.additional).bind
      (renumbers_named table f o.schemaDependencies).map

/-- To number a node is to replace its references by their numbers. -/
theorem renumbers_node (n : Node Pointer) :
    Renumbers table f (n.mapM (refer table)) n.subschemas (n.map (f ∘ canonical table)) := by
  unfold Node.mapM Node.subschemas Node.map
  rw [List.append_assoc, List.append_assoc]
  exact (renumbers_composition table f n.composition).bind <| (renumbers_array table f n.array).bind <|
    (renumbers_object table f n.object).bind (renumbers_list table f n.definitions).map

end JsonSchema
