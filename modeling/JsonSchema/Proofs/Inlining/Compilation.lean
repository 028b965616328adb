import JsonSchema.Proofs.Inlining.Replacement
import JsonSchema.Proofs.Node.Readers
import JsonSchema.Proofs.Node.Renaming
/-!
# Reading a node at another position

A node is read alike from the same keywords at another position, with the positions that it refers to
moved along, and alike if a part of a keyword's value gave way, an object for an object
(`Keywords.Moved.reads`). What holds named schemas must not be the object that gave way itself, and a
literal of which it is part is another one afterwards.
-/

namespace JsonSchema

open Value

/-- The keywords `ks` moved along `f`, where in at most one of their values `link`, which is a
reference, gave way to `copy`. -/
structure Keywords.Moved (link copy : Members) (f : Pointer → Pointer) (ks ks' : Keywords) : Prop where
  reference : ∃ s, Members.get? link referenceKey = some (.string s)
  values : ∀ kw, Option.Rel (Replaced (.object link) (.object copy)) (ks.get? kw) (ks'.get? kw)
  named : ∀ kw ∈ naming, ks.get? kw ≠ some (.object link)
  positions : ∀ ts, f (ks.position.below ts) = ks'.position.below ts

/-- Members of the same names, in whose values `link` gave way to `copy`. -/
abbrev Keywords.SameNames (link copy : Members) (ms ms' : Members) : Prop :=
  List.Forall₂ (fun m m' => m'.1 = m.1 ∧ Replaced (.object link) (.object copy) m.2 m'.2) ms ms'

namespace Keywords.Moved

variable {link copy : Members} {f : Pointer → Pointer} {ks ks' : Keywords} {kw : String}
  {v v' : Value} {vs : List Value} {ms : Members}

/-! ### Values of keywords -/

theorem get?_none (h : Moved link copy f ks ks') (hv : ks.get? kw = none) : ks'.get? kw = none := by
  have rel := h.values kw
  rw [hv] at rel
  generalize ks'.get? kw = o at rel
  cases rel
  rfl

theorem get?_some (h : Moved link copy f ks ks') (hv : ks.get? kw = some v) :
    ∃ v', ks'.get? kw = some v' ∧ Replaced (.object link) (.object copy) v v' := by
  have rel := h.values kw
  rw [hv] at rel
  generalize ks'.get? kw = o at rel
  cases rel with
  | some rel => exact ⟨_, rfl, rel⟩

theorem get?_scalar (h : Moved link copy f ks ks') (hv : ks.get? kw = some v)
    (ha : ∀ vs, v ≠ .array vs) (ho : ∀ ms, v ≠ .object ms) : ks'.get? kw = some v := by
  obtain ⟨v', hv', rel⟩ := h.get?_some hv
  rcases rel.cases with ⟨rfl, -⟩ | parts
  · exact absurd rfl (ho link)
  · cases parts with
    | refl => exact hv'
    | array => exact absurd rfl (ha _)
    | object => exact absurd rfl (ho _)

theorem array_of_replaced (h : Replaced (.object link) (.object copy) (.array vs) v') :
    ∃ vs', v' = .array vs' ∧ List.Forall₂ (Replaced (.object link) (.object copy)) vs vs' := by
  rcases h.cases with ⟨h, -⟩ | parts
  · cases h
  · cases parts with
    | refl => exact ⟨vs, rfl, List.forall₂_same.2 fun v _ => .refl v⟩
    | array items => exact ⟨_, rfl, items⟩

theorem object_of_replaced (h : Replaced (.object link) (.object copy) (.object ms) v') :
    ∃ ms', v' = .object ms' ∧ (ms ≠ link → SameNames link copy ms ms') := by
  rcases h.cases with ⟨he, rfl⟩ | parts
  · cases he
    exact ⟨copy, rfl, fun hne => (hne rfl).elim⟩
  · cases parts with
    | refl => exact ⟨ms, rfl, fun _ => List.forall₂_same.2 fun m _ => ⟨rfl, .refl m.2⟩⟩
    | object members => exact ⟨_, rfl, fun _ => members⟩

theorem get?_array (h : Moved link copy f ks ks') (hv : ks.get? kw = some (.array vs)) :
    ∃ vs', ks'.get? kw = some (.array vs') ∧
      List.Forall₂ (Replaced (.object link) (.object copy)) vs vs' := by
  obtain ⟨v', hv', rel⟩ := h.get?_some hv
  obtain ⟨vs', rfl, items⟩ := array_of_replaced rel
  exact ⟨vs', hv', items⟩

theorem get?_object (h : Moved link copy f ks ks') (hv : ks.get? kw = some (.object ms)) :
    ∃ ms', ks'.get? kw = some (.object ms') ∧ (ms ≠ link → SameNames link copy ms ms') := by
  obtain ⟨v', hv', rel⟩ := h.get?_some hv
  obtain ⟨ms', rfl, members⟩ := object_of_replaced rel
  exact ⟨ms', hv', members⟩

/-- Texts are no objects that could give way. -/
theorem eq_of_texts {vs' : List Value}
    (items : List.Forall₂ (Replaced (.object link) (.object copy)) vs vs')
    (texts : ∀ v ∈ vs, ∃ s, v = .string s) : vs' = vs := by
  induction items with
  | nil => rfl
  | cons rel _ ih =>
    rw [List.forall_mem_cons] at texts
    obtain ⟨⟨s, rfl⟩, texts⟩ := texts
    rw [ih texts, rel.string_iff.2 rfl]

theorem child (h : Moved link copy f ks ks') (kw : String) : f (ks.child kw) = ks'.child kw :=
  h.positions [kw]

theorem elements (h : Moved link copy f ks ks') {vs' : List Value} (hl : vs.length = vs'.length) :
    (elements (ks.child kw) vs).map f = Keywords.elements (ks'.child kw) vs' := by
  rw [Keywords.elements, Keywords.elements, List.map_map, hl]
  refine List.map_congr_left fun i _ => ?_
  rw [Function.comp_apply, Keywords.child, Keywords.child, Pointer.index_eq_below,
    Pointer.index_eq_below, Pointer.child_eq_below, Pointer.child_eq_below, Pointer.below_below,
    Pointer.below_below]
  exact h.positions _

/-! ### Readers -/

/-- A keyword that holds a scalar, or is not there, stays what it is. -/
theorem get?_map (h : Moved link copy f ks ks') {α : Type} {c : α → Value} {o : Option α}
    (hk : ks.get? kw = o.map c) (array : ∀ a vs, c a ≠ .array vs)
    (object : ∀ a ms, c a ≠ .object ms) : ks'.get? kw = o.map c := by
  cases o with
  | none => exact h.get?_none hk
  | some a => exact h.get?_scalar hk (array a) (object a)

theorem string? (h : Moved link copy f ks ks') {o : Option String} (hr : ks.string? kw = .ok o) :
    ks'.string? kw = .ok o :=
  string?_eq_ok.2 (h.get?_map (string?_eq_ok.1 hr) (by simp) (by simp))

theorem boolean? (h : Moved link copy f ks ks') {o : Option Bool} (hr : ks.boolean? kw = .ok o) :
    ks'.boolean? kw = .ok o :=
  boolean?_eq_ok.2 (h.get?_map (boolean?_eq_ok.1 hr) (by simp) (by simp))

theorem number? (h : Moved link copy f ks ks') {o : Option Number} (hr : ks.number? kw = .ok o) :
    ks'.number? kw = .ok o :=
  number?_eq_ok.2 (h.get?_map (number?_eq_ok.1 hr) (by simp) (by simp))

theorem count? (h : Moved link copy f ks ks') {o : Option Nat} (hr : ks.count? kw = .ok o) :
    ks'.count? kw = .ok o := by
  rw [count?_eq_ok] at hr ⊢
  obtain ⟨u, hu, rfl⟩ := hr
  exact ⟨u, h.get?_map hu (by simp) (by simp), rfl⟩

theorem types (h : Moved link copy f ks ks') {o : Option (List Kind)} (hr : ks.types = .ok o) :
    ks'.types = .ok o := by
  unfold Keywords.types at hr
  split at hr
  · next hk =>
    cases hr
    rw [Keywords.types, h.get?_none hk]
  · next s hk =>
    simp only [bind_eq_ok, pure_eq_ok] at hr
    obtain ⟨ts, ht, rfl⟩ := hr
    rw [Keywords.types, h.get?_scalar hk (by rintro _ ⟨⟩) (by rintro _ ⟨⟩)]
    exact bind_eq_ok.2 ⟨ts, (kinds_eq_ok ks' ht).2, rfl⟩
  · next vs hk =>
    simp only [bind_eq_ok, pure_eq_ok] at hr
    obtain ⟨ts, ht, rfl⟩ := hr
    obtain ⟨vs', hk', items⟩ := h.get?_array hk
    obtain ⟨texts, same⟩ := kinds_eq_ok ks' ht
    rw [Keywords.types, hk', eq_of_texts items texts]
    exact bind_eq_ok.2 ⟨ts, same, rfl⟩
  · cases hr

/-- Literals stay unless the value of the keyword changes. -/
theorem enumeration (h : Moved link copy f ks ks') {o : Option (List Value)}
    (hr : ks.enumeration = .ok o) : ∃ o', ks'.enumeration = .ok o' ∧
      (ks'.get? "enum" = ks.get? "enum" → o' = o) := by
  unfold Keywords.enumeration at hr
  split at hr
  · next hk =>
    cases hr
    exact ⟨none, by rw [Keywords.enumeration, h.get?_none hk], fun _ => rfl⟩
  · cases hr
  · next vs hne hk =>
    cases hr
    obtain ⟨vs', hk', items⟩ := h.get?_array hk
    refine ⟨some vs', ?_, fun same => ?_⟩
    · unfold Keywords.enumeration
      cases items with
      | nil => exact absurd rfl (hne ·)
      | cons => rw [hk']
    · rw [hk, hk'] at same
      cases same
      rfl
  · cases hr

theorem branches (h : Moved link copy f ks ks') {ps : List Pointer} (hr : ks.branches kw = .ok ps) :
    ks'.branches kw = .ok (ps.map f) := by
  unfold Keywords.branches at hr
  split at hr
  · next hk =>
    cases hr
    rw [Keywords.branches, h.get?_none hk]
    rfl
  · cases hr
  · next vs hne hk =>
    cases hr
    obtain ⟨vs', hk', items⟩ := h.get?_array hk
    rw [h.elements items.length_eq]
    unfold Keywords.branches
    cases items with
    | nil => exact absurd rfl (hne ·)
    | cons => rw [hk']
  · cases hr

theorem composition (h : Moved link copy f ks ks') {c : Composition Pointer}
    (hr : ks.composition = .ok c) : ks'.composition = .ok (c.map f) := by
  simp only [Keywords.composition, bind_eq_ok, pure_eq_ok] at hr ⊢
  obtain ⟨allOf, h1, anyOf, h2, oneOf, h3, rfl⟩ := hr
  refine ⟨_, h.branches h1, _, h.branches h2, _, h.branches h3, ?_⟩
  rw [Composition.map]
  congr 1
  cases hk : ks.get? "not" with
  | none => rw [h.get?_none hk]; rfl
  | some v =>
    obtain ⟨v', hv', -⟩ := h.get?_some hk
    rw [hv', Option.map_some, Option.map_some, Option.map_some, h.child]

theorem multipleOf (h : Moved link copy f ks ks') {o : Option Divisor}
    (hr : ks.multipleOf = .ok o) : ks'.multipleOf = .ok o := by
  obtain ⟨n, hn, hr⟩ := bind_eq_ok.1 hr
  refine bind_eq_ok.2 ⟨n, h.number? hn, ?_⟩
  split at hr
  · exact hr
  · split at hr
    · cases hr
    · next hu => rwa [if_neg hu]
  · split at hr
    · next hx => rwa [if_pos hx]
    · cases hr
  · cases hr

theorem bound (h : Moved link copy f ks ks') {exclusive : String} {o : Option Bound}
    (hr : ks.bound kw exclusive = .ok o) : ks'.bound kw exclusive = .ok o := by
  simp only [Keywords.bound, bind_eq_ok] at hr ⊢
  obtain ⟨limit, hl, e, he, hr⟩ := hr
  refine ⟨limit, h.number? hl, e, h.boolean? he, ?_⟩
  cases e with
  | none => exact hr
  | some b =>
    cases limit with
    | none => cases hr
    | some n => exact hr

theorem numberRules (h : Moved link copy f ks ks') {r : NumberRules} (hr : ks.numberRules = .ok r) :
    ks'.numberRules = .ok r := by
  simp only [Keywords.numberRules, bind_eq_ok, pure_eq_ok] at hr ⊢
  obtain ⟨m, h1, a, h2, b, h3, rfl⟩ := hr
  exact ⟨m, h.multipleOf h1, a, h.bound h2, b, h.bound h3, rfl⟩

theorem pattern_eq_ok {text : String} {p : Pattern} :
    ks.pattern kw text = .ok p ↔ Pattern.compile? text = some p := by
  unfold Keywords.pattern
  cases Pattern.compile? text <;> simp

theorem stringRules (h : Moved link copy f ks ks') {r : StringRules} (hr : ks.stringRules = .ok r) :
    ks'.stringRules = .ok r := by
  simp only [Keywords.stringRules, bind_eq_ok, pure_eq_ok] at hr ⊢
  obtain ⟨a, h1, b, h2, text, h3, p, h4, fm, h5, rfl⟩ := hr
  refine ⟨a, h.count? h1, b, h.count? h2, text, h.string? h3, p, ?_, fm, h.string? h5, rfl⟩
  cases text with
  | none => exact h4
  | some t =>
    rw [Option.mapM_some] at h4 ⊢
    cases hp : ks.pattern "pattern" t with
    | error e => rw [hp] at h4; cases h4
    | ok q =>
      rw [hp] at h4
      rwa [pattern_eq_ok.2 (pattern_eq_ok.1 hp)]

theorem items (h : Moved link copy f ks ks') {o : Option (Items Pointer)} (hr : ks.items = .ok o) :
    ks'.items = .ok (o.map (Items.map f)) := by
  unfold Keywords.items at hr
  split at hr
  · next hk =>
    cases hr
    rw [Keywords.items, h.get?_none hk]
    rfl
  · next ms hk =>
    cases hr
    obtain ⟨ms', hk', -⟩ := h.get?_object hk
    rw [Keywords.items, hk', Option.map_some, Items.map, h.child]
  · next vs hk =>
    cases hr
    obtain ⟨vs', hk', items⟩ := h.get?_array hk
    rw [Keywords.items, hk', Option.map_some, Items.map, h.elements items.length_eq]
  · cases hr

theorem additional (h : Moved link copy f ks ks') {o : Option (Additional Pointer)}
    (hr : ks.additional kw = .ok o) : ks'.additional kw = .ok (o.map (Additional.map f)) := by
  unfold Keywords.additional at hr
  split at hr
  · next hk =>
    cases hr
    rw [Keywords.additional, h.get?_none hk]
    rfl
  · next hk =>
    cases hr
    rw [Keywords.additional, h.get?_scalar hk (by rintro _ ⟨⟩) (by rintro _ ⟨⟩)]
    rfl
  · next hk =>
    cases hr
    rw [Keywords.additional, h.get?_scalar hk (by rintro _ ⟨⟩) (by rintro _ ⟨⟩)]
    rfl
  · next ms hk =>
    cases hr
    obtain ⟨ms', hk', -⟩ := h.get?_object hk
    rw [Keywords.additional, hk', Option.map_some, Additional.map, h.child]
  · cases hr

theorem arrayRules (h : Moved link copy f ks ks') {r : ArrayRules Pointer}
    (hr : ks.arrayRules = .ok r) : ks'.arrayRules = .ok (r.map f) := by
  simp only [Keywords.arrayRules, bind_eq_ok, pure_eq_ok] at hr ⊢
  obtain ⟨i, h1, a, h2, m, h3, n, h4, u, h5, rfl⟩ := hr
  exact ⟨_, h.items h1, _, h.additional h2, m, h.count? h3, n, h.count? h4, u, h.boolean? h5, rfl⟩

/-- Named schemas keep their names. -/
theorem schemas (h : Moved link copy f ks ks') (hk : kw ∈ naming) {l : List (String × Pointer)}
    (hr : ks.schemas kw = .ok l) : ks'.schemas kw = .ok (l.map fun e => (e.1, f e.2)) := by
  rw [schemas_eq_ok] at hr ⊢
  obtain ⟨o, ho, rfl⟩ := hr
  rw [object?_eq_ok] at ho
  cases o with
  | none => exact ⟨none, object?_eq_ok.2 (h.get?_none ho), rfl⟩
  | some ms =>
    obtain ⟨ms', hm', same⟩ := h.get?_object ho
    have members := same fun he => h.named kw hk (he ▸ ho)
    refine ⟨some ms', object?_eq_ok.2 hm', ?_⟩
    rw [Option.getD_some, Option.getD_some, List.map_map, ← List.forall₂_eq_eq_eq,
      List.forall₂_map_left_iff, List.forall₂_map_right_iff]
    refine members.imp fun m m' hm => ?_
    rw [Function.comp_apply, hm.1]
    have moved : f ((ks.child kw).child m.1) = (ks'.child kw).child m.1 := by
      simpa [Keywords.child, Pointer.child, Pointer.below] using h.positions [kw, m.1]
    rw [moved]

theorem patternProperties (h : Moved link copy f ks ks') {l : List (Pattern × Pointer)}
    (hr : ks.patternProperties = .ok l) :
    ks'.patternProperties = .ok (l.map fun e => (e.1, f e.2)) := by
  have entry : ∀ (ks : Keywords) (e : String × Pointer) (r : Pattern × Pointer),
      (do return (← ks.pattern "patternProperties" e.1, e.2)) = Except.ok r ↔
        Pattern.compile? e.1 = some r.1 ∧ r.2 = e.2 := by
    intro ks e r
    simp only [bind_eq_ok, pure_eq_ok, pattern_eq_ok]
    constructor
    · rintro ⟨p, hp, rfl⟩
      exact ⟨hp, rfl⟩
    · rintro ⟨hp, h2⟩
      exact ⟨r.1, hp, by rw [← h2]⟩
  simp only [Keywords.patternProperties, bind_eq_ok, mapM_eq_ok, entry] at hr ⊢
  obtain ⟨es, hes, hr⟩ := hr
  refine ⟨_, h.schemas (by decide) hes, ?_⟩
  rw [List.forall₂_map_left_iff, List.forall₂_map_right_iff]
  exact hr.imp fun e r hr => ⟨hr.1, congrArg f hr.2⟩

theorem required (h : Moved link copy f ks ks') {ns : List String} (hr : ks.required = .ok ns) :
    ks'.required = .ok ns := by
  unfold Keywords.required at hr
  split at hr
  · next hk =>
    cases hr
    rw [Keywords.required, h.get?_none hk]
  · next v hk =>
    obtain ⟨vs, rfl, texts, same⟩ := keySet_eq_ok ks' hr
    obtain ⟨vs', hk', items⟩ := h.get?_array hk
    rw [Keywords.required, hk', eq_of_texts items texts]
    exact same

/-- A dependency, moved along. -/
def moveDependency (f : Pointer → Pointer) : Dependency → Dependency
  | .keys ns => .keys ns
  | .schema p => .schema (f p)

theorem dependency (h : Moved link copy f ks ks') {k : String}
    (rel : Replaced (.object link) (.object copy) v v') {e : Dependency}
    (hr : ks.dependency k v = .ok e) : ks'.dependency k v' = .ok (moveDependency f e) := by
  have moved : f ((ks.child "dependencies").child k) = (ks'.child "dependencies").child k := by
    simpa [Keywords.child, Pointer.child, Pointer.below] using h.positions ["dependencies", k]
  unfold Keywords.dependency at hr
  split at hr
  · cases hr
    obtain ⟨ms', rfl, -⟩ := object_of_replaced rel
    rw [Keywords.dependency, moveDependency, moved]
  · simp only [bind_eq_ok, pure_eq_ok] at hr
    obtain ⟨ns, hn, rfl⟩ := hr
    obtain ⟨vs, he, texts, same⟩ := keySet_eq_ok ks' hn
    cases he
    obtain ⟨vs', rfl, items⟩ := array_of_replaced rel
    rw [eq_of_texts items texts]
    exact bind_eq_ok.2 ⟨ns, same, rfl⟩
  · cases hr

/-- What `dependencies` holds is no reference, whose text would be a dependency. -/
theorem ne_link_of_dependencies (h : Moved link copy f ks ks') {es : List (String × Dependency)}
    (hr : List.Forall₂ (fun m e => e.1 = m.1 ∧ ks.dependency m.1 m.2 = .ok e.2) ms es) :
    ms ≠ link := by
  obtain ⟨s, hs⟩ := h.reference
  rintro rfl
  obtain ⟨e, -, -, he⟩ := (partners_of_forall₂ hr).1 _ (mem_of_lookup hs)
  cases he

theorem forall₂_dependency (h : Moved link copy f ks ks') {ms' : Members}
    (members : SameNames link copy ms ms') {es : List (String × Dependency)}
    (hr : List.Forall₂ (fun m e => e.1 = m.1 ∧ ks.dependency m.1 m.2 = .ok e.2) ms es) :
    List.Forall₂ (fun m e => e.1 = m.1 ∧ ks'.dependency m.1 m.2 = .ok e.2) ms'
      (es.map fun e => (e.1, moveDependency f e.2)) := by
  induction members generalizing es with
  | nil => cases hr; exact .nil
  | cons hm _ ih =>
    cases hr with
    | cons he hr =>
      refine .cons ⟨he.1.trans hm.1.symm, ?_⟩ (ih hr)
      rw [hm.1]
      exact h.dependency hm.2 he.2

theorem dependencies (h : Moved link copy f ks ks') {es : List (String × Dependency)}
    (hr : ks.dependencies = .ok es) :
    ks'.dependencies = .ok (es.map fun e => (e.1, moveDependency f e.2)) := by
  rw [dependencies_eq_ok] at hr ⊢
  obtain ⟨o, ho, hr⟩ := hr
  rw [object?_eq_ok] at ho
  cases o with
  | none =>
    cases hr
    exact ⟨none, object?_eq_ok.2 (h.get?_none ho), .nil⟩
  | some ms =>
    obtain ⟨ms', hm', same⟩ := h.get?_object ho
    exact ⟨some ms', object?_eq_ok.2 hm',
      h.forall₂_dependency (same (h.ne_link_of_dependencies hr)) hr⟩

theorem objectRules (h : Moved link copy f ks ks') {r : ObjectRules Pointer}
    (hr : ks.ReadsObject r) : ks'.ReadsObject (r.map f) := by
  obtain ⟨es, hes, names, schemas⟩ := hr.dependencies
  constructor
  · exact h.count? hr.maxProperties
  · exact h.count? hr.minProperties
  · exact h.required hr.required
  · exact h.schemas (by decide) hr.properties
  · exact h.patternProperties hr.patterns
  · exact h.additional hr.additional
  · refine ⟨_, h.dependencies hes, ?_, ?_⟩
    · rw [ObjectRules.map, names, List.filterMap_map]
      refine List.filterMap_congr fun e _ => ?_
      rcases e with ⟨k, ns | p⟩ <;> rfl
    · rw [ObjectRules.map, schemas, List.filterMap_map, List.map_filterMap]
      refine List.filterMap_congr fun e _ => ?_
      rcases e with ⟨k, ns | p⟩ <;> rfl

/-- What is read from the keywords is read after they moved, with the positions moved along. -/
theorem reads (h : Moved link copy f ks ks') {n : Node Pointer} (hr : ks.Reads n) :
    ∃ es, ks'.Reads { n.map f with position := ks'.position, enumeration := es } ∧
      (ks'.get? "enum" = ks.get? "enum" → es = n.enumeration) := by
  obtain ⟨t, ht⟩ := hr.title
  obtain ⟨e, he⟩ := hr.description
  obtain ⟨ds, hds, definitions⟩ := hr.definitions
  obtain ⟨es, hes, same⟩ := h.enumeration hr.enumeration
  refine ⟨es, ?_, same⟩
  constructor
  · rfl
  · exact ⟨t, h.string? ht⟩
  · exact ⟨e, h.string? he⟩
  · exact h.types hr.types
  · exact hes
  · exact h.composition hr.composition
  · exact h.numberRules hr.number
  · exact h.stringRules hr.string
  · exact h.arrayRules hr.array
  · exact objectRules_eq_ok.2 (h.objectRules (objectRules_eq_ok.1 hr.object))
  · refine ⟨_, h.schemas (by decide) hds, ?_⟩
    rw [Node.map, definitions, List.map_map, List.map_map]
    rfl

end Keywords.Moved
end JsonSchema
