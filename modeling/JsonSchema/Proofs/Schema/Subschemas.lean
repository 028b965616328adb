import JsonSchema.Proofs.Node.Reading
import JsonSchema.Proofs.Node.Renaming
import JsonSchema.Proofs.Positions
import JsonSchema.Proofs.Schema.Grammar
/-!
# Where nodes hold schemas

A node keeps the schemas that it applies in fields. `Node.Holds` gives for each of them the tokens
under which a document writes it, whatever the node refers to it by; beside these it refers to its
definitions (`Node.mem_subschemas_iff`). A node that is read from a document holds under some tokens
what the grammar has there, by the position of these tokens (`Keywords.Reads.holds_iff`).
-/

namespace JsonSchema
namespace Node

variable {ρ σ : Type} {n : Node ρ} {ts : List String} {r : ρ} {f : ρ → σ} {s : σ}

/-! ### References with their tokens -/

/-- The node refers to this schema for the same value, written under the tokens. -/
inductive HoldsInPlace (n : Node ρ) : List String → ρ → Prop where
  | allOf {i : Nat} {r : ρ} (h : n.composition.allOf[i]? = some r) :
      HoldsInPlace n ["allOf", toString i] r
  | anyOf {i : Nat} {r : ρ} (h : n.composition.anyOf[i]? = some r) :
      HoldsInPlace n ["anyOf", toString i] r
  | oneOf {i : Nat} {r : ρ} (h : n.composition.oneOf[i]? = some r) :
      HoldsInPlace n ["oneOf", toString i] r
  | not {r : ρ} (h : n.composition.not = some r) : HoldsInPlace n ["not"] r
  | dependency {name : String} {r : ρ} (h : (name, r) ∈ n.object.schemaDependencies) :
      HoldsInPlace n ["dependencies", name] r

/-- The node refers to this schema, written under the tokens. -/
inductive Holds (n : Node ρ) : List String → ρ → Prop where
  | inPlace {ts : List String} {r : ρ} (h : n.HoldsInPlace ts r) : Holds n ts r
  | items {r : ρ} (h : n.array.items = some (.uniform r)) : Holds n ["items"] r
  | element {rs : List ρ} {i : Nat} {r : ρ} (h : n.array.items = some (.tuple rs))
      (hr : rs[i]? = some r) : Holds n ["items", toString i] r
  | additionalItems {r : ρ} (h : n.array.additional = some (.schema r)) :
      Holds n ["additionalItems"] r
  | property {name : String} {r : ρ} (h : (name, r) ∈ n.object.properties) :
      Holds n ["properties", name] r
  | pattern {p : Pattern} {r : ρ} (h : (p, r) ∈ n.object.patterns) :
      Holds n ["patternProperties", p.source] r
  | additionalProperties {r : ρ} (h : n.object.additional = some (.schema r)) :
      Holds n ["additionalProperties"] r

theorem mem_inPlace_iff : r ∈ n.inPlace ↔ ∃ ts, n.HoldsInPlace ts r := by
  simp only [Node.inPlace, Composition.schemas, List.mem_append, Option.mem_toList, List.mem_map]
  constructor
  · rintro ((((h | h) | h) | h) | ⟨⟨name, _⟩, h, rfl⟩)
    · obtain ⟨i, hi⟩ := List.mem_iff_getElem?.1 h
      exact ⟨_, .allOf hi⟩
    · obtain ⟨i, hi⟩ := List.mem_iff_getElem?.1 h
      exact ⟨_, .anyOf hi⟩
    · obtain ⟨i, hi⟩ := List.mem_iff_getElem?.1 h
      exact ⟨_, .oneOf hi⟩
    · exact ⟨_, .not h⟩
    · exact ⟨_, .dependency h⟩
  · rintro ⟨ts, h⟩
    cases h with
    | allOf h => exact .inl (.inl (.inl (.inl (List.mem_of_getElem? h))))
    | anyOf h => exact .inl (.inl (.inl (.inr (List.mem_of_getElem? h))))
    | oneOf h => exact .inl (.inl (.inr (List.mem_of_getElem? h)))
    | not h => exact .inl (.inr h)
    | dependency h => exact .inr ⟨_, h, rfl⟩

theorem mem_additional_schemas {o : Option (Additional ρ)} :
    r ∈ o.toList.flatMap Additional.schemas ↔ o = some (.schema r) := by
  rcases o with _ | _ | s
  · simp
  · simp [Additional.schemas]
  · simp [Additional.schemas, eq_comm]

theorem mem_items_schemas {o : Option (Items ρ)} : r ∈ o.toList.flatMap Items.schemas ↔
    o = some (.uniform r) ∨ ∃ rs, o = some (.tuple rs) ∧ r ∈ rs := by
  rcases o with _ | s | rs
  · simp
  · simp [Items.schemas, eq_comm]
  · simp [Items.schemas]

theorem mem_subschemas_iff : r ∈ n.subschemas ↔ (∃ ts, n.Holds ts r) ∨ r ∈ n.definitions := by
  constructor
  · intro h
    simp only [subschemas, List.mem_append, ArrayRules.schemas, ObjectRules.schemas,
      mem_items_schemas, mem_additional_schemas, List.mem_map] at h
    have inPlace (h : r ∈ n.inPlace) : ∃ ts, n.Holds ts r := by
      obtain ⟨ts, h⟩ := mem_inPlace_iff.1 h
      exact ⟨ts, .inPlace h⟩
    rcases h with ((h | ((h | ⟨rs, hrs, h⟩) | h)) |
      (((⟨⟨name, _⟩, h, rfl⟩ | ⟨⟨p, _⟩, h, rfl⟩) | h) | h)) | h
    · exact .inl (inPlace (List.mem_append_left _ h))
    · exact .inl ⟨_, .items h⟩
    · obtain ⟨i, hi⟩ := List.mem_iff_getElem?.1 h
      exact .inl ⟨_, .element hrs hi⟩
    · exact .inl ⟨_, .additionalItems h⟩
    · exact .inl ⟨_, .property h⟩
    · exact .inl ⟨_, .pattern h⟩
    · exact .inl ⟨_, .additionalProperties h⟩
    · exact .inl (inPlace (List.mem_append_right _ (List.mem_map.2 h)))
    · exact .inr h
  · rintro (⟨ts, h⟩ | h)
    · simp only [subschemas, List.mem_append, ArrayRules.schemas, ObjectRules.schemas,
        mem_items_schemas, mem_additional_schemas, List.mem_map]
      cases h with
      | inPlace h =>
        rcases List.mem_append.1 (mem_inPlace_iff.2 ⟨ts, h⟩) with h | h
        · exact .inl (.inl (.inl h))
        · exact .inl (.inr (.inr (List.mem_map.1 h)))
      | items h => exact .inl (.inl (.inr (.inl (.inl h))))
      | element h hr => exact .inl (.inl (.inr (.inl (.inr ⟨_, h, List.mem_of_getElem? hr⟩))))
      | additionalItems h => exact .inl (.inl (.inr (.inr h)))
      | property h => exact .inl (.inr (.inl (.inl (.inl ⟨_, h, rfl⟩))))
      | pattern h => exact .inl (.inr (.inl (.inl (.inr ⟨_, h, rfl⟩))))
      | additionalProperties h => exact .inl (.inr (.inl (.inr h)))
    · exact List.mem_append_right _ h

/-! ### Replaced references -/

theorem HoldsInPlace.of_map (h : (n.map f).HoldsInPlace ts s) :
    ∃ r, n.HoldsInPlace ts r ∧ s = f r := by
  have branch {l : List ρ} {i : Nat} {s : σ} (h : (l.map f)[i]? = some s) :
      ∃ r, l[i]? = some r ∧ s = f r := by
    rw [List.getElem?_map] at h
    obtain ⟨r, hr, rfl⟩ := Option.map_eq_some_iff.1 h
    exact ⟨r, hr, rfl⟩
  cases h with
  | allOf h =>
    obtain ⟨r, hr, rfl⟩ := branch h
    exact ⟨r, .allOf hr, rfl⟩
  | anyOf h =>
    obtain ⟨r, hr, rfl⟩ := branch h
    exact ⟨r, .anyOf hr, rfl⟩
  | oneOf h =>
    obtain ⟨r, hr, rfl⟩ := branch h
    exact ⟨r, .oneOf hr, rfl⟩
  | not h =>
    obtain ⟨r, hr, rfl⟩ := Option.map_eq_some_iff.1 h
    exact ⟨r, .not hr, rfl⟩
  | dependency h =>
    obtain ⟨⟨name, r⟩, hr, he⟩ := List.mem_map.1 h
    cases he
    exact ⟨r, .dependency hr, rfl⟩

theorem Holds.of_map (h : (n.map f).Holds ts s) : ∃ r, n.Holds ts r ∧ s = f r := by
  have additional {o : Option (Additional ρ)} {s : σ}
      (h : o.map (Additional.map f) = some (.schema s)) : ∃ r, o = some (.schema r) ∧ s = f r := by
    obtain ⟨a, rfl, ha⟩ := Option.map_eq_some_iff.1 h
    cases a with
    | forbidden => cases ha
    | schema r => cases ha; exact ⟨r, rfl, rfl⟩
  cases h with
  | inPlace h =>
    obtain ⟨r, hr, rfl⟩ := h.of_map
    exact ⟨r, .inPlace hr, rfl⟩
  | items h =>
    obtain ⟨i, hi, he⟩ := Option.map_eq_some_iff.1 h
    cases i with
    | uniform r => cases he; exact ⟨r, .items hi, rfl⟩
    | tuple rs => cases he
  | element h hs =>
    obtain ⟨i, hi, he⟩ := Option.map_eq_some_iff.1 h
    cases i with
    | uniform r => cases he
    | tuple rs =>
      cases he
      rw [List.getElem?_map] at hs
      obtain ⟨r, hr, rfl⟩ := Option.map_eq_some_iff.1 hs
      exact ⟨r, .element hi hr, rfl⟩
  | additionalItems h =>
    obtain ⟨r, hr, rfl⟩ := additional h
    exact ⟨r, .additionalItems hr, rfl⟩
  | property h =>
    obtain ⟨⟨name, r⟩, hr, he⟩ := List.mem_map.1 h
    cases he
    exact ⟨r, .property hr, rfl⟩
  | pattern h =>
    obtain ⟨⟨p, r⟩, hr, he⟩ := List.mem_map.1 h
    cases he
    exact ⟨r, .pattern hr, rfl⟩
  | additionalProperties h =>
    obtain ⟨r, hr, rfl⟩ := additional h
    exact ⟨r, .additionalProperties hr, rfl⟩

end Node

/-! ### Nodes of documents -/

namespace Keywords

variable {ks : Keywords} {kw name : String} {n : Node Pointer} {ts : List String} {q : Pointer}

theorem below_child {token : String} : ks.position.below [kw, token] = (ks.child kw).child token :=
  (@Pointer.below_below ks.position [kw] [token]).symm

theorem getElem?_elements {p : Pointer} {vs : List Value} {i : Nat} :
    (elements p vs)[i]? = some q ↔ i < vs.length ∧ q = p.index i := by
  simp only [elements, List.getElem?_map, Option.map_eq_some_iff]
  constructor
  · rintro ⟨j, hj, rfl⟩
    obtain ⟨hi, rfl⟩ := List.getElem?_eq_some_iff.1 hj
    rw [List.length_range] at hi
    exact ⟨hi, by rw [List.getElem_range]⟩
  · rintro ⟨hi, rfl⟩
    exact ⟨i, List.getElem?_range hi, rfl⟩

theorem getElem?_branches {ps : List Pointer} (h : ks.branches kw = .ok ps) {i : Nat} :
    ps[i]? = some q ↔
      ∃ vs, ks.get? kw = some (.array vs) ∧ i < vs.length ∧ q = (ks.child kw).index i := by
  unfold branches at h
  split at h
  · next hk => cases h; simp [hk]
  · cases h
  · next vs _ hk => cases h; simp [hk, getElem?_elements]
  · cases h

theorem additional_eq_schema {o : Option (Additional Pointer)} (h : ks.additional kw = .ok o) :
    o = some (.schema q) ↔ (∃ ms, ks.get? kw = some (.object ms)) ∧ q = ks.child kw := by
  unfold additional at h
  split at h
  · next hk => cases h; simp [hk]
  · next hk => cases h; simp [hk]
  · next hk => cases h; simp [hk]
  · next ms hk => cases h; simp [hk, eq_comm]
  · cases h

theorem items_eq_uniform {o : Option (Items Pointer)} (h : ks.items = .ok o) :
    o = some (.uniform q) ↔ (∃ ms, ks.get? "items" = some (.object ms)) ∧ q = ks.child "items" := by
  unfold items at h
  split at h
  · next hk => cases h; simp [hk]
  · next ms hk => cases h; simp [hk, eq_comm]
  · next vs hk => cases h; simp [hk]
  · cases h

theorem items_eq_tuple {o : Option (Items Pointer)} (h : ks.items = .ok o) {qs : List Pointer} :
    o = some (.tuple qs) ↔
      ∃ vs, ks.get? "items" = some (.array vs) ∧ qs = elements (ks.child "items") vs := by
  unfold items at h
  split at h
  · next hk => cases h; simp [hk]
  · next ms hk => cases h; simp [hk]
  · next vs hk => cases h; simp [hk, eq_comm]
  · cases h

theorem mem_schemas_iff {l : List (String × Pointer)} (h : ks.schemas kw = .ok l) :
    (name, q) ∈ l ↔ ∃ ms w, ks.get? kw = some (.object ms) ∧ (name, w) ∈ ms ∧
      q = (ks.child kw).child name := by
  obtain ⟨o, ho, rfl⟩ := schemas_eq_ok.1 h
  rw [object?_eq_ok] at ho
  cases o with
  | none => simp [ho]
  | some ms =>
    simp only [ho, Option.getD_some, List.mem_map, Prod.mk.injEq, Option.map_some,
      Option.some.injEq, Value.object.injEq]
    constructor
    · rintro ⟨⟨k, w⟩, hw, rfl, rfl⟩
      exact ⟨ms, w, rfl, hw, rfl⟩
    · rintro ⟨_, w, rfl, hw, rfl⟩
      exact ⟨(name, w), hw, rfl, rfl⟩

theorem source_of_pattern {k : String} {p : Pattern} (h : ks.pattern kw k = .ok p) :
    p.source = k := by
  unfold pattern at h
  split at h
  · next hp => cases h; exact Pattern.source_of_compile? hp
  · cases h

theorem mem_patternProperties_iff {l : List (Pattern × Pointer)} (h : ks.patternProperties = .ok l) :
    (∃ p, p.source = name ∧ (p, q) ∈ l) ↔ ∃ ms w, ks.get? "patternProperties" = some (.object ms) ∧
      (name, w) ∈ ms ∧ q = (ks.child "patternProperties").child name := by
  simp only [patternProperties, bind_eq_ok, mapM_eq_ok, pure_eq_ok] at h
  obtain ⟨es, hes, h⟩ := h
  obtain ⟨left, right⟩ := partners_of_forall₂ h
  rw [← mem_schemas_iff hes]
  constructor
  · rintro ⟨p, rfl, hp⟩
    obtain ⟨⟨k, q'⟩, hk, p', hp', he⟩ := right _ hp
    cases he
    rwa [source_of_pattern hp']
  · intro hk
    obtain ⟨e, he, p, hp, rfl⟩ := left _ hk
    exact ⟨p, source_of_pattern hp, he⟩

theorem dependency_eq_schema {v : Value} : ks.dependency name v = .ok (.schema q) ↔
    (∃ ms, v = .object ms) ∧ q = (ks.child "dependencies").child name := by
  cases v with
  | object ms => simp [dependency, eq_comm]
  | array vs => simp [dependency, bind_eq_ok, pure_eq_ok, -bind_pure_comp]
  | _ => simp [dependency, fail]

theorem mem_schemaDependencies {r : ObjectRules Pointer} (h : ks.ReadsObject r) :
    (name, q) ∈ r.schemaDependencies ↔ ∃ ms ms', ks.get? "dependencies" = some (.object ms) ∧
      (name, .object ms') ∈ ms ∧ q = (ks.child "dependencies").child name := by
  obtain ⟨ds, hds, -, schemas⟩ := h.dependencies
  obtain ⟨o, ho, hds⟩ := dependencies_eq_ok.1 hds
  obtain ⟨left, right⟩ := partners_of_forall₂ hds
  have listed : (name, q) ∈ r.schemaDependencies ↔ (name, Dependency.schema q) ∈ ds := by
    rw [schemas, List.mem_filterMap]
    constructor
    · rintro ⟨⟨k, e⟩, he, hk⟩
      cases e with
      | keys ns => cases hk
      | schema q => cases hk; exact he
    · intro he
      exact ⟨_, he, rfl⟩
  rw [listed]
  rw [object?_eq_ok] at ho
  constructor
  · intro he
    obtain ⟨⟨k, v⟩, hv, hk, hd⟩ := right _ he
    obtain rfl : name = k := hk
    obtain ⟨⟨ms', rfl⟩, hq⟩ := dependency_eq_schema.1 hd
    cases o with
    | none => cases hv
    | some ms => exact ⟨ms, ms', ho, hv, hq⟩
  · rintro ⟨ms, ms', hms, hm, rfl⟩
    rw [ho, Option.map_eq_some_iff] at hms
    obtain ⟨ms, rfl, ⟨⟩⟩ := hms
    obtain ⟨⟨k, e⟩, he, hk, hd⟩ := left _ hm
    obtain rfl : k = name := hk
    obtain rfl := Except.ok.inj (hd.symm.trans (dependency_eq_schema.2 ⟨⟨ms', rfl⟩, rfl⟩))
    exact he

theorem composition_eq_ok {c : Composition Pointer} : ks.composition = .ok c ↔
    ks.branches "allOf" = .ok c.allOf ∧ ks.branches "anyOf" = .ok c.anyOf ∧
      ks.branches "oneOf" = .ok c.oneOf ∧ c.not = (ks.get? "not").map fun _ => ks.child "not" := by
  simp only [composition, bind_eq_ok, pure_eq_ok]
  constructor
  · rintro ⟨_, h1, _, h2, _, h3, rfl⟩
    exact ⟨h1, h2, h3, rfl⟩
  · rintro ⟨h1, h2, h3, h4⟩
    exact ⟨_, h1, _, h2, _, h3, by rw [← h4]⟩

theorem of_arrayRules_eq_ok {r : ArrayRules Pointer} (h : ks.arrayRules = .ok r) :
    ks.items = .ok r.items ∧ ks.additional "additionalItems" = .ok r.additional := by
  simp only [arrayRules, bind_eq_ok, pure_eq_ok] at h
  obtain ⟨_, items, _, additional, _, -, _, -, _, -, rfl⟩ := h
  exact ⟨items, additional⟩

/-- The schemas for the same value are held where the grammar has them. -/
theorem Reads.holdsInPlace_iff (h : ks.Reads n) : n.HoldsInPlace ts q ↔
    (Value.object ks.members).InPlace ts ∧ q = ks.position.below ts := by
  obtain ⟨allOf, anyOf, oneOf, not⟩ := composition_eq_ok.1 h.composition
  have object := objectRules_eq_ok.1 h.object
  constructor
  · intro hn
    cases hn with
    | allOf hq =>
      obtain ⟨vs, hvs, hi, rfl⟩ := (getElem?_branches allOf).1 hq
      exact ⟨.branch (by simp) hvs hi, below_child.symm⟩
    | anyOf hq =>
      obtain ⟨vs, hvs, hi, rfl⟩ := (getElem?_branches anyOf).1 hq
      exact ⟨.branch (by simp) hvs hi, below_child.symm⟩
    | oneOf hq =>
      obtain ⟨vs, hvs, hi, rfl⟩ := (getElem?_branches oneOf).1 hq
      exact ⟨.branch (by simp) hvs hi, below_child.symm⟩
    | not hq =>
      rw [not] at hq
      obtain ⟨v, hv, rfl⟩ := Option.map_eq_some_iff.1 hq
      exact ⟨.not hv, rfl⟩
    | dependency hq =>
      obtain ⟨ms, ms', hms, hm, rfl⟩ := (mem_schemaDependencies object).1 hq
      exact ⟨.dependency hms hm, below_child.symm⟩
  · rintro ⟨hv, rfl⟩
    cases hv with
    | @branch kw vs i hk hvs hi =>
      have position : ks.position.below [kw, toString i] = (ks.child kw).index i := below_child
      simp only [List.mem_cons, List.not_mem_nil, or_false] at hk
      rcases hk with rfl | rfl | rfl
      · exact .allOf ((getElem?_branches allOf).2 ⟨vs, hvs, hi, position⟩)
      · exact .anyOf ((getElem?_branches anyOf).2 ⟨vs, hvs, hi, position⟩)
      · exact .oneOf ((getElem?_branches oneOf).2 ⟨vs, hvs, hi, position⟩)
    | not hv => exact .not (not.trans (Option.map_eq_some_iff.2 ⟨_, hv, rfl⟩))
    | dependency hms hm =>
      exact .dependency ((mem_schemaDependencies object).2
        ⟨_, _, hms, hm, below_child⟩)

/-- The schemas that a node applies are held where the grammar has them. -/
theorem Reads.holds_iff (h : ks.Reads n) : n.Holds ts q ↔
    (Value.object ks.members).Applied ts ∧ q = ks.position.below ts := by
  have object := objectRules_eq_ok.1 h.object
  obtain ⟨items, additional⟩ := of_arrayRules_eq_ok h.array
  constructor
  · intro hn
    cases hn with
    | inPlace hq =>
      obtain ⟨hv, rfl⟩ := h.holdsInPlace_iff.1 hq
      exact ⟨.inPlace hv, rfl⟩
    | items hq =>
      obtain ⟨⟨ms, hms⟩, rfl⟩ := (items_eq_uniform items).1 hq
      exact ⟨.items hms, rfl⟩
    | element hqs hq =>
      obtain ⟨vs, hvs, rfl⟩ := (items_eq_tuple items).1 hqs
      obtain ⟨hi, rfl⟩ := getElem?_elements.1 hq
      exact ⟨.element hvs hi, below_child.symm⟩
    | additionalItems hq =>
      obtain ⟨⟨ms, hms⟩, rfl⟩ := (additional_eq_schema additional).1 hq
      exact ⟨.additional (by simp) hms, rfl⟩
    | property hq =>
      obtain ⟨ms, w, hms, hw, rfl⟩ := (mem_schemas_iff object.properties).1 hq
      exact ⟨.named (by simp) hms hw, below_child.symm⟩
    | pattern hq =>
      obtain ⟨ms, w, hms, hw, rfl⟩ := (mem_patternProperties_iff object.patterns).1 ⟨_, rfl, hq⟩
      exact ⟨.named (by simp) hms hw, below_child.symm⟩
    | additionalProperties hq =>
      obtain ⟨⟨ms, hms⟩, rfl⟩ := (additional_eq_schema object.additional).1 hq
      exact ⟨.additional (by simp) hms, rfl⟩
  · rintro ⟨hv, rfl⟩
    cases hv with
    | inPlace hv => exact .inPlace (h.holdsInPlace_iff.2 ⟨hv, rfl⟩)
    | items hms => exact .items ((items_eq_uniform items).2 ⟨⟨_, hms⟩, rfl⟩)
    | element hvs hi =>
      exact .element ((items_eq_tuple items).2 ⟨_, hvs, rfl⟩)
        (getElem?_elements.2 ⟨hi, below_child⟩)
    | @additional kw ms hk hms =>
      simp only [List.mem_cons, List.not_mem_nil, or_false] at hk
      rcases hk with rfl | rfl
      · exact .additionalItems ((additional_eq_schema additional).2 ⟨⟨ms, hms⟩, rfl⟩)
      · exact .additionalProperties ((additional_eq_schema object.additional).2 ⟨⟨ms, hms⟩, rfl⟩)
    | @named kw name ms w hk hms hw =>
      simp only [List.mem_cons, List.not_mem_nil, or_false] at hk
      rcases hk with rfl | rfl
      · exact .property ((mem_schemas_iff object.properties).2 ⟨ms, w, hms, hw, below_child⟩)
      · obtain ⟨p, rfl, hp⟩ :=
          (mem_patternProperties_iff object.patterns).2 ⟨ms, w, hms, hw, below_child⟩
        exact .pattern hp

/-- A node refers to what the grammar has in its schema. -/
theorem Reads.mem_subschemas_iff (h : ks.Reads n) : q ∈ n.subschemas ↔
    ∃ ts, (Value.object ks.members).Subschema ts ∧ q = ks.position.below ts := by
  obtain ⟨ds, hds, definitions⟩ := h.definitions
  rw [Node.mem_subschemas_iff]
  constructor
  · rintro (⟨ts, hq⟩ | hq)
    · obtain ⟨hv, rfl⟩ := h.holds_iff.1 hq
      exact ⟨ts, .applied hv, rfl⟩
    · rw [definitions] at hq
      obtain ⟨⟨name, q⟩, hd, rfl⟩ := List.mem_map.1 hq
      obtain ⟨ms, w, hms, hw, rfl⟩ := (mem_schemas_iff hds).1 hd
      exact ⟨_, .definition hms hw, below_child.symm⟩
  · rintro ⟨ts, hv, rfl⟩
    cases hv with
    | applied hv => exact .inl ⟨ts, h.holds_iff.2 ⟨hv, rfl⟩⟩
    | definition hms hw =>
      rw [definitions]
      refine .inr (List.mem_map.2 ⟨_, (mem_schemas_iff hds).2 ⟨_, _, hms, hw, rfl⟩, ?_⟩)
      exact below_child.symm

/-- A node applies to its own value what the grammar has for that in its schema. -/
theorem Reads.mem_inPlace_iff (h : ks.Reads n) : q ∈ n.inPlace ↔
    ∃ ts, (Value.object ks.members).InPlace ts ∧ q = ks.position.below ts := by
  rw [Node.mem_inPlace_iff]
  exact exists_congr fun ts => h.holdsInPlace_iff

end Keywords
end JsonSchema
