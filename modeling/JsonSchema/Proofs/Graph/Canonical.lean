import JsonSchema.Proofs.Alias.Targets
import JsonSchema.Proofs.Graph.Indexing
/-!
# Positions free of references

The table of a document has its local references as keys, and nothing that it leads to lies at a key
or below one (`Aliases.AliasFree`). The nodes of a graph keep clear of the keys as well: from a
schema to one that it has there is at most one value on the way, and a text in this value would have
to be a schema (`Value.Subschema.way`), so the value is no reference.
-/

namespace JsonSchema

/-- Canonical positions keep clear of the local references of a document, which are the keys of its
table. -/
structure Aliases.AliasFree (d : Value) (table : AliasTable) : Prop where
  keys : ∀ p, p ∈ table.map (·.1) ↔ ∃ ms s, d.at? p = some (.object ms) ∧
    Members.get? ms referenceKey = some (.string s) ∧ s.toList.head? = some '#'
  root : .root ∉ table.map (·.1)
  targets : ∀ p c, (p, c) ∈ table → ∀ q ∈ table.map (·.1), ¬q.tokens <+: c.tokens
  idempotent : ∀ p, Aliases.canonical table (Aliases.canonical table p) = Aliases.canonical table p
  nodes : ∀ g, Graph.build d = .ok g → ∀ id < g.size, ∀ q ∈ table.map (·.1),
    ¬q.tokens <+: (g.node id).position.tokens

namespace Value

variable {d v w : Value} {table : AliasTable} {p : Pointer} {kw : String} {ts : List String}

/-! ### From a schema to the schemas that it has -/

theorem child?_of_member? (h : v.member? kw = some w) : v.child? kw = some w := by
  cases v with
  | object ms => exact h
  | _ => cases h

/-- A schema stands under a keyword, or in what stands there, where every text counts as a schema. -/
theorem Subschema.way (hs : v.IsSchema) (h : v.Subschema ts) :
    (∃ kw, ts = [kw]) ∨ ∃ kw name w, ts = [kw, name] ∧ v.member? kw = some w ∧
      ∀ ms k s, w = .object ms → (k, .string s) ∈ ms → v.Subschema [kw, k] := by
  cases h with
  | applied h =>
    cases h with
    | inPlace h =>
      cases h with
      | branch _ h _ => exact .inr ⟨_, _, _, rfl, h, fun _ _ _ he => by cases he⟩
      | not => exact .inl ⟨_, rfl⟩
      | dependency h =>
        refine .inr ⟨_, _, _, rfl, h, fun ms k s he hk => ?_⟩
        cases he
        -- a dependency is an object or a list
        have form := hs.keywords ("dependencies", IsDependencies) (by simp [grammar]) _ h
        obtain ⟨_, he, each⟩ := form
        cases he
        rcases each _ hk with ⟨_, he⟩ | ⟨_, he, -⟩ <;> cases he
    | items => exact .inl ⟨_, rfl⟩
    | element h _ => exact .inr ⟨_, _, _, rfl, h, fun _ _ _ he => by cases he⟩
    | additional => exact .inl ⟨_, rfl⟩
    | named hk h _ =>
      refine .inr ⟨_, _, _, rfl, h, fun ms k s he hm => ?_⟩
      cases he
      exact .applied (.named hk h hm)
  | definition h _ =>
    refine .inr ⟨_, _, _, rfl, h, fun ms k s he hm => ?_⟩
    cases he
    exact .definition h hm

end Value

namespace Graph

variable {d v w : Value} {g : Graph} {table : AliasTable} {p : Pointer} {kw : String}
  {nodes : List (Node Pointer)}

/-! ### Schemas keep clear of references -/

/-- What a schema has under a keyword is no reference, if every text in it would be a schema. -/
theorem request?_keyword (hd : d.IsDocument) (hr : Aliases.resolve d = .ok table)
    (schema : ∀ p, d.SchemaPosition table p → ∃ v, d.at? p = some v ∧ v.IsSchema)
    (hp : d.SchemaPosition table p) (hv : d.at? p = some v) (hw : v.member? kw = some w)
    (texts : ∀ ms k s, w = .object ms → (k, .string s) ∈ ms → v.Subschema [kw, k]) :
    d.request? (p.child kw) = none := by
  have there : d.at? (p.child kw) = some w := by
    rw [Value.at?_child, hv]
    exact Value.child?_of_member? hw
  rw [Value.request?_of_at? there]
  by_contra named
  obtain ⟨t, ht⟩ := Option.ne_none_iff_exists'.1 named
  obtain ⟨ms, s, rfl, hs⟩ := Value.reference_of_target? ht
  have text : d.at? (p.below [kw, referenceKey]) = some (.string s) := by
    have := Value.at?_child (v := d) (p := p.child kw) (t := referenceKey)
    rw [there, Pointer.child_eq_below, Pointer.child_eq_below, Pointer.below_below] at this
    exact this.trans hs
  have plain : d.request? (p.below [kw, referenceKey]) = none := by
    rw [Value.request?_of_at? text]
    rfl
  have position := hp.step hv (texts ms referenceKey s rfl (mem_of_lookup hs))
  rw [Aliases.canonical_of_plain hd hr plain] at position
  obtain ⟨u, hu, schema⟩ := schema _ position
  cases text.symm.trans hu
  obtain ⟨_, he⟩ := schema.object
  cases he

theorem clear_of_schemaPosition (hd : d.IsDocument) (hr : Aliases.resolve d = .ok table)
    (schema : ∀ p, d.SchemaPosition table p → ∃ v, d.at? p = some v ∧ v.IsSchema)
    (h : d.SchemaPosition table p) : d.Clear p := by
  induction h with
  | root => exact Value.clearAbove_root.clear (Aliases.request?_root hd hr)
  | @step p v ts hp hv hts ih =>
    apply Aliases.clear_canonical hd hr
    obtain ⟨u, hu, hs⟩ := schema p hp
    cases hv.symm.trans hu
    rcases hts.way hs with ⟨kw, rfl⟩ | ⟨kw, name, w, rfl, hw, texts⟩
    · exact ih.child kw
    · have plain := request?_keyword hd hr schema hp hv hw texts
      have clear := ((ih.child kw).clear plain).child name
      rwa [Pointer.child_eq_below, Pointer.child_eq_below, Pointer.below_below] at clear

/-- The nodes of a graph keep clear of references. -/
theorem Built.clear_position (h : Built d g nodes) (hd : d.IsDocument) {id : NodeId}
    (hi : id < g.size) : d.Clear (g.node id).position := by
  obtain ⟨-, -, reached, -⟩ := h.node_spec hi
  have hroot := Aliases.canonical_root hd h.resolved
  exact clear_of_schemaPosition hd h.resolved (h.language hd).1 (reached.schemaPosition hroot)

end Graph

namespace Aliases

variable {d : Value} {table : AliasTable}

/-- Canonical positions are free of aliases, in the table of a document and in its graph. -/
theorem aliasFree_of_resolve (hd : d.IsDocument) (h : resolve d = .ok table) :
    AliasFree d table := by
  have mem_keys (p : Pointer) : p ∈ table.map (·.1) ↔ d.request? p ≠ none := mem_keys_resolve hd h
  have apart {p : Pointer} (hp : d.Clear p) :
      ∀ q ∈ table.map (·.1), ¬q.tokens <+: p.tokens := by
    intro q hq below
    exact (mem_keys q).1 hq (hp q below)
  constructor
  · intro p
    rw [mem_keys]
    exact Value.request?_ne_none_iff (((exists_resolve hd).1 ⟨table, h⟩).1 p)
  · intro hroot
    exact (mem_keys _).1 hroot (request?_root hd h)
  · intro p c hc
    exact apart (clear_of_mem hd h hc)
  · exact canonical_canonical hd h
  · intro g hg id hi
    obtain ⟨nodes, built⟩ := Graph.built_of_build hd hg
    exact apart (built.clear_position hd hi)

/-- The elements of nested arrays stand for the root, which is the only node. -/
theorem aliasFree_nestedArrays : Graph.nestedArrays.IsDocument ∧
    resolve Graph.nestedArrays = .ok [(⟨["items"]⟩, .root)] ∧
    AliasFree Graph.nestedArrays [(⟨["items"]⟩, .root)] := by
  have document := Graph.nestedArrays_isDocument
  obtain ⟨g, hg, aliases, -⟩ := Graph.build_nestedArrays
  obtain ⟨nodes, built⟩ := Graph.built_of_build document hg
  have resolved := built.resolved
  rw [aliases] at resolved
  exact ⟨document, resolved, aliasFree_of_resolve document resolved⟩

end Aliases
end JsonSchema
