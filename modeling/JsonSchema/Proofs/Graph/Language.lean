import JsonSchema.Proofs.Alias.Resolution
import JsonSchema.Proofs.Graph.Build
import JsonSchema.Proofs.Schema.Acceptance
import JsonSchema.Proofs.Validation
/-!
# Documents that have a graph

The schema positions of a document are the root and, in canonical form, whatever a schema at a schema
position has as a schema. A document has a graph exactly if its references resolve, a schema stands at
each schema position, and no schema is applied to the same value again by way of those that it
applies to it (`Graph.exists_build_iff`).
-/

namespace JsonSchema

namespace Value

/-- The canonical positions of the schemas of a document. -/
inductive SchemaPosition (d : Value) (table : AliasTable) : Pointer → Prop where
  | root : SchemaPosition d table .root
  | step {p : Pointer} {v : Value} {ts : List String} (hp : SchemaPosition d table p)
      (hv : d.at? p = some v) (hs : v.Subschema ts) :
      SchemaPosition d table (Aliases.canonical table (p.below ts))

/-- The schema at `p` is applied to a value with the one at the canonical position `q`. -/
def AppliesInPlace (d : Value) (table : AliasTable) (p q : Pointer) : Prop :=
  ∃ v ts, d.at? p = some v ∧ v.InPlace ts ∧ q = Aliases.canonical table (p.below ts)

variable {d : Value} {table : AliasTable} {p q : Pointer}

theorem SchemaPosition.applies (hp : d.SchemaPosition table p) (h : d.AppliesInPlace table p q) :
    d.SchemaPosition table q := by
  obtain ⟨v, ts, hv, hts, rfl⟩ := h
  exact hp.step hv (.applied (.inPlace hts))

end Value

namespace Graph

variable {d : Value} {g : Graph} {table : AliasTable} {p q : Pointer} {n : Node Pointer}

/-! ### Nodes and schemas -/

theorem Compiles.mem_subschemas_iff (h : Compiles d table p n) : q ∈ n.subschemas ↔
    ∃ v ts, d.at? p = some v ∧ v.Subschema ts ∧ q = Aliases.canonical table (p.below ts) := by
  obtain ⟨v, m, hv, hm, rfl⟩ := h
  obtain ⟨ms, rfl, hr⟩ := Node.compile_eq_ok.1 hm
  rw [Node.subschemas_map, List.mem_map]
  constructor
  · rintro ⟨q, hq, rfl⟩
    obtain ⟨ts, hts, rfl⟩ := hr.mem_subschemas_iff.1 hq
    exact ⟨_, ts, hv, hts, rfl⟩
  · rintro ⟨w, ts, hw, hts, rfl⟩
    cases hv.symm.trans hw
    exact ⟨_, hr.mem_subschemas_iff.2 ⟨ts, hts, rfl⟩, rfl⟩

theorem Compiles.mem_inPlace_iff (h : Compiles d table p n) :
    q ∈ n.inPlace ↔ d.AppliesInPlace table p q := by
  obtain ⟨v, m, hv, hm, rfl⟩ := h
  obtain ⟨ms, rfl, hr⟩ := Node.compile_eq_ok.1 hm
  rw [Node.inPlace_map, List.mem_map]
  constructor
  · rintro ⟨q, hq, rfl⟩
    obtain ⟨ts, hts, rfl⟩ := hr.mem_inPlace_iff.1 hq
    exact ⟨_, ts, hv, hts, rfl⟩
  · rintro ⟨w, ts, hw, hts, rfl⟩
    cases hv.symm.trans hw
    exact ⟨_, hr.mem_inPlace_iff.2 ⟨ts, hts, rfl⟩, rfl⟩

/-! ### Positions of schemas -/

theorem Reaches.canonical_eq (hd : d.IsDocument) (hr : Aliases.resolve d = .ok table)
    (h : Reaches d table p) : Aliases.canonical table p = p := by
  cases h with
  | root => exact Aliases.canonical_canonical hd hr _
  | step _ hn hq =>
    obtain ⟨v, ts, -, -, rfl⟩ := hn.mem_subschemas_iff.1 hq
    exact Aliases.canonical_canonical hd hr _

theorem Reaches.schemaPosition (hroot : Aliases.canonical table .root = .root)
    (h : Reaches d table p) : d.SchemaPosition table p := by
  induction h with
  | root =>
    rw [hroot]
    exact .root
  | step _ hn hq ih =>
    obtain ⟨v, ts, hv, hts, rfl⟩ := hn.mem_subschemas_iff.1 hq
    exact ih.step hv hts

theorem reaches_of_schemaPosition (hroot : Aliases.canonical table .root = .root)
    (compiles : ∀ p, Reaches d table p → ∃ n, Compiles d table p n)
    (h : d.SchemaPosition table p) : Reaches d table p := by
  induction h with
  | root => exact hroot ▸ .root
  | step _ hv hts ih =>
    obtain ⟨n, hn⟩ := compiles _ ih
    exact ih.step hn (hn.mem_subschemas_iff.2 ⟨_, _, hv, hts, rfl⟩)

/-! ### Built graphs -/

theorem Built.language {nodes : List (Node Pointer)} (h : Built d g nodes) (hd : d.IsDocument) :
    (∀ p, d.SchemaPosition g.aliases p → ∃ v, d.at? p = some v ∧ v.IsSchema) ∧
      ∀ p, d.SchemaPosition g.aliases p → ¬Relation.TransGen (d.AppliesInPlace g.aliases) p p := by
  have hroot := Aliases.canonical_root hd h.resolved
  have compiles (p : Pointer) (hp : Reaches d g.aliases p) : ∃ n, Compiles d g.aliases p n :=
    h.closed.exists_compiles hp
  constructor
  · intro p hp
    obtain ⟨n, v, m, hv, hm, -⟩ := compiles p (reaches_of_schemaPosition hroot compiles hp)
    exact ⟨v, hv, Node.succeeds_compile.1 ⟨m, hm⟩⟩
  · intro p hp
    have descends (p q : Pointer) (hp : d.SchemaPosition g.aliases p)
        (hq : d.AppliesInPlace g.aliases p q) :
        g.rank (index nodes q) < g.rank (index nodes p) := by
      have hr := reaches_of_schemaPosition hroot compiles hp
      obtain ⟨n, hn⟩ := compiles p hr
      exact h.rank_lt hn hr (hn.mem_inPlace_iff.2 hq)
    exact Descent.not_transGen (fun p q hp hq => hp.applies hq) descends hp

theorem exists_build_of_language (hd : d.IsDocument) (hr : Aliases.resolve d = .ok table)
    (schema : ∀ p, d.SchemaPosition table p → ∃ v, d.at? p = some v ∧ v.IsSchema)
    (acyclic : ∀ p, d.SchemaPosition table p →
      ¬Relation.TransGen (d.AppliesInPlace table) p p) : ∃ g, build d = .ok g := by
  have hroot := Aliases.canonical_root hd hr
  -- a schema position is one of the finitely many places of the document
  have listed (p : Pointer) (hp : d.SchemaPosition table p) : p ∈ (d.places .root).map (·.1) := by
    obtain ⟨v, hv, -⟩ := schema p hp
    exact List.mem_map.2 ⟨(p, v), (Value.mem_places hd).2 hv, rfl⟩
  obtain ⟨rank, descends⟩ := Descent.exists_rank listed (fun p q hp hq => hp.applies hq) acyclic
  have compiles (p : Pointer) (hp : Reaches d table p) : ∃ n, Compiles d table p n := by
    obtain ⟨v, hv, hs⟩ := schema p (hp.schemaPosition hroot)
    obtain ⟨m, hm⟩ := Node.succeeds_compile.2 hs
    exact ⟨_, v, m, hv, hm, rfl⟩
  obtain ⟨g, hg, -⟩ := exists_build_of_rank hd hr compiles rank fun p n hp hn q hq =>
    descends p q (hp.schemaPosition hroot) (hn.mem_inPlace_iff.1 hq)
  exact ⟨g, hg⟩

/-- A document has a graph exactly if its references resolve, a schema stands at each schema position,
and none is applied to the same value again. -/
theorem exists_build_iff (hd : d.IsDocument) :
    (∃ g, build d = .ok g) ↔ ∃ table, Aliases.resolve d = .ok table ∧
      (∀ p, d.SchemaPosition table p → ∃ v, d.at? p = some v ∧ v.IsSchema) ∧
      ∀ p, d.SchemaPosition table p → ¬Relation.TransGen (d.AppliesInPlace table) p p := by
  constructor
  · rintro ⟨g, hg⟩
    obtain ⟨nodes, h⟩ := built_of_build hd hg
    exact ⟨g.aliases, h.resolved, h.language hd⟩
  · rintro ⟨table, hr, schema, acyclic⟩
    exact exists_build_of_language hd hr schema acyclic

/-- The schema of nested arrays is in the language, though it contains itself. -/
theorem language_nestedArrays : nestedArrays.IsDocument ∧ ∃ table,
    Aliases.resolve nestedArrays = .ok table ∧
      (∀ p, nestedArrays.SchemaPosition table p → ∃ v, nestedArrays.at? p = some v ∧ v.IsSchema) ∧
      ∀ p, nestedArrays.SchemaPosition table p →
        ¬Relation.TransGen (nestedArrays.AppliesInPlace table) p p := by
  obtain ⟨g, hg, -⟩ := build_nestedArrays
  exact ⟨nestedArrays_isDocument, (exists_build_iff nestedArrays_isDocument).1 ⟨g, hg⟩⟩

end Graph
end JsonSchema
