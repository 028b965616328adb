import JsonSchema.Node.Compile
import JsonSchema.Proofs.Document
import JsonSchema.Proofs.Except
/-!
# What reading a node finds

`Node.compile` succeeds with a node exactly if each group of keywords is read with what the node holds
(`Node.compile_eq_ok`). A node that is read from a document is sound: its literals are documents, and
the names that its keywords list are distinct (`Node.sound_of_compile`).
-/

namespace JsonSchema

/-- The literals of a node are documents, and no name is listed twice. -/
structure Node.Sound {ρ : Type} (n : Node ρ) : Prop where
  literals : ∀ es ∈ n.enumeration, ∀ e ∈ es, e.IsDocument
  properties : (n.object.properties.map (·.1)).Nodup
  dependencies : (n.object.schemaDependencies.map (·.1)).Nodup

theorem Node.Sound.map {ρ σ : Type} {n : Node ρ} (h : n.Sound) (f : ρ → σ) : (n.map f).Sound := by
  refine ⟨h.literals, ?_, ?_⟩
  · simpa [Node.map, ObjectRules.map, Function.comp_def] using h.properties
  · simpa [Node.map, ObjectRules.map, Function.comp_def] using h.dependencies

namespace Keywords

variable {ks : Keywords} {n : Node Pointer} {kw : String}

/-- Every keyword is read, with the node as the result. -/
structure Reads (ks : Keywords) (n : Node Pointer) : Prop where
  position : n.position = ks.position
  title : ∃ t, ks.string? "title" = .ok t
  description : ∃ t, ks.string? "description" = .ok t
  types : ks.types = .ok n.types
  enumeration : ks.enumeration = .ok n.enumeration
  composition : ks.composition = .ok n.composition
  number : ks.numberRules = .ok n.number
  string : ks.stringRules = .ok n.string
  array : ks.arrayRules = .ok n.array
  object : ks.objectRules = .ok n.object
  definitions : ∃ ds, ks.schemas "definitions" = .ok ds ∧ n.definitions = ds.map (·.2)

/-- The keywords about objects are read, with some rules as the result. -/
structure ReadsObject (ks : Keywords) (r : ObjectRules Pointer) : Prop where
  maxProperties : ks.count? "maxProperties" = .ok r.maxProperties
  minProperties : ks.count? "minProperties" = .ok r.minProperties
  required : ks.required = .ok r.required
  properties : ks.schemas "properties" = .ok r.properties
  patterns : ks.patternProperties = .ok r.patterns
  additional : ks.additional "additionalProperties" = .ok r.additional
  dependencies : ∃ ds, ks.dependencies = .ok ds ∧
    r.propertyDependencies = (ds.filterMap fun d => d.2.names?.map (d.1, ·)) ∧
    r.schemaDependencies = ds.filterMap fun d => d.2.schema?.map (d.1, ·)

theorem objectRules_eq_ok {r : ObjectRules Pointer} :
    ks.objectRules = .ok r ↔ ks.ReadsObject r := by
  simp only [objectRules, bind_eq_ok, pure_eq_ok]
  constructor
  · rintro ⟨a, h1, b, h2, c, h3, d, h4, e, h5, f, h6, ds, h7, rfl⟩
    exact ⟨h1, h2, h3, h4, h5, h6, ds, h7, rfl, rfl⟩
  · rintro ⟨h1, h2, h3, h4, h5, h6, ds, h7, hp, hs⟩
    refine ⟨_, h1, _, h2, _, h3, _, h4, _, h5, _, h6, ds, h7, ?_⟩
    rw [← hp, ← hs]

end Keywords

theorem Node.compile_eq_ok {p : Pointer} {v : Value} {n : Node Pointer} :
    Node.compile p v = .ok n ↔ ∃ ms, v = .object ms ∧ (Keywords.mk p ms).Reads n := by
  cases v with
  | object ms =>
    simp only [compile, bind_eq_ok, pure_eq_ok, Value.object.injEq, exists_eq_left']
    constructor
    · rintro ⟨_, h1, _, h2, _, h3, _, h4, _, h5, _, h6, _, h7, _, h8, _, h9, ds, h10, rfl⟩
      exact ⟨rfl, ⟨_, h1⟩, ⟨_, h2⟩, h3, h4, h5, h6, h7, h8, h9, ds, h10, rfl⟩
    · rintro ⟨hp, ⟨_, h1⟩, ⟨_, h2⟩, h3, h4, h5, h6, h7, h8, h9, ds, h10, hd⟩
      refine ⟨_, h1, _, h2, _, h3, _, h4, _, h5, _, h6, _, h7, _, h8, _, h9, ds, h10, ?_⟩
      rw [← hd, ← show n.position = p from hp]
  | _ => simp [compile]

theorem Node.position_of_compile {p : Pointer} {v : Value} {n : Node Pointer}
    (h : Node.compile p v = .ok n) : n.position = p := by
  obtain ⟨ms, -, hr⟩ := compile_eq_ok.1 h
  exact hr.position

/-! ### Soundness -/

namespace Keywords

variable {ks : Keywords} {kw : String}

/-- The members that a keyword with named schemas holds, none if there is no such keyword. -/
theorem object?_eq_ok {o : Option Members} :
    ks.object? kw = .ok o ↔ ks.get? kw = o.map .object := by
  unfold object?
  cases hk : ks.get? kw with
  | none => cases o <;> simp
  | some v => cases v <;> cases o <;> simp [fail]

theorem schemas_eq_ok {l : List (String × Pointer)} :
    ks.schemas kw = .ok l ↔ ∃ o, ks.object? kw = .ok o ∧
      l = (o.getD []).map fun m => (m.1, (ks.child kw).child m.1) := by
  simp only [schemas, bind_eq_ok, pure_eq_ok]
  exact exists_congr fun o => and_congr_right fun _ => eq_comm

theorem dependencies_eq_ok {ds : List (String × Dependency)} :
    ks.dependencies = .ok ds ↔ ∃ o, ks.object? "dependencies" = .ok o ∧
      List.Forall₂ (fun m d => d.1 = m.1 ∧ ks.dependency m.1 m.2 = .ok d.2) (o.getD []) ds := by
  have entry : ∀ (m : String × Value) (d : String × Dependency),
      (do return (m.1, ← ks.dependency m.1 m.2)) = Except.ok d ↔
        d.1 = m.1 ∧ ks.dependency m.1 m.2 = .ok d.2 := fun m d => by
    simp only [bind_eq_ok, pure_eq_ok]
    constructor
    · rintro ⟨a, ha, rfl⟩
      exact ⟨rfl, ha⟩
    · rintro ⟨h1, h2⟩
      exact ⟨d.2, h2, by rw [← h1]⟩
  simp only [dependencies, bind_eq_ok, mapM_eq_ok, entry]

theorem nodup_object? (hd : (Value.object ks.members).IsDocument) {o : Option Members}
    (h : ks.object? kw = .ok o) : (Members.names (o.getD [])).Nodup := by
  cases o with
  | none => exact List.nodup_nil
  | some ms => exact (hd.member (mem_of_lookup (object?_eq_ok.1 h))).nodup

theorem nodup_schemas (hd : (Value.object ks.members).IsDocument) {l : List (String × Pointer)}
    (h : ks.schemas kw = .ok l) : (l.map (·.1)).Nodup := by
  obtain ⟨o, ho, rfl⟩ := schemas_eq_ok.1 h
  rw [List.map_map]
  exact nodup_object? hd ho

theorem nodup_dependencies (hd : (Value.object ks.members).IsDocument)
    {ds : List (String × Dependency)} (h : ks.dependencies = .ok ds) : (ds.map (·.1)).Nodup := by
  obtain ⟨o, ho, hds⟩ := dependencies_eq_ok.1 h
  have names : ds.map (·.1) = Members.names (o.getD []) := by
    rw [Members.names, ← List.forall₂_eq_eq_eq, List.forall₂_map_left_iff,
      List.forall₂_map_right_iff]
    exact hds.flip.imp fun _ _ h => h.1
  rw [names]
  exact nodup_object? hd ho

theorem enumeration_eq_ok {es : List Value} (h : ks.enumeration = .ok (some es)) :
    ks.get? "enum" = some (.array es) := by
  unfold enumeration at h
  split at h
  · cases h
  · cases h
  · next vs _ he => cases h; exact he
  · cases h

theorem sublist_map_filterMap {α β γ : Type} {f : β → Option γ} (l : List (α × β)) :
    ((l.filterMap fun p => (f p.2).map (p.1, ·)).map (·.1)).Sublist (l.map (·.1)) := by
  induction l with
  | nil => exact .slnil
  | cons p l ih =>
    cases hp : f p.2 with
    | none => simpa [hp] using ih.cons p.1
    | some c => simpa [hp] using ih

/-- What a document is read as is sound. -/
theorem Reads.sound {n : Node Pointer} (hd : (Value.object ks.members).IsDocument)
    (h : ks.Reads n) : n.Sound := by
  have ho := objectRules_eq_ok.1 h.object
  constructor
  · intro es hes e he
    have hg : ks.get? "enum" = some (.array es) :=
      enumeration_eq_ok (h.enumeration.trans (by rw [hes]))
    exact (hd.member (mem_of_lookup hg)).item he
  · exact nodup_schemas hd ho.properties
  · obtain ⟨ds, hds, -, hs⟩ := ho.dependencies
    rw [hs]
    exact (nodup_dependencies hd hds).sublist (sublist_map_filterMap ds)

end Keywords

theorem Node.sound_of_compile {p : Pointer} {v : Value} {n : Node Pointer} (hd : v.IsDocument)
    (h : Node.compile p v = .ok n) : n.Sound := by
  obtain ⟨ms, rfl, hr⟩ := compile_eq_ok.1 h
  exact hr.sound hd

end JsonSchema
