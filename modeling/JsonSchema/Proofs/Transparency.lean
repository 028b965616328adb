import Mathlib
import JsonSchema.Proofs.Inlining.Closure
import JsonSchema.Proofs.Validation
/-!
# References are transparent

A local reference where a node has a sub-schema may be replaced by a copy of what it stands for: the
changed document has a graph, and the roots of both accept the same values, also if the reference
leads back to the schema that it is part of. The verdicts may differ only if the reference is part of
the literals of a node: there it is data as well, and the literal is another one afterwards.
-/

namespace JsonSchema.Graph

/-- A node has a sub-schema written at a position, maybe a reference. -/
def HasSubschema (g : Graph) (a : Pointer) : Prop :=
  ∃ n ∈ g.nodes, ∃ v m, g.document.at? n.position = some v ∧
    Node.compile n.position v = .ok m ∧ a ∈ m.subschemas

/-- A position is part of the literals of a node. -/
def InLiterals (g : Graph) (a : Pointer) : Prop :=
  ∃ n ∈ g.nodes, ∃ ts, a = (n.position.child "enum").below ts

variable {d : Value} {g : Graph} {nodes : List (Node Pointer)} {a : Pointer}

theorem hasSubschema_of_compile (hd : d.IsDocument) (hg : build d = .ok g) {p : Pointer} {v : Value}
    {m : Node Pointer} (hp : p ∈ g.nodes.toList.map (·.position)) (hv : d.at? p = some v)
    (hm : Node.compile p v = .ok m) (ha : a ∈ m.subschemas) : g.HasSubschema a := by
  obtain ⟨nodes, h⟩ := built_of_build hd hg
  obtain ⟨n, hn, rfl⟩ := List.mem_map.1 hp
  exact ⟨n, Array.mem_toList_iff.1 hn, v, m, h.document ▸ hv, hm, ha⟩

/-- A reference where a node has a sub-schema stands for an object, which can be inlined. -/
theorem Built.exists_inlining (h : Built d g nodes) (hd : d.IsDocument)
    (named : (g.aliases.lookup a).isSome) (sub : g.HasSubschema a) :
    ∃ link copy, Inlining d a (g.canonical a) link copy := by
  obtain ⟨c, hc⟩ := Option.isSome_iff_exists.1 named
  obtain ⟨k, refers⟩ := (Aliases.lookup_resolve hd h.resolved).1 hc
  have canonical : g.canonical a = c := Aliases.canonical_of_refers hd h.resolved refers
  obtain ⟨n, hn, v, m, hv, hm, ha⟩ := sub
  rw [h.document] at hv
  have reached : Reaches d g.aliases n.position := h.exists_node_iff.1 ⟨n, hn, rfl⟩
  have target : Reaches d g.aliases (g.canonical a) := by
    refine reached.step ⟨v, m, hv, hm, rfl⟩ ?_
    rw [Node.subschemas_map]
    exact List.mem_map_of_mem ha
  obtain ⟨_, v', m', hv', hm', -⟩ := h.closed.exists_compiles target
  obtain ⟨copy, rfl, -⟩ := Node.compile_eq_ok.1 hm'
  obtain ⟨link, reference⟩ : ∃ link, d.at? a = some (.object link) := by
    obtain ⟨t, ht⟩ := Option.ne_none_iff_exists'.1 refers.named
    obtain ⟨w, hw, ht⟩ := Value.request?_eq_some.1 ht
    obtain ⟨ms, s, rfl, -⟩ := Value.reference_of_target? ht
    exact ⟨ms, hw⟩
  refine ⟨link, copy, hd, ?_, reference, ⟨k, canonical ▸ refers⟩, hv'⟩
  rintro rfl
  obtain ⟨ms, rfl, hr⟩ := Node.compile_eq_ok.1 hm
  obtain ⟨kw, ts, he⟩ := (hr.part ha).exists_below
  have := congrArg (fun p : Pointer => p.tokens.length) he
  simp [Pointer.below, Pointer.root] at this

/-- A reference may be replaced by a copy of what it stands for, and no verdict changes unless the
reference is part of a literal. -/
theorem accepts_put (hd : d.IsDocument) (hg : build d = .ok g)
    (named : (g.aliases.lookup a).isSome) (sub : g.HasSubschema a) :
    ∃ w, d.at? (g.canonical a) = some w ∧ ∃ g', build (d.put a.tokens w) = .ok g' ∧
      (¬g.InLiterals a → ∀ v : Value, g'.accepts v.events = g.accepts v.events) := by
  obtain ⟨nodes, h⟩ := built_of_build hd hg
  obtain ⟨link, copy, inl⟩ := h.exists_inlining hd named sub
  obtain ⟨table', hr', canonical⟩ := inl.exists_resolve h.resolved
  have inlined : Inlined d a (g.canonical a) link copy g.aliases table' :=
    ⟨inl, h.resolved, hr', canonical, fun p hp => h.closed.exists_compiles hp⟩
  obtain ⟨g', hg', ht'⟩ := inlined.exists_build h rfl
  obtain ⟨nodes', h'⟩ := built_of_build inl.put_isDocument hg'
  refine ⟨.object copy, inl.original, g', hg', fun outside v => ?_⟩
  have literals : ∀ p, Reaches d g.aliases p → ∀ ts, a ≠ (p.child "enum").below ts := by
    rintro p hp ts rfl
    obtain ⟨n, hn, rfl⟩ := h.exists_node_iff.2 hp
    exact outside ⟨n, hn, ts, rfl⟩
  obtain ⟨f, morphism, root⟩ := inlined.exists_morphism h rfl h' ht' literals
  have inside : Graph.root < nodes'.length := by
    rw [← h'.root_eq]
    exact h'.closed.index_lt .root
  rw [Bool.eq_iff_iff]
  calc g'.accepts v.events = true ↔ g'.Satisfies Graph.root v :=
        Session.accepts_iff_satisfies (h'.sound inl.put_isDocument) v _
    _ ↔ g.Satisfies (f Graph.root) v := morphism.satisfies_iff v _ inside
    _ ↔ g.Satisfies Graph.root v := by rw [root]
    _ ↔ g.accepts v.events = true := (Session.accepts_iff_satisfies (h.sound hd) v _).symm

/-- The schema of nested arrays accepts what it accepts with a copy of itself in the place of the
reference to itself. -/
theorem accepts_put_nestedArrays : nestedArrays.IsDocument ∧ ∃ g, build nestedArrays = .ok g ∧
    (g.aliases.lookup ⟨["items"]⟩).isSome ∧ g.HasSubschema ⟨["items"]⟩ ∧
    ¬g.InLiterals ⟨["items"]⟩ ∧ ∃ w, nestedArrays.at? (g.canonical ⟨["items"]⟩) = some w ∧
      ∃ g', build (nestedArrays.put ["items"] w) = .ok g' ∧
        ∀ v : Value, g'.accepts v.events = g.accepts v.events := by
  obtain ⟨g, hg, aliases, positions⟩ := build_nestedArrays
  have named : (g.aliases.lookup ⟨["items"]⟩).isSome := by rw [aliases]; rfl
  have sub : g.HasSubschema ⟨["items"]⟩ :=
    hasSubschema_of_compile nestedArrays_isDocument hg (p := .root) (v := nestedArrays)
      (by rw [positions]; exact List.mem_singleton.2 rfl) rfl rfl (List.mem_singleton.2 rfl)
  have outside : ¬g.InLiterals ⟨["items"]⟩ := by
    rintro ⟨n, hn, ts, he⟩
    have root := List.mem_map_of_mem (f := (·.position)) (Array.mem_toList_iff.2 hn)
    rw [positions, List.mem_singleton] at root
    rw [root] at he
    exact absurd (List.cons.inj (congrArg Pointer.tokens he)).1 (by decide)
  obtain ⟨w, hw, g', hg', verdicts⟩ := accepts_put nestedArrays_isDocument hg named sub
  exact ⟨nestedArrays_isDocument, g, hg, named, sub, outside, w, hw, g', hg', verdicts outside⟩

/-! ### References among literals -/

/-- A node whose keywords are `enum` and about arrays accepts the objects among its literals. -/
theorem satisfies_object_of_literals {id : NodeId} {p : Pointer} {es : List Value} {ms : Members}
    {r : ArrayRules NodeId}
    (hn : g.node id = { Node.unconstrained p with enumeration := some es, array := r }) :
    g.Satisfies id (.object ms) ↔ ∃ e ∈ es, e.Agrees (.object ms) := by
  rw [Satisfies, hn]
  constructor
  · intro h
    exact h.1.enumeration es rfl
  · intro he
    refine ⟨⟨by rintro _ ⟨⟩, by rintro _ ⟨⟩; exact he, by rintro _ ⟨⟩, by rintro _ ⟨⟩, by rintro _ ⟨⟩,
      ?_, by rintro ⟨⟩⟩, by rintro _ ⟨⟩, ?_, by rintro _ ⟨⟩, .inl rfl, .inl rfl, by rintro _ ⟨⟩,
      by rintro _ _ ⟨⟩⟩
    · rintro _ ⟨⟩
      exact ⟨by rintro _ ⟨⟩, by rintro _ ⟨⟩, by rintro ⟨⟩, by rintro _ ⟨⟩, by rintro _ ⟨⟩⟩
    · rintro _ - k w - m (⟨⟨⟩⟩ | ⟨_, ⟨⟨⟩⟩, -⟩ | ⟨-, ⟨⟩⟩)

/-- A schema with two literals, of which the first is the schema of the elements of arrays as well. -/
def withLiteral (l : Value) : Value :=
  .object [("enum", .array [l, .object []]), ("items", .object [("$ref", .string "#/enum/0")])]

theorem withLiteral_isDocument {l : Value} (h : l.IsDocument) : (withLiteral l).IsDocument := by
  have empty : (Value.object []).IsDocument := .object List.Pairwise.nil (by simp)
  have sorted : "enum" < "items" := by decide
  refine .object (List.pairwise_pair.2 sorted) ?_
  simp only [List.forall_mem_cons, List.not_mem_nil, false_imp_iff, implies_true, and_true]
  exact ⟨.array (by simp [h, empty]), .object (List.pairwise_singleton _ _) (by simpa using .string _)⟩

/-- A literal with a reference where the schema that it is has a sub-schema. -/
def referring : Value := .object [("not", .object [("$ref", .string "#/enum/1")])]

theorem referring_isDocument : referring.IsDocument :=
  Value.isDocument_iff.2 ⟨referring.events, rfl⟩

/-- The literal with a copy of what the reference in it stands for. -/
def referred : Value := .object [("not", .object [])]

theorem referred_isDocument : referred.IsDocument :=
  Value.isDocument_iff.2 ⟨referred.events, rfl⟩

/-- The nodes of a schema with a literal that refers to the schema at `c`. -/
def literalNodes (l : Value) (c : Pointer) : Array (Node NodeId) :=
  #[{ Node.unconstrained .root with
      enumeration := some [l, .object []]
      array := ⟨some (.uniform 1), none, none, none, false⟩ },
    { Node.unconstrained ⟨["enum", "0"]⟩ with composition := ⟨[], [], [], some 2⟩ },
    Node.unconstrained c]

theorem exists_build_withLiteral (l : Value) (c : Pointer) (table : AliasTable)
    (resolved : Aliases.resolve (withLiteral l) = .ok table)
    (closed : (closure table (withLiteral l)).map (·.nodes) = .ok (literalNodes l c)) :
    ∃ g, build (withLiteral l) = .ok g ∧ g.aliases = table ∧ g.nodes = literalNodes l c := by
  obtain ⟨s, hs, nodes⟩ := map_eq_ok.1 closed
  rw [← nodes]
  refine exists_build resolved hs (Descent.settle_isOk (r := fun i => 3 - i) fun i hi j hj => ?_)
  rw [nodes] at hi hj ⊢
  rcases i with _ | _ | _ | i
  · cases hj
  · obtain rfl := List.mem_singleton.1 (show j ∈ [2] from hj)
    exact ⟨Nat.lt_succ_self 2, by decide⟩
  · cases hj
  · exact absurd hi (by simp [literalNodes])

theorem accepts_withLiteral {l : Value} {c : Pointer} (hl : l.IsDocument)
    (hg : build (withLiteral l) = .ok g) (hn : g.nodes = literalNodes l c)
    (ms : Members) : g.accepts (Value.object ms).events = true ↔
      l.Agrees (.object ms) ∨ (Value.object []).Agrees (.object ms) := by
  have root : ∃ r, g.node Graph.root =
      { Node.unconstrained .root with enumeration := some [l, .object []], array := r } := by
    rw [node, hn]
    exact ⟨_, rfl⟩
  obtain ⟨r, hr⟩ := root
  have sound := sound_of_build (withLiteral_isDocument hl) hg
  calc g.accepts (Value.object ms).events = true
      ↔ g.Satisfies Graph.root (.object ms) := Session.accepts_iff_satisfies sound _ _
    _ ↔ ∃ e ∈ [l, .object []], e.Agrees (.object ms) := satisfies_object_of_literals hr
    _ ↔ _ := by simp

/-- A literal is not what it was once a reference in it is replaced: the schema with the copy no
longer accepts the literal as it was written. -/
theorem accepts_put_referring : (withLiteral referring).IsDocument ∧
    ∃ g, build (withLiteral referring) = .ok g ∧
      (g.aliases.lookup ⟨["enum", "0", "not"]⟩).isSome ∧
      g.HasSubschema ⟨["enum", "0", "not"]⟩ ∧
      ∃ w, (withLiteral referring).at? (g.canonical ⟨["enum", "0", "not"]⟩) = some w ∧
        ∃ g', build ((withLiteral referring).put ["enum", "0", "not"] w) = .ok g' ∧
          g.accepts referring.events = true ∧ g'.accepts referring.events = false := by
  obtain ⟨g, hg, aliases, hn⟩ := exists_build_withLiteral referring ⟨["enum", "1"]⟩
    [(⟨["enum", "0", "not"]⟩, ⟨["enum", "1"]⟩), (⟨["items"]⟩, ⟨["enum", "0"]⟩)]
    (by cbv) (by cbv)
  obtain ⟨g', hg', -, hn'⟩ := exists_build_withLiteral referred ⟨["enum", "0", "not"]⟩
    [(⟨["items"]⟩, ⟨["enum", "0"]⟩)] (by cbv) (by cbv)
  have canonical : g.canonical ⟨["enum", "0", "not"]⟩ = ⟨["enum", "1"]⟩ := by
    rw [canonical, aliases]
    rfl
  have put : (withLiteral referring).put ["enum", "0", "not"] (.object []) = withLiteral referred := by
    cbv
  refine ⟨withLiteral_isDocument referring_isDocument, g, hg, by rw [aliases]; rfl, ?_, .object [],
    by rw [canonical]; rfl, g', put ▸ hg', ?_, ?_⟩
  · exact hasSubschema_of_compile (withLiteral_isDocument referring_isDocument) hg
      (p := ⟨["enum", "0"]⟩) (by rw [hn]; exact .tail _ (.head _)) (v := referring) (by cbv) rfl
      (List.mem_singleton.2 rfl)
  · refine (accepts_withLiteral referring_isDocument hg hn _).2 (.inl ?_)
    exact Value.agrees_single_iff.2 (Value.agrees_single_iff.2 (.string _))
  · rw [← Bool.not_eq_true, referring, accepts_withLiteral referred_isDocument hg' hn']
    rintro (h | h)
    · cases Value.agrees_single_iff.1 h with
      | object _ names _ => exact List.not_mem_nil ((names "$ref").1 (List.mem_singleton.2 rfl))
    · cases h with
      | object _ names _ => exact List.not_mem_nil ((names "not").1 (List.mem_singleton.2 rfl))

end JsonSchema.Graph
