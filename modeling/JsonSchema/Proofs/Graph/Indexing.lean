import JsonSchema.Proofs.Graph.Language
/-!
# The index of a graph

In a built graph each canonical position that is referred to has a node of its own, found by
`Graph.lookup` from every position that stands for it, and whatever a node refers to is the node of
the position at which the document writes it (`Graph.Indexed`). All of these numbers were handed out
when their positions were met, most of them before there were nodes: nodes are put into the arena in
the order of their numbers (`Closing.next`).
-/

namespace JsonSchema.Graph

/-- The nodes of a graph, their numbers and their positions belong together. -/
structure Indexed (g : Graph) : Prop where
  first : 0 < g.size ∧ (g.node root).position = .root
  distinct : ∀ i < g.size, ∀ j < g.size, (g.node i).position = (g.node j).position → i = j
  ids : ∀ p id, g.ids.lookup p = some id ↔ id < g.size ∧ (g.node id).position = p
  own : ∀ id < g.size, g.lookup (g.node id).position = .ok id
  found : ∀ p id, g.lookup p = .ok id ↔ id < g.size ∧ (g.node id).position = g.canonical p
  shared : ∀ p q i j, g.lookup p = .ok i → g.lookup q = .ok j →
    (i = j ↔ g.canonical p = g.canonical q)
  held : ∀ id < g.size, ∀ ts r, (g.node id).Holds ts r →
    r < g.size ∧ g.lookup ((g.node id).position.below ts) = .ok r
  noted : ∀ id < g.size, g.referencesOf id = (g.node id).references
  references : ∀ id < g.size, ∀ r, r ∈ g.referencesOf id ↔
    ∃ v ts, g.document.at? (g.node id).position = some v ∧ v.Subschema ts ∧
      g.lookup ((g.node id).position.below ts) = .ok r
  ascending : ∀ id < g.size, (g.referencesOf id).Pairwise (· < ·)
  bounded : ∀ id < g.size, ∀ r ∈ g.referencesOf id, r < g.size
  reachable : ∀ id < g.size,
    Relation.ReflTransGen (fun i j => j ∈ g.referencesOf i) root id

variable {d : Value} {g : Graph} {table : AliasTable} {nodes : List (Node Pointer)}
  {n : Node Pointer} {p : Pointer} {id r : NodeId}

/-! ### Positions of nodes -/

theorem Compiles.position_eq (h : Compiles d table p n) : n.position = p := by
  obtain ⟨v, m, -, hm, rfl⟩ := h
  exact (Node.position_of_compile hm : m.position = p)

/-- Positions are looked up by what they stand for. -/
theorem lookup_eq_ok_iff : g.lookup p = .ok id ↔ g.ids.lookup (g.canonical p) = some id := by
  unfold lookup
  cases g.ids.lookup (g.canonical p) <;> simp

namespace Built

/-- A number stands for the node of the position that has the number. -/
theorem node_spec (h : Built d g nodes) (hi : id < g.size) :
    ∃ n, Compiles d g.aliases (g.node id).position n ∧ Reaches d g.aliases (g.node id).position ∧
      index nodes (g.node id).position = id ∧ g.node id = n.map (index nodes) := by
  obtain ⟨p, n, hp, hn, hid, he⟩ := h.exists_position (h.size_eq ▸ hi)
  have position : (g.node id).position = p := by
    rw [he]
    exact hn.position_eq
  rw [position]
  exact ⟨n, hn, hp, hid, he⟩

/-- The index has the positions of the nodes, each with the number of its own. -/
theorem lookup_ids_iff (h : Built d g nodes) :
    g.ids.lookup p = some id ↔ id < g.size ∧ (g.node id).position = p := by
  rw [h.ids_iff, List.getElem?_map, h.size_eq]
  constructor
  · intro hp
    obtain ⟨n, hn, rfl⟩ := Option.map_eq_some_iff.1 hp
    obtain ⟨hi, rfl⟩ := List.getElem?_eq_some_iff.1 hn
    exact ⟨hi, congrArg Node.position (h.node_getElem hi)⟩
  · rintro ⟨hi, rfl⟩
    rw [List.getElem?_eq_getElem hi, h.node_getElem hi]
    rfl

theorem distinct (h : Built d g nodes) {i j : NodeId} (hi : i < g.size) (hj : j < g.size)
    (he : (g.node i).position = (g.node j).position) : i = j := by
  have at_i := h.lookup_ids_iff.2 ⟨hi, he⟩
  have at_j := h.lookup_ids_iff.2 ⟨hj, rfl⟩
  exact Option.some.inj (at_i.symm.trans at_j)

theorem lookup_iff (h : Built d g nodes) :
    g.lookup p = .ok id ↔ id < g.size ∧ (g.node id).position = g.canonical p :=
  lookup_eq_ok_iff.trans h.lookup_ids_iff

/-- A position is found if what it stands for can be reached. -/
theorem lookup_of_reaches (h : Built d g nodes) (hp : Reaches d g.aliases (g.canonical p)) :
    g.lookup p = .ok (index nodes (g.canonical p)) := by
  obtain ⟨n, hn⟩ := h.closed.exists_compiles hp
  refine h.lookup_iff.2 ⟨h.size_eq ▸ h.closed.index_lt hp, ?_⟩
  rw [h.node_index hn hp]
  exact hn.position_eq

theorem lookup_position (h : Built d g nodes) (hd : d.IsDocument) (hi : id < g.size) :
    g.lookup (g.node id).position = .ok id := by
  obtain ⟨-, -, reached, -, -⟩ := h.node_spec hi
  exact h.lookup_iff.2 ⟨hi, (reached.canonical_eq hd h.resolved).symm⟩

/-! ### References of nodes -/

/-- A schema that a node has is found where the document writes it. -/
theorem lookup_subschema (h : Built d g nodes) (hi : id < g.size) {v : Value} {ts : List String}
    (hv : d.at? (g.node id).position = some v) (hts : v.Subschema ts) :
    g.lookup ((g.node id).position.below ts) =
      .ok (index nodes (g.canonical ((g.node id).position.below ts))) := by
  obtain ⟨n, hn, reached, -, -⟩ := h.node_spec hi
  exact h.lookup_of_reaches (reached.step hn (hn.mem_subschemas_iff.2 ⟨v, ts, hv, hts, rfl⟩))

theorem held (h : Built d g nodes) (hi : id < g.size) {ts : List String}
    (hr : (g.node id).Holds ts r) : g.lookup ((g.node id).position.below ts) = .ok r := by
  obtain ⟨n, ⟨v, m, hv, hm, rfl⟩, -, -, he⟩ := h.node_spec hi
  obtain ⟨ms, rfl, reads⟩ := Node.compile_eq_ok.1 hm
  rw [he] at hr
  obtain ⟨c, hc, rfl⟩ := hr.of_map
  obtain ⟨q, hq, rfl⟩ := hc.of_map
  obtain ⟨applied, rfl⟩ := reads.holds_iff.1 hq
  exact h.lookup_subschema hi hv (.applied applied)

/-- What is noted as the references of a node are the numbers that it holds. -/
theorem referencesOf_eq (h : Built d g nodes) (hi : id < g.size) :
    g.referencesOf id = (g.node id).references := by
  have hn : id < nodes.length := h.size_eq ▸ hi
  rw [h.node_getElem hn, referencesOf, Array.getD_eq_getD_getElem?, ← Array.getElem?_toList,
    h.references_eq, List.getElem?_map, List.getElem?_eq_getElem hn, Option.map_some,
    Option.getD_some]

theorem mem_referencesOf (h : Built d g nodes) (hi : id < g.size) :
    r ∈ g.referencesOf id ↔ r ∈ (g.node id).subschemas := by
  rw [h.referencesOf_eq hi, Node.mem_references]

theorem mem_references_iff (h : Built d g nodes) (hi : id < g.size) :
    r ∈ g.referencesOf id ↔ ∃ v ts, d.at? (g.node id).position = some v ∧ v.Subschema ts ∧
      g.lookup ((g.node id).position.below ts) = .ok r := by
  obtain ⟨n, hn, reached, -, he⟩ := h.node_spec hi
  have subschemas : r ∈ g.referencesOf id ↔ ∃ q ∈ n.subschemas, index nodes q = r := by
    rw [h.mem_referencesOf hi, he, Node.subschemas_map, List.mem_map]
  rw [subschemas]
  constructor
  · rintro ⟨q, hq, rfl⟩
    obtain ⟨v, ts, hv, hts, rfl⟩ := hn.mem_subschemas_iff.1 hq
    exact ⟨v, ts, hv, hts, h.lookup_subschema hi hv hts⟩
  · rintro ⟨v, ts, hv, hts, hr⟩
    have written := h.lookup_subschema hi hv hts
    exact ⟨_, hn.mem_subschemas_iff.2 ⟨v, ts, hv, hts, rfl⟩, Except.ok.inj (written.symm.trans hr)⟩

/-- A node refers to nodes. -/
theorem subschema_lt (h : Built d g nodes) (hi : id < g.size) (hr : r ∈ (g.node id).subschemas) :
    r < g.size := by
  obtain ⟨n, hn, reached, -, he⟩ := h.node_spec hi
  rw [he, Node.subschemas_map] at hr
  obtain ⟨q, hq, rfl⟩ := List.mem_map.1 hr
  rw [h.size_eq]
  exact h.closed.index_lt (reached.step hn hq)

/-- Along references every position is met that can be reached. -/
theorem reachable_index (h : Built d g nodes) (hp : Reaches d g.aliases p) :
    Relation.ReflTransGen (fun i j => j ∈ g.referencesOf i) root (index nodes p) := by
  induction hp with
  | root =>
    have first : index nodes (Aliases.canonical g.aliases .root) = root := h.root_eq
    rw [first]
  | @step p n q hp hn hq ih =>
    have hi : index nodes p < g.size := h.size_eq ▸ h.closed.index_lt hp
    refine ih.tail ((h.mem_referencesOf hi).2 ?_)
    rw [h.node_index hn hp, Node.subschemas_map]
    exact List.mem_map_of_mem hq

end Built

/-- The nodes of a built graph, their numbers and their positions belong together. -/
theorem indexed_of_build (hd : d.IsDocument) (hg : build d = .ok g) : g.Indexed := by
  obtain ⟨nodes, h⟩ := built_of_build hd hg
  have first : 0 < g.size := by
    rw [h.size_eq]
    exact Nat.lt_of_le_of_lt (Nat.zero_le _) (h.closed.index_lt .root)
  constructor
  · have found := (h.lookup_iff (p := .root)).1 (h.lookup_of_reaches .root)
    rw [h.root_eq] at found
    refine ⟨first, found.2.trans (Aliases.canonical_root hd h.resolved)⟩
  · exact fun i hi j hj he => h.distinct hi hj he
  · exact fun p id => h.lookup_ids_iff
  · exact fun id hi => h.lookup_position hd hi
  · exact fun p id => h.lookup_iff
  · intro p q i j hp hq
    obtain ⟨hi, hp⟩ := h.lookup_iff.1 hp
    obtain ⟨hj, hq⟩ := h.lookup_iff.1 hq
    rw [← hp, ← hq]
    exact ⟨congrArg fun i => (g.node i).position, h.distinct hi hj⟩
  · intro id hi ts r hr
    have found := h.held hi hr
    exact ⟨(h.lookup_iff.1 found).1, found⟩
  · exact fun id hi => h.referencesOf_eq hi
  · rw [h.document]
    exact fun id hi r => h.mem_references_iff hi
  · exact fun id hi => h.referencesOf_eq hi ▸ Node.pairwise_references _
  · exact fun id hi r hr => h.subschema_lt hi ((h.mem_referencesOf hi).1 hr)
  · intro id hi
    obtain ⟨-, -, reached, hid, -⟩ := h.node_spec hi
    exact hid ▸ h.reachable_index reached

/-- The elements of nested arrays are found at the node of the whole. -/
theorem indexed_nestedArrays : nestedArrays.IsDocument ∧
    ∃ g, build nestedArrays = .ok g ∧ g.Indexed ∧ g.lookup ⟨["items"]⟩ = .ok root := by
  obtain ⟨g, hg, aliases, -⟩ := build_nestedArrays
  have indexed := indexed_of_build nestedArrays_isDocument hg
  refine ⟨nestedArrays_isDocument, g, hg, indexed, (indexed.found _ _).2 ⟨indexed.first.1, ?_⟩⟩
  rw [indexed.first.2, canonical, aliases]
  rfl

end JsonSchema.Graph
