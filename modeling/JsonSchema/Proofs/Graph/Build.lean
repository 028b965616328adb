import JsonSchema.Proofs.Graph.Closure
import JsonSchema.Proofs.Graph.Descending
/-!
# Built graphs

A document has a graph exactly if its references resolve, its closure compiles, and in-place
references descend (`Graph.exists_build`). The nodes of the graph are then those of the closure,
numbered in their order (`Graph.Built`).
-/

namespace JsonSchema.Graph

variable {d : Value} {g : Graph}

/-- The nodes of the closure of a document, and the graph that has them. -/
structure Built (d : Value) (g : Graph) (nodes : List (Node Pointer)) : Prop
    extends Closes d g.aliases g.nodes g.references g.ids nodes where
  document : g.document = d
  resolved : Aliases.resolve d = .ok g.aliases

theorem built_of_build (hd : d.IsDocument) (hg : build d = .ok g) : ∃ nodes, Built d g nodes := by
  simp only [build, bind_eq_ok] at hg
  obtain ⟨table, hr, s, hc, order, -, h⟩ := hg
  cases h
  rcases closure_cases hd table with ⟨t, nodes, ht, closes⟩ | ⟨e, p, he, -⟩
  · cases hc.symm.trans ht
    exact ⟨nodes, closes, rfl, hr⟩
  · cases hc.symm.trans he

/-- A graph is built if the closure compiles and the search for cycles finds none. -/
theorem exists_build {table : AliasTable} {s : Progress} (hr : Aliases.resolve d = .ok table)
    (hc : closure table d = .ok s) (hs : ∃ l, Descent.settle (inPlace s.nodes) s.nodes.size = .ok l) :
    ∃ g, build d = .ok g ∧ g.aliases = table ∧ g.nodes = s.nodes := by
  obtain ⟨order, ho⟩ := hs
  refine ⟨⟨d, table, s.nodes, s.references, s.positions.ids, order.1, order.2.1, order.2.2⟩, ?_, rfl,
    rfl⟩
  simp only [build, bind_eq_ok]
  refine ⟨table, hr, s, hc, order, ?_, rfl⟩
  rw [descent, ho]

/-! ### Numbers of positions -/

section

variable {table : AliasTable} {nodes : List (Node Pointer)} {p : Pointer}

theorem Closed.index_lt (h : Closed d table nodes) (hp : Reaches d table p) :
    index nodes p < nodes.length := by
  have := List.idxOf_lt_length_of_mem ((h.reached p).2 hp)
  rwa [List.length_map] at this

theorem position_index (hi : index nodes p < nodes.length) : nodes[index nodes p].position = p := by
  have hi' : (nodes.map (·.position)).idxOf p < (nodes.map (·.position)).length := by
    rwa [List.length_map]
  have := List.getElem_idxOf hi'
  rwa [List.getElem_map] at this

theorem Closed.index_position (h : Closed d table nodes) {i : Nat} (hi : i < nodes.length) :
    index nodes nodes[i].position = i := by
  have := h.nodup.idxOf_getElem i (by simpa using hi)
  rwa [List.getElem_map] at this

theorem Closed.reaches (h : Closed d table nodes) {i : Nat} (hi : i < nodes.length) :
    Reaches d table nodes[i].position :=
  (h.reached _).1 (List.mem_map_of_mem (List.getElem_mem hi))

theorem Closes.inPlace_eq {numbered : Array (Node NodeId)} {references : Array (List NodeId)}
    {ids : List (Pointer × NodeId)} (h : Closes d table numbered references ids nodes) {i : Nat}
    (hi : i < nodes.length) : inPlace numbered i = nodes[i].inPlace.map (index nodes) := by
  have node : numbered[i]? = some (nodes[i].map (index nodes)) := by
    rw [← Array.getElem?_toList, h.nodes_eq, List.getElem?_map, List.getElem?_eq_getElem hi,
      Option.map_some]
  rw [inPlace, node]
  exact Node.inPlace_map _ _

end

/-- A document has a graph if its references resolve, whatever can be reached compiles, and some
rank of positions decreases along in-place references. -/
theorem exists_build_of_rank (hd : d.IsDocument) {table : AliasTable}
    (hr : Aliases.resolve d = .ok table)
    (compiles : ∀ p, Reaches d table p → ∃ n, Compiles d table p n) (rank : Pointer → Nat)
    (descends : ∀ p n, Reaches d table p → Compiles d table p n → ∀ q ∈ n.inPlace, rank q < rank p) :
    ∃ g, build d = .ok g ∧ g.aliases = table := by
  obtain ⟨s, nodes, hc, closes⟩ | ⟨e, p, -, reached, refused⟩ := closure_cases hd table
  · have hn := closes.closed
    have size : s.nodes.size = nodes.length := by
      rw [← Array.length_toList, closes.nodes_eq, List.length_map]
    let position : NodeId → Pointer := fun i => (nodes[i]?.map (·.position)).getD .root
    have position_eq : ∀ {i} (hi : i < nodes.length), position i = nodes[i].position := by
      intro i hi
      simp [position, hi]
    obtain ⟨g, hg, ha, -⟩ := exists_build hr hc <|
      Descent.settle_isOk (r := fun i => rank (position i)) fun i hi j hj => by
        rw [size] at hi ⊢
        rw [closes.inPlace_eq hi] at hj
        obtain ⟨q, hq, rfl⟩ := List.mem_map.1 hj
        have hcomp := hn.compiled _ (List.getElem_mem hi)
        have reached : Reaches d table q :=
          (hn.reaches hi).step hcomp (Node.inPlace_subset _ hq)
        refine ⟨hn.index_lt reached, ?_⟩
        rw [position_eq hi, position_eq (hn.index_lt reached), position_index (hn.index_lt reached)]
        exact descends _ _ (hn.reaches hi) hcomp q hq
    exact ⟨g, hg, ha⟩
  · obtain ⟨n, hn⟩ := compiles p reached
    exact absurd refused hn.not_refuses

/-- A document whose only node applies no schema to its own value has a graph of that node. -/
theorem exists_build_single {table : AliasTable} {m : Node NodeId}
    (hr : Aliases.resolve d = .ok table) (hc : (closure table d).map (·.nodes) = .ok #[m])
    (leaf : m.inPlace = []) :
    ∃ g, build d = .ok g ∧ g.aliases = table ∧ g.nodes = #[m] ∧ g.node root = m := by
  obtain ⟨s, hs, hm⟩ := map_eq_ok.1 hc
  obtain ⟨g, hg, ha, hn⟩ := exists_build hr hs <|
    Descent.settle_isOk (r := id) fun i hi j hj => by
      rw [hm] at hi hj
      obtain rfl : i = 0 := Nat.lt_one_iff.1 hi
      rw [show inPlace #[m] 0 = m.inPlace from rfl, leaf] at hj
      cases hj
  rw [hm] at hn
  refine ⟨g, hg, ha, hn, ?_⟩
  rw [node, hn]
  rfl

/-! ### The nodes of a built graph -/

namespace Built

variable {nodes : List (Node Pointer)} {p : Pointer} {n : Node Pointer}

theorem size_eq (h : Built d g nodes) : g.size = nodes.length := by
  rw [size, ← Array.length_toList, h.nodes_eq, List.length_map]

theorem node_getElem (h : Built d g nodes) {i : Nat} (hi : i < nodes.length) :
    g.node i = nodes[i].map (index nodes) := by
  rw [node, ← Array.getElem?_toList, h.nodes_eq, List.getElem?_map, List.getElem?_eq_getElem hi,
    Option.map_some, Option.getD_some]

/-- The node of a position is the one that is compiled for it. -/
theorem node_index (h : Built d g nodes) (hp : Compiles d g.aliases p n)
    (hr : Reaches d g.aliases p) : g.node (index nodes p) = n.map (index nodes) := by
  have hi := h.closed.index_lt hr
  have hc := h.closed.compiled _ (List.getElem_mem hi)
  rw [position_index hi] at hc
  rw [h.node_getElem hi, hp.unique hc]

/-- Each number stands for the node of a position that can be reached. -/
theorem exists_position (h : Built d g nodes) {i : Nat} (hi : i < nodes.length) :
    ∃ p n, Reaches d g.aliases p ∧ Compiles d g.aliases p n ∧ index nodes p = i ∧
      g.node i = n.map (index nodes) :=
  ⟨nodes[i].position, nodes[i], h.closed.reaches hi, h.closed.compiled _ (List.getElem_mem hi),
    h.closed.index_position hi, h.node_getElem hi⟩

/-- In-place references of a position go to lower ranks. -/
theorem rank_lt (h : Built d g nodes) (hp : Compiles d g.aliases p n)
    (hr : Reaches d g.aliases p) {q : Pointer} (hq : q ∈ n.inPlace) :
    g.rank (index nodes q) < g.rank (index nodes p) := by
  refine g.rank_lt ?_
  rw [h.node_index hp hr, Node.inPlace_map]
  exact List.mem_map_of_mem hq

/-- The positions of the nodes are those that can be reached. -/
theorem exists_node_iff (h : Built d g nodes) :
    (∃ n ∈ g.nodes, n.position = p) ↔ Reaches d g.aliases p := by
  simp only [← h.closed.reached, ← Array.mem_toList_iff, h.nodes_eq, List.mem_map,
    exists_exists_and_eq_and]
  rfl

theorem root_eq (h : Built d g nodes) : index nodes (g.canonical .root) = root := by
  obtain ⟨ps, hps⟩ := List.head?_eq_some_iff.1 h.closed.first
  rw [index, hps]
  exact List.idxOf_cons_self

/-- The node of the root is the one compiled there. -/
theorem node_root (h : Built d g nodes) (hn : Compiles d g.aliases (g.canonical .root) n) :
    g.node root = n.map (index nodes) := by
  rw [← h.root_eq]
  exact h.node_index hn .root

/-- The nodes of a built graph are sound. -/
theorem sound (h : Built d g nodes) (hd : d.IsDocument) (id : NodeId) : (g.node id).Sound := by
  by_cases hi : id < nodes.length
  · obtain ⟨p, n, -, ⟨v, m, hv, hm, rfl⟩, -, hn⟩ := h.exists_position hi
    rw [hn]
    exact ((Node.sound_of_compile (Value.descend?_isDocument hd hv) hm).map _).map _
  · have hn : g.nodes[id]? = none := by
      rw [Array.getElem?_eq_none_iff, ← size, h.size_eq]
      exact Nat.le_of_not_lt hi
    rw [node, hn]
    exact ⟨by rintro _ ⟨⟩, List.nodup_nil, List.nodup_nil⟩

end Built

/-- A document without references that is a schema without sub-schemas has a graph of one node. -/
theorem exists_build_leaf {n : Node Pointer} (hd : d.IsDocument) (hr : Aliases.resolve d = .ok [])
    (hn : Compiles d [] .root n) (leaf : n.subschemas = []) :
    ∃ g f, build d = .ok g ∧ g.node root = n.map f := by
  have alone (p : Pointer) (hp : Reaches d [] p) : p = .root := by
    induction hp with
    | root => rfl
    | step _ hm hq ih =>
      subst ih
      rw [hm.unique hn, leaf] at hq
      cases hq
  obtain ⟨g, hg, ha⟩ := exists_build_of_rank hd hr (fun p hp => alone p hp ▸ ⟨n, hn⟩) (fun _ => 0)
    fun p m hp hm q hq => by
      obtain rfl := alone p hp
      have := Node.inPlace_subset _ hq
      rw [hm.unique hn, leaf] at this
      cases this
  obtain ⟨nodes, h⟩ := built_of_build hd hg
  refine ⟨g, index nodes, hg, h.node_root ?_⟩
  rw [canonical, ha]
  exact hn

theorem sound_of_build (hd : d.IsDocument) (hg : build d = .ok g) (id : NodeId) :
    (g.node id).Sound := by
  obtain ⟨nodes, h⟩ := built_of_build hd hg
  exact h.sound hd id

end JsonSchema.Graph
