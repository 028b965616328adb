import JsonSchema.Proofs.Graph.Numbering
import JsonSchema.Proofs.Node.Reading
import JsonSchema.Proofs.Positions
/-!
# The closure of a schema under references

`Graph.Reaches` are the canonical positions that can be reached from the root of a document. The
rounds of `Graph.close` compile these positions, each once: they come to an end exactly if all of them
can be compiled, and then the nodes are theirs in the order in which the positions were met
(`Graph.closure_cases`). What holds between two nodes (`Graph.Closing`) says as well that whatever is
written into a node is the number that its position got, or had before (`Closing.next`).
-/

namespace JsonSchema

namespace Places

variable {p q : Pointer} {v : Value} {l l' : Places}

theorem take?_eq_none : l.take? p = none ↔ p ∉ l.map (·.1) := by
  induction l with
  | nil => simp [take?]
  | cons e l ih =>
    rw [take?, List.map_cons, List.mem_cons, not_or]
    split
    · next h => simp [h]
    · next h => rw [Option.map_eq_none_iff, ih]; simp [Ne.symm h]

theorem perm_of_take? (h : l.take? p = some (v, l')) : l.Perm ((p, v) :: l') := by
  induction l generalizing v l' with
  | nil => cases h
  | cons e l ih =>
    rw [take?] at h
    split at h
    · next he =>
      subst he
      cases h
      exact .refl _
    · obtain ⟨⟨w, m⟩, hm, he⟩ := Option.map_eq_some_iff.1 h
      cases he
      exact ((ih hm).cons e).trans (.swap _ _ _)

/-- Taking a place leaves the others. -/
theorem take?_eq_some (hn : (l.map (·.1)).Nodup) (h : l.take? p = some (v, l')) :
    (p, v) ∈ l ∧ (l'.map (·.1)).Nodup ∧ ∀ q w, (q, w) ∈ l' ↔ (q, w) ∈ l ∧ q ≠ p := by
  have perm := perm_of_take? h
  obtain ⟨hp, nodup⟩ := List.nodup_cons.1 ((perm.map (·.1)).nodup_iff.1 hn)
  refine ⟨perm.mem_iff.2 List.mem_cons_self, nodup, fun q w => ?_⟩
  rw [perm.mem_iff, List.mem_cons]
  constructor
  · intro hq
    refine ⟨.inr hq, ?_⟩
    rintro rfl
    exact hp (List.mem_map.2 ⟨_, hq, rfl⟩)
  · rintro ⟨he | hq, hne⟩
    · cases he
      exact absurd rfl hne
    · exact hq

end Places

namespace Graph

variable {d : Value} {table : AliasTable} {p q : Pointer} {n : Node Pointer}

/-- The node of the value at a position, with its references in canonical form. -/
def Compiles (d : Value) (table : AliasTable) (p : Pointer) (n : Node Pointer) : Prop :=
  ∃ v m, d.at? p = some v ∧ Node.compile p v = .ok m ∧ n = m.map (Aliases.canonical table)

/-- The canonical positions that can be reached from the root through what nodes refer to. -/
inductive Reaches (d : Value) (table : AliasTable) : Pointer → Prop where
  | root : Reaches d table (Aliases.canonical table .root)
  | step {p : Pointer} {n : Node Pointer} {q : Pointer} (hp : Reaches d table p)
    (hn : Compiles d table p n) (hq : q ∈ n.subschemas) : Reaches d table q

theorem Compiles.unique {n' : Node Pointer} (h : Compiles d table p n) (h' : Compiles d table p n') :
    n = n' := by
  obtain ⟨v, m, hv, hm, rfl⟩ := h
  obtain ⟨v', m', hv', hm', rfl⟩ := h'
  cases hv.symm.trans hv'
  cases hm.symm.trans hm'
  rfl

/-- Nothing can be compiled at a position, since it has no value or one that is no schema. -/
def Refuses (d : Value) (p : Pointer) (e : SchemaError) : Prop :=
  (d.at? p = none ∧ e = .invalidReference p .missing) ∨
    ∃ v, d.at? p = some v ∧ Node.compile p v = .error e

theorem Compiles.not_refuses (h : Compiles d table p n) {e : SchemaError} : ¬Refuses d p e := by
  obtain ⟨v, m, hv, hm, -⟩ := h
  rintro (⟨missing, -⟩ | ⟨w, hw, he⟩)
  · cases missing.symm.trans hv
  · cases hv.symm.trans hw
    cases hm.symm.trans he

/-- The nodes of a closed schema: those of the positions that can be reached, each once and the root
first. -/
structure Closed (d : Value) (table : AliasTable) (nodes : List (Node Pointer)) : Prop where
  first : (nodes.map (·.position)).head? = some (Aliases.canonical table .root)
  nodup : (nodes.map (·.position)).Nodup
  reached : ∀ p, p ∈ nodes.map (·.position) ↔ Reaches d table p
  compiled : ∀ n ∈ nodes, Compiles d table n.position n

theorem Closed.exists_compiles {nodes : List (Node Pointer)} (h : Closed d table nodes)
    (hp : Reaches d table p) :
    ∃ n, Compiles d table p n := by
  obtain ⟨n, hn, rfl⟩ := List.mem_map.1 ((h.reached p).2 hp)
  exact ⟨n, h.compiled n hn⟩

/-! ### The closure under way -/

/-- There are no new numbers, or these are the next ones. -/
theorem newIds_cases (n : Nat) (s : Positions) : (s.order.size ≤ n ∧ newIds n s = []) ∨
    ∃ k, n + (k + 1) = s.order.size ∧ newIds n s = n :: List.range' (n + 1) k := by
  obtain h | h := Nat.lt_or_ge n s.order.size
  · obtain ⟨k, hk⟩ := Nat.exists_eq_add_of_lt h
    refine .inr ⟨k, hk.symm, ?_⟩
    rw [newIds, ← List.range'_succ, show s.order.size - n = k + 1 by omega]
  · refine .inl ⟨h, ?_⟩
    rw [newIds, Nat.sub_eq_zero_of_le h, List.range'_zero]

/-- What holds between two nodes, `nodes` being the compiled ones before their references are
numbered. These are the first positions that were met; the others are still to be compiled. -/
structure Closing (d : Value) (table : AliasTable) (s : Progress) (nodes : List (Node Pointer)) :
    Prop where
  numbered : s.positions.Numbered
  met : nodes.map (·.position) <+: s.positions.order.toList
  nodes_eq : ∀ f, s.positions.Agrees f → s.nodes.toList = nodes.map (Node.map f)
  references_eq : ∀ f, s.positions.Agrees f →
    s.references.toList = nodes.map fun n => (n.map f).references
  first : s.positions.order.toList.head? = some (Aliases.canonical table .root)
  reached : ∀ p ∈ s.positions.order, Reaches d table p
  compiled : ∀ n ∈ nodes, Compiles d table n.position n
  closed : ∀ n ∈ nodes, ∀ q ∈ n.subschemas, q ∈ s.positions.order
  distinct : (s.places.map (·.1)).Nodup
  free : ∀ q w, (q, w) ∈ s.places ↔ d.at? q = some w ∧ ∀ n ∈ nodes, n.position ≠ q

namespace Closing

variable {s : Progress} {nodes : List (Node Pointer)} {v : Value}

/-- The position whose turn it is has not been compiled yet. -/
theorem next_free (h : Closing d table s nodes)
    (hp : s.positions.order[nodes.length]? = some p) : ∀ n ∈ nodes, n.position ≠ p := by
  rintro n hn rfl
  obtain ⟨rest, order⟩ := h.met
  rw [← Array.getElem?_toList, ← order, List.getElem?_append_right (by simp)] at hp
  have nodup := h.numbered.nodup
  rw [← order] at nodup
  exact List.disjoint_of_nodup_append nodup (List.mem_map_of_mem hn) (List.mem_of_getElem? hp)

theorem next_met (h : Closing d table s nodes) (hp : s.positions.order[nodes.length]? = some p)
    {l : List Pointer} (hl : s.positions.order.toList <+: l) :
    nodes.map (·.position) ++ [p] <+: l := by
  refine List.IsPrefix.trans ?_ hl
  obtain ⟨rest, order⟩ := h.met
  rw [← Array.getElem?_toList, ← order, List.getElem?_append_right (by simp), List.length_map,
    Nat.sub_self] at hp
  obtain ⟨rest', rfl⟩ : ∃ l, rest = p :: l := by
    cases rest with
    | nil => cases hp
    | cons q rest => exact ⟨rest, by cases hp; rfl⟩
  exact ⟨rest', by rw [← order, List.append_assoc]; rfl⟩

/-- The next node is compiled: its references are noted, and what is met in it comes last. -/
theorem next (h : Closing d table s nodes) (hp : s.positions.order[nodes.length]? = some p)
    {places : Places} (hv : s.places.take? p = some (v, places)) {m : Node Pointer}
    (hm : Node.compile p v = .ok m) :
    let r := (m.mapM (refer table)).run ⟨s.positions, []⟩
    s.positions.order.toList <+: r.2.positions.order.toList ∧
      Closing d table ⟨r.2.positions, places, s.nodes.push r.1, s.references.push r.2.references⟩
        (nodes ++ [m.map (Aliases.canonical table)]) := by
  intro r
  obtain ⟨hpv, distinct, rest⟩ := Places.take?_eq_some h.distinct hv
  have position : (m.map (Aliases.canonical table)).position = p :=
    (Node.position_of_compile hm : m.position = p)
  have compiled : Compiles d table p (m.map (Aliases.canonical table)) :=
    ⟨v, m, ((h.free p v).1 hpv).1, hm, rfl⟩
  have numbers (f : Pointer → NodeId)
      (hf : (s.positions.internAll table m.subschemas).Agrees f) :
      r = (m.map (f ∘ Aliases.canonical table), referAll table ⟨s.positions, []⟩ m.subschemas) :=
    renumbers_node table f m _ (by rwa [positions_referAll])
  have positions : r.2.positions = s.positions.internAll table m.subschemas := by
    rw [numbers _ h.numbered.internAll.agrees, positions_referAll]
  have grows : s.positions.order.toList <+: r.2.positions.order.toList := by
    rw [positions]
    exact Positions.order_internAll
  have mem_order (q : Pointer) : q ∈ r.2.positions.order ↔
      q ∈ s.positions.order ∨ q ∈ (m.map (Aliases.canonical table)).subschemas := by
    rw [positions, h.numbered.mem_order_internAll, Node.subschemas_map, List.mem_map]
    simp only [eq_comm]
  refine ⟨grows, ?_, ?_, ?_, ?_, ?_, ?_, ?_, ?_, distinct, ?_⟩
  · rw [positions]
    exact h.numbered.internAll
  · rw [List.map_append, List.map_singleton, position]
    exact h.next_met hp grows
  · intro f hf
    rw [positions] at hf
    rw [Array.toList_push, h.nodes_eq f hf.of_internAll, numbers f hf, List.map_append,
      List.map_singleton, Node.map_map]
  · intro f hf
    rw [positions] at hf
    have references := references_referAll (s := ⟨s.positions, []⟩) (by rwa [positions_referAll])
    rw [Array.toList_push, h.references_eq f hf.of_internAll, numbers f hf, references,
      List.map_append, List.map_singleton, Node.map_map, Node.references, Node.subschemas_map]
  · obtain ⟨l, hl⟩ := grows
    rw [← hl, List.head?_append, h.first]
    rfl
  · intro q hq
    rcases (mem_order q).1 hq with hq | hq
    · exact h.reached q hq
    · exact (h.reached p (Array.mem_of_getElem? hp)).step compiled hq
  · refine List.forall_mem_append.2 ⟨h.compiled, List.forall_mem_singleton.2 ?_⟩
    rwa [position]
  · refine List.forall_mem_append.2 ⟨fun n hn q hq => ?_, List.forall_mem_singleton.2 fun q hq => ?_⟩
    · exact (mem_order q).2 (.inl (h.closed n hn q hq))
    · exact (mem_order q).2 (.inr hq)
  · intro q w
    rw [rest, h.free, List.forall_mem_append, List.forall_mem_singleton, position, and_assoc, ne_comm]

theorem compileNext_cases (h : Closing d table s nodes)
    (hp : s.positions.order[nodes.length]? = some p) :
    (∃ n t, compileNext table s nodes.length = .ok t ∧ Closing d table t.val (nodes ++ [n]) ∧
      s.positions.order.toList <+: t.val.positions.order.toList) ∨
    ∃ e, compileNext table s nodes.length = .error e ∧ Refuses d p e := by
  have position := Positions.position_eq hp
  unfold compileNext
  split
  · next hv =>
    rw [position] at hv ⊢
    refine .inr ⟨_, rfl, .inl ⟨?_, rfl⟩⟩
    -- a place that is not there any more was never in the document
    by_contra hd
    obtain ⟨v, hd⟩ := Option.ne_none_iff_exists'.1 hd
    have place : (p, v) ∈ s.places := (h.free p v).2 ⟨hd, h.next_free hp⟩
    exact Places.take?_eq_none.1 hv (List.mem_map_of_mem place)
  · next v places hv =>
    rw [position] at hv
    have value : d.at? p = some v := ((h.free p v).1 (Places.take?_eq_some h.distinct hv).1).1
    split
    · next e hm =>
      rw [position] at hm
      exact .inr ⟨e, rfl, .inr ⟨v, value, hm⟩⟩
    · next m hm =>
      rw [position] at hm
      obtain ⟨grows, next⟩ := h.next hp hv hm
      exact .inl ⟨_, _, rfl, next, grows⟩

/-- A round compiles the positions that it is given, unless one of them is refused. -/
theorem compileRound_cases {k : Nat} (h : Closing d table s nodes)
    (hk : nodes.length + k ≤ s.positions.order.size) :
    (∃ new t, compileRound table s (List.range' nodes.length k) = .ok t ∧
      Closing d table t.val (nodes ++ new) ∧ new.length = k) ∨
    ∃ e p, compileRound table s (List.range' nodes.length k) = .error e ∧ Reaches d table p ∧
      Refuses d p e := by
  induction k generalizing s nodes with
  | zero => exact .inl ⟨[], ⟨s, Nat.le_refl _⟩, rfl, by rwa [List.append_nil], rfl⟩
  | succ k ih =>
    have hp := Array.getElem?_eq_getElem (show nodes.length < s.positions.order.size by omega)
    rw [List.range'_succ, compileRound]
    rcases h.compileNext_cases hp with ⟨n, t, ht, next, grows⟩ | ⟨e, he, refused⟩
    · have size := grows.length_le
      rw [Array.length_toList, Array.length_toList] at size
      have rest := ih next (by rw [List.length_append, List.length_singleton]; omega)
      rw [List.length_append, List.length_singleton] at rest
      rw [ht]
      rcases rest with ⟨new, u, hu, closing, rfl⟩ | ⟨e, p, he, refused⟩
      · simp only [hu]
        exact .inl ⟨n :: new, _, rfl, by rwa [List.append_cons], rfl⟩
      · simp only [he]
        exact .inr ⟨e, p, rfl, refused⟩
    · rw [he]
      exact .inr ⟨e, _, rfl, h.reached _ (Array.mem_of_getElem? hp), refused⟩

/-- The rounds come to an end once every position met is compiled, or with one that is refused. -/
theorem close_cases (h : Closing d table s nodes) :
    (∃ t ns, close table s (newIds nodes.length s.positions) = .ok t ∧ Closing d table t ns ∧
      ns.map (·.position) = t.positions.order.toList) ∨
    ∃ e p, close table s (newIds nodes.length s.positions) = .error e ∧ Reaches d table p ∧
      Refuses d p e := by
  induction hl : s.places.length using Nat.strongRecOn generalizing s nodes with
  | ind l ih =>
    rcases newIds_cases nodes.length s.positions with ⟨hsize, frontier⟩ | ⟨k, hk, frontier⟩
    · rw [frontier, close]
      refine .inl ⟨s, nodes, rfl, h, h.met.eq_of_length_le ?_⟩
      simpa using hsize
    · have round := h.compileRound_cases (k := k + 1) (Nat.le_of_eq hk)
      rw [List.range'_succ] at round
      rw [frontier, close]
      rcases round with ⟨new, ⟨t, places⟩, ht, next, hnew⟩ | ⟨e, p, he, refused⟩
      · rw [List.length_cons] at places
        have rest := ih t.places.length (by omega) next rfl
        rw [show (nodes ++ new).length = s.positions.order.size by simp; omega] at rest
        simpa only [ht] using rest
      · rw [he]
        exact .inr ⟨e, p, rfl, refused⟩

end Closing

/-- What holds before the first round. -/
theorem closing_start (hd : d.IsDocument) (table : AliasTable) :
    Closing d table ⟨(Positions.empty.intern table .root).2, d.places .root, #[], #[]⟩ [] := by
  have start : Positions.empty.intern table .root =
      (0, ⟨[(Aliases.canonical table .root, 0)], #[Aliases.canonical table .root]⟩) := rfl
  constructor
  · exact Positions.numbered_empty.intern
  · exact List.nil_prefix
  · exact fun f hf => rfl
  · exact fun f hf => rfl
  · rfl
  · intro p hp
    simp [start] at hp
    exact hp ▸ .root
  · simp
  · simp
  · exact Value.nodup_places hd .root
  · exact fun q w => by simp [Value.mem_places hd]

/-! ### The closure of a document -/

/-- The number of the node of a position. -/
def index (nodes : List (Node Pointer)) (p : Pointer) : NodeId := (nodes.map (·.position)).idxOf p

/-- What the closure of a document leaves are its nodes, their references and the numbers of their
positions. -/
structure Closes (d : Value) (table : AliasTable) (numbered : Array (Node NodeId))
    (references : Array (List NodeId)) (ids : List (Pointer × NodeId)) (nodes : List (Node Pointer)) :
    Prop where
  closed : Closed d table nodes
  nodes_eq : numbered.toList = nodes.map (Node.map (index nodes))
  references_eq : references.toList = nodes.map fun n => (n.map (index nodes)).references
  ids_iff : ∀ p id, ids.lookup p = some id ↔ (nodes.map (·.position))[id]? = some p

theorem Closing.closes {s : Progress} {nodes : List (Node Pointer)} (h : Closing d table s nodes)
    (order : nodes.map (·.position) = s.positions.order.toList) :
    Closes d table s.nodes s.references s.positions.ids nodes := by
  have agrees : s.positions.Agrees (index nodes) := by
    have := h.numbered.agrees
    rwa [← order] at this
  have mem_iff (p : Pointer) : p ∈ nodes.map (·.position) ↔ p ∈ s.positions.order := by
    rw [order, Array.mem_toList_iff]
  refine ⟨⟨order ▸ h.first, order ▸ h.numbered.nodup, fun p => ⟨fun hp => ?_, fun hp => ?_⟩,
    h.compiled⟩, h.nodes_eq _ agrees, h.references_eq _ agrees, fun p id => ?_⟩
  · exact h.reached p ((mem_iff p).1 hp)
  · -- everything met is compiled, so what the nodes refer to has nodes as well
    induction hp with
    | root => exact order ▸ List.mem_of_mem_head? h.first
    | step hp hn hq ih =>
      obtain ⟨n', hn', rfl⟩ := List.mem_map.1 ih
      rw [hn.unique (h.compiled n' hn')] at hq
      exact (mem_iff _).2 (h.closed n' hn' _ hq)
  · rw [h.numbered p id, order, Array.getElem?_toList]

/-- The closure of a document ends with the nodes of all positions that can be reached, or with one of
these that is refused. -/
theorem closure_cases (hd : d.IsDocument) (table : AliasTable) :
    (∃ s nodes, closure table d = .ok s ∧
      Closes d table s.nodes s.references s.positions.ids nodes) ∨
    ∃ e p, closure table d = .error e ∧ Reaches d table p ∧ Refuses d p e := by
  have frontier : closure table d = close table
      ⟨(Positions.empty.intern table .root).2, d.places .root, #[], #[]⟩
      (newIds 0 (Positions.empty.intern table .root).2) := rfl
  rw [frontier]
  rcases (closing_start hd table).close_cases with ⟨s, nodes, hs, closing, order⟩ | refused
  · exact .inl ⟨s, nodes, hs, closing.closes order⟩
  · exact .inr refused

end Graph
end JsonSchema
