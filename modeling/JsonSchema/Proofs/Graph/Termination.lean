import Mathlib
import JsonSchema.Proofs.Alias.Depth
import JsonSchema.Proofs.Graph.Missing
/-!
# How much work a graph is

Building a graph is bounded by the document: references are followed no deeper than there are any
(`Aliases.resolveDepth_le`), the closure compiles each of its positions once and these are places of
the document (`compiledOf_subperm`), and the search for cycles opens each node once
(`opens_visited`). So a document has a graph or an error (`build_bounded`), however its references
chain, nest or go in circles.
-/

namespace JsonSchema

/-! ### Nodes that the search opens -/

namespace Descent

variable {edges : Nat → List Nat}

mutual

/-- The nodes whose edges are looked at while a node is visited, in this order. -/
def opened (edges : Nat → List Nat) (free done : List Nat) (settled : Settled edges done)
    (n : Nat) : List Nat :=
  if n ∈ done then []
  else if _open : n ∈ free then
    n :: openedAll edges (free.erase n) done settled (edges n)
  else []
termination_by (free.length, 0)
decreasing_by exact Prod.Lex.left _ _ (erase_lt ‹_›)

/-- The nodes whose edges are looked at while nodes are visited in order. -/
def openedAll (edges : Nat → List Nat) (free done : List Nat) (settled : Settled edges done) :
    List Nat → List Nat
  | [] => []
  | n :: ns =>
    opened edges free done settled n ++
      match visit edges free done settled n with
      | .error _ => []
      | .ok l => openedAll edges free l.val l.property.1 ns
termination_by ns => (free.length, ns.length + 1)

end

/-- Some nodes are free ones that were not done, each once. -/
structure Opens (free done l : List Nat) : Prop where
  nodup : l.Nodup
  free : ∀ m ∈ l, m ∈ free
  fresh : ∀ m ∈ l, m ∉ done

theorem Opens.nil (free done : List Nat) : Opens free done [] := ⟨List.nodup_nil, by simp, by simp⟩

theorem Opens.cons {free done l : List Nat} {n : Nat} (h : Opens (free.erase n) done l)
    (hf : free.Nodup) (hn : n ∈ free) (hd : n ∉ done) : Opens free done (n :: l) := by
  constructor
  · exact List.nodup_cons.2 ⟨fun hm => hf.not_mem_erase (h.free n hm), h.nodup⟩
  · exact List.forall_mem_cons.2 ⟨hn, fun m hm => List.mem_of_mem_erase (h.free m hm)⟩
  · exact List.forall_mem_cons.2 ⟨hd, h.fresh⟩

theorem Opens.append {free done done' l l' : List Nat} (h : Opens free done l)
    (h' : Opens free done' l') (kept : ∀ m ∈ done, m ∈ done') (closed : ∀ m ∈ l, m ∈ done') :
    Opens free done (l ++ l') := by
  constructor
  · refine List.nodup_append.2 ⟨h.nodup, h'.nodup, fun m hm k hk he => ?_⟩
    exact h'.fresh k hk (he ▸ closed m hm)
  · exact List.forall_mem_append.2 ⟨h.free, h'.free⟩
  · exact List.forall_mem_append.2 ⟨h.fresh, fun m hm hd => h'.fresh m hm (kept m hd)⟩

mutual

/-- A visit opens nodes once, and these are done when it comes to its end. -/
theorem opens_opened (free done : List Nat) (hf : free.Nodup) (settled : Settled edges done)
    (n : Nat) : Opens free done (opened edges free done settled n) ∧
      ∀ l, visit edges free done settled n = .ok l →
        ∀ m, m ∈ l.val ↔ m ∈ done ∨ m ∈ opened edges free done settled n := by
  unfold opened
  by_cases known : n ∈ done
  · rw [if_pos known]
    refine ⟨.nil _ _, fun l hl m => ?_⟩
    rcases visit_eq_ok hl with ⟨-, same⟩ | ⟨hd, -⟩
    · simp [same]
    · exact absurd known hd
  · rw [if_neg known]
    by_cases hn : n ∈ free
    · rw [dif_pos hn]
      obtain ⟨opens, closed⟩ := opens_openedAll (free.erase n) done (hf.erase n) settled (edges n)
      refine ⟨opens.cons hf hn known, fun l hl m => ?_⟩
      rcases visit_eq_ok hl with ⟨hd, -⟩ | ⟨-, -, l', ha, added⟩
      · exact absurd hd known
      · rw [added, List.mem_cons, List.mem_cons, closed l' ha m, or_left_comm]
    · rw [dif_neg hn]
      refine ⟨.nil _ _, fun l hl => ?_⟩
      rcases visit_eq_ok hl with ⟨hd, -⟩ | ⟨-, hf, -⟩
      · exact absurd hd known
      · exact absurd hf hn
termination_by (free.length, 0)
decreasing_by exact Prod.Lex.left _ _ (erase_lt ‹_›)

theorem opens_openedAll (free done : List Nat) (hf : free.Nodup) (settled : Settled edges done)
    (ns : List Nat) : Opens free done (openedAll edges free done settled ns) ∧
      ∀ l, visitAll edges free done settled ns = .ok l →
        ∀ m, m ∈ l.val ↔ m ∈ done ∨ m ∈ openedAll edges free done settled ns := by
  match ns with
  | [] =>
    unfold openedAll visitAll
    refine ⟨.nil _ _, fun l hl m => ?_⟩
    cases hl
    simp
  | n :: ns =>
    unfold openedAll
    obtain ⟨opens, closed⟩ := opens_opened free done hf settled n
    cases hv : visit edges free done settled n with
    | error k =>
      refine ⟨by simpa using opens, fun l hl => ?_⟩
      obtain ⟨r, hr, -⟩ := visitAll_eq_ok hl
      cases hv.symm.trans hr
    | ok r =>
      have done_iff := closed r hv
      obtain ⟨opens', closed'⟩ := opens_openedAll free r.val hf r.property.1 ns
      have kept : ∀ m ∈ done, m ∈ r.val := fun m hm => (done_iff m).2 (.inl hm)
      refine ⟨opens.append opens' kept fun m hm => (done_iff m).2 (.inr hm), fun l hl m => ?_⟩
      obtain ⟨r', hr, l', ha, same⟩ := visitAll_eq_ok hl
      cases hv.symm.trans hr
      rw [same, List.mem_append, closed' l' ha m, done_iff m, or_assoc]
termination_by (free.length, ns.length + 1)

end

end Descent

/-! ### Positions that the closure compiles -/

namespace Graph

variable {d : Value} {table : AliasTable} {s : Progress} {nodes : List (Node Pointer)}

/-- The position of a number, if there is something to compile. -/
def attempted (s : Progress) (id : NodeId) : List Pointer :=
  match s.places.take? (s.positions.position id) with
  | none => []
  | some _ => [s.positions.position id]

/-- The positions that a round compiles, in this order; the last one may be refused. -/
def compiledIn (table : AliasTable) (s : Progress) : List NodeId → List Pointer
  | [] => []
  | id :: ids =>
    attempted s id ++
      match compileNext table s id with
      | .error _ => []
      | .ok t => compiledIn table t.val ids

/-- The positions that all the rounds compile. -/
def compiled (table : AliasTable) (s : Progress) (frontier : List NodeId) : List Pointer :=
  match frontier with
  | [] => []
  | id :: ids =>
    compiledIn table s (id :: ids) ++
      match compileRound table s (id :: ids) with
      | .error _ => []
      | .ok ⟨t, ht⟩ =>
        have : t.places.length < s.places.length := by rw [List.length_cons] at ht; omega
        compiled table t (newIds s.positions.order.size t.positions)
termination_by s.places.length

/-! ### Positions of the nodes compiled -/

theorem compileNext_positions {id : NodeId} {t : Later s 1} (h : compileNext table s id = .ok t) :
    t.val.nodes.toList.map (·.position) = s.nodes.toList.map (·.position) ++ attempted s id := by
  unfold compileNext at h
  split at h
  · cases h
  · next v places hv =>
    split at h
    · cases h
    · next m hm =>
      obtain ⟨f, hf⟩ := (referAll table ⟨s.positions, []⟩ m.subschemas).positions.exists_agrees
      have position : m.position = s.positions.position id := Node.position_of_compile hm
      have here : attempted s id = [m.position] := by rw [attempted, hv, position]
      rw [renumbers_node table f m _ hf] at h
      rw [here, ← Except.ok.inj h, Array.toList_push, List.map_append, List.map_singleton]
      rfl

theorem compileRound_positions {ids : List NodeId} {t : Later s ids.length}
    (h : compileRound table s ids = .ok t) :
    t.val.nodes.toList.map (·.position) =
      s.nodes.toList.map (·.position) ++ compiledIn table s ids := by
  induction ids generalizing s with
  | nil =>
    cases h
    rw [compiledIn, List.append_nil]
  | cons id ids ih =>
    rw [compileRound] at h
    split at h
    · cases h
    · next u hu hn =>
      split at h
      · cases h
      · next w hw hr =>
        cases h
        rw [compiledIn, hn, ← List.append_assoc, ← compileNext_positions hn]
        exact ih hr

/-- The nodes of the closure are those of the positions that it compiles. -/
theorem close_positions {frontier : List NodeId} {t : Progress}
    (h : close table s frontier = .ok t) :
    t.nodes.toList.map (·.position) =
      s.nodes.toList.map (·.position) ++ compiled table s frontier := by
  fun_induction close table s frontier with
  | case1 s =>
    cases h
    rw [compiled, List.append_nil]
  | case2 => cases h
  | case3 s id ids u hu hr _ ih =>
    rw [ih h, compiled, compileRound_positions hr, List.append_assoc]
    simp only [hr]

/-! ### Positions that follow nodes -/

/-- Some positions can be reached and have values, and they are compiled after those of some nodes,
each once. -/
structure Follows (d : Value) (table : AliasTable) (nodes : List (Node Pointer)) (l : List Pointer) :
    Prop where
  nodup : (nodes.map (·.position) ++ l).Nodup
  reached : ∀ p ∈ l, Reaches d table p
  placed : ∀ p ∈ l, ∃ v, d.at? p = some v

theorem Follows.append {new : List (Node Pointer)} {l : List Pointer}
    (h : Follows d table (nodes ++ new) l) (hl : Follows d table nodes (new.map (·.position))) :
    Follows d table nodes (new.map (·.position) ++ l) := by
  constructor
  · rw [← List.append_assoc, ← List.map_append]
    exact h.nodup
  · exact List.forall_mem_append.2 ⟨hl.reached, h.reached⟩
  · exact List.forall_mem_append.2 ⟨hl.placed, h.placed⟩

namespace Closing

variable {p : Pointer}

theorem follows_nil (h : Closing d table s nodes) : Follows d table nodes [] := by
  refine ⟨?_, by simp, by simp⟩
  rw [List.append_nil]
  exact h.numbered.nodup.sublist h.met.sublist

/-- The next position follows the nodes before it, also if it is refused. -/
theorem follows_attempted (h : Closing d table s nodes)
    (hp : s.positions.order[nodes.length]? = some p) :
    Follows d table nodes (attempted s nodes.length) := by
  unfold attempted
  split
  · exact h.follows_nil
  · next e hv =>
    rw [Positions.position_eq hp] at hv ⊢
    have place := ((h.free p e.1).1 (Places.take?_eq_some h.distinct hv).1).1
    constructor
    · exact h.numbered.nodup.sublist (h.next_met hp List.prefix_rfl).sublist
    · exact List.forall_mem_singleton.2 (h.reached p (Array.mem_of_getElem? hp))
    · exact List.forall_mem_singleton.2 ⟨_, place⟩

/-- What is compiled between two states are the positions of the nodes that are new. -/
theorem compiled_eq {new : List (Node Pointer)} {t : Progress} {l : List Pointer}
    (h : Closing d table s nodes) (ht : Closing d table t (nodes ++ new))
    (hl : t.nodes.toList.map (·.position) = s.nodes.toList.map (·.position) ++ l) :
    l = new.map (·.position) := by
  have positions {s : Progress} {nodes : List (Node Pointer)} (h : Closing d table s nodes) :
      s.nodes.toList.map (·.position) = nodes.map (·.position) := by
    obtain ⟨f, hf⟩ := s.positions.exists_agrees
    rw [h.nodes_eq f hf, List.map_map]
    rfl
  rw [positions h, positions ht, List.map_append] at hl
  exact (List.append_cancel_left hl).symm

theorem follows_compiledIn {k : Nat} (h : Closing d table s nodes)
    (hk : nodes.length + k ≤ s.positions.order.size) :
    Follows d table nodes (compiledIn table s (List.range' nodes.length k)) := by
  induction k generalizing s nodes with
  | zero => exact h.follows_nil
  | succ k ih =>
    have hp := Array.getElem?_eq_getElem (show nodes.length < s.positions.order.size by omega)
    have first := h.follows_attempted hp
    rw [List.range'_succ, compiledIn]
    rcases h.compileNext_cases hp with ⟨n, t, ht, next, grows⟩ | ⟨e, he, -⟩
    · have size := grows.length_le
      rw [Array.length_toList, Array.length_toList] at size
      have rest := ih next (by rw [List.length_append, List.length_singleton]; omega)
      rw [List.length_append, List.length_singleton] at rest
      rw [h.compiled_eq next (compileNext_positions ht)] at first ⊢
      simpa only [ht] using rest.append first
    · simpa only [he, List.append_nil] using first

/-- Whatever the closure compiles follows the nodes that it starts with. -/
theorem follows_compiled (h : Closing d table s nodes) :
    Follows d table nodes (Graph.compiled table s (newIds nodes.length s.positions)) := by
  induction hl : s.places.length using Nat.strongRecOn generalizing s nodes with
  | ind l ih =>
    rcases newIds_cases nodes.length s.positions with ⟨-, frontier⟩ | ⟨k, hk, frontier⟩
    · rw [frontier, Graph.compiled]
      exact h.follows_nil
    · have first := h.follows_compiledIn (Nat.le_of_eq hk)
      have round := h.compileRound_cases (Nat.le_of_eq hk)
      rw [List.range'_succ] at first round
      rw [frontier, Graph.compiled]
      rcases round with ⟨new, ⟨t, places⟩, ht, next, hnew⟩ | ⟨e, p, he, -⟩
      · rw [List.length_cons] at places
        have rest := ih t.places.length (by omega) next rfl
        rw [show (nodes ++ new).length = s.positions.order.size by simp; omega] at rest
        rw [h.compiled_eq next (compileRound_positions ht)] at first ⊢
        simpa only [ht] using rest.append first
      · simpa only [he, List.append_nil] using first

end Closing

/-- The positions that the closure of a document compiles. -/
def compiledOf (d : Value) (table : AliasTable) : List Pointer :=
  let (id, positions) := Positions.empty.intern table .root
  compiled table ⟨positions, d.places .root, #[], #[]⟩ [id]

/-- The nodes that the search for cycles opens. -/
def visited (nodes : Array (Node NodeId)) : List NodeId :=
  Descent.openedAll (inPlace nodes) (List.range nodes.size) [] .nil (List.range nodes.size)

theorem follows_compiledOf (hd : d.IsDocument) : Follows d table [] (compiledOf d table) :=
  (closing_start hd table).follows_compiled

theorem nodup_compiledOf (hd : d.IsDocument) : (compiledOf d table).Nodup :=
  (follows_compiledOf hd).nodup

/-- What is compiled are places of the document. -/
theorem length_compiledOf_le (hd : d.IsDocument) :
    (compiledOf d table).length ≤ (d.places .root).length := by
  have places : compiledOf d table ⊆ (d.places .root).map (·.1) := by
    intro p hp
    obtain ⟨v, hv⟩ := (follows_compiledOf hd).placed p hp
    exact List.mem_map.2 ⟨(p, v), (Value.mem_places hd).2 hv, rfl⟩
  simpa only [List.length_map] using ((nodup_compiledOf hd).subperm places).length_le

theorem canonical_of_mem_compiledOf (hd : d.IsDocument) (hr : Aliases.resolve d = .ok table)
    {p : Pointer} (hp : p ∈ compiledOf d table) : Aliases.canonical table p = p :=
  ((follows_compiledOf hd).reached p hp).canonical_eq hd hr

/-- Every node of a built graph was compiled in its turn. -/
theorem positions_of_build {g : Graph} (hg : build d = .ok g) :
    g.nodes.toList.map (·.position) = compiledOf d g.aliases := by
  simp only [build, bind_eq_ok] at hg
  obtain ⟨table, hr, s, hc, order, -, h⟩ := hg
  cases h
  exact close_positions hc

theorem opens_visited (nodes : Array (Node NodeId)) :
    Descent.Opens (List.range nodes.size) [] (visited nodes) :=
  (Descent.opens_openedAll _ _ List.nodup_range _ _).1

/-- A search that finds no cycle has opened every node. -/
theorem mem_visited_of_descent {nodes : Array (Node NodeId)}
    {order : { l : List NodeId // Descent.Settled (inPlace nodes) l ∧ ∀ id < nodes.size, id ∈ l }}
    (ho : descent nodes = .ok order) {id : NodeId} (hid : id < nodes.size) : id ∈ visited nodes := by
  unfold descent at ho
  cases hs : Descent.settle (inPlace nodes) nodes.size with
  | error m =>
    rw [hs] at ho
    cases ho
  | ok l =>
    obtain ⟨l', ha, same⟩ := Descent.settle_eq_ok hs
    have closed := (Descent.opens_openedAll _ _ List.nodup_range _ _).2 l' ha id
    rw [← same] at closed
    exact (closed.1 (l.property.2 id hid)).resolve_left List.not_mem_nil

/-- Building comes to an end on every document. While references are followed there is at most one
call more in progress than the document has references; the closure compiles positions in canonical
form, none of them twice, and where it misses one the document has no value there; the search for
cycles opens no node twice. -/
theorem build_bounded (hd : d.IsDocument) :
    Aliases.resolveDepth d ≤ (Aliases.localReferences d).length + 1 ∧
    (∀ table, Aliases.resolve d = .ok table →
      (compiledOf d table).Nodup ∧ (∀ p ∈ compiledOf d table, Aliases.canonical table p = p) ∧
      (compiledOf d table).length ≤
        (d.places .root).length + (Aliases.localReferences d).length ∧
      ∀ p, build d = .error (.invalidReference p .missing) → d.at? p = none) ∧
    (∀ nodes : Array (Node NodeId),
      (visited nodes).Nodup ∧ (∀ id ∈ visited nodes, id < nodes.size) ∧
      ∀ order, descent nodes = .ok order → ∀ id < nodes.size, id ∈ visited nodes) ∧
    ((∃ g, build d = .ok g ∧ g.nodes.toList.map (·.position) = compiledOf d g.aliases) ∨
      ∃ e, build d = .error e) := by
  refine ⟨Aliases.resolveDepth_le hd, fun table hr => ?_, fun nodes => ?_, ?_⟩
  · refine ⟨nodup_compiledOf hd, fun p hp => canonical_of_mem_compiledOf hd hr hp,
      Nat.le_add_right_of_le (length_compiledOf_le hd), fun p hb => ?_⟩
    -- a position that came up a second time would be missed, but has a value
    exact (missing_of_build hd hr hb).2
  · have opens := opens_visited nodes
    exact ⟨opens.nodup, fun id hid => List.mem_range.1 (opens.free id hid),
      fun order ho id hid => mem_visited_of_descent ho hid⟩
  · cases hb : build d with
    | error e => exact .inr ⟨e, rfl⟩
    | ok g => exact .inl ⟨g, rfl, positions_of_build hb⟩

/-- Nested arrays are compiled once, although they refer to themselves. -/
theorem bounded_nestedArrays : nestedArrays.IsDocument ∧
    Aliases.resolveDepth nestedArrays ≤ (Aliases.localReferences nestedArrays).length + 1 ∧
    ∃ g, build nestedArrays = .ok g ∧ compiledOf nestedArrays g.aliases = [.root] ∧
      (visited g.nodes).Nodup := by
  obtain ⟨depth, -, search, built⟩ := build_bounded nestedArrays_isDocument
  obtain ⟨g, hg, -, positions⟩ := build_nestedArrays
  refine ⟨nestedArrays_isDocument, depth, g, hg, ?_, (search g.nodes).1⟩
  rcases built with ⟨g', hg', compiled⟩ | ⟨e, he⟩
  · cases hg.symm.trans hg'
    exact compiled.symm.trans positions
  · cases hg.symm.trans he

end Graph
end JsonSchema
