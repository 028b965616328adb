import JsonSchema.Proofs.Graph.Build
import JsonSchema.Proofs.Graph.Morphism
import JsonSchema.Proofs.Inlining.Compilation
import JsonSchema.Proofs.Inlining.Resolution
/-!
# The closure after a reference is inlined

Taken back, the positions that can be reached in the changed document could be reached before
(`Inlined.reaches`), and their nodes are the nodes there, with the references taken back
(`Inlined.compiles_put`). So the changed document has a graph (`Inlined.exists_build`).
-/

namespace JsonSchema

open Pointer Value

/-- The position `r` from `p` on as a position from `q` on, a number of tokens further down. -/
def Pointer.move (p q r : Pointer) : Pointer := q.below (r.tokens.drop p.tokens.length)

theorem Pointer.move_below {p q : Pointer} {ts : List String} : p.move q (p.below ts) = q.below ts :=
  congrArg q.below List.drop_left

/-- A reference that is inlined where both documents resolve, in a closed schema. -/
structure Inlined (d : Value) (a c : Pointer) (link copy : Members) (table table' : AliasTable) : Prop
    extends Inlining d a c link copy where
  before : Aliases.resolve d = .ok table
  after : Aliases.resolve (d.put a.tokens (.object copy)) = .ok table'
  canonical : ∀ p, rebase a c (Aliases.canonical table' p) = Aliases.canonical table (rebase a c p)
  compiles : ∀ p, Graph.Reaches d table p → ∃ n, Graph.Compiles d table p n

namespace Inlined

variable {d : Value} {a c p q : Pointer} {link copy ms : Members} {table table' : AliasTable}
  {n m : Node Pointer} {kw t : String} {ts : List String}

theorem canonical_of_plain (h : Inlined d a c link copy table table') (hp : d.request? p = none) :
    Aliases.canonical table p = p :=
  Aliases.canonical_of_plain h.document h.before hp

theorem canonical_reference (h : Inlined d a c link copy table table') :
    Aliases.canonical table a = c := by
  obtain ⟨n, hn⟩ := h.refers
  exact Aliases.canonical_of_refers h.document h.before hn

theorem text (h : Inlined d a c link copy table table') :
    ∃ s, Members.get? link referenceKey = some (.string s) := by
  obtain ⟨t, ht⟩ := Option.ne_none_iff_exists'.1 h.request?_reference
  rw [request?_of_at? h.reference] at ht
  obtain ⟨ms, s, hms, hs⟩ := reference_of_target? ht
  cases hms
  exact ⟨s, hs⟩

/-- Schemas that are referred to from positions in reach compile, so none is a text. -/
theorem ne_string (h : Inlined d a c link copy table table') (hp : Graph.Reaches d table p)
    (hn : Graph.Compiles d table p (m.map (Aliases.canonical table))) (hq : q ∈ m.subschemas)
    (s : String) : d.at? q ≠ some (.string s) := by
  intro hs
  have plain : Aliases.canonical table q = q := by
    refine h.canonical_of_plain ?_
    rw [request?_of_at? hs]
    rfl
  have reached : Graph.Reaches d table q := by
    refine hp.step hn ?_
    rw [Node.subschemas_map]
    exact List.mem_map.2 ⟨q, hq, plain⟩
  obtain ⟨n, v, m, hv, hm, -⟩ := h.compiles q reached
  cases hs.symm.trans hv
  cases hm

/-- A reference one token further down is taken back, up to the reference that is inlined. -/
theorem canonical_child (h : Inlined d a c link copy table table') (p : Pointer) (t : String) :
    Aliases.canonical table (rebase a c (p.child t)) =
      Aliases.canonical table ((rebase a c p).child t) := by
  by_cases ha : p.child t = a
  · rw [rebase_of_child_eq ha, ha, rebase_self, h.canonical_reference,
      h.canonical_of_plain h.request?_original]
  · rw [rebase_child ha]

section

variable (h : Inlined d a c link copy table table') (hp : Graph.Reaches d table (rebase a c p))
  (hv : d.at? (rebase a c p) = some (.object ms))
  (hm : (Keywords.mk (rebase a c p) ms).Reads m)
include h hp hv hm

/-- No keyword with named schemas holds the reference. -/
theorem named (hk : kw ∈ Keywords.naming) : Members.get? ms kw ≠ some (.object link) := by
  intro hl
  obtain ⟨s, hs⟩ := h.text
  have hq := hm.mem_named hk hl (mem_of_lookup hs)
  refine h.ne_string hp ⟨_, m, hv, Node.compile_eq_ok.2 ⟨ms, rfl, hm⟩, rfl⟩ hq s ?_
  rw [at?_child, Keywords.child, at?_child, hv, Option.bind_some]
  rw [show (Value.object ms).child? kw = some (.object link) from hl]
  exact hs

/-- The keywords at a position of the changed document are those that stood there before, moved. The
literals are the same if the reference is not part of them. -/
theorem exists_moved : ∃ ms', (d.put a.tokens (.object copy)).at? p = some (.object ms') ∧
    Keywords.Moved link copy ((rebase a c p).move p) ⟨rebase a c p, ms⟩ ⟨p, ms'⟩ ∧
    ((∀ ts, a ≠ ((rebase a c p).child "enum").below ts) →
      Members.get? ms' "enum" = Members.get? ms "enum") := by
  obtain ⟨v', hv'⟩ := h.exists_at? hv
  have parts := h.parts_of_found hv hv'
  obtain ⟨ms', rfl⟩ : ∃ ms', v' = .object ms' := by
    cases parts with
    | refl => exact ⟨ms, rfl⟩
    | object members => exact ⟨_, rfl⟩
  refine ⟨ms', hv', ?_, fun outside => ?_⟩
  · constructor
    · exact h.text
    · exact parts.member? Replaced.refl
    · exact fun kw hk => named h hp hv hm hk
    · exact fun ts => move_below
  · have outside' : ∀ ts, a ≠ (p.child "enum").below ts := by
      rintro ts rfl
      have above : rebase ((p.child "enum").below ts) c p = p := by
        refine rebase_of_not_below fun us hu => ?_
        have := congrArg (fun q : Pointer => q.tokens.length) hu
        simp [below, Pointer.child] at this
      exact outside ts (by rw [above])
    have same := h.at?_put (p := p.child "enum") fun t ts => outside' (t :: ts)
    rw [rebase_child fun ha => outside' [] (ha.symm.trans below_nil.symm), at?_child, at?_child, hv,
      hv'] at same
    exact same

/-- A reference stands one token further down, or two in the value of a keyword, which is not the
reference that is inlined. -/
theorem exists_child (hq : q ∈ m.subschemas) : ∃ kw, q = (rebase a c p).child kw ∨
    Members.get? ms kw ≠ some (.object link) ∧ ∃ t, q = ((rebase a c p).child kw).child t := by
  cases hm.part hq with
  | value kw => exact ⟨kw, .inl rfl⟩
  | @element kw vs hk i =>
    refine ⟨kw, .inr ⟨?_, toString i, rfl⟩⟩
    rw [show Members.get? ms kw = _ from hk]
    rintro ⟨⟩
  | @named kw _ hn hk name => exact ⟨kw, .inr ⟨named h hp hv hm hn, name, rfl⟩⟩
  | @dependency _ hk valid name =>
    refine ⟨"dependencies", .inr ⟨fun hl => ?_, name, rfl⟩⟩
    cases hl.symm.trans hk
    obtain ⟨s, hs⟩ := h.text
    obtain ⟨e, he⟩ := valid _ (mem_of_lookup hs)
    cases he

/-- Moved there and taken back, a reference is what it was, up to the reference that is inlined. -/
theorem canonical_move (hq : q ∈ m.subschemas) :
    Aliases.canonical table (rebase a c ((rebase a c p).move p q)) = Aliases.canonical table q := by
  obtain ⟨kw, rfl | ⟨hl, t, rfl⟩⟩ := exists_child h hp hv hm hq
  · have moved : (rebase a c p).move p ((rebase a c p).child kw) = p.child kw := move_below
    rw [moved, h.canonical_child]
  · have moved : (rebase a c p).move p (((rebase a c p).child kw).child t) = (p.child kw).child t := by
      rw [child_eq_below, child_eq_below, below_below, move_below, child_eq_below, child_eq_below,
        below_below]
    have hne : p.child kw ≠ a := by
      intro ha
      have reference := h.reference
      rw [← ha, at?_child] at reference
      rw [rebase_of_child_eq ha] at hv
      rw [hv, Option.bind_some] at reference
      exact hl reference
    rw [moved, h.canonical_child, rebase_child hne]

end

/-- The node at a position of the changed document is the one that was there before, with the
references taken back, up to literals that the reference is part of. -/
theorem compiles_put (h : Inlined d a c link copy table table')
    (hp : Graph.Reaches d table (rebase a c p)) (hn : Graph.Compiles d table (rebase a c p) n) :
    ∃ n', Graph.Compiles (d.put a.tokens (.object copy)) table' p n' ∧
      n = { n'.map (rebase a c) with position := n.position, enumeration := n.enumeration } ∧
      ((∀ ts, a ≠ ((rebase a c p).child "enum").below ts) → n'.enumeration = n.enumeration) := by
  obtain ⟨v, m, hv, hm, rfl⟩ := hn
  obtain ⟨ms, rfl, hr⟩ := Node.compile_eq_ok.1 hm
  obtain ⟨ms', hv', moved, literals⟩ := exists_moved h hp hv hr
  obtain ⟨es, hes, same⟩ := moved.reads hr
  refine ⟨_, ⟨_, _, hv', Node.compile_eq_ok.2 ⟨ms', rfl, hes⟩, rfl⟩, ?_, fun outside =>
    same (literals outside)⟩
  change m.map (Aliases.canonical table) =
    ((m.map ((rebase a c p).move p)).map (Aliases.canonical table')).map (rebase a c)
  rw [Node.map_map, Node.map_map]
  refine Node.map_congr fun q hq => ?_
  rw [Function.comp_apply, Function.comp_apply, h.canonical, canonical_move h hp hv hr hq]

/-- Taken back, what can be reached in the changed document could be reached before. -/
theorem reaches (h : Inlined d a c link copy table table')
    (hp : Graph.Reaches (d.put a.tokens (.object copy)) table' p) :
    Graph.Reaches d table (rebase a c p) := by
  induction hp with
  | root =>
    rw [h.canonical, rebase_root h.inner]
    exact .root
  | @step p n q _ hn hq ih =>
    obtain ⟨m, hm⟩ := h.compiles _ ih
    obtain ⟨n', hn', he, -⟩ := h.compiles_put ih hm
    cases hn.unique hn'
    refine ih.step hm ?_
    rw [he]
    change rebase a c q ∈ (n.map (rebase a c)).subschemas
    rw [Node.subschemas_map]
    exact List.mem_map_of_mem hq

theorem exists_compiles (h : Inlined d a c link copy table table')
    (hp : Graph.Reaches (d.put a.tokens (.object copy)) table' p) :
    ∃ n n', Graph.Compiles d table (rebase a c p) n ∧
      Graph.Compiles (d.put a.tokens (.object copy)) table' p n' ∧
      n = { n'.map (rebase a c) with position := n.position, enumeration := n.enumeration } ∧
      ((∀ ts, a ≠ ((rebase a c p).child "enum").below ts) → n'.enumeration = n.enumeration) := by
  obtain ⟨n, hn⟩ := h.compiles _ (h.reaches hp)
  obtain ⟨n', hn', he, literals⟩ := h.compiles_put (h.reaches hp) hn
  exact ⟨n, n', hn, hn', he, literals⟩

/-! ### The graph of the changed document -/

variable {g g' : Graph} {nodes nodes' : List (Node Pointer)}

/-- The changed document has a graph. -/
theorem exists_build (h : Inlined d a c link copy table table') (hg : Graph.Built d g nodes)
    (ht : g.aliases = table) : ∃ g', Graph.build (d.put a.tokens (.object copy)) = .ok g' ∧
      g'.aliases = table' := by
  refine Graph.exists_build_of_rank h.put_isDocument h.after (fun p hp => ?_)
    (fun p => g.rank (Graph.index nodes (rebase a c p))) fun p n' hp hn' q hq => ?_
  · obtain ⟨n, n', -, hn', -⟩ := h.exists_compiles hp
    exact ⟨n', hn'⟩
  · obtain ⟨n, n'', hn, hn'', he, -⟩ := h.exists_compiles hp
    cases hn'.unique hn''
    subst ht
    refine hg.rank_lt hn (h.reaches hp) ?_
    rw [he]
    change rebase a c q ∈ (n'.map (rebase a c)).inPlace
    rw [Node.inPlace_map]
    exact List.mem_map_of_mem hq

/-- The graph of the changed document maps to the one before, if the reference is not part of
literals. -/
theorem exists_morphism (h : Inlined d a c link copy table table') (hg : Graph.Built d g nodes)
    (ht : g.aliases = table) (hg' : Graph.Built (d.put a.tokens (.object copy)) g' nodes')
    (ht' : g'.aliases = table')
    (literals : ∀ p, Graph.Reaches d table p → ∀ ts, a ≠ (p.child "enum").below ts) :
    ∃ f, Graph.Morphism g' g (· < nodes'.length) f ∧ f Graph.root = Graph.root := by
  subst ht ht'
  let position : NodeId → Pointer := fun i => (nodes'[i]?.map (·.position)).getD .root
  let f : NodeId → NodeId := fun i => Graph.index nodes (rebase a c (position i))
  have f_index : ∀ {p}, Graph.Reaches (d.put a.tokens (.object copy)) g'.aliases p →
      f (Graph.index nodes' p) = Graph.index nodes (rebase a c p) := by
    intro p hp
    have := Graph.position_index (hg'.closed.index_lt hp)
    simp [f, position, hg'.closed.index_lt hp, this]
  refine ⟨f, ⟨fun i hi m hm => ?_, fun i hi => ?_⟩, ?_⟩
  · obtain ⟨p, n', hp, hn', -, hnode⟩ := hg'.exists_position hi
    rw [hnode, Node.subschemas_map] at hm
    obtain ⟨q, hq, rfl⟩ := List.mem_map.1 hm
    exact hg'.closed.index_lt (hp.step hn' hq)
  · obtain ⟨p, n', hp, hn', rfl, hnode⟩ := hg'.exists_position hi
    obtain ⟨n, n'', hn, hn'', he, same⟩ := h.exists_compiles hp
    cases hn'.unique hn''
    rw [← same (literals _ (h.reaches hp))] at he
    refine ⟨n.position, ?_⟩
    rw [f_index hp, hg.node_index hn (h.reaches hp), hnode]
    have renamed : (n'.map (rebase a c)).map (Graph.index nodes) =
        (n'.map (Graph.index nodes')).map f := by
      rw [Node.map_map, Node.map_map]
      exact Node.map_congr fun q hq => (f_index (hp.step hn' hq)).symm
    calc n.map (Graph.index nodes)
        = { (n'.map (rebase a c)).map (Graph.index nodes) with position := n.position } :=
          congrArg (Node.map (Graph.index nodes)) he
      _ = _ := by rw [renamed]
  · have root := f_index .root
    rw [h.canonical, rebase_root h.inner] at root
    calc f Graph.root = f (Graph.index nodes' (g'.canonical .root)) := by rw [hg'.root_eq]
      _ = Graph.index nodes (g.canonical .root) := root
      _ = Graph.root := hg.root_eq

end Inlined
end JsonSchema
