import Mathlib
import JsonSchema.Proofs.Graph.Indexing
import JsonSchema.Proofs.Session.Placement
/-!
# How deep sessions nest

The edges from a node to those that it applies to the same value descend, so no node comes back
along a chain of branches, made or still to be made (`descends_of_isChain`). What a session asks of
its children, these of theirs and so on comes to an end as well, and so `verdict` and `feed` are the
only functions that satisfy the equations for a single session (`decides_iff`, `takes_iff`).
-/

namespace JsonSchema.Session

variable {g : Graph} {s : Session} {id : NodeId}

/-! ### Chains of branches -/

/-- A child of a session, or one that it will have as soon as it makes its branches. -/
def Child (g : Graph) (s c : Session) : Prop :=
  c ∈ s.children.toList ∨ c ∈ (s.touch g).children.toList

/-- A branch of a session, or one that it will have as soon as it makes its branches. -/
def Branch (g : Graph) (s c : Session) : Prop :=
  c ∈ s.children.branches ∨ c ∈ (s.touch g).children.branches

/-- The session is on the node of this number. -/
def On (g : Graph) (id : NodeId) (s : Session) : Prop := id < g.size ∧ s.node = g.node id

theorem Placed.child {c : Session} (h : Placed g s) (hc : Child g s c) :
    Among g s.node.subschemas c ∧ Placed g c := by
  have of_mem {t : Session} (ht : Placed g t) (hn : t.node = s.node) (hc : c ∈ t.children.toList) :
      Among g s.node.subschemas c ∧ Placed g c := by
    obtain ⟨parts, branches⟩ := Children.all_iff_forall_mem.1 (placed_iff.1 ht)
    rw [← hn]
    rcases Children.mem_toList_iff.1 hc with hc | hc
    · exact parts c hc
    · obtain ⟨⟨m, hm, on⟩, placed⟩ := branches c hc
      exact ⟨⟨m, Node.inPlace_subset _ hm, on⟩, placed⟩
  exact hc.elim (of_mem h rfl) (of_mem h.touch node_touch)

theorem Placed.branch {c : Session} (h : Placed g s) (hc : Branch g s c) :
    Among g s.node.inPlace c ∧ Placed g c := by
  have of_mem {t : Session} (ht : Placed g t) (hn : t.node = s.node)
      (hc : c ∈ t.children.branches) : Among g s.node.inPlace c ∧ Placed g c := by
    rw [← hn]
    exact (Children.all_iff_forall_mem.1 (placed_iff.1 ht)).2 c hc
  exact hc.elim (of_mem h rfl) (of_mem h.touch node_touch)

section Built

variable {c : Session} {cs : List Session} {d : Value} {nodes : List (Node Pointer)}
  (hg : Graph.Built d g nodes)
include hg

theorem On.unique {i j : NodeId} (hi : On g i s) (hj : On g j s) : i = j :=
  hg.distinct hi.1 hj.1 (by rw [← hi.2, ← hj.2])

theorem On.of_among {ms : List NodeId} (hs : On g id s) (hms : ms ⊆ s.node.subschemas)
    (hc : Among g ms c) : ∃ m ∈ ms, On g m c := by
  obtain ⟨m, hm, on⟩ := hc
  refine ⟨m, hm, hg.subschema_lt hs.1 ?_, on⟩
  rw [← hs.2]
  exact hms hm

/-- Every session below one that is on a node is on a node. -/
theorem on_of_below (hs : On g id s) (placed : Placed g s)
    (below : Relation.ReflTransGen (Child g) s c) : Placed g c ∧ ∃ m, On g m c := by
  induction below with
  | refl => exact ⟨placed, id, hs⟩
  | tail _ hc ih =>
    obtain ⟨placed, m, on⟩ := ih
    obtain ⟨among, placed⟩ := placed.child hc
    obtain ⟨m, -, on⟩ := On.of_among hg on (List.Subset.refl _) among
    exact ⟨placed, m, on⟩

/-- Along a chain of branches the ranks of the nodes descend. -/
theorem descends_of_isChain (hs : On g id s) (placed : Placed g s)
    (chain : List.IsChain (Branch g) (s :: cs)) :
    (∀ c ∈ cs, ∃ m, On g m c ∧ g.rank m < g.rank id) ∧
    (s :: cs).Pairwise fun a b => ∀ m, ¬(On g m a ∧ On g m b) := by
  -- the ranks are below that of the head, so the head is none of the others
  induction cs generalizing s id with
  | nil => simp
  | cons c cs ih =>
    obtain ⟨hc, rest⟩ := List.isChain_cons_cons.1 chain
    obtain ⟨among, placed⟩ := placed.branch hc
    obtain ⟨m, hm, on⟩ := On.of_among hg hs (Node.inPlace_subset _) among
    rw [hs.2] at hm
    obtain ⟨ranks, apart⟩ := ih on placed rest
    have below : ∀ d ∈ c :: cs, ∃ k, On g k d ∧ g.rank k < g.rank id := by
      intro d hd
      rcases List.mem_cons.1 hd with rfl | hd
      · exact ⟨m, on, g.rank_lt hm⟩
      · obtain ⟨k, hk, lt⟩ := ranks d hd
        exact ⟨k, hk, lt.trans (g.rank_lt hm)⟩
    refine ⟨below, List.pairwise_cons.2 ⟨fun d hd k hk => ?_, apart⟩⟩
    obtain ⟨j, hj, lt⟩ := below d hd
    rw [On.unique hg hk.1 hs] at hk
    rw [On.unique hg hj hk.2] at lt
    exact Nat.lt_irrefl _ lt

end Built

theorem length_le_size {cs : List Session} (all : ∀ c ∈ cs, ∃ m, On g m c)
    (apart : cs.Pairwise fun a b => ∀ m, ¬(On g m a ∧ On g m b)) : cs.length ≤ g.size := by
  choose! number on using all
  have nodup : (cs.map number).Nodup := by
    rw [List.Nodup, List.pairwise_map]
    refine apart.imp_of_mem fun {a b} ha hb distinct same => ?_
    exact distinct (number a) ⟨on a ha, same ▸ on b hb⟩
  have inside : cs.map number ⊆ List.range g.size := by
    intro m hm
    obtain ⟨c, hc, rfl⟩ := List.mem_map.1 hm
    exact List.mem_range.2 (on c hc).1
  simpa using (nodup.subperm inside).length_le

/-! ### The recursion of sessions -/

/-- A function decides on a session as `verdict` does, by asking itself about the children. -/
def Decides (g : Graph) (f : Session → Bool) : Prop :=
  ∀ s, f s = (s.touch g).concludes ((s.touch g).children.map f)

/-- A function takes events as `feed` does, by passing them on to itself for the children. -/
def Takes (g : Graph) (f : Event → Session → Session) : Prop :=
  ∀ e s, f e s = if e.isBinary then s.touch g else
    (((s.touch g).prepare g e).absorb (((s.touch g).prepare g e).children.map (f e))).conclude g e

theorem takes_feed : Takes g (feed g) := by
  intro e s
  cases he : e.isBinary with
  | true => rw [if_pos rfl, feed_binary g he]
  | false =>
    rw [if_neg Bool.false_ne_true, feed_eq g he]
    rfl

theorem decides_iff {f : Session → Bool} : Decides g f ↔ f = verdict g := by
  refine ⟨fun h => ?_, fun h => h ▸ verdict_eq g⟩
  funext s
  -- by induction on the weight: what is asked about is lighter
  induction hw : s.weight g using Nat.strong_induction_on generalizing s with
  | _ w ih =>
    subst hw
    rw [h s, verdict_eq]
    refine congrArg _ (Children.map_congr fun c hc => ?_)
    exact ih _ (weight_child_touch g hc) c rfl

theorem takes_iff {f : Event → Session → Session} : Takes g f ↔ f = feed g := by
  refine ⟨fun h => ?_, fun h => h ▸ takes_feed⟩
  funext e s
  induction hw : s.weight g using Nat.strong_induction_on generalizing s with
  | _ w ih =>
    subst hw
    rw [h e s, takes_feed e s]
    congr 1
    refine congrArg (fun c => (absorb _ c).conclude g e) (Children.map_congr fun c hc => ?_)
    exact ih _ (weight_child_touch g (mem_prepare g hc)) c rfl

theorem wellFounded_child : WellFounded fun c s : Session => Child g s c :=
  Subrelation.wf (fun hc => hc.elim (weight_child g) (weight_child_touch g)) (measure (weight g)).wf

/-- At and below a session that has taken any events, well formed or not, no node comes back along a
chain of branches, so such a chain is no longer than the graph has nodes. What a session asks of its
children comes to an end, so the equations for a single session determine the verdict and the effect
of an event. -/
theorem nesting_ends {d : Value} (hd : d.IsDocument) (hg : Graph.build d = .ok g)
    (hid : id < g.size) (es : List Event) :
    (∀ s, Relation.ReflTransGen (Child g) ((start g id).feedAll g es) s →
      ∀ cs, List.IsChain (Branch g) (s :: cs) →
        (∀ c ∈ s :: cs, ∃! m, On g m c) ∧
        ((s :: cs).Pairwise fun a b => ∀ m, ¬(On g m a ∧ On g m b)) ∧
        (s :: cs).length ≤ g.size) ∧
    (WellFounded fun c s : Session => Child g s c) ∧
    (∀ f, Decides g f ↔ f = verdict g) ∧ ∀ f, Takes g f ↔ f = feed g := by
  obtain ⟨nodes, built⟩ := Graph.built_of_build hd hg
  refine ⟨fun s below cs chain => ?_, wellFounded_child, fun f => decides_iff, fun f => takes_iff⟩
  have top : On g id ((start g id).feedAll g es) := ⟨hid, node_feedAll es⟩
  obtain ⟨placed, i, on⟩ := on_of_below built top ((placed_start id).feedAll es) below
  obtain ⟨ranks, apart⟩ := descends_of_isChain built on placed chain
  have all : ∀ c ∈ s :: cs, ∃ m, On g m c := by
    intro c hc
    rcases List.mem_cons.1 hc with rfl | hc
    · exact ⟨i, on⟩
    · obtain ⟨m, hm, -⟩ := ranks c hc
      exact ⟨m, hm⟩
  refine ⟨fun c hc => ?_, apart, length_le_size all apart⟩
  obtain ⟨m, hm⟩ := all c hc
  exact ⟨m, hm, fun k hk => On.unique built hk hm⟩

/-- A schema that refers to itself from inside a branch: null, or an object with a `next` of the
same form. -/
def linkedList : Value :=
  .object [("anyOf", .array [.object [("type", .string "null")],
    .object [("properties", .object [("next", .object [("$ref", .string "#")])]),
      ("type", .string "object")]])]

theorem build_linkedList : ∃ g, Graph.build linkedList = .ok g ∧ g.size = 3 := by
  let next : Pointer := ⟨["anyOf", "1", "properties", "next"]⟩
  let root : Node NodeId := { Node.unconstrained .root with composition := ⟨[], [1, 2], [], none⟩ }
  let null : Node NodeId := { Node.unconstrained ⟨["anyOf", "0"]⟩ with types := some [.null] }
  let link : Node NodeId := { Node.unconstrained ⟨["anyOf", "1"]⟩ with
    types := some [.object]
    object := ⟨none, none, [], [("next", Graph.root)], [], none, [], []⟩ }
  have resolved : Aliases.resolve linkedList = .ok [(next, .root)] := by cbv
  have closed : (Graph.closure [(next, .root)] linkedList).map (·.nodes) =
      .ok #[root, null, link] := by cbv
  obtain ⟨s, hs, nodes⟩ := map_eq_ok.1 closed
  obtain ⟨g, hg, -, hn⟩ := Graph.exists_build resolved hs <|
    Descent.settle_isOk (r := fun i => 3 - i) fun i hi j hj => by
      rw [nodes] at hi hj ⊢
      have numbered : i < 3 := hi
      obtain rfl | rfl | rfl : i = 0 ∨ i = 1 ∨ i = 2 := by omega
      · have listed : j = 1 ∨ j = 2 := by simpa using (show j ∈ [1, 2] from hj)
        rcases listed with rfl | rfl <;> decide
      · cases hj
      · cases hj
  exact ⟨g, hg, by rw [Graph.size, hn, nodes]; rfl⟩

/-- Below the branch of a linked list there is another list, but no longer chain of branches. -/
theorem nesting_linkedList : linkedList.IsDocument ∧ ∃ g, Graph.build linkedList = .ok g ∧
    Graph.root < g.size ∧ ∀ s, Relation.ReflTransGen (Child g)
      ((start g Graph.root).feedAll g [.beginObject, .key "next", .beginObject, .null]) s →
      ∀ cs, List.IsChain (Branch g) (s :: cs) → (s :: cs).length ≤ 3 := by
  have document : linkedList.IsDocument := Value.isDocument_iff.2 ⟨linkedList.events, rfl⟩
  obtain ⟨g, hg, size⟩ := build_linkedList
  have first : Graph.root < g.size := by
    rw [size]
    decide
  refine ⟨document, g, hg, first, fun s below cs chain => ?_⟩
  rw [← size]
  exact ((nesting_ends document hg first _).1 s below cs chain).2.2

end JsonSchema.Session
