import Mathlib
import JsonSchema.Graph
import JsonSchema.Proofs.Graph.Descending
import JsonSchema.Proofs.Satisfaction
/-!
# Nodes that apply themselves again

The edges that the search for cycles follows lead from a node to those that it applies to the same
value (`Graph.edge_inPlace_iff`). So nodes are refused exactly if some of them apply themselves to
the same value again (`Graph.descent_fails_iff`).
-/

namespace JsonSchema.Graph

variable {nodes : Array (Node NodeId)} {i j : NodeId}

/-- The node of one number applies that of another to the value that it is applied to itself. -/
def AppliesInPlace (nodes : Array (Node NodeId)) (i j : NodeId) : Prop :=
  ∃ n, nodes[i]? = some n ∧ (j ∈ n.composition.allOf ∨ j ∈ n.composition.anyOf ∨
    j ∈ n.composition.oneOf ∨ n.composition.not = some j ∨
      ∃ k, (k, j) ∈ n.object.schemaDependencies)

theorem edge_inPlace_iff : Descent.Edge (inPlace nodes) i j ↔ AppliesInPlace nodes i j := by
  rw [Descent.Edge, inPlace, AppliesInPlace]
  cases hn : nodes[i]? with
  | none => simp
  | some n => simp [Node.mem_inPlace]

theorem transGen_inPlace_iff : Relation.TransGen (Descent.Edge (inPlace nodes)) i j ↔
    Relation.TransGen (AppliesInPlace nodes) i j := by
  have same : Descent.Edge (inPlace nodes) = AppliesInPlace nodes := by
    funext i j
    exact propext edge_inPlace_iff
  rw [same]

/-- What leads anywhere is the number of a node. -/
theorem lt_size_of_transGen (h : Relation.TransGen (AppliesInPlace nodes) i j) :
    i < nodes.size := by
  obtain ⟨k, ⟨n, hn, -⟩, -⟩ := Relation.TransGen.head'_iff.1 h
  exact (Array.getElem?_eq_some_iff.1 hn).1

/-- Nodes are refused exactly if some of them apply themselves to the same value again and again,
and the position in the error is that of one of these. -/
theorem descent_fails_iff (inside : ∀ n ∈ nodes, ∀ m ∈ n.inPlace, m < nodes.size) :
    ((∃ e, descent nodes = .error e) ↔ ∃ i, Relation.TransGen (AppliesInPlace nodes) i i) ∧
    ∀ e, descent nodes = .error e → ∃ i n, nodes[i]? = some n ∧ e = .notDescending n.position ∧
      Relation.TransGen (AppliesInPlace nodes) i i := by
  have edges_inside : ∀ i < nodes.size, ∀ m ∈ inPlace nodes i, m < nodes.size := by
    intro i hi m hm
    rw [inPlace, Array.getElem?_eq_getElem hi] at hm
    exact inside nodes[i] (Array.getElem_mem hi) m hm
  have found : ∀ e, descent nodes = .error e → ∃ i n, nodes[i]? = some n ∧
      e = .notDescending n.position ∧ Relation.TransGen (AppliesInPlace nodes) i i := by
    intro e he
    unfold descent at he
    cases hs : Descent.settle (inPlace nodes) nodes.size with
    | ok l =>
      rw [hs] at he
      cases he
    | error i =>
      obtain ⟨hi, cycle⟩ := Descent.settle_error edges_inside hs
      have hn : nodes[i]? = some nodes[i] := Array.getElem?_eq_getElem hi
      refine ⟨i, nodes[i], hn, ?_, transGen_inPlace_iff.1 cycle⟩
      rw [hs] at he
      simp only [hn, Option.map_some, Option.getD_some] at he
      exact (Except.error.inj he).symm
  refine ⟨⟨?_, ?_⟩, found⟩
  · rintro ⟨e, he⟩
    obtain ⟨i, -, -, -, cycle⟩ := found e he
    exact ⟨i, cycle⟩
  · rintro ⟨i, cycle⟩
    cases hd : descent nodes with
    | error e => exact ⟨e, rfl⟩
    | ok l =>
      obtain ⟨l, settled, listed⟩ := l
      exact absurd (transGen_inPlace_iff.2 cycle)
        (settled.not_cycle (listed i (lt_size_of_transGen cycle)))

/-- The root applies a node that applies itself again by way of a third one. -/
def circling : Array (Node NodeId) :=
  #[{ Node.unconstrained .root with composition := ⟨[1], [], [], none⟩ },
    { Node.unconstrained ⟨["definitions", "a"]⟩ with composition := ⟨[], [2], [], none⟩ },
    { Node.unconstrained ⟨["definitions", "b"]⟩ with
      object := ⟨none, none, [], [], [], none, [], [("name", 1)]⟩ }]

/-- The search begins at the root, but finds the cycle below it. -/
theorem descent_circling : (∀ n ∈ circling, ∀ m ∈ n.inPlace, m < circling.size) ∧
    descent circling = .error (.notDescending ⟨["definitions", "a"]⟩) ∧
    ∃ i n, circling[i]? = some n ∧ n.position = ⟨["definitions", "a"]⟩ ∧
      Relation.TransGen (AppliesInPlace circling) i i := by
  have inside : ∀ n ∈ circling, ∀ m ∈ n.inPlace, m < circling.size := by decide
  have fails : descent circling = .error (.notDescending ⟨["definitions", "a"]⟩) := by cbv
  obtain ⟨i, n, hn, position, cycle⟩ := (descent_fails_iff inside).2 _ fails
  exact ⟨inside, fails, i, n, hn, (SchemaError.notDescending.inj position).symm, cycle⟩

end JsonSchema.Graph
