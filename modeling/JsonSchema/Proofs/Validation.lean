import Mathlib
import JsonSchema.Proofs.Building
import JsonSchema.Proofs.Graph.Build
import JsonSchema.Proofs.Session.Validation
/-!
# Validation against built graphs

A session on a node of a built graph, fed the events of a value, accepts exactly if the value
satisfies the node.
-/

namespace JsonSchema.Graph

/-- Streaming validation equals the declarative meaning of the schema, on each node of a built graph
and for every value, also one whose objects repeat names. -/
theorem verdict_iff_satisfies {d : Value} {g : Graph} (hd : d.IsDocument) (hg : build d = .ok g)
    (id : NodeId) (v : Value) :
    ((Session.start g id).feedAll g v.events).verdict g = true ↔ g.Satisfies id v :=
  Session.accepts_iff_satisfies (sound_of_build hd hg) v id

/-- A schema that refers to itself: arrays of arrays. -/
def nestedArrays : Value :=
  .object [("items", .object [("$ref", .string "#")]), ("type", .string "array")]

theorem nestedArrays_isDocument : nestedArrays.IsDocument :=
  Value.isDocument_iff.2 ⟨nestedArrays.events, rfl⟩

theorem build_nestedArrays : ∃ g, build nestedArrays = .ok g ∧
    g.aliases = [(⟨["items"]⟩, .root)] ∧ g.nodes.toList.map (·.position) = [.root] := by
  let table : AliasTable := [(⟨["items"]⟩, .root)]
  let node : Node NodeId := { Node.unconstrained .root with
    types := some [.array]
    array := ⟨some (.uniform root), none, none, none, false⟩ }
  have resolved : Aliases.resolve nestedArrays = .ok table := by cbv
  have closed : (closure table nestedArrays).map (·.nodes) = .ok #[node] := by cbv
  obtain ⟨g, hg, ha, hn, -⟩ := exists_build_single resolved closed rfl
  exact ⟨g, hg, ha, by rw [hn]; rfl⟩

/-- What nested arrays are is decided by a session on their schema. -/
theorem verdict_nestedArrays : nestedArrays.IsDocument ∧ ∃ g, build nestedArrays = .ok g ∧
    ∀ v : Value,
      ((Session.start g root).feedAll g v.events).verdict g = true ↔ g.Satisfies root v := by
  obtain ⟨g, hg, -⟩ := build_nestedArrays
  exact ⟨nestedArrays_isDocument, g, hg, verdict_iff_satisfies nestedArrays_isDocument hg root⟩

end JsonSchema.Graph
