import JsonSchema.Alias
import JsonSchema.Node
/-!
# Numbers of positions

A canonical position gets its number when it is met first, before there is a node of that number
(`Positions.intern`). While a node is compiled, its sub-schemas get their numbers in the order in which
they are read, and the numbers are noted as the references of the node (`refer`).
-/

namespace JsonSchema

/-- The number of a node in its graph. -/
abbrev NodeId := Nat

/-- The positions met so far in the order of their numbers, and the number of each. -/
structure Positions where
  ids : List (Pointer × NodeId)
  order : Array Pointer

namespace Positions

def empty : Positions := ⟨[], #[]⟩

/-- The position of a number, which is the root for a number that was not handed out. -/
def position (s : Positions) (id : NodeId) : Pointer := s.order.getD id .root

/-- The number of what a position stands for, which is the next one if it is met first. -/
def intern (table : AliasTable) (s : Positions) (p : Pointer) : NodeId × Positions :=
  let c := Aliases.canonical table p
  match s.ids.lookup c with
  | some id => (id, s)
  | none => (s.order.size, ⟨(c, s.order.size) :: s.ids, s.order.push c⟩)

end Positions

/-- Distinct numbers in ascending order with one more. -/
def addReference (id : NodeId) : List NodeId → List NodeId
  | [] => [id]
  | r :: rs =>
    if id < r then id :: r :: rs else if id = r then r :: rs else r :: addReference id rs

/-- The distinct numbers of the sub-schemas of a node in ascending order. -/
def Node.references (n : Node NodeId) : List NodeId :=
  n.subschemas.foldl (fun rs id => addReference id rs) []

/-- The numbers of positions, and those that the node under way refers to. -/
structure Referring where
  positions : Positions
  references : List NodeId

/-- The number of a sub-schema, noted as a reference of the node that has it. -/
def refer (table : AliasTable) (p : Pointer) : StateM Referring NodeId :=
  modifyGet fun s =>
    let (id, positions) := s.positions.intern table p
    (id, ⟨positions, addReference id s.references⟩)

end JsonSchema
