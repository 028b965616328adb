import JsonSchema.Graph.Descent
import JsonSchema.Graph.Positions
import JsonSchema.Node.Compile
/-!
# Schema graphs

A `Graph` holds one node for each canonical position reachable from the root of a document, numbered
in the order of discovery, so that references share nodes instead of being expanded. It also carries
the evidence that no node applies itself to the same value again: a list in which every such edge
points onward, which bounds the recursion of everything that follows those edges (`Graph.rank_lt`).
-/

namespace JsonSchema

/-! ### Places of a document -/

/-- Positions with the values found there. -/
abbrev Places := List (Pointer × Value)

mutual

/-- Every position in a value at `p`, with its value. -/
def Value.places (p : Pointer) : Value → Places
  | .array items => (p, .array items) :: elementPlaces p 0 items
  | .object ms => (p, .object ms) :: memberPlaces p ms
  | v => [(p, v)]

/-- The positions in the elements of an array at `p`, from index `i` on. -/
def Value.elementPlaces (p : Pointer) (i : Nat) : List Value → Places
  | [] => []
  | v :: vs => v.places (p.index i) ++ elementPlaces p (i + 1) vs

/-- The positions in the members of an object at `p`. -/
def Value.memberPlaces (p : Pointer) : List (String × Value) → Places
  | [] => []
  | (k, v) :: ms => v.places (p.child k) ++ memberPlaces p ms

end

/-- The value at a position and the places without it. -/
def Places.take? (p : Pointer) : Places → Option (Value × Places)
  | [] => none
  | (q, v) :: l => if q = p then some (v, l) else (take? p l).map fun (w, l') => (w, (q, v) :: l')

theorem Places.take?_length {p : Pointer} {l l' : Places} {v : Value}
    (h : Places.take? p l = some (v, l')) : l'.length < l.length := by
  induction l generalizing v l' with
  | nil => cases h
  | cons e l ih =>
    simp only [take?] at h
    split at h
    · cases h; simp
    · simp only [Option.map_eq_some_iff, Prod.mk.injEq] at h
      obtain ⟨⟨w, m⟩, hm, _, rfl⟩ := h
      have := ih hm
      simp only [List.length_cons]
      omega

/-! ### Closure -/

namespace Graph

/-- The closure of a document under way: the numbers handed out, the places that are not compiled yet,
and the nodes compiled so far with the numbers that each refers to. -/
structure Progress where
  positions : Positions
  places : Places
  nodes : Array (Node NodeId)
  references : Array (List NodeId)

/-- A later state, in which at least `n` places have been compiled since. -/
abbrev Later (s : Progress) (n : Nat) : Type :=
  { t : Progress // t.places.length + n ≤ s.places.length }

/-- Compiles the node of a number. Its sub-schemas get theirs once all its keywords are read, which
makes no difference, since a fault in one of them is the end of the whole closure. -/
def compileNext (table : AliasTable) (s : Progress) (id : NodeId) : Except SchemaError (Later s 1) :=
  match hp : s.places.take? (s.positions.position id) with
  | none => .error (.invalidReference (s.positions.position id) .missing)
  | some (v, places) =>
    match Node.compile (s.positions.position id) v with
    | .error e => .error e
    | .ok n =>
      let (n, r) := (n.mapM (refer table)).run ⟨s.positions, []⟩
      .ok ⟨⟨r.positions, places, s.nodes.push n, s.references.push r.references⟩,
        Places.take?_length hp⟩

/-- Compiles the nodes of numbers in order. -/
def compileRound (table : AliasTable) (s : Progress) :
    (ids : List NodeId) → Except SchemaError (Later s ids.length)
  | [] => .ok ⟨s, Nat.le_refl _⟩
  | id :: ids =>
    match compileNext table s id with
    | .error e => .error e
    | .ok ⟨t, ht⟩ =>
      match compileRound table t ids with
      | .error e => .error e
      | .ok ⟨u, hu⟩ => .ok ⟨u, by rw [List.length_cons]; omega⟩

/-- The numbers handed out since there were `n`. -/
def newIds (n : Nat) (s : Positions) : List NodeId := List.range' n (s.order.size - n)

/-- Compiles in rounds: after the numbers in `frontier` come those handed out meanwhile, until there
are none. A position is compiled once and takes its place away, so this ends. -/
def close (table : AliasTable) (s : Progress) (frontier : List NodeId) : Except SchemaError Progress :=
  match frontier with
  | [] => .ok s
  | id :: ids =>
    match compileRound table s (id :: ids) with
    | .error e => .error e
    | .ok ⟨t, ht⟩ =>
      have : t.places.length < s.places.length := by rw [List.length_cons] at ht; omega
      close table t (newIds s.positions.order.size t.positions)
termination_by s.places.length

/-- The closure of a document, which starts at the root. -/
def closure (table : AliasTable) (document : Value) : Except SchemaError Progress :=
  let (id, positions) := Positions.empty.intern table .root
  close table ⟨positions, document.places .root, #[], #[]⟩ [id]

/-- The numbers that a node applies to its own value, none for a number without node. -/
def inPlace (nodes : Array (Node NodeId)) (id : NodeId) : List NodeId :=
  match nodes[id]? with
  | some n => n.inPlace
  | none => []

/-- The numbers of nodes in an order in which every in-place edge points onward, unless some node
applies itself to the same value again. -/
def descent (nodes : Array (Node NodeId)) : Except SchemaError
    { l : List NodeId // Descent.Settled (inPlace nodes) l ∧ ∀ id < nodes.size, id ∈ l } :=
  match Descent.settle (inPlace nodes) nodes.size with
  | .ok l => .ok l
  | .error id => .error (.notDescending ((nodes[id]?.map (·.position)).getD .root))

end Graph

/-- A compiled schema document. -/
structure Graph where
  document : Value
  aliases : AliasTable
  nodes : Array (Node NodeId)
  /-- The distinct numbers that each node refers to, in ascending order. -/
  references : Array (List NodeId)
  /-- The index: the number of each position that has a node. -/
  ids : List (Pointer × NodeId)
  /-- The nodes in an order in which every in-place edge points onward. -/
  order : List NodeId
  settled : Descent.Settled (Graph.inPlace nodes) order
  listed : ∀ id < nodes.size, id ∈ order

namespace Graph

/-- The graph of a document. -/
def build (document : Value) : Except SchemaError Graph := do
  let aliases ← Aliases.resolve document
  let ⟨positions, _, nodes, references⟩ ← closure aliases document
  let order ← descent nodes
  return ⟨document, aliases, nodes, references, positions.ids, order.1, order.2.1, order.2.2⟩

/-- The node of a number; one that has none stands for the schema without keywords. -/
def node (g : Graph) (id : NodeId) : Node NodeId := (g.nodes[id]?).getD (.unconstrained .root)

/-- The numbers that a node refers to, none for a number without node. -/
def referencesOf (g : Graph) (id : NodeId) : List NodeId := g.references.getD id []

/-- The number of the root. -/
def root : NodeId := 0

/-- The number of nodes. -/
def size (g : Graph) : Nat := g.nodes.size

/-- The position that holds the value of position `p`. -/
def canonical (g : Graph) (p : Pointer) : Pointer := Aliases.canonical g.aliases p

/-- The node compiled for the value of a position. -/
def lookup (g : Graph) (p : Pointer) : Except LookupError NodeId :=
  match g.ids.lookup (g.canonical p) with
  | some id => .ok id
  | none => .error ⟨p⟩

/-- A bound on the length of chains of in-place edges from a node. -/
def rank (g : Graph) (id : NodeId) : Nat := Descent.rank id g.order

theorem rank_lt (g : Graph) {id m : NodeId} (h : m ∈ (g.node id).inPlace) :
    g.rank m < g.rank id := by
  by_cases hid : id < g.nodes.size
  · refine Descent.rank_lt g.settled (g.listed id hid) ?_
    simpa [node, inPlace, Array.getElem?_eq_getElem hid] using h
  · simp [node, Array.getElem?_eq_none (Nat.le_of_not_lt hid), Node.inPlace, Node.unconstrained,
      Composition.schemas] at h

end Graph
end JsonSchema
