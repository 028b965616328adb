import JsonSchema.Comparator
import JsonSchema.Digest
import JsonSchema.Graph
import JsonSchema.Session.Children
/-!
# Validation sessions

A `Session` decides, event by event, whether one value satisfies one node of a graph. It keeps only
what the decision needs: a counter for each open aggregate, the literals of `enum` that still agree,
and child sessions for the schemas that apply to the value itself or to the part of it that is being
described. Every step on the way of an event looks first whether the session has failed; one that
has failed only goes on counting.

Sessions on the branches of a node are made when its first event comes, and they make branches of
their own in turn. This ends because the branches of a node come after it in the order of the graph:
`Session.weight` counts the sessions that there are and those that are still to be made.
-/

namespace JsonSchema

/-- The events on which the kind of a value is decided, with the kinds that they show. -/
def Event.kinds? : Event → Option (List Kind)
  | .null => some [.null]
  | .boolean _ => some [.boolean]
  | .number (.float _) => some [.number]
  | .number _ => some [.integer, .number]
  | .string _ => some [.string]
  | .beginArray => some [.array]
  | .beginObject => some [.object]
  | _ => none

/-- Whether an event is one of those that describe opaque payloads, which no schema constrains. -/
def Event.isBinary : Event → Bool
  | .binary _ => true
  | _ => false

/-- The state of `uniqueItems`: the digest of the current element, and those of the elements
before. -/
structure UniqueItems where
  current : Hasher
  seen : List Digest

/-- A session on a node. `touched` tells whether any event has come; `counts` holds for each open
aggregate, innermost first, the number of its entries closed so far; `keys` are the names met in the
value itself, if the node needs them. -/
structure Session where
  node : Node NodeId
  matched : Bool
  touched : Bool
  counts : List Nat
  candidates : List Comparator
  children : Children Session
  keys : List String
  unique : Option UniqueItems

/-- The number of sessions at and below a fresh one on a node. A session whose branches are still to
be made counts twice. -/
def Graph.weight (g : Graph) (id : NodeId) : Nat :=
  2 + ((g.node id).inPlace.attach.map fun ⟨m, _⟩ => g.weight m).foldr (· + ·) 0
termination_by g.rank id
decreasing_by exact g.rank_lt ‹_›

theorem Graph.weight_eq (g : Graph) (id : NodeId) :
    g.weight id = 2 + ((g.node id).inPlace.map g.weight).foldr (· + ·) 0 := by
  rw [Graph.weight]
  exact congrArg (2 + List.foldr _ 0 ·) List.attach_map_val

namespace Session

/-- A session on a node that no event has reached. -/
def fresh (node : Node NodeId) : Session where
  node := node
  matched := true
  touched := false
  counts := []
  candidates := (node.enumeration.getD []).map .expecting
  children := .empty
  keys := []
  unique := none

variable (g : Graph)

/-- A fresh session on the node of a number. -/
def start (id : NodeId) : Session := fresh (g.node id)

/-- Makes the sessions on the branches that apply to the value itself, unless an event has come
before. -/
def touch (s : Session) : Session :=
  if s.touched then s
  else { s with
    touched := true
    children := { s.children with
      allOf := s.node.composition.allOf.map (start g)
      anyOf := s.node.composition.anyOf.map (start g)
      oneOf := s.node.composition.oneOf.map (start g)
      not := s.node.composition.not.map (start g)
      dependencies := s.node.object.schemaDependencies.map fun p => (p.1, start g p.2) } }

/-! ### The weight of a session -/

theorem le_total_of_mem {n : Nat} {l : List Nat} (h : n ∈ l) : n ≤ l.foldr (· + ·) 0 := by
  induction h with
  | head l => exact Nat.le_add_right n _
  | tail m _ ih => exact Nat.le_trans ih (Nat.le_add_left _ m)

theorem sizeOf_child {s c : Session} (h : c ∈ s.children.toList) : sizeOf c < sizeOf s := by
  obtain ⟨_, _, _, _, _, ⟨item, properties, allOf, anyOf, oneOf, not, dependencies⟩, _, _⟩ := s
  simp only [Children.mem_toList] at h
  simp only [mk.sizeOf_spec, Children.mk.sizeOf_spec]
  rcases h with rfl | h | h | h | h | rfl | ⟨k, h⟩
  · simp only [Option.some.sizeOf_spec]; omega
  · have := List.sizeOf_lt_of_mem h; omega
  · have := List.sizeOf_lt_of_mem h; omega
  · have := List.sizeOf_lt_of_mem h; omega
  · have := List.sizeOf_lt_of_mem h; omega
  · simp only [Option.some.sizeOf_spec]; omega
  · have := List.sizeOf_lt_of_mem h
    simp only [Prod.mk.sizeOf_spec] at this
    omega

/-- The number of sessions at and below this one, with those that are still to be made. -/
def weight (s : Session) : Nat :=
  1 + (s.children.toList.attach.map fun ⟨c, _⟩ => c.weight).foldr (· + ·) 0 +
    if s.touched then 0 else 1 + (s.node.inPlace.map g.weight).foldr (· + ·) 0
termination_by sizeOf s
decreasing_by exact sizeOf_child ‹_›

theorem weight_eq (s : Session) :
    s.weight g = 1 + (s.children.toList.map (weight g)).foldr (· + ·) 0 +
      if s.touched then 0 else 1 + (s.node.inPlace.map g.weight).foldr (· + ·) 0 := by
  rw [weight]
  exact congrArg (1 + List.foldr _ 0 · + _) List.attach_map_val

theorem weight_start (id : NodeId) : (start g id).weight g = g.weight id := by
  rw [weight_eq, g.weight_eq]
  simp [start, fresh, Children.empty, Children.toList]
  omega

theorem weight_child {s c : Session} (h : c ∈ s.children.toList) : c.weight g < s.weight g := by
  have := le_total_of_mem (List.mem_map_of_mem (f := weight g) h)
  rw [s.weight_eq g]
  omega

/-- What a session goes on to is lighter, also when it makes its branches first. -/
theorem weight_child_touch {s c : Session} (h : c ∈ (s.touch g).children.toList) :
    c.weight g < s.weight g := by
  by_cases ht : s.touched
  · rw [touch, if_pos ht] at h
    exact weight_child g h
  have made : ∀ m ∈ s.node.inPlace, (start g m).weight g < s.weight g := by
    intro m hm
    have := le_total_of_mem (List.mem_map_of_mem (f := g.weight) hm)
    rw [s.weight_eq g, if_neg ht, weight_start]
    omega
  have kept : c ∈ s.children.toList → c.weight g < s.weight g := weight_child g
  rw [touch, if_neg ht] at h
  simp only [Children.mem_toList, List.mem_map, Option.map_eq_some_iff, Prod.mk.injEq] at h kept
  simp only [Node.inPlace, Composition.schemas, List.mem_append, Option.mem_toList,
    List.mem_map] at made
  rcases h with h | h | ⟨m, h, rfl⟩ | ⟨m, h, rfl⟩ | ⟨m, h, rfl⟩ | ⟨m, h, rfl⟩ | ⟨k, d, h, rfl, rfl⟩
  · exact kept (.inl h)
  · exact kept (.inr (.inl h))
  · exact made m (.inl (.inl (.inl (.inl h))))
  · exact made m (.inl (.inl (.inl (.inr h))))
  · exact made m (.inl (.inl (.inr h)))
  · exact made m (.inl (.inr h))
  · exact made d.2 (.inr ⟨d, h, rfl⟩)

/-! ### The verdict on a complete value -/

/-- Whether a session that has its branches accepts its value, given the verdicts of its
children. -/
def concludes (s : Session) (verdicts : Children Bool) : Bool :=
  s.matched && verdicts.allOf.all (·) && (verdicts.anyOf.isEmpty || verdicts.anyOf.any (·)) &&
    (verdicts.oneOf.isEmpty || verdicts.oneOf.countP (·) == 1) && (verdicts.not != some true) &&
    s.node.object.schemaDependencies.all fun (k, _) =>
      !s.keys.contains k || verdicts.dependencies.lookup k == some true

/-- Whether the value is accepted if nothing more comes. -/
def verdict (s : Session) : Bool :=
  let s' := s.touch g
  s'.concludes (s'.children.pmap fun c _h => verdict c)
termination_by s.weight g
decreasing_by exact weight_child_touch g _h

theorem verdict_eq (s : Session) :
    s.verdict g = (s.touch g).concludes ((s.touch g).children.map (verdict g)) := by
  rw [verdict, Children.pmap_eq_map]

/-! ### Checks of a single event -/

/-- Whether the session is outside of every aggregate, at the level of its value. -/
def atTop (s : Session) : Bool := s.counts.isEmpty

/-- Whether the session is directly inside the aggregate that its value is. -/
def inOwn (s : Session) : Bool := s.counts.length == 1

/-- The entries closed so far in the innermost aggregate. -/
def count (s : Session) : Nat := s.counts.headD 0

/-- Whether an upper limit holds, if there is one. -/
def atMost (n : Nat) (limit : Option Nat) : Bool := limit.all (n ≤ ·)

/-- Whether a lower limit holds, if there is one. -/
def atLeast (n : Nat) (limit : Option Nat) : Bool := limit.all (· ≤ n)

/-- Whether the kind of the value is among the types. -/
def kindOk (node : Node NodeId) (e : Event) : Bool :=
  match node.types, e.kinds? with
  | some types, some kinds => kinds.any types.contains
  | _, _ => true

def numberOk (r : NumberRules) (n : Number) : Bool :=
  r.multipleOf.all (·.admits n) && r.maximum.all (·.admits .atMost n) &&
    r.minimum.all (·.admits .atLeast n)

def stringOk (r : StringRules) (s : String) : Bool :=
  atMost s.length r.maxLength && atLeast s.length r.minLength && r.pattern.all (·.isMatch s) &&
    r.format.all (·.isValid s)

/-- Whether a value that is a scalar satisfies the keywords about it. -/
def scalarOk (node : Node NodeId) : Event → Bool
  | .number n => numberOk node.number n
  | .string s => stringOk node.string s
  | _ => true

/-- Whether an array of `n` elements ends within its tuple, where more is forbidden. -/
def tupleOk (r : ArrayRules NodeId) (n : Nat) : Bool :=
  match r.items, r.additional with
  | some (.tuple schemas), some .forbidden => decide (n ≤ schemas.length)
  | _, _ => true

/-- Whether an array may have `n` elements. -/
def sizeOk (r : ArrayRules NodeId) (n : Nat) : Bool := atMost n r.maxItems && atLeast n r.minItems

/-- Whether an object with these names and `n` members satisfies the keywords about its size and its
names. -/
def membersOk (r : ObjectRules NodeId) (keys : List String) (n : Nat) : Bool :=
  atMost n r.maxProperties && atLeast n r.minProperties && r.required.all keys.contains &&
    r.propertyDependencies.all fun (k, required) => !keys.contains k || required.all keys.contains

/-- Fails unless a condition holds. -/
def require (ok : Bool) (s : Session) : Session := { s with matched := s.matched && ok }

/-! ### Before the children take an event -/

/-- Checks the kind of the value. -/
def checkKind (e : Event) (s : Session) : Session := s.require (!s.atTop || kindOk s.node e)

/-- Keeps the literals that still agree, of which one has to be left. -/
def prune (e : Event) (s : Session) : Session :=
  if s.matched && s.node.enumeration.isSome then
    let left := (s.candidates.map (·.feed e)).filter (·.matched)
    { s with candidates := left, matched := !left.isEmpty }
  else s

/-- Ends the session of the current element. A slot that no event has reached belongs to no
element. -/
def closeItem (s : Session) : Session :=
  { s with
    children := { s.children with item := none }
    matched := s.matched && s.children.item.all fun c => !c.touched || c.verdict g }

/-- Ends the sessions of the current member. -/
def closeMember (s : Session) : Session :=
  { s with
    children := { s.children with properties := [] }
    matched := s.matched && s.children.properties.all (verdict g) }

/-- Ends the part of the value that an event closes. -/
def close (e : Event) (s : Session) : Session :=
  if s.matched && s.inOwn then
    match e with
    | .element => s.closeItem g
    | .endArray => (s.closeItem g).require (tupleOk s.node.array s.count)
    | .member => s.closeMember g
    | _ => s
  else s

/-- What happens to a session before its children take an event. -/
def prepare (e : Event) (s : Session) : Session := ((s.checkKind e).prune e).close g e

/-! ### The children after an event -/

/-- Goes on with other children, some of which have to be all right. -/
def renew (f : Children Session → Children Session) (ok : Bool) (s : Session) : Session :=
  if s.matched then { s with children := f s.children, matched := ok } else s

/-- Takes the children as an event has left them. The session fails with its item, with a property
and with a branch of `allOf`, and when no branch of `anyOf` or of `oneOf` is left; other branches
that have failed are dropped. -/
def absorb (s : Session) (fed : Children Session) : Session :=
  s.renew (fun c => { c with item := fed.item }) (fed.item.all (·.matched))
  |>.renew (fun c => { c with properties := fed.properties }) (fed.properties.all (·.matched))
  |>.renew (fun c => { c with allOf := fed.allOf }) (fed.allOf.all (·.matched))
  |>.renew (fun c => { c with anyOf := fed.anyOf.filter (·.matched) })
    (fed.anyOf.isEmpty || fed.anyOf.any (·.matched))
  |>.renew (fun c => { c with oneOf := fed.oneOf.filter (·.matched) })
    (fed.oneOf.isEmpty || fed.oneOf.any (·.matched))
  |>.renew (fun c => { c with not := fed.not.filter (·.matched) }) true
  |>.renew (fun c => { c with dependencies := fed.dependencies.filter (·.2.matched) }) true

/-! ### After the children have taken an event -/

/-- Hands an event on to the digest of the current element. -/
def digest (e : Event) (s : Session) : Session :=
  if s.matched then
    { s with unique := s.unique.map fun u => { u with current := u.current.feed e } }
  else s

/-- Begins an array, whose elements are digested if they have to be distinct. -/
def openArray (s : Session) : Session :=
  if s.matched && s.unique.isNone then
    { s with unique := if s.atTop && s.node.array.uniqueItems then some ⟨.empty, []⟩ else none }
  else s.digest .beginArray

/-- Ends an element, which must not be a repetition. -/
def closeElement (s : Session) : Session :=
  match s.unique with
  | some u =>
    if s.matched && s.inOwn then
      let taken := u.current.take
      if u.seen.contains taken.1 then { s with unique := some ⟨taken.2, u.seen⟩, matched := false }
      else { s with unique := some ⟨taken.2, taken.1 :: u.seen⟩ }
    else s.digest .element
  | none => s

/-- The session for the element at an index, if a schema applies to it. -/
def itemAt (r : ArrayRules NodeId) (i : Nat) : Option Session :=
  match r.items with
  | none => none
  | some (.uniform m) => some (start g m)
  | some (.tuple schemas) =>
    match schemas[i]?, r.additional with
    | some m, _ => some (start g m)
    | none, some (.schema m) => some (start g m)
    | none, _ => none

/-- Makes the session for the element at an index. -/
def openItem (i : Nat) (s : Session) : Session :=
  { s with children := { s.children with item := itemAt g s.node.array i } }

/-- The schemas for a member of this name that `properties` and `patternProperties` give. -/
def namedSchemas (r : ObjectRules NodeId) (name : String) : List NodeId :=
  (r.properties.lookup name).toList ++
    (r.patterns.filter fun (p, _) => p.isMatch name).map (·.2)

/-- The sessions for a member of this name, after those in `opened`; `none` if the member is
forbidden. -/
def membersAt (r : ObjectRules NodeId) (opened : List Session) (name : String) :
    Option (List Session) :=
  let sessions := opened ++ (namedSchemas r name).map (start g)
  if sessions.isEmpty then
    match r.additional with
    | none => some []
    | some .forbidden => none
    | some (.schema m) => some [start g m]
  else some sessions

/-- Makes the sessions for a member of this name. -/
def openMember (name : String) (s : Session) : Session :=
  match membersAt g s.node.object s.children.properties name with
  | none => { s with matched := false }
  | some sessions => { s with children := { s.children with properties := sessions } }

/-- Takes the name of a member, which must not be a repetition if names are remembered. -/
def enterMember (name : String) (s : Session) : Session :=
  if s.node.tracksKeys then
    if s.keys.contains name then { s with matched := false }
    else { s with keys := name :: s.keys }.openMember g name
  else s.openMember g name

/-- The counters after an event. -/
def countsAfter (counts : List Nat) : Event → List Nat
  | .beginArray | .beginObject => 0 :: counts
  | .element | .member =>
    match counts with
    | n :: ns => (n + 1) :: ns
    | [] => []
  | .endArray | .endObject => counts.tail
  | _ => counts

/-- Counts an event. -/
def tally (e : Event) (s : Session) : Session := { s with counts := countsAfter s.counts e }

/-- What happens to a session after its children have taken an event. -/
def conclude (e : Event) (s : Session) : Session :=
  match e with
  | .beginArray =>
    let s := s.openArray
    (if s.matched && s.atTop then s.openItem g 0 else s).tally e
  | .element =>
    let s := s.closeElement.tally e
    if s.matched && s.inOwn then s.openItem g s.count else s
  | .endArray =>
    let s := if s.inOwn then s else s.digest e
    (s.require (!s.inOwn || sizeOk s.node.array s.count)).tally e
  | .key k =>
    let s := s.digest e
    if s.matched && s.inOwn then s.enterMember g k else s
  | .endObject =>
    let s := s.digest e
    (s.require (!s.inOwn || membersOk s.node.object s.keys s.count)).tally e
  | .beginObject | .member => (s.digest e).tally e
  | _ => (s.require (!s.atTop || scalarOk s.node e)).digest e

/-! ### Events -/

/-- No child is new before the children take an event. -/
theorem mem_prepare {s c : Session} {e : Event} (h : c ∈ (s.prepare g e).children.toList) :
    c ∈ s.children.toList := by
  have hp : ((s.checkKind e).prune e).children = s.children := by
    unfold prune
    split <;> rfl
  unfold prepare close at h
  split at h
  · split at h <;>
      grind [closeItem, closeMember, require, Children.mem_toList]
  · rwa [hp] at h

/-- Takes one event. -/
def feed (e : Event) (s : Session) : Session :=
  if e.isBinary then s.touch g
  else
    let s' := (s.touch g).prepare g e
    (s'.absorb (s'.children.pmap fun c _h => feed e c)).conclude g e
termination_by s.weight g
decreasing_by exact weight_child_touch g (mem_prepare g _h)

/-- Passes an event on to the children. -/
def delegate (e : Event) (s : Session) : Session := s.absorb (s.children.map (feed g e))

theorem feed_binary {e : Event} (he : e.isBinary = true) (s : Session) : s.feed g e = s.touch g := by
  rw [feed, if_pos he]

theorem feed_eq {e : Event} (he : e.isBinary = false) (s : Session) :
    s.feed g e = (((s.touch g).prepare g e).delegate g e).conclude g e := by
  rw [feed, if_neg (by simp [he]), delegate, ← Children.pmap_eq_map]

/-- Takes events in order. -/
def feedAll (s : Session) (es : List Event) : Session := es.foldl (fun s e => feed g e s) s

end Session

/-- Whether the value described by the events satisfies the root of the graph. -/
def Graph.accepts (g : Graph) (es : List Event) : Bool :=
  ((Session.start g Graph.root).feedAll g es).verdict g

end JsonSchema
