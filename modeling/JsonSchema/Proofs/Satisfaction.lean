import JsonSchema.Graph
import JsonSchema.Digest
import JsonSchema.Proofs.Comparator.Agreement
/-!
# What a schema means

`Graph.Satisfies` says without any events when a value satisfies a node: the value is of one of the
types, agrees with a literal of `enum`, is admitted by the keywords about values of its kind, its
parts satisfy the schemas that apply to them, and it satisfies what the node combines as the keywords
of the combination say. Members of objects come in any order, and names may be repeated. The recursion
goes to parts of the value, or to a branch, which has a lower rank.
-/

namespace JsonSchema

/-- The kinds of a value. An integer is a number as well. -/
def Value.kinds : Value → List Kind
  | .null => [.null]
  | .boolean _ => [.boolean]
  | .number (.float _) => [.number]
  | .number _ => [.integer, .number]
  | .string _ => [.string]
  | .array _ => [.array]
  | .object _ => [.object]

/-- The names of an object; other values have none. -/
def Value.names : Value → List String
  | .object ms => Members.names ms
  | _ => []

/-- The digest of what events describe, by itself. -/
def Event.digest (es : List Event) : Digest := (Hasher.empty.feedAll es).take.1

/-- The digest of a value by itself. -/
def Value.digest (v : Value) : Digest := (Hasher.empty.feedAll v.events).digest

variable {ρ : Type}

/-! ### Keywords by themselves -/

structure NumberRules.Admits (r : NumberRules) (n : Number) : Prop where
  multipleOf : ∀ d ∈ r.multipleOf, d.admits n = true
  maximum : ∀ b ∈ r.maximum, b.admits .atMost n = true
  minimum : ∀ b ∈ r.minimum, b.admits .atLeast n = true

structure StringRules.Admits (r : StringRules) (s : String) : Prop where
  maxLength : ∀ n ∈ r.maxLength, s.length ≤ n
  minLength : ∀ n ∈ r.minLength, n ≤ s.length
  pattern : ∀ p ∈ r.pattern, p.isMatch s = true
  format : ∀ f ∈ r.format, f.isValid s = true

/-- An array ends within its tuple if more is forbidden, and has no two elements of one digest if
they have to be distinct. -/
structure ArrayRules.Admits (r : ArrayRules ρ) (vs : List Value) : Prop where
  tuple : ∀ ms, r.items = some (.tuple ms) → r.additional = some .forbidden → vs.length ≤ ms.length
  maxItems : ∀ n ∈ r.maxItems, vs.length ≤ n
  minItems : ∀ n ∈ r.minItems, n ≤ vs.length
  unique : r.uniqueItems = true → (vs.map Value.digest).Nodup

/-- Whether `properties` or `patternProperties` speak of a name. -/
def ObjectRules.Names (r : ObjectRules ρ) (k : String) : Prop :=
  k ∈ r.properties.map (·.1) ∨ ∃ p ∈ r.patterns, p.1.isMatch k = true

structure ObjectRules.Admits (r : ObjectRules ρ) (ms : Members) : Prop where
  maxProperties : ∀ n ∈ r.maxProperties, ms.length ≤ n
  minProperties : ∀ n ∈ r.minProperties, n ≤ ms.length
  additional : r.additional = some .forbidden → ∀ k ∈ ms.names, r.Names k
  required : ∀ k ∈ r.required, k ∈ ms.names
  dependencies : ∀ d ∈ r.propertyDependencies, d.1 ∈ ms.names → ∀ k ∈ d.2, k ∈ ms.names

/-- The keywords of a node that do not refer to other nodes. Where names have to be remembered none
may be repeated. -/
structure Node.Admits (n : Node ρ) (v : Value) : Prop where
  types : ∀ ts ∈ n.types, ∃ k ∈ v.kinds, k ∈ ts
  enumeration : ∀ es ∈ n.enumeration, ∃ e ∈ es, e.Agrees v
  number : ∀ x, v = .number x → n.number.Admits x
  string : ∀ s, v = .string s → n.string.Admits s
  array : ∀ vs, v = .array vs → n.array.Admits vs
  object : ∀ ms, v = .object ms → n.object.Admits ms
  distinct : n.tracksKeys = true → v.names.Nodup

/-! ### Schemas for the parts of a value -/

/-- A schema applies to the element at an index: the one schema for all, that of its place in the
tuple, or past the tuple the one for additional elements. -/
def ArrayRules.Applies (r : ArrayRules ρ) (i : Nat) (m : ρ) : Prop :=
  r.items = some (.uniform m) ∨ ∃ ms, r.items = some (.tuple ms) ∧
    (ms[i]? = some m ∨ ms.length ≤ i ∧ r.additional = some (.schema m))

/-- A schema applies to members of a name: under that name, under a pattern that matches it, or if
there is none of these the one for additional members. -/
def ObjectRules.Applies (r : ObjectRules ρ) (k : String) (m : ρ) : Prop :=
  (k, m) ∈ r.properties ∨ (∃ p, (p, m) ∈ r.patterns ∧ p.isMatch k = true) ∨
    ¬r.Names k ∧ r.additional = some (.schema m)

/-! ### Satisfaction -/

theorem Value.sizeOf_item {vs : List Value} {w : Value} (h : w ∈ vs) :
    sizeOf w < sizeOf (Value.array vs) := by
  have := List.sizeOf_lt_of_mem h
  simp only [Value.array.sizeOf_spec]
  omega

theorem Value.sizeOf_member {ms : Members} {k : String} {w : Value} (h : (k, w) ∈ ms) :
    sizeOf w < sizeOf (Value.object ms) := by
  have := List.sizeOf_lt_of_mem h
  simp only [Value.object.sizeOf_spec, Prod.mk.sizeOf_spec] at this ⊢
  omega

theorem Node.mem_inPlace {n : Node ρ} {m : ρ} : m ∈ n.inPlace ↔ m ∈ n.composition.allOf ∨
    m ∈ n.composition.anyOf ∨ m ∈ n.composition.oneOf ∨ n.composition.not = some m ∨
    ∃ k, (k, m) ∈ n.object.schemaDependencies := by
  simp [inPlace, Composition.schemas]

/-- What a node asks of a value, where `S` says what satisfies the nodes that it refers to. -/
def Node.Meets (n : Node ρ) (S : ρ → Value → Prop) (v : Value) : Prop :=
  n.Admits v ∧
  (∀ vs, v = .array vs → ∀ i w, vs[i]? = some w → ∀ m, n.array.Applies i m → S m w) ∧
  (∀ ms, v = .object ms → ∀ k w, (k, w) ∈ ms → ∀ m, n.object.Applies k m → S m w) ∧
  (∀ m ∈ n.composition.allOf, S m v) ∧
  (n.composition.anyOf = [] ∨ ∃ m ∈ n.composition.anyOf, S m v) ∧
  (n.composition.oneOf = [] ∨ ∃ i, ∃ _hi : i < n.composition.oneOf.length,
    S n.composition.oneOf[i] v ∧
    ∀ j, (_hj : j < n.composition.oneOf.length) → S n.composition.oneOf[j] v → j = i) ∧
  (∀ m, n.composition.not = some m → ¬S m v) ∧
  ∀ k m, (k, m) ∈ n.object.schemaDependencies → k ∈ v.names → S m v

/-- A node asks the same of two values that it admits alike if what applies to their parts does, and
its branches do. -/
theorem Node.meets_congr {n : Node ρ} {S S' : ρ → Value → Prop} {v w : Value}
    (admits : n.Admits v ↔ n.Admits w)
    (items : (∀ vs, v = .array vs → ∀ i u, vs[i]? = some u → ∀ m, n.array.Applies i m → S m u) ↔
      ∀ ws, w = .array ws → ∀ i u, ws[i]? = some u → ∀ m, n.array.Applies i m → S' m u)
    (members : (∀ ms, v = .object ms → ∀ k u, (k, u) ∈ ms → ∀ m, n.object.Applies k m → S m u) ↔
      ∀ ms, w = .object ms → ∀ k u, (k, u) ∈ ms → ∀ m, n.object.Applies k m → S' m u)
    (names : ∀ k, k ∈ v.names ↔ k ∈ w.names) (inPlace : ∀ m ∈ n.inPlace, (S m v ↔ S' m w)) :
    n.Meets S v ↔ n.Meets S' w := by
  simp only [mem_inPlace] at inPlace
  refine and_congr admits <| and_congr items <| and_congr members <| and_congr ?_ <|
    and_congr (or_congr_right ?_) <| and_congr (or_congr_right ?_) <| and_congr ?_ ?_
  · exact forall₂_congr fun m hm => inPlace m (.inl hm)
  · exact exists_congr fun m => and_congr_right fun hm => inPlace m (.inr (.inl hm))
  · have one (i : Nat) (hi : i < n.composition.oneOf.length) :
        S n.composition.oneOf[i] v ↔ S' n.composition.oneOf[i] w :=
      inPlace _ (.inr (.inr (.inl (List.getElem_mem hi))))
    exact exists₂_congr fun i hi => and_congr (one i hi) <|
      forall₂_congr fun j hj => imp_congr_left (one j hj)
  · exact forall₂_congr fun m hm => not_congr (inPlace m (.inr (.inr (.inr (.inl hm)))))
  · exact forall₃_congr fun k m hm =>
      imp_congr (names k) (inPlace m (.inr (.inr (.inr (.inr ⟨k, hm⟩)))))

namespace Graph

/-- A value satisfies a node. -/
def Satisfies (g : Graph) (id : NodeId) (v : Value) : Prop :=
  let n := g.node id
  let c := n.composition
  n.Admits v ∧
  (∀ vs, (_hv : v = .array vs) → ∀ i w, (_hw : vs[i]? = some w) →
    ∀ m, n.array.Applies i m → g.Satisfies m w) ∧
  (∀ ms, (_hv : v = .object ms) → ∀ k w, (_hw : (k, w) ∈ ms) →
    ∀ m, n.object.Applies k m → g.Satisfies m w) ∧
  (∀ m, (_hm : m ∈ c.allOf) → g.Satisfies m v) ∧
  (c.anyOf = [] ∨ ∃ m, ∃ _hm : m ∈ c.anyOf, g.Satisfies m v) ∧
  (c.oneOf = [] ∨ ∃ i, ∃ _hi : i < c.oneOf.length, g.Satisfies c.oneOf[i] v ∧
    ∀ j, (_hj : j < c.oneOf.length) → g.Satisfies c.oneOf[j] v → j = i) ∧
  (∀ m, (_hm : c.not = some m) → ¬g.Satisfies m v) ∧
  ∀ k m, (_hd : (k, m) ∈ n.object.schemaDependencies) → k ∈ v.names → g.Satisfies m v
termination_by (sizeOf v, g.rank id)
decreasing_by
  · subst _hv; exact .left _ _ (Value.sizeOf_item (List.mem_of_getElem? _hw))
  · subst _hv; exact .left _ _ (Value.sizeOf_member _hw)
  all_goals
    refine .right _ (g.rank_lt (Node.mem_inPlace.2 ?_))
  · exact .inl _hm
  · exact .inr (.inl _hm)
  · exact .inr (.inr (.inl (List.getElem_mem _hi)))
  · exact .inr (.inr (.inl (List.getElem_mem _hj)))
  · exact .inr (.inr (.inr (.inl _hm)))
  · exact .inr (.inr (.inr (.inr ⟨k, _hd⟩)))

theorem satisfies_iff_meets {g : Graph} {id : NodeId} {v : Value} :
    g.Satisfies id v ↔ (g.node id).Meets g.Satisfies v := by
  rw [Satisfies, Node.Meets]
  simp only [exists_prop]

/-- What holds of a value at a node, given that it does of the parts of the value at all nodes and of
the value itself at the branches of the node, holds of all values at all nodes. -/
@[elab_as_elim]
theorem induction (g : Graph) {P : Value → NodeId → Prop}
    (meets : ∀ v id, (∀ vs, v = .array vs → ∀ w ∈ vs, ∀ m, P w m) →
      (∀ ms, v = .object ms → ∀ k w, (k, w) ∈ ms → ∀ m, P w m) →
      (∀ m ∈ (g.node id).inPlace, P v m) → P v id) (v : Value) (id : NodeId) : P v id := by
  -- for one value by the rank of the node, given what holds of its parts
  have step : ∀ v : Value, (∀ vs, v = .array vs → ∀ w ∈ vs, ∀ m, P w m) →
      (∀ ms, v = .object ms → ∀ k w, (k, w) ∈ ms → ∀ m, P w m) → ∀ r id, g.rank id = r → P v id := by
    intro v items members r
    induction r using Nat.strongRecOn with
    | ind r ih =>
      rintro id rfl
      exact meets v id items members fun m hm => ih _ (g.rank_lt hm) m rfl
  induction v using Value.induction generalizing id with
  | array vs ih =>
    exact step _ (by rintro _ ⟨⟩; exact ih) (by rintro _ ⟨⟩) _ id rfl
  | object ms ih =>
    exact step _ (by rintro _ ⟨⟩) (by rintro _ ⟨⟩; exact ih) _ id rfl
  | _ => exact step _ (by rintro _ ⟨⟩) (by rintro _ ⟨⟩) _ id rfl

end Graph
end JsonSchema
