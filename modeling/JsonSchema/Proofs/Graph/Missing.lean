import Mathlib
import JsonSchema.Proofs.Alias.Values
import JsonSchema.Proofs.Graph.Canonical
import JsonSchema.Proofs.Node.Faults
/-!
# Positions without a value

A schema is written at a place of its document, so the closure of a document meets a position without
a value only as what a reference stands for. There is one if the position enters an array by a number
with a sign, as a reference may and a pointer may not (`Aliases.get?_of_resolve`).
-/

namespace JsonSchema

theorem Value.Subschema.exists_value {v : Value} {ts : List String} (hd : v.IsDocument)
    (h : v.Subschema ts) : ∃ w, v.descend? ts = some w := by
  have one {kw : String} {w : Value} (hw : v.member? kw = some w) : v.descend? [kw] = some w := by
    rw [descend?, child?_of_member? hw]
    rfl
  have two {kw name : String} {w u : Value} (hw : v.member? kw = some w)
      (hu : w.child? name = some u) : v.descend? [kw, name] = some u := by
    rw [descend?, child?_of_member? hw, Option.bind_some, descend?, hu]
    rfl
  have element {vs : List Value} {i : Nat} (hi : i < vs.length) :
      (Value.array vs).child? (toString i) = some vs[i] := by
    rw [child?, arrayIndex?_toString, Option.bind_some, List.getElem?_eq_getElem hi]
  have member {kw name : String} {ms : Members} {w : Value} (h : v.member? kw = some (.object ms))
      (hm : (name, w) ∈ ms) : (Value.object ms).child? name = some w := by
    have nodup := (child?_isDocument hd (child?_of_member? h)).nodup
    exact lookup_of_mem nodup hm
  cases h with
  | applied h =>
    cases h with
    | inPlace h =>
      cases h with
      | branch _ h hi => exact ⟨_, two h (element hi)⟩
      | not h => exact ⟨_, one h⟩
      | dependency h hm => exact ⟨_, two h (member h hm)⟩
    | items h => exact ⟨_, one h⟩
    | element h hi => exact ⟨_, two h (element hi)⟩
    | additional _ h => exact ⟨_, one h⟩
    | named _ h hm => exact ⟨_, two h (member h hm)⟩
  | definition h hm => exact ⟨_, two h (member h hm)⟩

namespace Graph

variable {d : Value} {table : AliasTable} {p : Pointer}

/-! ### Positions that the closure misses -/

/-- A schema is refused for what stands at its position, and not for want of a value. -/
theorem Refuses.at?_eq_none {q : Pointer} (h : Refuses d q (.invalidReference p .missing)) :
    q = p ∧ d.at? q = none := by
  rcases h with ⟨missing, he⟩ | ⟨v, -, hv⟩
  · exact ⟨(SchemaError.invalidReference.inj he).1.symm, missing⟩
  · have fault := Node.failsWith_compile q v
    rw [hv] at fault
    exact absurd fault id

theorem missing_of_build (hd : d.IsDocument) (hr : Aliases.resolve d = .ok table)
    (hb : build d = .error (.invalidReference p .missing)) :
    Reaches d table p ∧ d.at? p = none := by
  simp only [build, hr, bind, Except.bind] at hb
  rcases closure_cases hd table with ⟨s, nodes, hs, -⟩ | ⟨e, q, he, reached, refused⟩
  · simp only [hs, descent] at hb
    cases ho : Descent.settle (inPlace s.nodes) s.nodes.size with
    | ok order => simp only [ho] at hb; cases hb
    | error id => simp only [ho] at hb; cases hb
  · rw [he] at hb
    cases hb
    obtain ⟨rfl, missing⟩ := refused.at?_eq_none
    exact ⟨reached, missing⟩

/-- A position without a value is what a reference stands for. -/
theorem exists_alias_of_missing (hd : d.IsDocument) (hr : Aliases.resolve d = .ok table)
    (hp : Reaches d table p) (hv : d.at? p = none) : ∃ a, (a, p) ∈ table := by
  cases hp with
  | root =>
    rw [Aliases.canonical_root hd hr] at hv
    cases hv
  | @step q n _ _ hn hq =>
    obtain ⟨v, ts, hv', hts, rfl⟩ := hn.mem_subschemas_iff.1 hq
    obtain ⟨w, hw⟩ := hts.exists_value (Value.descend?_isDocument hd hv')
    have written : d.at? (q.below ts) = some w := by
      rw [Value.at?_below, hv', Option.bind_some, hw]
    cases hl : table.lookup (q.below ts) with
    | none =>
      rw [Aliases.canonical, hl, Option.getD_none, written] at hv
      cases hv
    | some c =>
      rw [Aliases.canonical, hl, Option.getD_some]
      exact ⟨_, mem_of_lookup hl⟩

end Graph

namespace Aliases

variable {d : Value} {table : AliasTable}

/-- The value of a reference is the one that resolution arrives at, or there is none if its position
enters an array by a number with a sign; and the closure of a document misses no other position. -/
theorem get?_of_resolve (hd : d.IsDocument) (h : resolve d = .ok table) :
    (∀ a c, (a, c) ∈ table → ∃ t u, d.request? a = some t ∧ d.Arrives .root d t.tokens c u ∧
      ∀ w, get? d table a = some w ↔ w = u ∧ d.UnsignedAlong c.tokens) ∧
    ∀ p, Graph.build d = .error (.invalidReference p .missing) →
      ∃ a, (a, p) ∈ table ∧ ¬d.UnsignedAlong p.tokens := by
  have addresses (a c : Pointer) (hc : (a, c) ∈ table) :
      ∃ t u, d.request? a = some t ∧ d.Arrives .root d t.tokens c u ∧
        ∀ w, get? d table a = some w ↔ w = u ∧ d.UnsignedAlong c.tokens := by
    obtain ⟨n, t, named, leads⟩ := (mem_resolve hd h).1 hc
    obtain ⟨u, arrives⟩ := leads.exists_arrives
    have found := arrives.steps?_eq rfl
    exact ⟨t, u, named, arrives, fun w => get?_eq_some_iff (canonical_of_mem hd h hc) found⟩
  refine ⟨addresses, fun p hb => ?_⟩
  obtain ⟨reached, missing⟩ := Graph.missing_of_build hd h hb
  obtain ⟨a, ha⟩ := Graph.exists_alias_of_missing hd h reached missing
  refine ⟨a, ha, fun unsigned => ?_⟩
  obtain ⟨t, u, -, -, value⟩ := addresses a p ha
  have found := (value u).2 ⟨rfl, unsigned⟩
  rw [get?, canonical_of_mem hd h ha, missing] at found
  cases found

/-- A schema that excludes a literal of its own. -/
def excluding (path : String) : Value :=
  .object [("enum", .array [.object []]), ("not", .object [("$ref", .string path)])]

/-- The literal is the value of the reference to it. -/
theorem get?_excluding : (excluding "#/enum/0").IsDocument ∧
    resolve (excluding "#/enum/0") = .ok [(⟨["not"]⟩, ⟨["enum", "0"]⟩)] ∧
    ∃ t, (excluding "#/enum/0").request? ⟨["not"]⟩ = some t ∧
      (excluding "#/enum/0").Arrives .root (excluding "#/enum/0") t.tokens ⟨["enum", "0"]⟩
        (.object []) ∧
      (excluding "#/enum/0").UnsignedAlong ["enum", "0"] := by
  have document : (excluding "#/enum/0").IsDocument :=
    Value.isDocument_iff.2 ⟨(excluding "#/enum/0").events, rfl⟩
  have resolved : resolve (excluding "#/enum/0") = .ok [(⟨["not"]⟩, ⟨["enum", "0"]⟩)] := by cbv
  obtain ⟨addresses, -⟩ := get?_of_resolve document resolved
  obtain ⟨t, u, named, arrives, value⟩ := addresses ⟨["not"]⟩ ⟨["enum", "0"]⟩ (by simp)
  have found : get? (excluding "#/enum/0") [(⟨["not"]⟩, ⟨["enum", "0"]⟩)] ⟨["not"]⟩ =
      some (.object []) := by cbv
  obtain ⟨rfl, unsigned⟩ := (value _).1 found
  exact ⟨document, resolved, t, named, arrives, unsigned⟩

/-- With a sign before the index the reference resolves, but it has no value and the schema that it
stands for is missing. -/
theorem get?_excluding_signed : (excluding "#/enum/+0").IsDocument ∧
    resolve (excluding "#/enum/+0") = .ok [(⟨["not"]⟩, ⟨["enum", "+0"]⟩)] ∧
    get? (excluding "#/enum/+0") [(⟨["not"]⟩, ⟨["enum", "+0"]⟩)] ⟨["not"]⟩ = none ∧
    Graph.build (excluding "#/enum/+0") =
      .error (.invalidReference ⟨["enum", "+0"]⟩ .missing) := by
  have document : (excluding "#/enum/+0").IsDocument :=
    Value.isDocument_iff.2 ⟨(excluding "#/enum/+0").events, rfl⟩
  have resolved : resolve (excluding "#/enum/+0") = .ok [(⟨["not"]⟩, ⟨["enum", "+0"]⟩)] := by cbv
  have built : Graph.build (excluding "#/enum/+0") =
      .error (.invalidReference ⟨["enum", "+0"]⟩ .missing) := by cbv
  exact ⟨document, resolved, by cbv, built⟩

end Aliases
end JsonSchema
