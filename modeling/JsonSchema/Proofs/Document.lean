import Mathlib.Data.List.Nodup
import JsonSchema.Value
/-!
# Documents

`Value.IsDocument` is what reading a text gives: the members of each object sorted by name without
repetition. Schemas are documents; the values that they are applied to need not be. `Value.induction`
is the induction over the parts of a value.
-/

namespace JsonSchema

/-! ### Association lists with distinct names -/

section

variable {α β : Type} [BEq α] [LawfulBEq α] {l : List (α × β)} {k : α} {b : β}

theorem mem_of_lookup (h : l.lookup k = some b) : (k, b) ∈ l := by
  obtain ⟨l₁, l₂, rfl, -⟩ := List.lookup_eq_some_iff.1 h
  simp

theorem lookup_of_mem (hd : (l.map (·.1)).Nodup) (h : (k, b) ∈ l) : l.lookup k = some b := by
  obtain ⟨l₁, l₂, rfl⟩ := List.append_of_mem h
  refine List.lookup_eq_some_iff.2 ⟨l₁, l₂, rfl, fun p hp => ?_⟩
  simp only [List.map_append, List.map_cons, List.nodup_append] at hd
  have hne : p.1 ≠ k := hd.2.2 p.1 (List.mem_map_of_mem hp) k (by simp)
  simpa using fun h => hne h.symm

theorem lookup_eq_some_iff_mem (hd : (l.map (·.1)).Nodup) : l.lookup k = some b ↔ (k, b) ∈ l :=
  ⟨mem_of_lookup, lookup_of_mem hd⟩

theorem lookup_isSome_iff_mem : (l.lookup k).isSome = true ↔ k ∈ l.map (·.1) := by
  rw [List.lookup_isSome_iff, List.mem_map]
  exact exists_congr fun p => and_congr_right fun _ => by rw [beq_iff_eq, eq_comm]

end

/-! ### Values -/

/-- The names of members, in their order. -/
def Members.names (ms : Members) : List String := ms.map (·.1)

namespace Value

/-- Every object has its members sorted by name without repetition. -/
inductive IsDocument : Value → Prop where
  | null : IsDocument .null
  | boolean (b : Bool) : IsDocument (.boolean b)
  | number (n : Number) : IsDocument (.number n)
  | string (s : String) : IsDocument (.string s)
  | array {vs : List Value} (items : ∀ v ∈ vs, IsDocument v) : IsDocument (.array vs)
  | object {ms : Members} (sorted : ms.names.Pairwise (· < ·))
    (members : ∀ p ∈ ms, IsDocument p.2) : IsDocument (.object ms)

theorem IsDocument.item {vs : List Value} {v : Value} (h : (Value.array vs).IsDocument) (hv : v ∈ vs) :
    v.IsDocument := by
  cases h with
  | array items => exact items v hv

theorem IsDocument.member {ms : Members} {k : String} {v : Value} (h : (Value.object ms).IsDocument)
    (hv : (k, v) ∈ ms) : v.IsDocument := by
  cases h with
  | object _ members => exact members (k, v) hv

theorem IsDocument.nodup {ms : Members} (h : (Value.object ms).IsDocument) : ms.names.Nodup := by
  cases h with
  | object sorted _ => exact sorted.imp fun h => String.ne_of_lt h

/-- A property of all values: of scalars, and of aggregates if it is one of their parts. -/
@[elab_as_elim]
theorem induction {P : Value → Prop} (null : P .null) (boolean : ∀ b, P (.boolean b))
    (number : ∀ n, P (.number n)) (string : ∀ s, P (.string s))
    (array : ∀ vs, (∀ v ∈ vs, P v) → P (.array vs))
    (object : ∀ ms : Members, (∀ k v, (k, v) ∈ ms → P v) → P (.object ms)) (v : Value) : P v :=
  @Value.rec P (fun vs => ∀ v ∈ vs, P v) (fun ms => ∀ k v, (k, v) ∈ ms → P v) (fun p => P p.2)
    null boolean number string array object (by simp)
    (fun v vs hv hvs w hw => by
      rcases List.mem_cons.1 hw with rfl | hw
      · exact hv
      · exact hvs w hw)
    (by simp)
    (fun p ms hp hms k w hw => by
      rcases List.mem_cons.1 hw with rfl | hw
      · exact hp
      · exact hms k w hw)
    (fun _ _ h => h) v

end Value
end JsonSchema
