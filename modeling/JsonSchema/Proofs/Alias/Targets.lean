import JsonSchema.Proofs.Alias.Resolution
/-!
# Where references lead

No local reference stands where tokens lead, nor above (`Value.Leads.clear`): a reference that is met
on the way is left for the position that it stands for, which is clear itself. The keys of the table
of a document are the positions of its local references (`Aliases.mem_keys_resolve`), so no target
in it lies at a key or below one (`Aliases.clear_of_mem`).
-/

namespace JsonSchema

namespace Value

variable {d v : Value} {n : Nat} {p q x : Pointer} {t : String} {ts : List String}

/-! ### Positions without references above them -/

/-- No local reference stands above a position. -/
def ClearAbove (d : Value) (p : Pointer) : Prop :=
  ∀ q : Pointer, q.tokens <+: p.tokens → q ≠ p → d.request? q = none

/-- No local reference stands at a position or above it. -/
def Clear (d : Value) (p : Pointer) : Prop :=
  ∀ q : Pointer, q.tokens <+: p.tokens → d.request? q = none

theorem clearAbove_root : d.ClearAbove .root := by
  rintro ⟨ts⟩ hq hne
  exact absurd (congrArg Pointer.mk (List.prefix_nil.1 hq)) hne

theorem ClearAbove.clear (h : d.ClearAbove p) (plain : d.request? p = none) : d.Clear p := by
  intro q hq
  by_cases hne : q = p
  · rwa [hne]
  · exact h q hq hne

theorem Clear.child (h : d.Clear p) (t : String) : d.ClearAbove (p.child t) := by
  intro q hq hne
  rcases List.prefix_concat_iff.1 hq with he | hq
  · exact absurd (congrArg Pointer.mk he) hne
  · exact h q hq

/-- Tokens lead to clear positions, from positions that no reference stands above. -/
theorem Leads.clear (h : d.Leads n p v ts x) (above : d.ClearAbove p) : d.Clear x := by
  induction h with
  | stop plain => exact above.clear plain
  | link _ _ ih => exact ih clearAbove_root
  | step plain _ _ ih => exact ih ((above.clear plain).child _)
  | through _ _ _ _ _ _ iht ihr => exact ihr ((iht clearAbove_root).child _)

theorem Refers.clear (h : d.Refers n p x) : d.Clear x := by
  obtain ⟨t, -, target⟩ := h
  exact target.clear clearAbove_root

/-- The local references with a readable fragment, by what is written. -/
theorem request?_ne_none_iff (legible : ∀ v, d.at? p = some v → v.Legible) :
    d.request? p ≠ none ↔ ∃ ms s, d.at? p = some (.object ms) ∧
      Members.get? ms referenceKey = some (.string s) ∧ s.toList.head? = some '#' := by
  constructor
  · intro named
    obtain ⟨t, ht⟩ := Option.ne_none_iff_exists'.1 named
    obtain ⟨v, hv, ht⟩ := request?_eq_some.1 ht
    obtain ⟨ms, s, rfl, hs⟩ := reference_of_target? ht
    refine ⟨ms, s, hv, hs, ?_⟩
    by_contra remote
    have : (Value.object ms).localReference? = none := by
      simp [localReference?, member?, hs, remote]
    rw [target?, this] at ht
    cases ht
  · rintro ⟨ms, s, hv, hs, head⟩
    have fragment : (Value.object ms).localReference? = some s := by
      simp [localReference?, member?, hs, head]
    obtain ⟨t, ht⟩ := legible _ hv s fragment
    rw [request?_of_at? hv, target?, fragment, Option.bind_some, ht]
    exact Option.some_ne_none t

end Value

namespace Aliases

variable {d : Value} {table : AliasTable} {p c : Pointer}

/-! ### Keys and targets of the table -/

theorem mem_keys_resolve (hd : d.IsDocument) (h : resolve d = .ok table) :
    p ∈ table.map (·.1) ↔ d.request? p ≠ none := by
  constructor
  · intro hp
    obtain ⟨⟨q, c⟩, hq, rfl⟩ := List.mem_map.1 hp
    obtain ⟨n, hn⟩ := (mem_resolve hd h).1 hq
    exact hn.named
  · intro named
    obtain ⟨n, c, hn⟩ := ((exists_resolve hd).1 ⟨table, h⟩).2 p named
    exact List.mem_map.2 ⟨(p, c), (mem_resolve hd h).2 ⟨n, hn⟩, rfl⟩

theorem clear_of_mem (hd : d.IsDocument) (h : resolve d = .ok table) (hc : (p, c) ∈ table) :
    d.Clear c := by
  obtain ⟨n, hn⟩ := (mem_resolve hd h).1 hc
  exact hn.clear

/-- A position that no reference stands above stands for a clear one. -/
theorem clear_canonical (hd : d.IsDocument) (h : resolve d = .ok table) (above : d.ClearAbove p) :
    d.Clear (canonical table p) := by
  cases hl : table.lookup p with
  | some c =>
    rw [canonical, hl, Option.getD_some]
    exact clear_of_mem hd h (mem_of_lookup hl)
  | none =>
    rw [canonical, hl, Option.getD_none]
    refine above.clear ?_
    by_contra named
    have key := (mem_keys_resolve hd h).2 named
    rw [← lookup_isSome_iff_mem, hl] at key
    cases key

end Aliases
end JsonSchema
