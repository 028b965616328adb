import JsonSchema.Proofs.Except
import JsonSchema.Proofs.Positions
/-!
# The local references of a document

`Value.request?` is the position that the local reference at a position names. Collecting the local
references of a document succeeds exactly if each of their fragments is a pointer
(`Aliases.exists_collect`), and then it lists these positions (`Aliases.lookup_sort_collect`).
-/

namespace JsonSchema

namespace Value

/-- The position that a value names as a local reference. -/
def target? (v : Value) : Option Pointer :=
  v.localReference?.bind fun s => (Pointer.ofFragment s).toOption

/-- A value that is a local reference has a fragment that is a pointer. -/
def Legible (v : Value) : Prop :=
  ∀ s, v.localReference? = some s → ∃ t, Pointer.ofFragment s = .ok t

/-- The position that the local reference at `p` names. -/
def request? (d : Value) (p : Pointer) : Option Pointer := (d.at? p).bind target?

variable {d v : Value} {p t : Pointer}

theorem request?_eq_some : d.request? p = some t ↔ ∃ v, d.at? p = some v ∧ v.target? = some t :=
  Option.bind_eq_some_iff

theorem request?_of_at? (h : d.at? p = some v) : d.request? p = v.target? := by
  rw [request?, h]
  rfl

theorem request?_of_at?_eq_none (h : d.at? p = none) : d.request? p = none := by
  rw [request?, h]
  rfl

/-- What names a position is an object with the text of a reference. -/
theorem reference_of_target? (h : v.target? = some t) :
    ∃ ms s, v = .object ms ∧ Members.get? ms referenceKey = some (Value.string s) := by
  obtain ⟨s, hs, -⟩ := Option.bind_eq_some_iff.1 h
  unfold localReference? at hs
  split at hs
  · next s' hm =>
    cases v with
    | object ms => exact ⟨ms, s', rfl, hm⟩
    | _ => cases hm
  · cases hs

end Value

/-- A table that lists a function finds its values. -/
theorem lookup_eq_of_mem_iff {α β : Type} [BEq α] [LawfulBEq α] {l : List (α × β)}
    {f : α → Option β} (h : ∀ a b, (a, b) ∈ l ↔ f a = some b) (a : α) : l.lookup a = f a := by
  cases hl : l.lookup a with
  | some b => exact ((h a b).1 (mem_of_lookup hl)).symm
  | none =>
    cases hf : f a with
    | none => rfl
    | some b =>
      have : a ∈ l.map (·.1) := List.mem_map.2 ⟨(a, b), (h a b).2 hf, rfl⟩
      rw [← lookup_isSome_iff_mem, hl] at this
      cases this

namespace Aliases

variable {p : Pointer} {v : Value} {l : Places}

/-- A computation lists the local references among some places. -/
structure Collects (l : Places) (r : Except SchemaError AliasTable) : Prop where
  mem : ∀ table, r = .ok table → ∀ q t, (q, t) ∈ table ↔ ∃ w, (q, w) ∈ l ∧ w.target? = some t
  isOk : (∃ table, r = .ok table) ↔ ∀ q w, (q, w) ∈ l → w.Legible

namespace Collects

variable {l' : Places} {r r' : Except SchemaError AliasTable}

theorem nil : Collects [] (.ok []) := by
  constructor
  · rintro _ ⟨⟩ q t
    simp
  · simp

theorem append (h : Collects l r) (h' : Collects l' r') :
    Collects (l ++ l') (do let first ← r; return first ++ (← r')) := by
  constructor
  · intro table hr q t
    simp only [bind_eq_ok, pure_eq_ok] at hr
    obtain ⟨a, ha, b, hb, rfl⟩ := hr
    rw [List.mem_append, h.mem a ha, h'.mem b hb, ← exists_or]
    simp only [List.mem_append, or_and_right]
  · simp only [bind_eq_ok, pure_eq_ok, List.mem_append, or_imp, forall_and, ← h.isOk, ← h'.isOk]
    constructor
    · rintro ⟨_, a, ha, b, hb, -⟩
      exact ⟨⟨a, ha⟩, b, hb⟩
    · rintro ⟨⟨a, ha⟩, b, hb⟩
      exact ⟨_, a, ha, b, hb, rfl⟩

theorem congr (h : Collects l r) (hl : ∀ e, e ∈ l ↔ e ∈ l') : Collects l' r := by
  constructor
  · intro table hr q t
    rw [h.mem table hr]
    exact exists_congr fun w => and_congr_left fun _ => hl _
  · rw [h.isOk]
    exact forall₂_congr fun q w => imp_congr_left (hl _)

end Collects

theorem request_eq_ok {table : AliasTable} : request p v = .ok table ↔
    v.Legible ∧ table = v.target?.toList.map fun t => (p, t) := by
  unfold request Value.Legible Value.target?
  cases hs : v.localReference? with
  | none => simp [eq_comm]
  | some s => cases ht : Pointer.ofFragment s <;> simp [ht, Except.toOption, eq_comm]

theorem collects_request (p : Pointer) (v : Value) : Collects [(p, v)] (request p v) := by
  constructor
  · intro table h q t
    obtain ⟨-, rfl⟩ := request_eq_ok.1 h
    simp [eq_comm, and_comm]
  · simp [request_eq_ok]

/-- A value that is no local reference adds nothing. -/
theorem Collects.cons {r : Except SchemaError AliasTable} (h : Collects l r)
    (hv : v.localReference? = none) : Collects ((p, v) :: l) r := by
  have plain : v.target? = none := by rw [Value.target?, hv]; rfl
  constructor
  · intro table hr q t
    rw [h.mem table hr]
    constructor
    · rintro ⟨w, hw, ht⟩
      exact ⟨w, List.mem_cons_of_mem _ hw, ht⟩
    · rintro ⟨w, hw, ht⟩
      rcases List.mem_cons.1 hw with he | hw
      · cases he; cases plain.symm.trans ht
      · exact ⟨w, hw, ht⟩
  · rw [h.isOk]
    constructor
    · intro hl q w hw
      rcases List.mem_cons.1 hw with he | hw
      · cases he
        intro s hs
        cases hv.symm.trans hs
      · exact hl q w hw
    · exact fun hl q w hw => hl q w (List.mem_cons_of_mem _ hw)

theorem collects_collectElements {vs : List Value}
    (ih : ∀ v ∈ vs, ∀ p, Collects (v.places p) (collect p v)) (i : Nat) :
    Collects (Value.elementPlaces p i vs) (collectElements p i vs) := by
  induction vs generalizing i with
  | nil => exact .nil
  | cons v vs ihv =>
    exact (ih v (by simp) _).append (ihv (fun w hw => ih w (by simp [hw])) (i + 1))

theorem collects_collectMembers {ms : Members}
    (ih : ∀ k v, (k, v) ∈ ms → ∀ p, Collects (v.places p) (collect p v)) :
    Collects (Value.memberPlaces p ms) (collectMembers p ms) := by
  induction ms with
  | nil => exact .nil
  | cons m ms ihm =>
    obtain ⟨k, v⟩ := m
    exact (ih k v (by simp) _).append (ihm fun k' w hw => ih k' w (by simp [hw]))

/-- The local references in a value are those among its places. -/
theorem collects_collect (v : Value) (p : Pointer) : Collects (v.places p) (collect p v) := by
  induction v using Value.induction generalizing p with
  | array vs ih => exact (collects_collectElements ih 0).cons rfl
  | object ms ih =>
    refine ((collects_collectMembers ih).append (collects_request p (.object ms))).congr fun e => ?_
    rw [Value.places, List.mem_append, List.mem_singleton, List.mem_cons, or_comm]
  | _ => exact Collects.nil.cons rfl

/-! ### The local references of a document -/

variable {d : Value}

theorem lookup_sort_collect (hd : d.IsDocument) {table : AliasTable}
    (h : collect .root d = .ok table) (p : Pointer) : (sort table).lookup p = d.request? p := by
  refine lookup_eq_of_mem_iff (fun q t => ?_) p
  rw [sort, List.mem_mergeSort, (collects_collect d .root).mem table h, Value.request?_eq_some]
  exact exists_congr fun w => and_congr_left fun _ => Value.mem_places hd

theorem exists_collect (hd : d.IsDocument) : (∃ table, collect .root d = .ok table) ↔
    ∀ p v, d.at? p = some v → v.Legible := by
  rw [(collects_collect d .root).isOk]
  exact forall₂_congr fun p v => imp_congr_left (Value.mem_places hd)

end Aliases
end JsonSchema
