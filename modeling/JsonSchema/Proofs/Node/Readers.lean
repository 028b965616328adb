import JsonSchema.Proofs.Schema.Subschemas
/-!
# What the readers of keywords accept

For each reader of a keyword the values from which it has a result. A result does not depend on the
position, which is part of faults only. What a node refers to stands in the values of its keywords,
at most two tokens further down (`Keywords.Reads.part`).
-/

namespace JsonSchema.Keywords

variable {ks : Keywords} {kw : String}

/-! ### Scalars -/

theorem string?_eq_ok {o : Option String} : ks.string? kw = .ok o ↔ ks.get? kw = o.map .string := by
  unfold string?
  cases hk : ks.get? kw with
  | none => cases o <;> simp
  | some v => cases v <;> cases o <;> simp [fail]

theorem boolean?_eq_ok {o : Option Bool} :
    ks.boolean? kw = .ok o ↔ ks.get? kw = o.map .boolean := by
  unfold boolean?
  cases hk : ks.get? kw with
  | none => cases o <;> simp
  | some v => cases v <;> cases o <;> simp [fail]

theorem number?_eq_ok {o : Option Number} :
    ks.number? kw = .ok o ↔ ks.get? kw = o.map .number := by
  unfold number?
  cases hk : ks.get? kw with
  | none => cases o <;> simp
  | some v => cases v <;> cases o <;> simp [fail]

theorem count?_eq_ok {o : Option Nat} : ks.count? kw = .ok o ↔
    ∃ u : Option UInt64, ks.get? kw = u.map (fun u => .number (.unsigned u)) ∧
      o = u.map (·.toNat) := by
  unfold count?
  cases hk : ks.get? kw with
  | none =>
    constructor
    · rintro ⟨⟩
      exact ⟨none, rfl, rfl⟩
    · rintro ⟨u, hu, rfl⟩
      cases u with
      | none => rfl
      | some u => cases hu
  | some v =>
    constructor
    · intro h
      split at h
      · next h' => cases h'
      · next u h' => cases h'; cases h; exact ⟨some u, rfl, rfl⟩
      · cases h
      · cases h
    · rintro ⟨u, hu, rfl⟩
      cases u with
      | none => cases hu
      | some u => cases hu; rfl

/-! ### Lists of texts -/

theorem kinds_eq_ok (ks' : Keywords) {met ts : List Kind} {vs : List Value}
    (h : ks.kinds met vs = .ok ts) :
    (∀ v ∈ vs, ∃ s, v = .string s) ∧ ks'.kinds met vs = .ok ts := by
  fun_induction kinds ks met vs with
  | case1 met => exact ⟨by simp, h⟩
  | case2 met name vs hn => cases h
  | case3 met name vs k hk hm => cases h
  | case4 met name vs k hk hm ih =>
    obtain ⟨texts, same⟩ := ih h
    refine ⟨List.forall_mem_cons.2 ⟨⟨name, rfl⟩, texts⟩, ?_⟩
    rw [kinds, hk]
    simp only [if_neg hm]
    exact same
  | case5 => cases h

theorem names_eq_ok (ks' : Keywords) {met ns : List String} {vs : List Value}
    (h : ks.names kw met vs = .ok ns) :
    (∀ v ∈ vs, ∃ s, v = .string s) ∧ ks'.names kw met vs = .ok ns := by
  fun_induction names ks kw met vs with
  | case1 met => exact ⟨by simp, h⟩
  | case2 met s vs hs => cases h
  | case3 met s vs hs ih =>
    obtain ⟨texts, same⟩ := ih h
    refine ⟨List.forall_mem_cons.2 ⟨⟨s, rfl⟩, texts⟩, ?_⟩
    rw [names, if_neg hs]
    exact same
  | case4 => cases h

theorem keySet_eq_ok (ks' : Keywords) {v : Value} {ns : List String} (h : ks.keySet kw v = .ok ns) :
    ∃ vs, v = .array vs ∧ (∀ w ∈ vs, ∃ s, w = .string s) ∧ ks'.keySet kw v = .ok ns := by
  unfold keySet at h
  split at h
  · cases h
  · next vs hne =>
    simp only [bind_eq_ok, pure_eq_ok] at h
    obtain ⟨l, hl, rfl⟩ := h
    obtain ⟨texts, same⟩ := names_eq_ok ks' hl
    refine ⟨vs, rfl, texts, ?_⟩
    unfold keySet
    cases vs with
    | nil => exact absurd rfl (hne ·)
    | cons w ws => simp only [bind_eq_ok, pure_eq_ok]; exact ⟨l, same, rfl⟩
  · cases h

/-! ### Where the schemas stand -/

/-- The keywords that hold named schemas. -/
def naming : List String := ["properties", "patternProperties", "definitions"]

/-- Where keywords hold schemas: a keyword by itself, an element of its list, or one of its named
values. -/
inductive Part (ks : Keywords) : Pointer → Prop where
  | value (kw : String) : Part ks (ks.child kw)
  | element {kw : String} {vs : List Value} (h : ks.get? kw = some (.array vs)) (i : Nat) :
      Part ks ((ks.child kw).index i)
  | named {kw : String} {ms : Members} (hk : kw ∈ naming) (h : ks.get? kw = some (.object ms))
      (name : String) : Part ks ((ks.child kw).child name)
  | dependency {ms : Members} (h : ks.get? "dependencies" = some (.object ms))
      (valid : ∀ m ∈ ms, ∃ e, ks.dependency m.1 m.2 = .ok e) (name : String) :
      Part ks ((ks.child "dependencies").child name)

variable {p : Pointer}

theorem Reads.exists_dependency {n : Node Pointer} (hr : ks.Reads n) {ms : Members}
    (h : ks.get? "dependencies" = some (.object ms)) :
    ∀ m ∈ ms, ∃ e, ks.dependency m.1 m.2 = .ok e := by
  obtain ⟨es, hes, -, -⟩ := (objectRules_eq_ok.1 hr.object).dependencies
  obtain ⟨o, ho, hes⟩ := dependencies_eq_ok.1 hes
  rw [object?_eq_ok, h] at ho
  cases o with
  | none => cases ho
  | some ms =>
    cases ho
    intro m hm
    obtain ⟨e, -, -, he⟩ := (partners_of_forall₂ hes).1 m hm
    exact ⟨e.2, he⟩

/-- What a node refers to stands in the values of its keywords. -/
theorem Reads.part {n : Node Pointer} (hr : ks.Reads n) (hp : p ∈ n.subschemas) : ks.Part p := by
  obtain ⟨ts, hts, rfl⟩ := hr.mem_subschemas_iff.1 hp
  cases hts with
  | applied hts =>
    cases hts with
    | inPlace hts =>
      cases hts with
      | branch hk h hi => exact below_child ▸ .element h _
      | not h => exact .value "not"
      | dependency h hm => exact below_child ▸ .dependency h (hr.exists_dependency h) _
    | items h => exact .value "items"
    | element h hi => exact below_child ▸ .element h _
    | additional hk h => exact .value _
    | named hk h hm =>
      have hk : _ ∈ naming := List.mem_append_left ["definitions"] hk
      exact below_child ▸ .named hk h _
  | definition h hm => exact below_child ▸ .named (by decide) h _

/-- Each named value is a schema that the node refers to. -/
theorem Reads.mem_named {n : Node Pointer} (hr : ks.Reads n) (hk : kw ∈ naming) {ms : Members}
    (hm : ks.get? kw = some (.object ms)) {name : String} {v : Value} (hv : (name, v) ∈ ms) :
    (ks.child kw).child name ∈ n.subschemas := by
  refine hr.mem_subschemas_iff.2 ⟨[kw, name], ?_, below_child.symm⟩
  rcases List.mem_append.1 (show kw ∈ ["properties", "patternProperties"] ++ ["definitions"] from hk)
    with hk | hk
  · exact .applied (.named hk hm hv)
  · obtain rfl := List.mem_singleton.1 hk
    exact .definition hm hv

/-- A part stands below the position of the keywords. -/
theorem Part.exists_below (h : ks.Part p) : ∃ kw ts, p = ks.position.below (kw :: ts) := by
  cases h with
  | value kw => exact ⟨kw, [], rfl⟩
  | element h i => exact ⟨_, [toString i], Pointer.below_below⟩
  | named hk h name => exact ⟨_, [name], Pointer.below_below⟩
  | dependency h valid name => exact ⟨_, [name], Pointer.below_below⟩

end JsonSchema.Keywords
