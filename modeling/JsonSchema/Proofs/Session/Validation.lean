import JsonSchema.Proofs.Node.Reading
import JsonSchema.Proofs.Session.Objects
/-!
# Streaming validation decides satisfaction

The bare session of a node passes the events of a value exactly if the keywords that do not run
beside it admit the value and its parts satisfy the schemas that apply to them (`decides_own`). With
what runs beside it, a session accepts exactly the values that satisfy its node
(`accepts_iff_satisfies`), by induction over the value and, for one value, over the rank of the node.
-/

namespace JsonSchema

namespace Session

variable {g : Graph} {n : Node NodeId} {v : Value}

/-! ### The keywords of the bare node -/

theorem kindOk_iff {e : Event} (h : e.kinds? = some v.kinds) :
    kindOk n e = true ↔ ∀ ts ∈ n.types, ∃ k ∈ v.kinds, k ∈ ts := by
  unfold kindOk
  rw [h]
  cases n.types with
  | none => simp
  | some ts => simp

theorem numberOk_iff {r : NumberRules} {x : Number} : numberOk r x = true ↔ r.Admits x := by
  simp only [numberOk, Bool.and_eq_true, Option.all_eq_true, and_assoc]
  constructor
  · rintro ⟨h1, h2, h3⟩
    exact ⟨h1, h2, h3⟩
  · rintro ⟨h1, h2, h3⟩
    exact ⟨h1, h2, h3⟩

theorem stringOk_iff {r : StringRules} {s : String} : stringOk r s = true ↔ r.Admits s := by
  simp only [stringOk, atMost, atLeast, Bool.and_eq_true, Option.all_eq_true, and_assoc,
    decide_eq_true_eq]
  constructor
  · rintro ⟨h1, h2, h3, h4⟩
    exact ⟨h1, h2, h3, h4⟩
  · rintro ⟨h1, h2, h3, h4⟩
    exact ⟨h1, h2, h3, h4⟩

/-- The parts of a value are accepted by the schemas that apply to them. -/
def PartsPass (g : Graph) (n : Node NodeId) (v : Value) : Prop :=
  (∀ vs, v = .array vs → ∀ i w, vs[i]? = some w → ∀ m, n.array.Applies i m → Accepts g m w) ∧
  ∀ ms, v = .object ms → ∀ k w, (k, w) ∈ ms → ∀ m, n.object.Applies k m → Accepts g m w

theorem decides_scalar {e : Event} (hb : e.isBinary = false)
    (hc : ∀ s : Session, s.conclude g e = (s.require (!s.atTop || scalarOk s.node e)).digest e) :
    (machine g).Decides (core n) [e] (kindOk n e = true ∧ scalarOk n e = true) (core n) := by
  have hp : (core n).prepare g e = (core n).require (kindOk n e) := prepare_top bare_core rfl
  have scalar : scalarOk n.bare e = scalarOk n e := by cases e <;> rfl
  have run : (machine g).run (core n) [e] =
      (((core n).require (kindOk n e)).require (scalarOk n e)).digest e := by
    show (core n).feed g e = _
    rw [feed_of_prepare hb rfl (by rw [hp]; rfl), hp, hc, ← scalar]
    rfl
  rw [digest_of_none rfl] at run
  constructor
  · rintro ⟨hk, hs⟩
    have kept : (core n).require (kindOk n e) = core n := require_of_matched rfl hk
    rw [run, kept, require_of_matched rfl hs]
  · intro h
    rw [run]
    refine Bool.eq_false_iff.2 fun hm => h ?_
    exact Bool.and_eq_true_iff.1 (show (kindOk n e && scalarOk n e) = true from hm)

/-- What the bare node asks of a scalar. -/
theorem admits_scalar_iff (h : PartsPass g n v) (names : v.names = [])
    (array : ∀ vs, v ≠ .array vs) (object : ∀ ms, v ≠ .object ms) :
    n.bare.Admits v ∧ PartsPass g n v ↔ (∀ ts ∈ n.types, ∃ k ∈ v.kinds, k ∈ ts) ∧
      (∀ x, v = .number x → n.number.Admits x) ∧ ∀ s, v = .string s → n.string.Admits s := by
  constructor
  · rintro ⟨ha, -⟩
    exact ⟨ha.types, ha.number, ha.string⟩
  · rintro ⟨ht, hn, hs⟩
    refine ⟨⟨ht, fun es he => (by cases he), hn, hs, fun vs hv => absurd hv (array vs),
      fun ms hv => absurd hv (object ms), fun _ => names ▸ List.nodup_nil⟩, h⟩

/-- What a bare session makes of the events of a value. -/
theorem decides_own (hd : (n.object.properties.map (·.1)).Nodup) (v : Value) :
    ∃ t, t.matched = true ∧ t.keys = noted n v.names.reverse ∧
      (machine g).Decides (core n) v.events (n.bare.Admits v ∧ PartsPass g n v) t := by
  have none_noted : noted n [] = [] := ite_self []
  cases v with
  | null =>
    refine ⟨core n, rfl, none_noted.symm,
      (decides_scalar (e := .null) rfl fun _ => rfl).congr ?_⟩
    rw [admits_scalar_iff ⟨by rintro _ ⟨⟩, by rintro _ ⟨⟩⟩ rfl (by simp) (by simp),
      kindOk_iff (v := .null) rfl]
    simp [scalarOk]
  | boolean b =>
    refine ⟨core n, rfl, none_noted.symm,
      (decides_scalar (e := .boolean b) rfl fun _ => rfl).congr ?_⟩
    rw [admits_scalar_iff ⟨by rintro _ ⟨⟩, by rintro _ ⟨⟩⟩ rfl (by simp) (by simp),
      kindOk_iff (v := .boolean b) rfl]
    simp [scalarOk]
  | number x =>
    refine ⟨core n, rfl, none_noted.symm,
      (decides_scalar (e := .number x) rfl fun _ => rfl).congr ?_⟩
    rw [admits_scalar_iff ⟨by rintro _ ⟨⟩, by rintro _ ⟨⟩⟩ rfl (by simp) (by simp),
      kindOk_iff (v := .number x) (by cases x <;> rfl), scalarOk, numberOk_iff]
    simp
  | string s =>
    refine ⟨core n, rfl, none_noted.symm,
      (decides_scalar (e := .string s) rfl fun _ => rfl).congr ?_⟩
    rw [admits_scalar_iff ⟨by rintro _ ⟨⟩, by rintro _ ⟨⟩⟩ rfl (by simp) (by simp),
      kindOk_iff (v := .string s) rfl, scalarOk, stringOk_iff]
    simp
  | array vs =>
    refine ⟨_, rfl, none_noted.symm, (decides_array vs).congr ?_⟩
    rw [kindOk_iff (v := .array vs) rfl]
    constructor
    · rintro ⟨ht, ha, hp⟩
      refine ⟨⟨ht, fun es he => (by cases he), by rintro _ ⟨⟩, by rintro _ ⟨⟩, ?_, by rintro _ ⟨⟩,
        fun _ => List.nodup_nil⟩, ?_, by rintro _ ⟨⟩⟩
      · rintro _ ⟨⟩; exact ha
      · rintro _ ⟨⟩; exact hp
    · rintro ⟨ha, hp, -⟩
      exact ⟨ha.types, ha.array vs rfl, hp vs rfl⟩
  | object ms =>
    refine ⟨_, rfl, rfl, (decides_object hd ms).congr ?_⟩
    rw [kindOk_iff (v := .object ms) rfl]
    constructor
    · rintro ⟨ht, ha, hn, hp⟩
      refine ⟨⟨ht, fun es he => (by cases he), by rintro _ ⟨⟩, by rintro _ ⟨⟩, by rintro _ ⟨⟩, ?_, hn⟩,
        by rintro _ ⟨⟩, ?_⟩
      · rintro _ ⟨⟩; exact ha
      · rintro _ ⟨⟩; exact hp
    · rintro ⟨ha, -, hp⟩
      exact ⟨ha.types, ha.object ms rfl, ha.distinct, hp ms rfl⟩

/-! ### What runs beside the bare node -/

theorem candidatesOk_iff (hs : n.Sound) : (Runs.after g n v.events).candidatesOk = true ↔
    ∀ es ∈ n.enumeration, ∃ e ∈ es, e.Agrees v := by
  have begun : (!v.events.isEmpty) = true := by simpa using events_ne_nil v
  simp only [Runs.candidatesOk, Runs.after, begun, Bool.not_true, Bool.false_or, Option.all_map,
    Option.all_eq_true, Function.comp_apply, List.any_map, List.any_eq_true]
  refine forall_congr' fun es => forall_congr' fun hes => exists_congr fun e => ?_
  exact and_congr_right fun he => Comparator.matched_feedAll_events (hs.literals es hes e he) v

/-- Exactly one index is that of an element with a property. -/
theorem countP_eq_one_iff {α : Type} {p : α → Bool} {l : List α} :
    l.countP p = 1 ↔ ∃ i, ∃ _h : i < l.length, p l[i] = true ∧
      ∀ j, (_h : j < l.length) → p l[j] = true → j = i := by
  induction l with
  | nil => simp
  | cons x l ih =>
    cases hx : p x with
    | true =>
      rw [List.countP_cons_of_pos hx, Nat.add_eq_right, List.countP_eq_zero]
      constructor
      · intro h
        refine ⟨0, by simp, hx, fun j hj hp => ?_⟩
        cases j with
        | zero => rfl
        | succ j => exact absurd hp (h _ (List.getElem_mem (by simpa using hj)))
      · rintro ⟨i, hi, -, h⟩ y hy hp
        obtain ⟨j, hj, rfl⟩ := List.getElem_of_mem hy
        have h0 := h 0 (by simp) hx
        have h1 := h (j + 1) (by simpa using hj) hp
        omega
    | false =>
      rw [List.countP_cons_of_neg (by simp [hx]), ih]
      constructor
      · rintro ⟨i, hi, hp, h⟩
        refine ⟨i + 1, by simpa using hi, hp, fun j hj hp' => ?_⟩
        cases j with
        | zero => rw [List.getElem_cons_zero, hx] at hp'; cases hp'
        | succ j => exact congrArg (· + 1) (h j (by simpa using hj) hp')
      · rintro ⟨i, hi, hp, h⟩
        cases i with
        | zero => rw [List.getElem_cons_zero, hx] at hp; cases hp
        | succ i =>
          refine ⟨i, by simpa using hi, hp, fun j hj hp' => ?_⟩
          have := h (j + 1) (by simpa using hj) hp'
          omega

theorem accepts_iff : (Runs.after g n v.events).accepts g = true ↔
    (∀ m ∈ n.composition.allOf, Accepts g m v) ∧
    (n.composition.anyOf = [] ∨ ∃ m ∈ n.composition.anyOf, Accepts g m v) ∧
    (n.composition.oneOf = [] ∨ ∃ i, ∃ _h : i < n.composition.oneOf.length,
      Accepts g n.composition.oneOf[i] v ∧
      ∀ j, (_h : j < n.composition.oneOf.length) → Accepts g n.composition.oneOf[j] v → j = i) ∧
    ∀ m, n.composition.not = some m → ¬Accepts g m v := by
  simp only [Runs.accepts, Runs.after, Composition.map, List.all_map, List.any_map, List.countP_map,
    List.isEmpty_map, Option.all_map, Bool.and_eq_true, Bool.or_eq_true, List.isEmpty_iff,
    beq_iff_eq, countP_eq_one_iff, List.all_eq_true, List.any_eq_true, Option.all_eq_true,
    Function.comp_apply, Bool.not_eq_true', and_assoc, Accepts, Bool.not_eq_true]

/-- The runs for `dependencies` that have not failed are told apart by name. -/
theorem nodup_dependencies_after (hs : n.Sound) :
    (((Runs.after g n v.events).dependencies.filter (·.2.matched)).map (·.1)).Nodup := by
  have all : (Runs.after g n v.events).dependencies.map (·.1) =
      n.object.schemaDependencies.map (·.1) := by
    simp [Runs.after, Function.comp_def]
  refine hs.dependencies.sublist ?_
  rw [← all]
  exact (List.filter_sublist).map _

theorem lookup_dependencies_iff (hs : n.Sound) {k : String} :
    (((Runs.after g n v.events).dependencies.filter (·.2.matched)).map fun p =>
      (p.1, p.2.verdict g)).lookup k = some true ↔
        ∃ m, (k, m) ∈ n.object.schemaDependencies ∧ Accepts g m v := by
  have distinct := nodup_dependencies_after (g := g) (v := v) hs
  rw [lookup_eq_some_iff_mem (by simpa [Function.comp_def] using distinct)]
  constructor
  · intro h
    obtain ⟨c, hc, he⟩ := List.mem_map.1 h
    obtain ⟨⟨k', m⟩, hm, rfl⟩ := List.mem_map.1 (List.mem_filter.1 hc).1
    obtain ⟨rfl, hv⟩ := Prod.mk.inj he
    exact ⟨m, hm, hv⟩
  · rintro ⟨m, hm, ha⟩
    refine List.mem_map.2 ⟨(k, (start g m).feedAll g v.events), ?_, by rw [ha]⟩
    exact List.mem_filter.2 ⟨List.mem_map.2 ⟨(k, m), hm, rfl⟩, matched_of_verdict ha⟩

theorem mem_noted_iff {k : String} {m : NodeId} (h : (k, m) ∈ n.object.schemaDependencies) :
    k ∈ noted n v.names.reverse ↔ k ∈ v.names := by
  have ht : n.tracksKeys = true := by
    simp [Node.tracksKeys, List.ne_nil_of_mem h]
  simp [noted, ht]

theorem dependenciesOk_iff (hs : n.Sound) :
    (Runs.after g n v.events).dependenciesOk g n.object (noted n v.names.reverse) = true ↔
      ∀ k m, (k, m) ∈ n.object.schemaDependencies → k ∈ v.names → Accepts g m v := by
  rw [Runs.dependenciesOk, List.all_eq_true]
  constructor
  · intro h k m hm hk
    have hd := h (k, m) hm
    simp only [Bool.or_eq_true, Bool.not_eq_true', List.contains_eq_mem,
      decide_eq_false_iff_not, mem_noted_iff hm, hk, not_true, false_or, beq_iff_eq] at hd
    obtain ⟨m', hm', ha⟩ := (lookup_dependencies_iff hs).1 hd
    cases (lookup_of_mem hs.dependencies hm).symm.trans (lookup_of_mem hs.dependencies hm')
    exact ha
  · rintro h ⟨k, m⟩ hm
    simp only [Bool.or_eq_true, Bool.not_eq_true', List.contains_eq_mem,
      decide_eq_false_iff_not, mem_noted_iff hm, beq_iff_eq]
    by_cases hk : k ∈ v.names
    · exact .inr ((lookup_dependencies_iff hs).2 ⟨m, hm, h k m hm hk⟩)
    · exact .inl hk

/-! ### Satisfaction -/

theorem admits_iff : n.Admits v ↔
    n.bare.Admits v ∧ ∀ es ∈ n.enumeration, ∃ e ∈ es, e.Agrees v := by
  constructor
  · rintro ⟨h1, h2, h3, h4, h5, h6, h7⟩
    exact ⟨⟨h1, fun _ he => (by cases he), h3, h4, h5, h6, h7⟩, h2⟩
  · rintro ⟨⟨h1, -, h3, h4, h5, h6, h7⟩, h2⟩
    exact ⟨h1, h2, h3, h4, h5, h6, h7⟩

/-- A session on a node accepts a value exactly if the node admits it, the parts are accepted by the
schemas that apply to them, and what runs beside it is accepted as the node asks. -/
theorem accepts_iff_meaning {id : NodeId} (hs : (g.node id).Sound) : Accepts g id v ↔
    (g.node id).Admits v ∧ PartsPass g (g.node id) v ∧
      (Runs.after g (g.node id) v.events).accepts g = true ∧
      ∀ k m, (k, m) ∈ (g.node id).object.schemaDependencies → k ∈ v.names → Accepts g m v := by
  obtain ⟨t, ht, hk, decided⟩ := decides_own (g := g) hs.properties v
  have own := decided.matched_iff ht
  rw [Accepts, start, verdict_fresh v.events isBinary_of_mem_events, admits_iff]
  simp only [Bool.and_eq_true, candidatesOk_iff hs]
  constructor
  · rintro ⟨⟨⟨hm, hc⟩, ha⟩, hd⟩
    obtain ⟨hb, hp⟩ := own.1 hm
    have run : (core (g.node id)).feedAll g v.events = t := decided.pass ⟨hb, hp⟩
    rw [run, hk] at hd
    exact ⟨⟨hb, hc⟩, hp, ha, (dependenciesOk_iff hs).1 hd⟩
  · rintro ⟨⟨hb, hc⟩, hp, ha, hd⟩
    have run : (core (g.node id)).feedAll g v.events = t := decided.pass ⟨hb, hp⟩
    refine ⟨⟨⟨own.2 ⟨hb, hp⟩, hc⟩, ha⟩, ?_⟩
    rw [run, hk]
    exact (dependenciesOk_iff hs).2 hd

theorem accepts_iff_meets {id : NodeId} (hs : (g.node id).Sound) :
    Accepts g id v ↔ (g.node id).Meets (Accepts g) v := by
  rw [accepts_iff_meaning hs, accepts_iff, Node.Meets, PartsPass]
  simp only [and_assoc]

/-- A session accepts exactly the values that satisfy its node. -/
theorem accepts_iff_satisfies (hg : ∀ id, (g.node id).Sound) (v : Value) :
    ∀ id, Accepts g id v ↔ g.Satisfies id v := by
  intro id
  induction v, id using Graph.induction g with
  | meets v id items members branch =>
    rw [accepts_iff_meets (hg id), Graph.satisfies_iff_meets]
    refine Node.meets_congr Iff.rfl ?_ ?_ (fun _ => Iff.rfl) branch
    · exact forall₂_congr fun vs hv => forall₂_congr fun i w => forall₂_congr fun hw m =>
        imp_congr_right fun _ => items vs hv w (List.mem_of_getElem? hw) m
    · exact forall₂_congr fun ms hv => forall₂_congr fun k w => forall₂_congr fun hw m =>
        imp_congr_right fun _ => members ms hv k w hw m

end Session
end JsonSchema
