import JsonSchema.Proofs.Node.Readers
import JsonSchema.Proofs.Schema.Grammar
import Mathlib.Tactic.Tauto
/-!
# Nodes are read exactly from schemas

Reading a node succeeds exactly on the schema objects of the grammar (`Node.succeeds_compile`). Each
reader of a keyword has a result exactly if the keyword is absent or its value has the form that the
grammar gives it; no reader but that of an excluded limit looks at a second keyword.
-/

namespace JsonSchema

/-! ### Representations of integers -/

namespace Number

theorem ofInt?_toNat (u : UInt64) : ofInt? u.toNat = some (.unsigned u) := by
  have bound : (u.toNat : Int) < (Nat.pow 2 64 : Int) := Int.ofNat_lt.2 u.toNat_lt
  rw [ofInt?, if_pos ⟨Int.natCast_nonneg _, bound⟩, Int.toNat_natCast, UInt64.ofNat_toNat]

theorem unsigned_of_ofInt? {i : Int} {n : Number} (h0 : 0 ≤ i) (h : ofInt? i = some n) :
    ∃ u : UInt64, n = .unsigned u ∧ i = u.toNat := by
  unfold ofInt? at h
  split at h
  · next hi =>
    have bound : i.toNat < 2 ^ 64 := (Int.toNat_lt h0).2 hi.2
    cases h
    refine ⟨_, rfl, ?_⟩
    rw [UInt64.toNat_ofNat_of_lt' bound, Int.toNat_of_nonneg h0]
  · split at h
    · omega
    · cases h

theorem not_isPositive_signed (i : Int64) : ¬(signed i).IsPositive := by
  rintro ⟨j, hj, h⟩
  obtain ⟨u, hu, -⟩ := unsigned_of_ofInt? (Int.le_of_lt hj) h
  cases hu

theorem isPositive_unsigned {u : UInt64} : (unsigned u).IsPositive ↔ u ≠ 0 := by
  constructor
  · rintro ⟨i, hi, h⟩ rfl
    obtain ⟨u, hu, rfl⟩ := unsigned_of_ofInt? (Int.le_of_lt hi) h
    cases hu
    exact absurd hi (by decide)
  · intro hu
    have pos : u.toNat ≠ 0 := fun h => hu (UInt64.toNat_inj.1 h)
    exact ⟨u.toNat, by omega, ofInt?_toNat u⟩

end Number

/-! ### Names of kinds -/

theorem Kind.ofName?_eq_some {s : String} {k : Kind} : Kind.ofName? s = some k ↔ s = k.name := by
  constructor
  · intro h
    have found := List.find?_some h
    exact (eq_of_beq found).symm
  · rintro rfl
    cases k <;> decide

namespace Keywords

variable {ks : Keywords} {kw : String}

/-- The keyword is absent, or its value has the form. -/
def Has (ks : Keywords) (kw : String) (form : Value → Prop) : Prop :=
  ∀ v, ks.get? kw = some v → form v

/-! ### Scalars -/

theorem has_of_none {form : Value → Prop} (h : ks.get? kw = none) : ks.Has kw form := by
  rintro v hv
  cases h.symm.trans hv

theorem has_iff_of_some {form : Value → Prop} {v : Value} (h : ks.get? kw = some v) :
    ks.Has kw form ↔ form v := by
  constructor
  · exact fun hv => hv v h
  · rintro hv w hw
    cases h.symm.trans hw
    exact hv

theorem exists_get?_eq_map {α : Type} {f : α → Value} :
    (∃ o : Option α, ks.get? kw = o.map f) ↔ ks.Has kw fun v => ∃ a, v = f a := by
  constructor
  · rintro ⟨o, ho⟩ v hv
    obtain ⟨a, -, rfl⟩ := Option.map_eq_some_iff.1 (ho.symm.trans hv)
    exact ⟨a, rfl⟩
  · intro h
    cases hv : ks.get? kw with
    | none => exact ⟨none, rfl⟩
    | some v =>
      obtain ⟨a, rfl⟩ := h v hv
      exact ⟨some a, rfl⟩

theorem succeeds_string? : Succeeds (ks.string? kw) ↔ ks.Has kw Value.IsText :=
  (exists_congr fun _ => string?_eq_ok).trans exists_get?_eq_map

theorem succeeds_boolean? : Succeeds (ks.boolean? kw) ↔ ks.Has kw Value.IsFlag :=
  (exists_congr fun _ => boolean?_eq_ok).trans exists_get?_eq_map

theorem succeeds_object? : Succeeds (ks.object? kw) ↔ ks.Has kw Value.IsObject :=
  (exists_congr fun _ => object?_eq_ok).trans exists_get?_eq_map

theorem isCount_iff {v : Value} : v.IsCount ↔ ∃ u, v = .number (.unsigned u) := by
  constructor
  · rintro ⟨i, n, h0, hi, rfl⟩
    obtain ⟨u, rfl, -⟩ := Number.unsigned_of_ofInt? h0 hi
    exact ⟨u, rfl⟩
  · rintro ⟨u, rfl⟩
    exact ⟨u.toNat, _, Int.natCast_nonneg _, Number.ofInt?_toNat u, rfl⟩

theorem succeeds_count? : Succeeds (ks.count? kw) ↔ ks.Has kw Value.IsCount := by
  have unsigned : Succeeds (ks.count? kw) ↔ ks.Has kw fun v => ∃ u, v = .number (.unsigned u) := by
    rw [← exists_get?_eq_map]
    simp only [Succeeds, count?_eq_ok]
    constructor
    · rintro ⟨o, u, hu, -⟩
      exact ⟨u, hu⟩
    · rintro ⟨u, hu⟩
      exact ⟨_, u, hu, rfl⟩
  exact unsigned.trans (forall₂_congr fun v hv => isCount_iff.symm)

/-! ### Names and kinds -/

/-- The values are those of distinct things, of which none has been met. -/
def Distinct {α : Type} (f : α → Value) (met : List α) (vs : List Value) : Prop :=
  ∃ l : List α, vs = l.map f ∧ l.Nodup ∧ ∀ a ∈ l, a ∉ met

section

variable {α : Type} {f : α → Value} {met : List α} {vs : List Value}

theorem distinct_nil : Distinct f met [] := ⟨[], rfl, List.nodup_nil, by simp⟩

theorem not_distinct_cons {v : Value} (h : ∀ a, v ≠ f a) : ¬Distinct f met (v :: vs) := by
  rintro ⟨l, hl, -⟩
  cases l with
  | nil => cases hl
  | cons a l => exact h a (List.cons.inj hl).1

theorem distinct_cons (hf : Function.Injective f) {a : α} :
    Distinct f met (f a :: vs) ↔ a ∉ met ∧ Distinct f (a :: met) vs := by
  constructor
  · rintro ⟨l, hl, nodup, fresh⟩
    cases l with
    | nil => cases hl
    | cons b l =>
      obtain ⟨h, rfl⟩ := List.cons.inj hl
      obtain rfl := hf h
      obtain ⟨hb, nodup⟩ := List.nodup_cons.1 nodup
      refine ⟨fresh a List.mem_cons_self, l, rfl, nodup, fun b hbl h => ?_⟩
      rcases List.mem_cons.1 h with rfl | h
      · exact hb hbl
      · exact fresh b (List.mem_cons_of_mem _ hbl) h
  · rintro ⟨ha, l, rfl, nodup, fresh⟩
    have outside : a ∉ l := fun h => fresh a h List.mem_cons_self
    refine ⟨a :: l, rfl, List.nodup_cons.2 ⟨outside, nodup⟩, List.forall_mem_cons.2 ⟨ha, ?_⟩⟩
    exact fun b hb h => fresh b hb (List.mem_cons_of_mem a h)

theorem distinct_nil_met : Distinct f [] vs ↔ ∃ l : List α, vs = l.map f ∧ l.Nodup := by
  simp [Distinct]

end

theorem string_injective : Function.Injective Value.string := fun _ _ => Value.string.inj

theorem name_injective : Function.Injective fun k : Kind => Value.string k.name := fun j k h => by
  have hj : Kind.ofName? j.name = some j := Kind.ofName?_eq_some.2 rfl
  have hk : Kind.ofName? j.name = some k := Kind.ofName?_eq_some.2 (Value.string.inj h)
  exact Option.some.inj (hj.symm.trans hk)

theorem succeeds_names {met : List String} {vs : List Value} :
    Succeeds (ks.names kw met vs) ↔ Distinct .string met vs := by
  fun_induction names ks kw met vs with
  | case1 met => simp [distinct_nil]
  | case2 met s vs hs => simp [fail, distinct_cons string_injective, hs]
  | case3 met s vs hs ih => simp [ih, distinct_cons string_injective, hs]
  | case4 met v vs hv => simp [fail, not_distinct_cons hv]

theorem succeeds_kinds {met : List Kind} {vs : List Value} :
    Succeeds (ks.kinds met vs) ↔ Distinct (fun k => .string k.name) met vs := by
  fun_induction kinds ks met vs with
  | case1 met => simp [distinct_nil]
  | case2 met name vs hn =>
    have unknown : ∀ k : Kind, Value.string name ≠ .string k.name := fun k h => by
      rw [Kind.ofName?_eq_some.2 (Value.string.inj h)] at hn
      cases hn
    simp [fail, not_distinct_cons unknown]
  | case3 met name vs k hk hm =>
    obtain rfl := Kind.ofName?_eq_some.1 hk
    simp [fail, distinct_cons name_injective (a := k), hm]
  | case4 met name vs k hk hm ih =>
    obtain rfl := Kind.ofName?_eq_some.1 hk
    simp [ih, distinct_cons name_injective (a := k), hm]
  | case5 met v vs hv => simp [fail, not_distinct_cons fun k : Kind => hv k.name]

theorem succeeds_keySet {v : Value} : Succeeds (ks.keySet kw v) ↔ v.IsKeySet := by
  unfold keySet
  split
  · simp [fail, Value.IsKeySet]
  · next vs hne =>
    simp only [succeeds_bind, succeeds_pure, and_true]
    refine succeeds_names.trans (distinct_nil_met.trans (exists_congr fun names => ?_))
    rw [Value.array.injEq]
    refine and_congr_right fun hvs => ⟨fun nodup => ⟨?_, nodup⟩, And.right⟩
    rintro rfl
    exact hne hvs
  · next hna =>
    simp only [fail, not_succeeds_error, false_iff]
    rintro ⟨names, rfl, -⟩
    exact hna _ rfl

theorem succeeds_types : Succeeds ks.types ↔ ks.Has "type" Value.IsTypes := by
  unfold types
  cases h : ks.get? "type" with
  | none => simp [has_of_none h]
  | some v =>
    rw [has_iff_of_some h]
    cases v with
    | string s =>
      simp only [succeeds_bind, succeeds_pure, and_true]
      refine succeeds_kinds.trans (distinct_nil_met.trans ?_)
      constructor
      · rintro ⟨l, hl, -⟩
        cases l with
        | nil => cases hl
        | cons k l => exact .inl ⟨k, (List.cons.inj hl).1⟩
      · rintro (⟨k, hk⟩ | ⟨l, hl, -⟩)
        · exact ⟨[k], congrArg (fun v => [v]) hk, List.nodup_singleton k⟩
        · cases hl
    | array vs =>
      simp only [succeeds_bind, succeeds_pure, and_true]
      refine succeeds_kinds.trans (distinct_nil_met.trans ?_)
      simp [Value.IsTypes]
    | _ => simp [fail, Value.IsTypes]

theorem succeeds_enumeration : Succeeds ks.enumeration ↔ ks.Has "enum" Value.IsNonempty := by
  unfold enumeration
  cases h : ks.get? "enum" with
  | none => simp [has_of_none h]
  | some v =>
    rw [has_iff_of_some h]
    cases v with
    | array vs => cases vs <;> simp [fail, Value.IsNonempty]
    | _ => simp [fail, Value.IsNonempty]

theorem succeeds_branches : Succeeds (ks.branches kw) ↔ ks.Has kw Value.IsNonempty := by
  unfold branches
  cases h : ks.get? kw with
  | none => simp [has_of_none h]
  | some v =>
    rw [has_iff_of_some h]
    cases v with
    | array vs => cases vs <;> simp [fail, Value.IsNonempty]
    | _ => simp [fail, Value.IsNonempty]

theorem succeeds_composition : Succeeds ks.composition ↔
    ks.Has "allOf" Value.IsNonempty ∧ ks.Has "anyOf" Value.IsNonempty ∧
      ks.Has "oneOf" Value.IsNonempty := by
  rw [← succeeds_branches, ← succeeds_branches, ← succeeds_branches]
  simp only [composition, succeeds_bind, succeeds_pure, and_true, exists_and_right, exists_eq_ok]

/-! ### Numbers and patterns -/

theorem succeeds_multipleOf :
    Succeeds ks.multipleOf ↔ ks.Has "multipleOf" Value.IsPositive := by
  simp only [multipleOf, number?]
  cases h : ks.get? "multipleOf" with
  | none => simp [has_of_none h, succeeds_bind, succeeds_pure]
  | some v =>
    rw [has_iff_of_some h]
    cases v with
    | number n =>
      have positive : (Value.number n).IsPositive ↔ n.IsPositive := by
        simp [Value.IsPositive]
      rw [positive]
      simp only [succeeds_bind, Except.ok.injEq, exists_eq_left']
      cases n with
      | signed i => simp [fail, Number.not_isPositive_signed]
      | unsigned u =>
        rw [Number.isPositive_unsigned]
        by_cases hu : u = 0 <;> simp [hu, fail, succeeds_pure]
      | float x => by_cases hx : 0 < x.units <;> simp [hx, fail, succeeds_pure, Number.IsPositive]
    | _ => simp [fail, Value.IsPositive, succeeds_bind]

theorem succeeds_bound {exclusive : String} : Succeeds (ks.bound kw exclusive) ↔
    ks.Has kw Value.IsNumber ∧ ks.Has exclusive Value.IsFlag ∧
      ((ks.get? exclusive).isSome → (ks.get? kw).isSome) := by
  have number : Succeeds (ks.number? kw) ↔ ks.Has kw Value.IsNumber :=
    (exists_congr fun _ => number?_eq_ok).trans exists_get?_eq_map
  rw [← number, ← succeeds_boolean?]
  simp only [bound, succeeds_bind]
  constructor
  · rintro ⟨limit, hl, flag, hf, h⟩
    refine ⟨⟨limit, hl⟩, ⟨flag, hf⟩, fun excluded => ?_⟩
    rw [boolean?_eq_ok.1 hf, Option.isSome_map] at excluded
    rw [number?_eq_ok.1 hl, Option.isSome_map]
    cases flag with
    | none => cases excluded
    | some b =>
      cases limit with
      | none => simp [fail] at h
      | some n => rfl
  · rintro ⟨⟨limit, hl⟩, ⟨flag, hf⟩, paired⟩
    refine ⟨limit, hl, flag, hf, ?_⟩
    rw [boolean?_eq_ok.1 hf, number?_eq_ok.1 hl, Option.isSome_map, Option.isSome_map] at paired
    cases flag with
    | none => exact succeeds_pure _
    | some b =>
      cases limit with
      | none => cases paired rfl
      | some n => exact succeeds_pure _

theorem succeeds_numberRules : Succeeds ks.numberRules ↔
    ks.Has "multipleOf" Value.IsPositive ∧
      (ks.Has "maximum" Value.IsNumber ∧ ks.Has "exclusiveMaximum" Value.IsFlag ∧
        ((ks.get? "exclusiveMaximum").isSome → (ks.get? "maximum").isSome)) ∧
      (ks.Has "minimum" Value.IsNumber ∧ ks.Has "exclusiveMinimum" Value.IsFlag ∧
        ((ks.get? "exclusiveMinimum").isSome → (ks.get? "minimum").isSome)) := by
  rw [← succeeds_multipleOf, ← succeeds_bound, ← succeeds_bound]
  simp only [numberRules, succeeds_bind, succeeds_pure, and_true, exists_and_right, exists_eq_ok]

theorem succeeds_pattern {s : String} :
    Succeeds (ks.pattern kw s) ↔ (Pattern.compile? s).isSome := by
  unfold pattern
  cases Pattern.compile? s <;> simp

theorem succeeds_pattern? : (∃ o, ks.string? kw = .ok o ∧ Succeeds (o.mapM (ks.pattern kw))) ↔
    ks.Has kw Value.IsPattern := by
  simp only [string?_eq_ok]
  constructor
  · rintro ⟨o, ho, h⟩ v hv
    obtain ⟨s, rfl, rfl⟩ := Option.map_eq_some_iff.1 (ho.symm.trans hv)
    obtain ⟨p, h⟩ := h
    cases hp : ks.pattern kw s with
    | error e => simp [hp] at h
    | ok p => exact ⟨s, rfl, succeeds_pattern.1 ⟨p, hp⟩⟩
  · intro h
    cases hv : ks.get? kw with
    | none => exact ⟨none, rfl, succeeds_pure none⟩
    | some v =>
      obtain ⟨s, rfl, hs⟩ := h v hv
      obtain ⟨p, hp⟩ : Succeeds (ks.pattern kw s) := succeeds_pattern.2 hs
      exact ⟨some s, rfl, some p, by simp [hp]⟩

theorem succeeds_stringRules : Succeeds ks.stringRules ↔
    ks.Has "maxLength" Value.IsCount ∧ ks.Has "minLength" Value.IsCount ∧
      ks.Has "pattern" Value.IsPattern ∧ ks.Has "format" Value.IsText := by
  rw [← succeeds_count?, ← succeeds_count?, ← succeeds_pattern?, ← succeeds_string?]
  simp only [stringRules, succeeds_bind, succeeds_pure, and_true, exists_and_right, exists_eq_ok,
    ← and_assoc]

/-! ### Arrays and objects -/

theorem succeeds_items : Succeeds ks.items ↔ ks.Has "items" Value.IsItems := by
  unfold items
  cases h : ks.get? "items" with
  | none => simp [has_of_none h]
  | some v => cases v <;> simp [has_iff_of_some h, fail, Value.IsItems, Value.IsObject, Value.IsArray]

theorem succeeds_additional : Succeeds (ks.additional kw) ↔ ks.Has kw Value.IsAdditional := by
  unfold additional
  cases h : ks.get? kw with
  | none => simp [has_of_none h]
  | some v =>
    rw [has_iff_of_some h]
    cases v with
    | boolean b => cases b <;> simp [Value.IsAdditional, Value.IsFlag]
    | _ => simp [fail, Value.IsAdditional, Value.IsFlag, Value.IsObject]

theorem succeeds_schemas : Succeeds (ks.schemas kw) ↔ ks.Has kw Value.IsObject := by
  simp only [schemas, succeeds_bind, succeeds_pure, and_true]
  exact succeeds_object?

theorem exists_members {P : String × Value → Prop} :
    (∃ o, ks.object? kw = .ok o ∧ ∀ m ∈ o.getD [], P m) ↔
      ks.Has kw fun v => ∃ ms, v = .object ms ∧ ∀ m ∈ ms, P m := by
  simp only [object?_eq_ok]
  constructor
  · rintro ⟨o, ho, h⟩ v hv
    obtain ⟨ms, rfl, rfl⟩ := Option.map_eq_some_iff.1 (ho.symm.trans hv)
    exact ⟨ms, rfl, h⟩
  · intro h
    cases hv : ks.get? kw with
    | none => exact ⟨none, rfl, by simp⟩
    | some v =>
      obtain ⟨ms, rfl, hms⟩ := h v hv
      exact ⟨some ms, rfl, hms⟩

theorem succeeds_patternProperties :
    Succeeds ks.patternProperties ↔ ks.Has "patternProperties" Value.IsPatternMap := by
  refine Iff.trans ?_ exists_members
  simp only [patternProperties, succeeds_bind, schemas_eq_ok, succeeds_mapM, succeeds_pure, and_true]
  constructor
  · rintro ⟨l, ⟨o, ho, rfl⟩, h⟩
    refine ⟨o, ho, fun m hm => ?_⟩
    have named := h _ (List.mem_map_of_mem hm)
    exact succeeds_pattern.1 named
  · rintro ⟨o, ho, h⟩
    refine ⟨_, ⟨o, ho, rfl⟩, fun e he => ?_⟩
    obtain ⟨m, hm, rfl⟩ := List.mem_map.1 he
    exact succeeds_pattern.2 (h m hm)

theorem succeeds_dependency {name : String} {v : Value} :
    Succeeds (ks.dependency name v) ↔ v.IsObject ∨ v.IsKeySet := by
  cases v with
  | object ms => simp [dependency, Value.IsObject]
  | array vs =>
    have notObject : ¬(Value.array vs).IsObject := by
      rintro ⟨ms, ⟨⟩⟩
    simp only [dependency, succeeds_bind, succeeds_pure, and_true, notObject, false_or]
    exact succeeds_keySet
  | _ => simp [dependency, fail, Value.IsObject, Value.IsKeySet]

theorem succeeds_dependencies :
    Succeeds ks.dependencies ↔ ks.Has "dependencies" Value.IsDependencies := by
  refine Iff.trans ?_ exists_members
  simp only [dependencies, succeeds_bind, succeeds_mapM, succeeds_pure, and_true, exists_eq_ok,
    succeeds_dependency]

theorem succeeds_required : Succeeds ks.required ↔ ks.Has "required" Value.IsKeySet := by
  unfold required
  cases h : ks.get? "required" with
  | none => simp [has_of_none h]
  | some v => rw [has_iff_of_some h]; exact succeeds_keySet

theorem succeeds_arrayRules : Succeeds ks.arrayRules ↔
    ks.Has "items" Value.IsItems ∧ ks.Has "additionalItems" Value.IsAdditional ∧
      ks.Has "maxItems" Value.IsCount ∧ ks.Has "minItems" Value.IsCount ∧
      ks.Has "uniqueItems" Value.IsFlag := by
  rw [← succeeds_items, ← succeeds_additional, ← succeeds_count?, ← succeeds_count?,
    ← succeeds_boolean?]
  simp only [arrayRules, succeeds_bind, succeeds_pure, and_true, exists_and_right, exists_eq_ok]

theorem succeeds_objectRules : Succeeds ks.objectRules ↔
    ks.Has "maxProperties" Value.IsCount ∧ ks.Has "minProperties" Value.IsCount ∧
      ks.Has "required" Value.IsKeySet ∧ ks.Has "properties" Value.IsObject ∧
      ks.Has "patternProperties" Value.IsPatternMap ∧
      ks.Has "additionalProperties" Value.IsAdditional ∧
      ks.Has "dependencies" Value.IsDependencies := by
  rw [← succeeds_count?, ← succeeds_count?, ← succeeds_required, ← succeeds_schemas,
    ← succeeds_patternProperties, ← succeeds_additional, ← succeeds_dependencies]
  simp only [objectRules, succeeds_bind, succeeds_pure, and_true, exists_and_right, exists_eq_ok]

theorem isSchema_object (ks : Keywords) : (Value.object ks.members).IsSchema ↔
    (∀ e ∈ Value.grammar, ks.Has e.1 e.2) ∧
      ∀ e ∈ Value.limits, (ks.get? e.1).isSome → (ks.get? e.2).isSome := by
  constructor
  · intro h
    exact ⟨h.keywords, h.paired⟩
  · rintro ⟨keywords, paired⟩
    exact ⟨⟨_, rfl⟩, keywords, paired⟩

end Keywords

/-- A node is read exactly from a schema object. -/
theorem Node.succeeds_compile {p : Pointer} {v : Value} :
    Succeeds (Node.compile p v) ↔ v.IsSchema := by
  cases v with
  | object ms =>
    have schema := Keywords.isSchema_object (Keywords.mk p ms)
    rw [schema]
    simp only [compile, succeeds_bind, succeeds_pure, and_true, exists_and_right, exists_eq_ok,
      Keywords.succeeds_string?, Keywords.succeeds_types, Keywords.succeeds_enumeration,
      Keywords.succeeds_composition, Keywords.succeeds_numberRules,
      Keywords.succeeds_stringRules, Keywords.succeeds_arrayRules,
      Keywords.succeeds_objectRules, Keywords.succeeds_schemas, Value.grammar, Value.limits,
      List.forall_mem_cons, List.not_mem_nil, false_implies, implies_true]
    -- both sides say the same of each keyword, once grouped by readers and once as a list
    tauto
  | _ =>
    simp only [compile, not_succeeds_error, false_iff]
    rintro ⟨⟨_, ⟨⟩⟩, -⟩

end JsonSchema
