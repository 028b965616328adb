import JsonSchema.Proofs.Node.Readers
/-!
# What a schema is refused for

A value that is no schema is refused for what stands at its own position: it is no object, or one of
its keywords has a wrong value (`Node.failsWith_compile`). Reading a schema follows no reference.
-/

namespace JsonSchema

/-- The schema at this position is at fault by itself. -/
def SchemaError.IsAt (p : Pointer) : SchemaError → Prop
  | .notAnObject q => q = p
  | .invalidKeyword q _ _ => q = p
  | .invalidPattern q _ => q = p
  | .invalidReference _ _ => False
  | .notDescending _ => False

namespace Keywords

variable {ks : Keywords} {α : Type}

/-- A reader fails for what stands at the position of the schema only. -/
abbrev Refuses (ks : Keywords) (x : Except SchemaError α) : Prop :=
  FailsWith (SchemaError.IsAt ks.position) x

@[simp] theorem refuses_fail (kw : String) (fault : KeywordFault) :
    ks.Refuses (ks.fail kw fault : Except SchemaError α) :=
  rfl

/-! ### Readers of one value -/

theorem refuses_string? (kw : String) : ks.Refuses (ks.string? kw) := by
  unfold string?
  split <;> simp

theorem refuses_boolean? (kw : String) : ks.Refuses (ks.boolean? kw) := by
  unfold boolean?
  split <;> simp

theorem refuses_object? (kw : String) : ks.Refuses (ks.object? kw) := by
  unfold object?
  split <;> simp

theorem refuses_number? (kw : String) : ks.Refuses (ks.number? kw) := by
  unfold number?
  split <;> simp

theorem refuses_count? (kw : String) : ks.Refuses (ks.count? kw) := by
  unfold count?
  split <;> simp

theorem refuses_names (kw : String) (met : List String) (vs : List Value) :
    ks.Refuses (ks.names kw met vs) := by
  fun_induction names ks kw met vs with
  | case3 _ _ _ _ ih => exact ih
  | _ => simp

theorem refuses_keySet (kw : String) (v : Value) : ks.Refuses (ks.keySet kw v) := by
  unfold keySet
  split
  · simp
  · exact (refuses_names kw [] _).bind fun _ => trivial
  · simp

theorem refuses_kinds (met : List Kind) (vs : List Value) : ks.Refuses (ks.kinds met vs) := by
  fun_induction kinds ks met vs with
  | case4 _ _ _ _ _ _ ih => exact ih
  | _ => simp

theorem refuses_types : ks.Refuses ks.types := by
  unfold types
  split
  · simp
  · exact (refuses_kinds _ _).bind fun _ => trivial
  · exact (refuses_kinds _ _).bind fun _ => trivial
  · simp

theorem refuses_enumeration : ks.Refuses ks.enumeration := by
  unfold enumeration
  split <;> simp

theorem refuses_branches (kw : String) : ks.Refuses (ks.branches kw) := by
  unfold branches
  split <;> simp

theorem refuses_pattern (kw text : String) : ks.Refuses (ks.pattern kw text) := by
  unfold pattern
  split
  · simp
  · exact rfl

theorem refuses_items : ks.Refuses ks.items := by
  unfold items
  split <;> simp

theorem refuses_additional (kw : String) : ks.Refuses (ks.additional kw) := by
  unfold additional
  split <;> simp

theorem refuses_schemas (kw : String) : ks.Refuses (ks.schemas kw) :=
  (refuses_object? kw).bind fun _ => trivial

theorem refuses_required : ks.Refuses ks.required := by
  unfold required
  split
  · simp
  · exact refuses_keySet _ _

theorem refuses_dependency (name : String) (v : Value) : ks.Refuses (ks.dependency name v) := by
  unfold dependency
  split
  · simp
  · exact (refuses_keySet _ _).bind fun _ => trivial
  · simp

/-! ### Groups of keywords -/

theorem refuses_composition : ks.Refuses ks.composition :=
  (refuses_branches _).bind fun _ => (refuses_branches _).bind fun _ =>
    (refuses_branches _).bind fun _ => trivial

theorem refuses_multipleOf : ks.Refuses ks.multipleOf := by
  refine (refuses_number? _).bind fun o => ?_
  split
  · simp
  · split <;> simp
  · split <;> simp
  · simp

theorem refuses_bound (kw exclusive : String) : ks.Refuses (ks.bound kw exclusive) := by
  refine (refuses_number? _).bind fun limit => (refuses_boolean? _).bind fun flag => ?_
  split <;> simp

theorem refuses_numberRules : ks.Refuses ks.numberRules :=
  refuses_multipleOf.bind fun _ => (refuses_bound _ _).bind fun _ =>
    (refuses_bound _ _).bind fun _ => trivial

theorem refuses_stringRules : ks.Refuses ks.stringRules := by
  refine (refuses_count? _).bind fun _ => (refuses_count? _).bind fun _ =>
    (refuses_string? _).bind fun text => FailsWith.bind ?_ fun _ =>
    (refuses_string? _).bind fun _ => trivial
  cases text with
  | none => exact trivial
  | some s => exact (refuses_pattern _ s).bind fun _ => trivial

theorem refuses_arrayRules : ks.Refuses ks.arrayRules :=
  refuses_items.bind fun _ => (refuses_additional _).bind fun _ =>
    (refuses_count? _).bind fun _ => (refuses_count? _).bind fun _ =>
    (refuses_boolean? _).bind fun _ => trivial

theorem refuses_patternProperties : ks.Refuses ks.patternProperties := by
  refine (refuses_schemas _).bind fun l => .mapM (fun (name, _) => ?_) l
  exact (refuses_pattern _ name).bind fun _ => trivial

theorem refuses_dependencies : ks.Refuses ks.dependencies := by
  refine (refuses_object? _).bind fun o => .mapM (fun (name, v) => ?_) (o.getD [])
  exact (refuses_dependency name v).bind fun _ => trivial

theorem refuses_objectRules : ks.Refuses ks.objectRules :=
  (refuses_count? _).bind fun _ => (refuses_count? _).bind fun _ =>
    refuses_required.bind fun _ => (refuses_schemas _).bind fun _ =>
    refuses_patternProperties.bind fun _ => (refuses_additional _).bind fun _ =>
    refuses_dependencies.bind fun _ => trivial

end Keywords

open Keywords in
/-- A schema is refused for what stands at its position. -/
theorem Node.failsWith_compile (p : Pointer) (v : Value) :
    FailsWith (SchemaError.IsAt p) (Node.compile p v) := by
  cases v with
  | object ms =>
    let ks : Keywords := ⟨p, ms⟩
    have title : ks.Refuses (ks.string? "title") := refuses_string? _
    exact title.bind fun _ => (refuses_string? _).bind fun _ => refuses_types.bind fun _ =>
      refuses_enumeration.bind fun _ =>
      refuses_composition.bind fun _ => refuses_numberRules.bind fun _ =>
      refuses_stringRules.bind fun _ => refuses_arrayRules.bind fun _ =>
      refuses_objectRules.bind fun _ => (refuses_schemas _).bind fun _ => trivial
  | _ => exact rfl

end JsonSchema
