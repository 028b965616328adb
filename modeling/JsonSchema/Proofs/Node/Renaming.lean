import Mathlib.Tactic.Tauto
import JsonSchema.Node
/-!
# References under a function

What a node refers to after each reference has been replaced, and when two replacements are the
same.
-/

namespace JsonSchema

variable {ρ σ τ : Type} (f : ρ → σ)

theorem Items.schemas_map (i : Items ρ) : (i.map f).schemas = i.schemas.map f := by
  cases i <;> rfl

theorem Additional.schemas_map (a : Additional ρ) : (a.map f).schemas = a.schemas.map f := by
  cases a <;> rfl

theorem Composition.schemas_map (c : Composition ρ) : (c.map f).schemas = c.schemas.map f := by
  simp [Composition.map, schemas]
  cases c.not <;> rfl

theorem ArrayRules.schemas_map (a : ArrayRules ρ) : (a.map f).schemas = a.schemas.map f := by
  cases hi : a.items <;> cases ha : a.additional <;>
    simp [ArrayRules.map, schemas, hi, ha, Items.schemas_map, Additional.schemas_map]

theorem ObjectRules.schemas_map (o : ObjectRules ρ) : (o.map f).schemas = o.schemas.map f := by
  cases ha : o.additional <;>
    simp [ObjectRules.map, schemas, ha, Additional.schemas_map, Function.comp_def]

theorem Node.subschemas_map (n : Node ρ) : (n.map f).subschemas = n.subschemas.map f := by
  simp [Node.map, subschemas, Composition.schemas_map, ArrayRules.schemas_map,
    ObjectRules.schemas_map]

theorem Node.inPlace_map (n : Node ρ) : (n.map f).inPlace = n.inPlace.map f := by
  simp [Node.map, inPlace, Composition.schemas_map, ObjectRules.map, Function.comp_def]

theorem Node.inPlace_subset (n : Node ρ) : n.inPlace ⊆ n.subschemas := by
  intro m hm
  simp only [Node.inPlace, Node.subschemas, ObjectRules.schemas, List.mem_append] at hm ⊢
  tauto

theorem Node.map_map (g : σ → τ) (n : Node ρ) : (n.map f).map g = n.map (g ∘ f) := by
  have items : Items.map g ∘ Items.map f = Items.map (g ∘ f) := by
    funext i; cases i <;> simp [Items.map]
  have additional : Additional.map g ∘ Additional.map f = Additional.map (g ∘ f) := by
    funext a; cases a <;> rfl
  simp [Node.map, Composition.map, ArrayRules.map, ObjectRules.map, items, additional,
    Function.comp_def]

variable {f} {g : ρ → σ}

theorem Items.map_congr {i : Items ρ} (h : ∀ r ∈ i.schemas, f r = g r) : i.map f = i.map g := by
  cases i with
  | uniform r => exact congrArg _ (h r (by simp [schemas]))
  | tuple rs => exact congrArg _ (List.map_congr_left h)

theorem Additional.map_congr {a : Additional ρ} (h : ∀ r ∈ a.schemas, f r = g r) :
    a.map f = a.map g := by
  cases a with
  | forbidden => rfl
  | schema r => exact congrArg _ (h r (by simp [schemas]))

theorem Composition.map_congr {c : Composition ρ} (h : ∀ r ∈ c.schemas, f r = g r) :
    c.map f = c.map g := by
  simp only [schemas, List.mem_append, Option.mem_toList] at h
  have not : c.not.map f = c.not.map g := Option.map_congr fun r hr => h r (.inr hr)
  rw [Composition.map, Composition.map, not,
    List.map_congr_left fun r hr => h r (.inl (.inl (.inl hr))),
    List.map_congr_left fun r hr => h r (.inl (.inl (.inr hr))),
    List.map_congr_left fun r hr => h r (.inl (.inr hr))]

theorem ArrayRules.map_congr {a : ArrayRules ρ} (h : ∀ r ∈ a.schemas, f r = g r) :
    a.map f = a.map g := by
  simp only [schemas, List.mem_append, List.mem_flatMap, Option.mem_toList] at h
  have items : a.items.map (Items.map f) = a.items.map (Items.map g) :=
    Option.map_congr fun i hi => Items.map_congr fun r hr => h r (.inl ⟨i, hi, hr⟩)
  have additional : a.additional.map (Additional.map f) = a.additional.map (Additional.map g) :=
    Option.map_congr fun i hi => Additional.map_congr fun r hr => h r (.inr ⟨i, hi, hr⟩)
  rw [ArrayRules.map, ArrayRules.map, items, additional]

theorem ObjectRules.map_congr {o : ObjectRules ρ} (h : ∀ r ∈ o.schemas, f r = g r) :
    o.map f = o.map g := by
  simp only [schemas, List.mem_append, List.mem_flatMap, Option.mem_toList, List.mem_map] at h
  have additional : o.additional.map (Additional.map f) = o.additional.map (Additional.map g) :=
    Option.map_congr fun i hi => Additional.map_congr fun r hr => h r (.inl (.inr ⟨i, hi, hr⟩))
  have properties : ∀ p ∈ o.properties, (p.1, f p.2) = (p.1, g p.2) :=
    fun p hp => congrArg (p.1, ·) (h p.2 (.inl (.inl (.inl ⟨p, hp, rfl⟩))))
  have patterns : ∀ p ∈ o.patterns, (p.1, f p.2) = (p.1, g p.2) :=
    fun p hp => congrArg (p.1, ·) (h p.2 (.inl (.inl (.inr ⟨p, hp, rfl⟩))))
  have dependencies : ∀ p ∈ o.schemaDependencies, (p.1, f p.2) = (p.1, g p.2) :=
    fun p hp => congrArg (p.1, ·) (h p.2 (.inr ⟨p, hp, rfl⟩))
  simp only [ObjectRules.map, ObjectRules.mk.injEq, additional, true_and]
  exact ⟨List.map_congr_left properties, List.map_congr_left patterns,
    List.map_congr_left dependencies⟩

theorem Node.map_congr {n : Node ρ} (h : ∀ r ∈ n.subschemas, f r = g r) : n.map f = n.map g := by
  simp only [subschemas, List.mem_append] at h
  rw [Node.map, Node.map, Composition.map_congr fun r hr => h r (.inl (.inl (.inl hr))),
    ArrayRules.map_congr fun r hr => h r (.inl (.inl (.inr hr))),
    ObjectRules.map_congr fun r hr => h r (.inl (.inr hr)),
    List.map_congr_left fun r hr => h r (.inr hr)]

end JsonSchema
