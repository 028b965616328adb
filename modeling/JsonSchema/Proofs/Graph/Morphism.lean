import JsonSchema.Proofs.Node.Renaming
import JsonSchema.Proofs.Satisfaction
/-!
# Graphs that look alike

A map from the nodes of one graph to those of another is a morphism if it takes each node to one that
differs in its position only and refers to what the map takes the references to. Values satisfy the
same nodes under a morphism (`Graph.Morphism.satisfies_iff`), though many nodes may become one.
-/

namespace JsonSchema

variable {ρ σ : Type} {f : ρ → σ} {n : Node ρ} {v : Value}

/-! ### Nodes with references replaced -/

theorem Node.tracksKeys_map : (n.map f).tracksKeys = n.tracksKeys := by
  have dependencies : (n.object.map f).schemaDependencies.isEmpty =
      n.object.schemaDependencies.isEmpty := List.isEmpty_map
  rw [tracksKeys, tracksKeys, show (n.map f).object = n.object.map f from rfl, dependencies]
  rfl

theorem ObjectRules.names_map {r : ObjectRules ρ} {k : String} : (r.map f).Names k ↔ r.Names k := by
  simp [Names, ObjectRules.map]

theorem ArrayRules.admits_map {r : ArrayRules ρ} {vs : List Value} :
    (r.map f).Admits vs ↔ r.Admits vs := by
  have forbidden : (r.map f).additional = some .forbidden ↔ r.additional = some .forbidden := by
    rcases r with ⟨_, _ | _ | _, _⟩ <;> simp [ArrayRules.map, Additional.map]
  constructor
  · rintro ⟨tuple, h1, h2, h3⟩
    refine ⟨fun ms hm ha => ?_, h1, h2, h3⟩
    have := tuple (ms.map f) (by rw [ArrayRules.map, hm]; rfl) (forbidden.2 ha)
    rwa [List.length_map] at this
  · rintro ⟨tuple, h1, h2, h3⟩
    refine ⟨fun ms hm ha => ?_, h1, h2, h3⟩
    obtain ⟨i, hi, he⟩ := Option.map_eq_some_iff.1 hm
    cases i with
    | uniform m => cases he
    | tuple ms' =>
      cases he
      rw [List.length_map]
      exact tuple ms' hi (forbidden.1 ha)

theorem ObjectRules.admits_map {r : ObjectRules ρ} {ms : Members} :
    (r.map f).Admits ms ↔ r.Admits ms := by
  have forbidden : (r.map f).additional = some .forbidden ↔ r.additional = some .forbidden := by
    rcases r with ⟨_, _, _, _, _, _ | _ | _, _⟩ <;> simp [ObjectRules.map, Additional.map]
  constructor
  · rintro ⟨h1, h2, additional, h3, h4⟩
    exact ⟨h1, h2, fun ha k hk => names_map.1 (additional (forbidden.2 ha) k hk), h3, h4⟩
  · rintro ⟨h1, h2, additional, h3, h4⟩
    exact ⟨h1, h2, fun ha k hk => names_map.2 (additional (forbidden.1 ha) k hk), h3, h4⟩

/-- What a node admits by itself depends neither on its position nor on what it refers to. -/
theorem Node.admits_map {p : Pointer} :
    Node.Admits { n.map f with position := p } v ↔ n.Admits v := by
  constructor
  · rintro ⟨h1, h2, h3, h4, array, object, distinct⟩
    refine ⟨h1, h2, h3, h4, fun vs hv => ArrayRules.admits_map.1 (array vs hv),
      fun ms hv => ObjectRules.admits_map.1 (object ms hv), fun ht => distinct ?_⟩
    exact tracksKeys_map.trans ht
  · rintro ⟨h1, h2, h3, h4, array, object, distinct⟩
    refine ⟨h1, h2, h3, h4, fun vs hv => ArrayRules.admits_map.2 (array vs hv),
      fun ms hv => ObjectRules.admits_map.2 (object ms hv), fun ht => distinct ?_⟩
    exact tracksKeys_map.symm.trans ht

theorem Additional.map_eq_schema {o : Option (Additional ρ)} {s : σ}
    (h : o.map (Additional.map f) = some (.schema s)) : ∃ m, o = some (.schema m) ∧ f m = s := by
  obtain ⟨a, ha, he⟩ := Option.map_eq_some_iff.1 h
  cases a with
  | forbidden => cases he
  | schema m => cases he; exact ⟨m, ha, rfl⟩

theorem ArrayRules.applies_map {r : ArrayRules ρ} {i : Nat} {s : σ} :
    (r.map f).Applies i s ↔ ∃ m, r.Applies i m ∧ f m = s := by
  constructor
  · rintro (h | ⟨ms, h, hs⟩)
    · obtain ⟨j, hj, he⟩ := Option.map_eq_some_iff.1 h
      cases j with
      | uniform m => cases he; exact ⟨m, .inl hj, rfl⟩
      | tuple ms => cases he
    · obtain ⟨j, hj, he⟩ := Option.map_eq_some_iff.1 h
      cases j with
      | uniform m => cases he
      | tuple ms' =>
        cases he
        rw [List.getElem?_map, Option.map_eq_some_iff, List.length_map] at hs
        rcases hs with ⟨m, hm, rfl⟩ | ⟨hl, ha⟩
        · exact ⟨m, .inr ⟨ms', hj, .inl hm⟩, rfl⟩
        · obtain ⟨m, hm, rfl⟩ := Additional.map_eq_schema ha
          exact ⟨m, .inr ⟨ms', hj, .inr ⟨hl, hm⟩⟩, rfl⟩
  · rintro ⟨m, h | ⟨ms, h, hm⟩, rfl⟩
    · exact .inl (by rw [ArrayRules.map, h]; rfl)
    · refine .inr ⟨ms.map f, by rw [ArrayRules.map, h]; rfl, ?_⟩
      rw [List.length_map, List.getElem?_map]
      rcases hm with hm | ⟨hl, ha⟩
      · exact .inl (by rw [hm]; rfl)
      · exact .inr ⟨hl, by rw [ArrayRules.map, ha]; rfl⟩

theorem ObjectRules.applies_map {r : ObjectRules ρ} {k : String} {s : σ} :
    (r.map f).Applies k s ↔ ∃ m, r.Applies k m ∧ f m = s := by
  unfold Applies
  rw [names_map]
  constructor
  · rintro (h | ⟨p, h, hp⟩ | ⟨hn, ha⟩)
    · obtain ⟨⟨k', m⟩, hm, he⟩ := List.mem_map.1 h
      cases he
      exact ⟨m, .inl hm, rfl⟩
    · obtain ⟨⟨p', m⟩, hm, he⟩ := List.mem_map.1 h
      cases he
      exact ⟨m, .inr (.inl ⟨p, hm, hp⟩), rfl⟩
    · obtain ⟨m, hm, rfl⟩ := Additional.map_eq_schema ha
      exact ⟨m, .inr (.inr ⟨hn, hm⟩), rfl⟩
  · rintro ⟨m, h | ⟨p, h, hp⟩ | ⟨hn, ha⟩, rfl⟩
    · exact .inl (List.mem_map.2 ⟨(k, m), h, rfl⟩)
    · exact .inr (.inl ⟨p, List.mem_map.2 ⟨(p, m), h, rfl⟩, hp⟩)
    · exact .inr (.inr ⟨hn, by rw [ObjectRules.map, ha]; rfl⟩)

theorem ArrayRules.Applies.mem_schemas {r : ArrayRules ρ} {i : Nat} {m : ρ} (h : r.Applies i m) :
    m ∈ r.schemas := by
  rw [schemas, List.mem_append]
  rcases h with h | ⟨ms, h, hm | ⟨-, ha⟩⟩
  · exact .inl (by simp [h, Items.schemas])
  · exact .inl (by simpa [h, Items.schemas] using List.mem_of_getElem? hm)
  · exact .inr (by simp [ha, Additional.schemas])

theorem ObjectRules.Applies.mem_schemas {r : ObjectRules ρ} {k : String} {m : ρ}
    (h : r.Applies k m) : m ∈ r.schemas := by
  simp only [schemas, List.mem_append]
  rcases h with h | ⟨p, h, -⟩ | ⟨-, ha⟩
  · exact .inl (.inl (.inl (List.mem_map.2 ⟨_, h, rfl⟩)))
  · exact .inl (.inl (.inr (List.mem_map.2 ⟨_, h, rfl⟩)))
  · exact .inl (.inr (by simp [ha, Additional.schemas]))

/-- What holds of all images holds of what the map takes to them. -/
theorem forall_image_iff {P : ρ → Prop} {Q S : σ → Prop} (image : ∀ s, Q s ↔ ∃ m, P m ∧ f m = s) :
    (∀ s, Q s → S s) ↔ ∀ m, P m → S (f m) := by
  constructor
  · intro all m hm
    exact all (f m) ((image _).2 ⟨m, hm, rfl⟩)
  · intro all s hs
    obtain ⟨m, hm, rfl⟩ := (image s).1 hs
    exact all m hm

theorem Node.meets_map {p : Pointer} {S : σ → Value → Prop} :
    Node.Meets { n.map f with position := p } S v ↔ n.Meets (fun m => S (f m)) v := by
  dsimp only [Meets, map]
  refine and_congr admits_map <| and_congr ?_ <| and_congr ?_ <| and_congr ?_ <|
    and_congr ?_ <| and_congr ?_ <| and_congr ?_ ?_
  · exact forall₂_congr fun _ _ => forall₃_congr fun _ _ _ =>
      forall_image_iff fun _ => ArrayRules.applies_map
  · exact forall₂_congr fun _ _ => forall₃_congr fun _ _ _ =>
      forall_image_iff fun _ => ObjectRules.applies_map
  · exact forall_image_iff fun _ => List.mem_map
  · simp [Composition.map]
  · simp [Composition.map]
  · exact forall_image_iff fun _ => Option.map_eq_some_iff
  · refine forall_congr' fun k => forall_image_iff fun s => ?_
    simp [ObjectRules.map]

/-! ### Morphisms -/

namespace Graph

/-- A map on the nodes `U`, which refer to each other only, that keeps all but their positions. -/
structure Morphism (g' g : Graph) (U : NodeId → Prop) (f : NodeId → NodeId) : Prop where
  closed : ∀ i, U i → ∀ m ∈ (g'.node i).subschemas, U m
  node : ∀ i, U i → ∃ p, g.node (f i) = { (g'.node i).map f with position := p }

variable {g' g : Graph} {U : NodeId → Prop} {f : NodeId → NodeId}

theorem Morphism.satisfies_of_parts (h : Morphism g' g U f) {i : NodeId} (hi : U i) {v : Value}
    (items : ∀ vs, v = .array vs → ∀ w ∈ vs, ∀ m, U m → (g'.Satisfies m w ↔ g.Satisfies (f m) w))
    (members : ∀ ms, v = .object ms → ∀ k w, (k, w) ∈ ms → ∀ m, U m →
      (g'.Satisfies m w ↔ g.Satisfies (f m) w))
    (inPlace : ∀ m ∈ (g'.node i).inPlace, (g'.Satisfies m v ↔ g.Satisfies (f m) v)) :
    g'.Satisfies i v ↔ g.Satisfies (f i) v := by
  obtain ⟨p, hp⟩ := h.node i hi
  have array : ∀ j m, (g'.node i).array.Applies j m → U m := by
    intro j m hm
    refine h.closed i hi m ?_
    simp only [Node.subschemas, List.mem_append]
    exact .inl (.inl (.inr hm.mem_schemas))
  have object : ∀ k m, (g'.node i).object.Applies k m → U m := by
    intro k m hm
    refine h.closed i hi m ?_
    simp only [Node.subschemas, List.mem_append]
    exact .inl (.inr hm.mem_schemas)
  rw [satisfies_iff_meets, satisfies_iff_meets, hp, Node.meets_map]
  refine Node.meets_congr Iff.rfl ?_ ?_ (fun _ => Iff.rfl) inPlace
  · exact forall₂_congr fun vs hv => forall₃_congr fun j w hw => forall₂_congr fun m hm =>
      items vs hv w (List.mem_of_getElem? hw) m (array j m hm)
  · exact forall₂_congr fun ms hv => forall₃_congr fun k w hw => forall₂_congr fun m hm =>
      members ms hv k w hw m (object k m hm)

/-- Values satisfy the same nodes under a morphism. -/
theorem Morphism.satisfies_iff (h : Morphism g' g U f) (v : Value) :
    ∀ i, U i → (g'.Satisfies i v ↔ g.Satisfies (f i) v) := by
  intro i
  induction v, i using Graph.induction g' with
  | meets v i items members inPlace =>
    intro hi
    exact h.satisfies_of_parts hi items members fun m hm =>
      inPlace m hm (h.closed i hi m (Node.inPlace_subset _ hm))

end Graph
end JsonSchema
