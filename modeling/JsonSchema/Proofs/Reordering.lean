import JsonSchema.Proofs.Digest.Same
/-!
# The order of members

Whether a value satisfies a node does not depend on the order in which the members of its objects
come, however deep they are (`Graph.satisfies_arrange`): a node by itself sees what a value agrees
with, the digests of elements and the names of members, and none of these depends on it.
-/

namespace JsonSchema

variable {ρ : Type} {f : Members → Members} {v : Value}

namespace Value

/-! ### What is seen of a value -/

theorem names_arrange (perm : ∀ ms, (f ms).Perm ms) (v : Value) :
    (v.arrange f).names.Perm v.names := by
  cases v with
  | object ms =>
    rw [arrange_object, names, names, ← names_arranged (f := f) ms]
    exact (perm _).map _
  | _ => exact List.Perm.refl _

theorem mem_arranged_iff (perm : ∀ ms, (f ms).Perm ms) {ms : Members} {k : String} {w : Value} :
    (k, w) ∈ f (ms.map fun m => (m.1, m.2.arrange f)) ↔ ∃ v, (k, v) ∈ ms ∧ v.arrange f = w := by
  rw [(perm _).mem_iff, List.mem_map]
  constructor
  · rintro ⟨⟨k, v⟩, hv, he⟩
    cases he
    exact ⟨v, hv, rfl⟩
  · rintro ⟨v, hv, rfl⟩
    exact ⟨(k, v), hv, rfl⟩

theorem agrees_array_iff {es vs : List Value} :
    (array es).Agrees (array vs) ↔ List.Forall₂ Agrees es vs := by
  constructor
  · rintro ⟨⟩
    assumption
  · exact .array

theorem agrees_object_iff {es vs : Members} : (object es).Agrees (object vs) ↔
    vs.names.Nodup ∧ (∀ k, k ∈ vs.names ↔ k ∈ es.names) ∧
      ∀ k e v, (k, e) ∈ es → (k, v) ∈ vs → e.Agrees v := by
  constructor
  · rintro ⟨⟩
    exact ⟨‹_›, ‹_›, ‹_›⟩
  · rintro ⟨distinct, names, members⟩
    exact .object distinct names members

theorem agrees_arrange (perm : ∀ ms, (f ms).Perm ms) (v : Value) :
    ∀ e : Value, e.Agrees (v.arrange f) ↔ e.Agrees v := by
  induction v using Value.induction with
  | array vs ih =>
    intro e
    cases e with
    | array es =>
      rw [arrange_array, agrees_array_iff, agrees_array_iff, List.forall₂_map_right_iff,
        List.forall₂_iff_get, List.forall₂_iff_get]
      exact and_congr_right fun _ => forall₃_congr fun i _ hi => ih _ (List.get_mem vs ⟨i, hi⟩) _
    | _ => exact iff_of_false nofun nofun
  | object vs ih =>
    intro e
    cases e with
    | object es =>
      have names := names_arrange perm (object vs)
      rw [arrange_object] at names ⊢
      rw [agrees_object_iff, agrees_object_iff]
      refine and_congr names.nodup_iff <| and_congr ?_ ?_
      · exact forall_congr' fun k => iff_congr names.mem_iff Iff.rfl
      · constructor
        · intro h k e v he hv
          exact (ih k v hv e).1 (h k e _ he ((mem_arranged_iff perm).2 ⟨v, hv, rfl⟩))
        · intro h k e w he hw
          obtain ⟨v, hv, rfl⟩ := (mem_arranged_iff perm).1 hw
          exact (ih k v hv e).2 (h k e v he hv)
    | _ => exact iff_of_false nofun nofun
  | _ => exact fun _ => Iff.rfl

end Value

/-! ### What a node admits -/

theorem ArrayRules.Admits.congr {r : ArrayRules ρ} {vs ws : List Value} (h : r.Admits vs)
    (digests : vs.map Value.digest = ws.map Value.digest) : r.Admits ws := by
  have length : vs.length = ws.length := by simpa using congrArg List.length digests
  obtain ⟨tuple, maxItems, minItems, unique⟩ := h
  rw [length] at tuple maxItems minItems
  exact ⟨tuple, maxItems, minItems, digests ▸ unique⟩

theorem ObjectRules.Admits.perm {r : ObjectRules ρ} {ms ms' : Members} (h : r.Admits ms)
    (names : ms.names.Perm ms'.names) : r.Admits ms' := by
  have length : ms.length = ms'.length := by simpa [Members.names] using names.length_eq
  obtain ⟨maxProperties, minProperties, additional, required, dependencies⟩ := h
  rw [length] at maxProperties minProperties
  simp only [names.mem_iff] at additional required dependencies
  exact ⟨maxProperties, minProperties, additional, required, dependencies⟩

namespace Node

variable {n : Node ρ}

theorem admits_array_iff {vs : List Value} : n.Admits (.array vs) ↔
    (∀ ts ∈ n.types, ∃ k ∈ (Value.array vs).kinds, k ∈ ts) ∧
      (∀ es ∈ n.enumeration, ∃ e ∈ es, e.Agrees (.array vs)) ∧ n.array.Admits vs := by
  constructor
  · intro h
    exact ⟨h.types, h.enumeration, h.array vs rfl⟩
  · rintro ⟨types, enumeration, array⟩
    refine ⟨types, enumeration, nofun, nofun, ?_, nofun, fun _ => List.nodup_nil⟩
    rintro _ ⟨⟩
    exact array

theorem admits_object_iff {ms : Members} : n.Admits (.object ms) ↔
    (∀ ts ∈ n.types, ∃ k ∈ (Value.object ms).kinds, k ∈ ts) ∧
      (∀ es ∈ n.enumeration, ∃ e ∈ es, e.Agrees (.object ms)) ∧ n.object.Admits ms ∧
      (n.tracksKeys = true → ms.names.Nodup) := by
  constructor
  · intro h
    exact ⟨h.types, h.enumeration, h.object ms rfl, h.distinct⟩
  · rintro ⟨types, enumeration, object, distinct⟩
    refine ⟨types, enumeration, nofun, nofun, nofun, ?_, distinct⟩
    rintro _ ⟨⟩
    exact object

theorem admits_arrange (perm : ∀ ms, (f ms).Perm ms) (v : Value) :
    n.Admits (v.arrange f) ↔ n.Admits v := by
  have agrees := Value.agrees_arrange perm v
  have names := Value.names_arrange perm v
  cases v with
  | array vs =>
    have digests : (vs.map (Value.arrange f)).map Value.digest = vs.map Value.digest := by
      rw [List.map_map]
      exact List.map_congr_left fun v _ => Value.digest_arrange perm v
    rw [Value.arrange_array] at agrees ⊢
    rw [admits_array_iff, admits_array_iff]
    simp only [agrees]
    refine and_congr_right fun _ => and_congr_right fun _ => ?_
    exact ⟨fun h => h.congr digests, fun h => h.congr digests.symm⟩
  | object ms =>
    rw [Value.arrange_object] at agrees names ⊢
    rw [admits_object_iff, admits_object_iff]
    simp only [agrees]
    refine and_congr_right fun _ => and_congr_right fun _ => and_congr ?_ ?_
    · exact ⟨fun h => h.perm names, fun h => h.perm names.symm⟩
    · exact imp_congr_right fun _ => names.nodup_iff
  | _ => exact Iff.rfl

end Node

/-! ### Satisfaction -/

namespace Graph

variable {g : Graph}

/-- The order of members, at whatever depth, does not matter. -/
theorem satisfies_arrange (perm : ∀ ms, (f ms).Perm ms) (v : Value) (id : NodeId) :
    g.Satisfies id (v.arrange f) ↔ g.Satisfies id v := by
  induction v, id using Graph.induction g with
  | meets v id items members inPlace =>
    rw [satisfies_iff_meets, satisfies_iff_meets]
    refine Node.meets_congr (Node.admits_arrange perm v) ?_ ?_
      (fun k => (Value.names_arrange perm v).mem_iff) inPlace
    · cases v with
      | array vs =>
        rw [Value.arrange_array]
        constructor
        · rintro h _ ⟨⟩ i u hu m hm
          have reached : (vs.map (Value.arrange f))[i]? = some (u.arrange f) := by
            rw [List.getElem?_map, hu, Option.map_some]
          exact (items vs rfl u (List.mem_of_getElem? hu) m).1 (h _ rfl i _ reached m hm)
        · rintro h _ ⟨⟩ i u hu m hm
          rw [List.getElem?_map, Option.map_eq_some_iff] at hu
          obtain ⟨w, hw, rfl⟩ := hu
          exact (items vs rfl w (List.mem_of_getElem? hw) m).2 (h vs rfl i w hw m hm)
      | _ => exact iff_of_true nofun nofun
    · cases v with
      | object ms =>
        rw [Value.arrange_object]
        constructor
        · rintro h _ ⟨⟩ k u hu m hm
          have placed := (Value.mem_arranged_iff perm).2 ⟨u, hu, rfl⟩
          exact (members ms rfl k u hu m).1 (h _ rfl k _ placed m hm)
        · rintro h _ ⟨⟩ k u hu m hm
          obtain ⟨w, hw, rfl⟩ := (Value.mem_arranged_iff perm).1 hu
          exact (members ms rfl k w hw m).2 (h ms rfl k w hw m hm)
      | _ => exact iff_of_true nofun nofun

end Graph
end JsonSchema
