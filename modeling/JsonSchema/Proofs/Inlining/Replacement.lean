import JsonSchema.Proofs.Alias.Meaning
/-!
# Replacing a part of a document

`Value.put` replaces what stands at the end of some tokens. `Value.Replaced` relates a value to the
one in which one part gave way to another, and `Value.Parts` says this of the parts of a value: a
value above the part that is replaced keeps its shape, and an object that is replaced by an object
leaves references above it as they are.
-/

namespace JsonSchema

theorem lookup_map_snd {α β γ : Type} [BEq α] [LawfulBEq α] (f : α → β → γ) (l : List (α × β))
    (k : α) : (l.map fun p => (p.1, f p.1 p.2)).lookup k = (l.lookup k).map (f k) := by
  induction l with
  | nil => rfl
  | cons p l ih =>
    obtain ⟨j, b⟩ := p
    rw [List.map_cons, List.lookup_cons, List.lookup_cons, ih]
    by_cases h : k = j
    · subst h; simp
    · simp [beq_eq_false_iff_ne.2 h]

namespace Value

/-- The value with what stands at the end of the tokens replaced by `w`. -/
def put (v : Value) (ts : List String) (w : Value) : Value :=
  match ts, v with
  | [], _ => w
  | t :: ts, .array vs => .array (vs.mapIdx fun i u => if toString i = t then u.put ts w else u)
  | t :: ts, .object ms => .object (ms.map fun m => (m.1, if m.1 = t then m.2.put ts w else m.2))
  | _ :: _, v => v

variable {v w u r : Value} {t s : String} {ts us : List String}

theorem put_nil : v.put [] w = w := by cases v <;> rfl

theorem child?_put : (v.put (t :: ts) w).child? s =
    (v.child? s).map fun u => if s = t then u.put ts w else u := by
  cases v with
  | array vs =>
    rw [put, child?, child?, Option.map_bind]
    refine Option.bind_congr fun i hi => ?_
    obtain rfl := arrayIndex?_eq_some.1 hi
    exact List.getElem?_mapIdx
  | object ms => exact lookup_map_snd (fun k u => if k = t then u.put ts w else u) ms s
  | _ => rfl

/-- At the end of more tokens stands what stands there in the replacement. -/
theorem descend?_put_append (h : v.descend? ts = some r) :
    (v.put ts w).descend? (ts ++ us) = w.descend? us := by
  induction ts generalizing v with
  | nil => rw [put_nil, List.nil_append]
  | cons t ts ih =>
    obtain ⟨u, hu, h⟩ := Option.bind_eq_some_iff.1 h
    rw [List.cons_append, descend?, child?_put, hu, Option.map_some, if_pos rfl, Option.bind_some]
    exact ih h

/-- At the end of less tokens stands what stood there, with the part replaced. -/
theorem descend?_put_of_append : (v.put (ts ++ us) w).descend? ts =
    (v.descend? ts).map fun u => u.put us w := by
  induction ts generalizing v with
  | nil => rfl
  | cons t ts ih =>
    rw [List.cons_append, descend?, descend?, child?_put, Option.bind_map, Option.map_bind]
    refine Option.bind_congr fun u _ => ?_
    rw [Function.comp_apply, if_pos rfl]
    exact ih

/-- Elsewhere nothing changes. -/
theorem descend?_put_of_not_prefix (h : ¬ts <+: us) (h' : ¬us <+: ts) :
    (v.put ts w).descend? us = v.descend? us := by
  induction ts generalizing v us with
  | nil => exact absurd List.nil_prefix h
  | cons t ts ih =>
    cases us with
    | nil => exact absurd List.nil_prefix h'
    | cons s us =>
      rw [descend?, descend?, child?_put, Option.bind_map]
      refine Option.bind_congr fun u _ => ?_
      rw [Function.comp_apply]
      split
      · next hs =>
        subst hs
        exact ih (fun hp => h (List.cons_prefix_cons.2 ⟨rfl, hp⟩))
          (fun hp => h' (List.cons_prefix_cons.2 ⟨rfl, hp⟩))
      · rfl

theorem put_isDocument (hv : v.IsDocument) (hw : w.IsDocument) : (v.put ts w).IsDocument := by
  induction ts generalizing v with
  | nil => rwa [put_nil]
  | cons t ts ih =>
    have part : ∀ (c : Prop) [Decidable c] (u : Value), u.IsDocument →
        (if c then u.put ts w else u).IsDocument := by
      intro c _ u hu
      split
      · exact ih hu
      · exact hu
    cases hv with
    | array items =>
      refine .array fun u hu => ?_
      obtain ⟨i, hi, rfl⟩ := List.mem_mapIdx.1 hu
      exact part _ _ (items _ (List.getElem_mem hi))
    | object sorted members =>
      refine .object ?_ fun m hm => ?_
      · rwa [Members.names, List.map_map]
      · obtain ⟨m', hm', rfl⟩ := List.mem_map.1 hm
        exact part _ _ (members m' hm')
    | _ => constructor

/-! ### Parts that are replaced -/

/-- Values of one shape, with related parts. -/
inductive Parts (R : Value → Value → Prop) : Value → Value → Prop where
  | refl (v : Value) : Parts R v v
  | array {vs vs' : List Value} (items : List.Forall₂ R vs vs') : Parts R (.array vs) (.array vs')
  | object {ms ms' : Members} (members : List.Forall₂ (fun m m' => m'.1 = m.1 ∧ R m.2 m'.2) ms ms') :
      Parts R (.object ms) (.object ms')

/-- A value, and the value with one part `r` of it replaced by `w`, if anything. -/
def Replaced (r w v v' : Value) : Prop :=
  v' = v ∨ v.IsDocument ∧ ∃ ts, v.descend? ts = some r ∧ v' = v.put ts w

variable {v' : Value}

theorem Replaced.refl (v : Value) : Replaced r w v v := .inl rfl

theorem parts_put (hv : v.IsDocument) (h : v.descend? (t :: ts) = some r) :
    Parts (Replaced r w) v (v.put (t :: ts) w) := by
  obtain ⟨u, hu, hr⟩ := Option.bind_eq_some_iff.1 h
  cases v with
  | array vs =>
    refine .array (List.forall₂_iff_get.2 ⟨by simp, fun i hi hi' => ?_⟩)
    rw [List.get_eq_getElem, List.get_eq_getElem, List.getElem_mapIdx]
    split
    · next ht =>
      rw [child?, ← ht, arrayIndex?_toString, Option.bind_some, List.getElem?_eq_getElem hi] at hu
      cases hu
      exact .inr ⟨hv.item (List.getElem_mem hi), ts, hr, rfl⟩
    · exact .refl _
  | object ms =>
    refine .object (List.forall₂_map_right_iff.2 (List.forall₂_same.2 fun m hm => ⟨rfl, ?_⟩))
    split
    · next ht =>
      obtain ⟨k, x⟩ := m
      subst ht
      cases (lookup_of_mem hv.nodup hm).symm.trans hu
      exact .inr ⟨hv.member hm, ts, hr, rfl⟩
    · exact .refl _
  | _ => cases hu

theorem Replaced.cases (h : Replaced r w v v') : v = r ∧ v' = w ∨ Parts (Replaced r w) v v' := by
  rcases h with rfl | ⟨hv, ts, h, rfl⟩
  · exact .inr (.refl _)
  · cases ts with
    | nil => cases h; exact .inl ⟨rfl, put_nil⟩
    | cons t ts => exact .inr (parts_put hv h)

/-! ### What a value keeps when its parts change -/

section

variable {R : Value → Value → Prop}

theorem rel_refl (hR : ∀ v, R v v) (o : Option Value) : Option.Rel R o o := by
  cases o with
  | none => exact .none
  | some v => exact .some (hR v)

theorem rel_isSome {o o' : Option Value} (h : Option.Rel R o o') : o'.isSome = o.isSome := by
  cases h <;> rfl

theorem rel_getElem? {vs vs' : List Value} (h : List.Forall₂ R vs vs') (i : Nat) :
    Option.Rel R vs[i]? vs'[i]? := by
  induction h generalizing i with
  | nil => exact .none
  | cons hv _ ih =>
    cases i with
    | zero => exact .some hv
    | succ i => exact ih i

theorem rel_get? {ms ms' : Members}
    (h : List.Forall₂ (fun m m' => m'.1 = m.1 ∧ R m.2 m'.2) ms ms') (k : String) :
    Option.Rel R (Members.get? ms k) (Members.get? ms' k) := by
  induction h with
  | nil => exact .none
  | @cons m m' _ _ hm _ ih =>
    obtain ⟨j, v⟩ := m
    obtain ⟨j', v'⟩ := m'
    obtain ⟨rfl, hv⟩ := hm
    simp only [Members.get?, List.lookup_cons] at ih ⊢
    split
    · exact .some hv
    · exact ih

theorem Parts.member? (hR : ∀ v, R v v) (h : Parts R v v') (k : String) :
    Option.Rel R (v.member? k) (v'.member? k) := by
  cases h with
  | refl v => exact rel_refl hR _
  | array _ => exact .none
  | object members => exact rel_get? members k

theorem Parts.member?_isSome (h : Parts R v v') (k : String) :
    (v'.member? k).isSome = (v.member? k).isSome := by
  cases h with
  | refl v => rfl
  | array _ => rfl
  | object members => exact rel_isSome (rel_get? members k)

end

/-! ### References above an object that is replaced by an object -/

variable {a b : Members}

theorem Replaced.string_iff (h : Replaced (.object a) (.object b) v v') {x : String} :
    v' = .string x ↔ v = .string x := by
  rcases h.cases with ⟨rfl, rfl⟩ | h
  · simp
  · cases h <;> simp

theorem rel_string {o o' : Option Value} (h : Option.Rel (Replaced (.object a) (.object b)) o o')
    (x : String) : o' = some (.string x) ↔ o = some (.string x) := by
  cases h with
  | none => rfl
  | some h => rw [Option.some.injEq, Option.some.injEq, h.string_iff]

theorem Parts.text_iff (h : Parts (Replaced (.object a) (.object b)) v v') (x : String) :
    v'.member? referenceKey = some (.string x) ↔ v.member? referenceKey = some (.string x) :=
  rel_string (h.member? Replaced.refl referenceKey) x

theorem Parts.isReference (h : Parts (Replaced (.object a) (.object b)) v v') :
    v'.isReference = v.isReference := by
  unfold Value.isReference
  split
  · next x hx => rw [(h.text_iff x).1 hx]
  · next hn =>
    split
    · next x hx => exact absurd ((h.text_iff x).2 hx) (hn x)
    · rfl

theorem Parts.localReference? (h : Parts (Replaced (.object a) (.object b)) v v') :
    v'.localReference? = v.localReference? := by
  unfold Value.localReference?
  split
  · next x hx => rw [(h.text_iff x).1 hx]
  · next hn =>
    split
    · next x hx => exact absurd ((h.text_iff x).2 hx) (hn x)
    · rfl

theorem Parts.target? (h : Parts (Replaced (.object a) (.object b)) v v') :
    v'.target? = v.target? := by
  rw [Value.target?, Value.target?, h.localReference?]

theorem Parts.legible_iff (h : Parts (Replaced (.object a) (.object b)) v v') :
    v'.Legible ↔ v.Legible := by
  rw [Legible, Legible, h.localReference?]

theorem Parts.step? (h : Parts (Replaced (.object a) (.object b)) v v') (token : String) :
    Option.Rel (Replaced (.object a) (.object b)) (v.step? token) (v'.step? token) := by
  have same := h.isReference
  cases h with
  | refl v => exact rel_refl Replaced.refl _
  | array items =>
    rw [Value.step?, Value.step?]
    cases signedIndex? token with
    | none => exact .none
    | some i => exact rel_getElem? items i
  | object members =>
    rw [Value.step?, Value.step?, same]
    split
    · exact .none
    · exact rel_get? members token

end Value
end JsonSchema
