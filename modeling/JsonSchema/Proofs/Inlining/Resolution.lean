import JsonSchema.Proofs.Alias.Resolution
import JsonSchema.Proofs.Inlining.Replacement
/-!
# References after one of them is inlined

A local reference at `a` is *inlined* by a copy of the object that it stands for, which is found at
`c`. Then positions below `a` are positions of the copy, and `Pointer.rebase` takes them back to where
they were copied from. The changed document resolves as well, and what a reference of it stands for
is, taken back, what it stood for before (`Inlining.exists_resolve`).
-/

namespace JsonSchema

namespace Pointer

/-- Positions from `a` on as positions from `c` on. -/
def rebase (a c p : Pointer) : Pointer :=
  if a.tokens <+: p.tokens then c.below (p.tokens.drop a.tokens.length) else p

variable {a c p : Pointer} {t : String} {us : List String}

theorem exists_below_iff : a.tokens <+: p.tokens ↔ ∃ us, p = a.below us := by
  constructor
  · rintro ⟨us, h⟩
    exact ⟨us, by rw [below, h]⟩
  · rintro ⟨us, rfl⟩
    exact List.prefix_append _ _

theorem rebase_below : rebase a c (a.below us) = c.below us := by
  rw [rebase, if_pos (exists_below_iff.2 ⟨us, rfl⟩)]
  exact congrArg c.below List.drop_left

theorem rebase_self : rebase a c a = c := by
  have : rebase a c (a.below []) = c.below [] := rebase_below
  rwa [below_nil, below_nil] at this

theorem rebase_of_not_below (h : ∀ us, p ≠ a.below us) : rebase a c p = p :=
  if_neg fun hp => by
    obtain ⟨us, hu⟩ := exists_below_iff.1 hp
    exact h us hu

theorem rebase_root (ha : a ≠ .root) : rebase a c .root = .root := by
  refine rebase_of_not_below fun us h => ha ?_
  have : a.tokens ++ us = [] := (congrArg Pointer.tokens h).symm
  obtain ⟨ha, -⟩ := List.append_eq_nil_iff.1 this
  exact congrArg Pointer.mk ha

/-- Below a position from `a` on the tokens stay what they are. -/
theorem rebase_below_of_below (h : ∃ us, p = a.below us) (ts : List String) :
    rebase a c (p.below ts) = (rebase a c p).below ts := by
  obtain ⟨us, rfl⟩ := h
  rw [below_below, rebase_below, rebase_below, below_below]

theorem rebase_child (h : p.child t ≠ a) : rebase a c (p.child t) = (rebase a c p).child t := by
  by_cases hp : ∃ us, p = a.below us
  · exact rebase_below_of_below hp [t]
  · rw [rebase_of_not_below fun us h => hp ⟨us, h⟩]
    refine rebase_of_not_below fun us hu => hp ?_
    rcases List.eq_nil_or_concat us with rfl | ⟨us, s, rfl⟩
    · exact absurd (hu.trans below_nil) h
    · have ht : p.tokens ++ [t] = (a.tokens ++ us) ++ [s] := by
        simpa [child, below] using congrArg Pointer.tokens hu
      exact ⟨us, congrArg Pointer.mk (List.append_inj_left' ht rfl)⟩

/-- A position whose child is `a` is not from `a` on. -/
theorem rebase_of_child_eq (h : p.child t = a) : rebase a c p = p := by
  refine rebase_of_not_below fun us hu => ?_
  have := congrArg (fun q : Pointer => q.tokens.length) h
  rw [hu] at this
  simp [child, below] at this

end Pointer

open Pointer Value

/-- The local reference at `a` stands for the object at `c`. -/
structure Inlining (d : Value) (a c : Pointer) (link copy : Members) : Prop where
  document : d.IsDocument
  inner : a ≠ .root
  reference : d.at? a = some (.object link)
  refers : ∃ n, d.Refers n a c
  original : d.at? c = some (.object copy)

namespace Inlining

variable {d : Value} {a c p q x : Pointer} {link copy : Members} {n : Nat} {v v' w : Value}
  {token : String} {ts : List String}

theorem copy_isDocument (h : Inlining d a c link copy) : (Value.object copy).IsDocument :=
  descend?_isDocument h.document h.original

theorem put_isDocument (h : Inlining d a c link copy) :
    (d.put a.tokens (.object copy)).IsDocument :=
  Value.put_isDocument h.document h.copy_isDocument

theorem request?_original (h : Inlining d a c link copy) : d.request? c = none := by
  obtain ⟨n, t, -, lead⟩ := h.refers
  exact lead.plain

theorem request?_reference (h : Inlining d a c link copy) : d.request? a ≠ none := by
  obtain ⟨n, hn⟩ := h.refers
  exact hn.named

/-- Only above the reference anything changes. -/
theorem at?_put (h : Inlining d a c link copy) (hp : ∀ t ts, a ≠ p.below (t :: ts)) :
    (d.put a.tokens (.object copy)).at? p = d.at? (rebase a c p) := by
  have reference := h.reference
  rw [Value.at?] at reference
  by_cases hb : ∃ us, p = a.below us
  · obtain ⟨us, rfl⟩ := hb
    rw [rebase_below, at?_below (p := c), h.original]
    exact descend?_put_append reference
  · rw [rebase_of_not_below fun us hu => hb ⟨us, hu⟩]
    refine descend?_put_of_not_prefix (fun ha => hb (exists_below_iff.1 ha)) fun ha => ?_
    obtain ⟨us, hu⟩ := exists_below_iff.1 ha
    cases us with
    | nil => exact hb ⟨[], by rw [hu, below_nil, below_nil]⟩
    | cons t ts => exact hp t ts hu

/-- What stands at a position of the changed document. -/
theorem rel_at? (h : Inlining d a c link copy) (p : Pointer) :
    Option.Rel (Parts (Replaced (.object link) (.object copy))) (d.at? (rebase a c p))
      ((d.put a.tokens (.object copy)).at? p) := by
  by_cases hp : ∃ t ts, a = p.below (t :: ts)
  · obtain ⟨t, ts, rfl⟩ := hp
    have above : rebase (p.below (t :: ts)) c p = p := by
      refine rebase_of_not_below fun us hu => ?_
      have := congrArg (fun q : Pointer => q.tokens.length) hu
      simp [below] at this
    have reference := h.reference
    rw [at?_below] at reference
    obtain ⟨v, hv, reference⟩ := Option.bind_eq_some_iff.1 reference
    have changed : (d.put (p.below (t :: ts)).tokens (.object copy)).at? p =
        (d.at? p).map fun u => u.put (t :: ts) (.object copy) := descend?_put_of_append
    rw [above, changed, hv]
    exact .some (parts_put (descend?_isDocument h.document hv) reference)
  · rw [h.at?_put fun t ts ha => hp ⟨t, ts, ha⟩]
    exact rel_refl Parts.refl _

theorem at?_copy (h : Inlining d a c link copy) :
    (d.put a.tokens (.object copy)).at? a = some (.object copy) := by
  have reference := h.reference
  rw [Value.at?] at reference
  have : (d.put a.tokens (.object copy)).descend? (a.tokens ++ []) = some (.object copy) :=
    descend?_put_append reference
  rwa [List.append_nil] at this

theorem request?_put (h : Inlining d a c link copy) (p : Pointer) :
    (d.put a.tokens (.object copy)).request? p = d.request? (rebase a c p) := by
  have rel := h.rel_at? p
  rw [request?, request?]
  generalize d.at? (rebase a c p) = o at rel ⊢
  generalize (d.put a.tokens (.object copy)).at? p = o' at rel ⊢
  cases rel with
  | none => rfl
  | some rel => exact rel.target?

theorem request?_copy (h : Inlining d a c link copy) :
    (d.put a.tokens (.object copy)).request? a = none := by
  rw [h.request?_put, rebase_self]
  exact h.request?_original

/-! ### Ways through both documents -/

/-- A position of the document with its value, and the same in the changed document: where both
values stand; where none stands, for an index with a sign leads to no position; or at the reference
that gave way. -/
inductive Paired (d : Value) (a c : Pointer) (link copy : Members) :
    Pointer → Value → Pointer → Value → Prop where
  | found {p : Pointer} {v v' : Value} (before : d.at? (rebase a c p) = some v)
      (after : (d.put a.tokens (.object copy)).at? p = some v') :
      Paired d a c link copy (rebase a c p) v p v'
  | hidden {p : Pointer} {v v' : Value} (before : d.at? (rebase a c p) = none)
      (value : Replaced (.object link) (.object copy) v v') :
      Paired d a c link copy (rebase a c p) v p v'
  | inlined : Paired d a c link copy a (.object link) a (.object copy)

theorem paired_root (h : Inlining d a c link copy) :
    Paired d a c link copy .root d .root (d.put a.tokens (.object copy)) := by
  have root := rebase_root (c := c) h.inner
  have : Paired d a c link copy (rebase a c .root) d .root (d.put a.tokens (.object copy)) :=
    .found (by rw [root]; rfl) rfl
  rwa [root] at this

theorem parts_of_found (h : Inlining d a c link copy) (before : d.at? (rebase a c p) = some v)
    (after : (d.put a.tokens (.object copy)).at? p = some v') :
    Parts (Replaced (.object link) (.object copy)) v v' := by
  have rel := h.rel_at? p
  rw [before, after] at rel
  cases rel with
  | some rel => exact rel

theorem exists_at? (h : Inlining d a c link copy) (before : d.at? (rebase a c p) = some v) :
    ∃ v', (d.put a.tokens (.object copy)).at? p = some v' := by
  have rel := h.rel_at? p
  rw [before] at rel
  generalize (d.put a.tokens (.object copy)).at? p = o at rel
  cases rel with
  | some rel => exact ⟨_, rfl⟩

/-- One token further down both documents. -/
theorem paired_step_found (h : Inlining d a c link copy)
    (before : d.at? (rebase a c p) = some v)
    (after : (d.put a.tokens (.object copy)).at? p = some v') (hw : v.step? token = some w) :
    ∃ w', v'.step? token = some w' ∧
      Paired d a c link copy ((rebase a c p).child token) w (p.child token) w' := by
  have rel := (h.parts_of_found before after).step? token
  rw [hw] at rel
  obtain ⟨w', hw', value⟩ : ∃ w', v'.step? token = some w' ∧
      Replaced (.object link) (.object copy) w w' := by
    generalize v'.step? token = o at rel
    cases rel with
    | some rel => exact ⟨_, rfl, rel⟩
  refine ⟨w', hw', ?_⟩
  have child : d.at? ((rebase a c p).child token) = v.child? token := by
    rw [at?_child, before, Option.bind_some]
  have child' : (d.put a.tokens (.object copy)).at? (p.child token) = v'.child? token := by
    rw [at?_child, after, Option.bind_some]
  by_cases ha : p.child token = a
  · have reference := h.reference
    rw [rebase_of_child_eq ha, ha] at child ⊢
    rw [ha, h.at?_copy] at child'
    rw [reference] at child
    rw [step?_of_child? child.symm hw, step?_of_child? child'.symm hw']
    exact .inlined
  · rw [← rebase_child ha] at child ⊢
    cases hc : v.child? token with
    | none => exact .hidden (child.trans hc) value
    | some u =>
      obtain ⟨u', hu'⟩ := h.exists_at? (child.trans hc)
      rw [step?_of_child? hc hw, step?_of_child? (child'.symm.trans hu') hw']
      exact .found (child.trans hc) hu'

theorem paired_step_hidden (h : Inlining d a c link copy) (before : d.at? (rebase a c p) = none)
    (value : Replaced (.object link) (.object copy) v v') (hw : v.step? token = some w) :
    ∃ w', v'.step? token = some w' ∧
      Paired d a c link copy ((rebase a c p).child token) w (p.child token) w' := by
  have hc : p.child token ≠ a := by
    intro ha
    have reference := h.reference
    rw [rebase_of_child_eq ha] at before
    rw [← ha, at?_child, before] at reference
    cases reference
  have missing : d.at? (rebase a c (p.child token)) = none := by
    rw [rebase_child hc, at?_child, before]
    rfl
  rcases value.cases with ⟨rfl, rfl⟩ | parts
  · -- the reference has no parts that references could lead to
    have reference : (Value.object link).isReference = true := by
      obtain ⟨t, ht⟩ := Option.ne_none_iff_exists'.1 h.request?_reference
      rw [request?_of_at? h.reference] at ht
      obtain ⟨ms, s, hms, hs⟩ := reference_of_target? ht
      cases hms
      rw [isReference, show (Value.object link).member? referenceKey = _ from hs]
    rw [step?, if_pos reference] at hw
    cases hw
  · have rel := parts.step? token
    rw [hw] at rel
    generalize hw' : v'.step? token = o at rel
    cases rel with
    | some value =>
      rw [← rebase_child hc]
      exact ⟨_, rfl, .hidden missing value⟩

/-- One token further down both documents from a position that is no reference. -/
theorem paired_step (h : Inlining d a c link copy) (hp : Paired d a c link copy p v q v')
    (plain : d.request? p = none) (hw : v.step? token = some w) :
    ∃ w', v'.step? token = some w' ∧ Paired d a c link copy (p.child token) w (q.child token) w' := by
  cases hp with
  | found before after => exact h.paired_step_found before after hw
  | hidden before value => exact h.paired_step_hidden before value hw
  | inlined => exact absurd plain h.request?_reference

/-- The reference that gave way aside, the same references stand at both positions. -/
theorem request?_of_paired (h : Inlining d a c link copy) (hp : Paired d a c link copy p v q v') :
    (d.put a.tokens (.object copy)).request? q = d.request? p ∨
      p = a ∧ q = a ∧ v' = .object copy := by
  cases hp with
  | found before after => exact .inl (h.request?_put q)
  | hidden before value => exact .inl (h.request?_put q)
  | inlined => exact .inr ⟨rfl, rfl, rfl⟩

/-- What tokens lead to in the changed document is what they led to before. -/
theorem exists_leads (h : Inlining d a c link copy) (hl : d.Leads n p v ts x)
    (hp : Paired d a c link copy p v q v') :
    ∃ m y, (d.put a.tokens (.object copy)).Leads m q v' ts y ∧ rebase a c y = x := by
  induction hl generalizing q v' with
  | stop plain =>
    rcases h.request?_of_paired hp with same | ⟨rfl, -, -⟩
    · cases hp with
      | found before after => exact ⟨0, q, .stop (same.trans plain), rfl⟩
      | hidden before value => exact ⟨0, q, .stop (same.trans plain), rfl⟩
      | inlined => exact absurd plain h.request?_reference
    · exact absurd plain h.request?_reference
  | link named target ih =>
    rcases h.request?_of_paired hp with same | ⟨rfl, rfl, -⟩
    · obtain ⟨m, y, hm, hy⟩ := ih h.paired_root
      exact ⟨m + 1, y, .link (same.trans named) hm, hy⟩
    · -- it is the reference that gave way, and its copy is where the tokens end
      obtain ⟨k, hk⟩ := h.refers
      obtain ⟨-, rfl⟩ := hk.unique ⟨_, named, target⟩
      exact ⟨0, q, .stop h.request?_copy, rebase_self⟩
  | step plain part rest ih =>
    obtain ⟨w', hw', next⟩ := h.paired_step hp plain part
    obtain ⟨m, y, hm, hy⟩ := ih next
    rcases h.request?_of_paired hp with same | ⟨rfl, -, -⟩
    · exact ⟨m + 1, y, .step (same.trans plain) hw' hm, hy⟩
    · exact absurd plain h.request?_reference
  | through named target value shadowed part rest iht ihr =>
    cases hp with
    | found before after =>
      obtain ⟨m, y, hm, rfl⟩ := iht h.paired_root
      obtain ⟨u', hu'⟩ := h.exists_at? value
      obtain ⟨w', hw', next⟩ := h.paired_step_found value hu' part
      obtain ⟨k, z, hk, hz⟩ := ihr next
      refine ⟨m + k + 1, z, .through ((h.request?_put q).trans named) hm hu' ?_ hw' hk, hz⟩
      have link := (h.parts_of_found before after).member?_isSome
      have target := (h.parts_of_found value hu').member?_isSome
      rw [link, target]
      exact shadowed
    | hidden before value =>
      rw [request?_of_at?_eq_none before] at named
      cases named
    | inlined =>
      -- the copy stands where the reference stood, so nothing has to be followed
      obtain ⟨k, hk⟩ := h.refers
      obtain ⟨-, rfl⟩ := hk.unique ⟨_, named, target⟩
      have original := h.original
      rw [← rebase_self (a := a) (c := c)] at original value
      obtain ⟨w', hw', next⟩ := h.paired_step_found value h.at?_copy part
      rw [rebase_self] at next
      obtain ⟨m, y, hm, hy⟩ := ihr next
      exact ⟨m + 1, y, .step h.request?_copy (by cases original.symm.trans value; exact hw') hm, hy⟩

/-- What a reference of the changed document stands for is what it stood for before. -/
theorem exists_refers (h : Inlining d a c link copy) (hp : d.Refers n (rebase a c p) x) :
    ∃ m y, (d.put a.tokens (.object copy)).Refers m p y ∧ rebase a c y = x := by
  obtain ⟨t, named, lead⟩ := hp
  obtain ⟨m, y, hm, hy⟩ := h.exists_leads lead h.paired_root
  exact ⟨m, y, ⟨t, (h.request?_put p).trans named, hm⟩, hy⟩

/-- The changed document resolves. -/
theorem exists_resolve (h : Inlining d a c link copy) {table : AliasTable}
    (hr : Aliases.resolve d = .ok table) :
    ∃ table', Aliases.resolve (d.put a.tokens (.object copy)) = .ok table' ∧
      ∀ p, rebase a c (Aliases.canonical table' p) = Aliases.canonical table (rebase a c p) := by
  obtain ⟨legible, refers⟩ := (Aliases.exists_resolve h.document).1 ⟨table, hr⟩
  have resolves : ∃ table', Aliases.resolve (d.put a.tokens (.object copy)) = .ok table' := by
    refine (Aliases.exists_resolve h.put_isDocument).2 ⟨fun p v' hv' => ?_, fun p hp => ?_⟩
    · have rel := h.rel_at? p
      rw [hv'] at rel
      generalize ho : d.at? (rebase a c p) = o at rel
      cases rel with
      | some rel => exact rel.legible_iff.2 (legible _ _ ho)
    · rw [h.request?_put] at hp
      obtain ⟨n, x, hx⟩ := refers _ hp
      obtain ⟨m, y, hy, -⟩ := h.exists_refers hx
      exact ⟨m, y, hy⟩
  obtain ⟨table', hr'⟩ := resolves
  refine ⟨table', hr', fun p => ?_⟩
  by_cases hp : d.request? (rebase a c p) = none
  · rw [Aliases.canonical_of_plain h.document hr hp,
      Aliases.canonical_of_plain h.put_isDocument hr' ((h.request?_put p).trans hp)]
  · obtain ⟨n, x, hx⟩ := refers _ hp
    obtain ⟨m, y, hy, rfl⟩ := h.exists_refers hx
    rw [Aliases.canonical_of_refers h.document hr hx,
      Aliases.canonical_of_refers h.put_isDocument hr' hy]

end Inlining
end JsonSchema
