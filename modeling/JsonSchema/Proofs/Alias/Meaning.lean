import JsonSchema.Proofs.Alias.Requests
/-!
# What local references stand for

`Value.Leads` follows tokens through a document as the resolution of references does, without any
table: a local reference that is met on the way is left for what it refers to. The number of steps is
part of the relation; it is determined (`Value.Leads.unique`), so no reference is met on the way to
itself. `Value.Refers` is what a local reference stands for.
-/

namespace JsonSchema.Value

/-- One token further down for references: array indexes may have a plus sign, and a reference has no
other parts. -/
def step? (v : Value) (token : String) : Option Value :=
  match v with
  | .object ms => if v.isReference then none else Members.get? ms token
  | .array items => (signedIndex? token).bind fun i => items[i]?
  | _ => none

/-- An index is written without a sign. -/
theorem toList_ne_plus {token : String} {i : Nat} (h : arrayIndex? token = some i)
    (digits : List Char) : token.toList ≠ '+' :: digits := by
  intro hd
  obtain rfl := arrayIndex?_eq_some.1 h
  have plus : '+' ∈ Nat.toDigits 10 i := by
    rw [← Nat.toList_repr, show (Nat.repr i).toList = '+' :: digits from hd]
    exact List.mem_cons_self
  exact absurd (Nat.isDigit_of_mem_toDigits (by decide) (by decide) plus) (by decide)

/-- An index without a sign is read alike. -/
theorem signedIndex?_of_arrayIndex? {token : String} {i : Nat} (h : arrayIndex? token = some i) :
    signedIndex? token = some i := by
  unfold signedIndex?
  split
  · next digits hd => exact absurd hd (toList_ne_plus h digits)
  · exact h

/-- Where a part is found under a token, references find it as well. -/
theorem step?_of_child? {v w u : Value} {token : String} (h : v.child? token = some w)
    (hs : v.step? token = some u) : u = w := by
  cases v with
  | array vs =>
    obtain ⟨i, hi, hw⟩ := Option.bind_eq_some_iff.1 h
    rw [step?, signedIndex?_of_arrayIndex? hi, Option.bind_some, hw] at hs
    exact (Option.some.inj hs).symm
  | object ms =>
    rw [step?] at hs
    split at hs
    · cases hs
    · exact Option.some.inj (hs.symm.trans h)
  | _ => cases h

/-- From the value `v` at position `p` the tokens lead to a canonical position, in a number of
steps. -/
inductive Leads (d : Value) : Nat → Pointer → Value → List String → Pointer → Prop where
  | stop {p : Pointer} {v : Value} (plain : d.request? p = none) : Leads d 0 p v [] p
  | link {n : Nat} {p t x : Pointer} {v : Value} (named : d.request? p = some t)
      (target : Leads d n .root d t.tokens x) : Leads d (n + 1) p v [] x
  | step {n : Nat} {p x : Pointer} {v w : Value} {token : String} {ts : List String}
      (plain : d.request? p = none) (part : v.step? token = some w)
      (rest : Leads d n (p.child token) w ts x) : Leads d (n + 1) p v (token :: ts) x
  | through {m n : Nat} {p t c x : Pointer} {v u w : Value} {token : String} {ts : List String}
      (named : d.request? p = some t) (target : Leads d m .root d t.tokens c)
      (value : d.at? c = some u)
      (shadowed : (v.member? token).isSome → (u.member? token).isSome)
      (part : u.step? token = some w) (rest : Leads d n (c.child token) w ts x) :
      Leads d (m + n + 1) p v (token :: ts) x

/-- The local reference at a position stands for another position, found in a number of steps. -/
def Refers (d : Value) (n : Nat) (p x : Pointer) : Prop :=
  ∃ t, d.request? p = some t ∧ d.Leads n .root d t.tokens x

variable {d v : Value} {m n : Nat} {p x y : Pointer} {ts : List String}

/-- No reference is left where tokens lead. -/
theorem Leads.plain (h : d.Leads n p v ts x) : d.request? x = none := by
  induction h with
  | stop plain => exact plain
  | link _ _ ih => exact ih
  | step _ _ _ ih => exact ih
  | through _ _ _ _ _ _ _ ih => exact ih

/-- Where tokens lead is determined, and in how many steps. -/
theorem Leads.unique (h : d.Leads m p v ts x) (h' : d.Leads n p v ts y) : m = n ∧ x = y := by
  induction h generalizing n y with
  | stop plain =>
    cases h' with
    | stop _ => exact ⟨rfl, rfl⟩
    | link named _ => cases plain.symm.trans named
  | link named _ ih =>
    cases h' with
    | stop plain => cases plain.symm.trans named
    | link named' target =>
      cases named.symm.trans named'
      obtain ⟨rfl, rfl⟩ := ih target
      exact ⟨rfl, rfl⟩
  | step plain part _ ih =>
    cases h' with
    | step _ part' rest =>
      cases part.symm.trans part'
      obtain ⟨rfl, rfl⟩ := ih rest
      exact ⟨rfl, rfl⟩
    | through named => cases plain.symm.trans named
  | through named _ value _ part _ iht ihr =>
    cases h' with
    | step plain => cases plain.symm.trans named
    | through named' target' value' _ part' rest' =>
      cases named.symm.trans named'
      obtain ⟨rfl, rfl⟩ := iht target'
      cases value.symm.trans value'
      cases part.symm.trans part'
      obtain ⟨rfl, rfl⟩ := ihr rest'
      exact ⟨rfl, rfl⟩

theorem Refers.unique (h : d.Refers m p x) (h' : d.Refers n p y) : m = n ∧ x = y := by
  obtain ⟨t, named, target⟩ := h
  obtain ⟨t', named', target'⟩ := h'
  cases named.symm.trans named'
  exact target.unique target'

theorem Refers.named (h : d.Refers n p x) : d.request? p ≠ none := by
  obtain ⟨t, named, -⟩ := h
  simp [named]

theorem Refers.ne (h : d.Refers n p x) : x ≠ p := by
  intro hx
  obtain ⟨t, -, target⟩ := id h
  exact h.named (hx ▸ target.plain)

/-- The root stands for nothing else: to follow its tokens it would have to be followed first. -/
theorem Refers.ne_root (h : d.Refers n p x) : p ≠ .root := by
  rintro rfl
  obtain ⟨t, named, target⟩ := h
  have again := target
  generalize t.tokens = ts at again
  cases again with
  | stop plain => cases plain.symm.trans named
  | link named' target' =>
    cases named.symm.trans named'
    have steps := (target.unique target').1
    omega
  | step plain => cases plain.symm.trans named
  | through named' target' =>
    cases named.symm.trans named'
    have steps := (target.unique target').1
    omega

theorem Refers.leads (h : d.Refers n p x) (v : Value) : d.Leads (n + 1) p v [] x := by
  obtain ⟨t, named, target⟩ := h
  exact .link named target

/-- Where no tokens lead: a local reference to what it stands for, any other position to itself. -/
theorem leads_nil (h : d.Leads n p v [] x) :
    d.request? p = none ∧ x = p ∨ ∃ m < n, d.Refers m p x := by
  cases h with
  | stop plain => exact .inl ⟨plain, rfl⟩
  | link named target => exact .inr ⟨_, Nat.lt_succ_self _, _, named, target⟩

end JsonSchema.Value
