import JsonSchema.Proofs.Alias.Paths
import JsonSchema.Proofs.Alias.Targets
/-!
# The values of references

Following the tokens of a reference ends at a value (`Value.Arrives`), which is found again along the
canonical position, token by token as references are followed (`Value.Arrives.steps?_eq`). The
value of the reference is looked up at this position as a pointer, though, which enters no array by a
number with a sign. So it is that value if there is no such number in the position, and there is none
otherwise (`Aliases.get?_eq_some_iff`).
-/

namespace JsonSchema

namespace Value

variable {d v w u : Value} {n : Nat} {p x : Pointer} {token : String} {ts us : List String}

/-! ### Tokens as references are followed -/

/-- The value at the end of a list of tokens, for references. -/
def steps? (v : Value) : List String → Option Value
  | [] => some v
  | t :: ts => (v.step? t).bind fun w => w.steps? ts

theorem steps?_append : v.steps? (ts ++ us) = (v.steps? ts).bind (·.steps? us) := by
  induction ts generalizing v with
  | nil => rfl
  | cons t ts ih => simp only [List.cons_append, steps?, Option.bind_assoc, ih]

theorem steps?_child (hv : d.steps? p.tokens = some v) (hw : v.step? token = some w) :
    d.steps? (p.child token).tokens = some w := by
  have whole : d.steps? (p.tokens ++ [token]) = some w := by
    rw [steps?_append, hv, Option.bind_some, steps?, hw]
    rfl
  exact whole

/-- What is found under tokens is found by references as well, if they find anything. -/
theorem steps?_of_descend? (h : v.descend? ts = some w) (hs : v.steps? ts = some u) : u = w := by
  induction ts generalizing v with
  | nil => exact Option.some.inj (hs.symm.trans h)
  | cons t ts ih =>
    obtain ⟨a, ha, h⟩ := Option.bind_eq_some_iff.1 h
    obtain ⟨b, hb, hs⟩ := Option.bind_eq_some_iff.1 hs
    obtain rfl := step?_of_child? ha hb
    exact ih h hs

/-! ### Numbers with a sign -/

/-- The tokens enter no array by a number with a plus sign. -/
def UnsignedAlong (v : Value) (ts : List String) : Prop :=
  ∀ us token rest vs, ts = us ++ token :: rest → v.descend? us = some (.array vs) → ¬IsSigned token

theorem not_isSigned_of_arrayIndex? {i : Nat} (h : arrayIndex? token = some i) :
    ¬IsSigned token := by
  rintro ⟨digits, j, hd, -⟩
  exact toList_ne_plus h digits hd

/-- A part that references find is found under a token, unless this is a number with a sign. -/
theorem child?_eq_some_iff (hs : v.step? token = some w) :
    v.child? token = some w ↔ ∀ vs, v = .array vs → ¬IsSigned token := by
  constructor
  · rintro h vs rfl
    obtain ⟨i, hi, -⟩ := Option.bind_eq_some_iff.1 h
    exact not_isSigned_of_arrayIndex? hi
  · intro h
    exact child?_of_part? (part?_of_step? h hs)

theorem descend?_eq_some_iff (hs : v.steps? ts = some w) :
    v.descend? ts = some w ↔ v.UnsignedAlong ts := by
  induction ts generalizing v with
  | nil =>
    refine iff_of_true hs fun us token rest vs h => ?_
    cases us <;> cases h
  | cons t ts ih =>
    obtain ⟨a, ha, hs⟩ := Option.bind_eq_some_iff.1 hs
    constructor
    · intro h us token rest vs hts hvs
      obtain ⟨b, hb, h⟩ := Option.bind_eq_some_iff.1 h
      obtain rfl := step?_of_child? hb ha
      cases us with
      | nil =>
        cases hts
        cases hvs
        exact (child?_eq_some_iff ha).1 hb vs rfl
      | cons t' us =>
        cases hts
        rw [descend?, hb] at hvs
        exact (ih hs).1 h us token rest vs rfl hvs
    · intro unsigned
      have part : v.child? t = some a := by
        refine (child?_eq_some_iff ha).2 ?_
        rintro vs rfl
        exact unsigned [] t ts vs rfl rfl
      rw [descend?, part]
      refine (ih hs).2 ?_
      rintro us token rest vs rfl hvs
      refine unsigned (t :: us) token rest vs rfl ?_
      rw [descend?, part]
      exact hvs

/-! ### The value at the end -/

/-- From the value `v` at position `p` the tokens lead to the value `u` at a canonical position. -/
inductive Arrives (d : Value) : Pointer → Value → List String → Pointer → Value → Prop where
  | stop {p : Pointer} {v : Value} (plain : d.request? p = none) : Arrives d p v [] p v
  | link {p t x : Pointer} {v u : Value} (named : d.request? p = some t)
      (target : Arrives d .root d t.tokens x u) : Arrives d p v [] x u
  | step {p x : Pointer} {v w u : Value} {token : String} {ts : List String}
      (plain : d.request? p = none) (part : v.step? token = some w)
      (rest : Arrives d (p.child token) w ts x u) : Arrives d p v (token :: ts) x u
  | through {p t c x : Pointer} {v a b w u : Value} {token : String} {ts : List String}
      (named : d.request? p = some t) (target : Arrives d .root d t.tokens c a)
      (value : d.at? c = some b) (part : b.step? token = some w)
      (rest : Arrives d (c.child token) w ts x u) : Arrives d p v (token :: ts) x u

theorem Leads.exists_arrives (h : d.Leads n p v ts x) : ∃ u, d.Arrives p v ts x u := by
  induction h with
  | stop plain => exact ⟨_, .stop plain⟩
  | link named _ ih =>
    obtain ⟨u, target⟩ := ih
    exact ⟨u, .link named target⟩
  | step plain part _ ih =>
    obtain ⟨u, rest⟩ := ih
    exact ⟨u, .step plain part rest⟩
  | through named _ value _ part _ iht ihr =>
    obtain ⟨a, target⟩ := iht
    obtain ⟨u, rest⟩ := ihr
    exact ⟨u, .through named target value part rest⟩

/-- The value at the end is found along the canonical position. -/
theorem Arrives.steps?_eq (h : d.Arrives p v ts x u) (hv : d.steps? p.tokens = some v) :
    d.steps? x.tokens = some u := by
  induction h with
  | stop => exact hv
  | link _ _ ih => exact ih rfl
  | step _ part _ ih => exact ih (steps?_child hv part)
  | through _ _ value part _ iht ihr =>
    obtain rfl := steps?_of_descend? value (iht rfl)
    exact ihr (steps?_child (iht rfl) part)

end Value

namespace Aliases

variable {d u w : Value} {table : AliasTable} {p c : Pointer}

/-! ### The values of the table -/

/-- The value of a reference is the one that it leads to, or there is none. -/
theorem get?_eq_some_iff (hc : canonical table p = c) (h : d.steps? c.tokens = some u) :
    get? d table p = some w ↔ w = u ∧ d.UnsignedAlong c.tokens := by
  rw [get?, hc, ← Value.descend?_eq_some_iff h]
  constructor
  · intro hw
    obtain rfl := Value.steps?_of_descend? hw h
    exact ⟨rfl, hw⟩
  · rintro ⟨rfl, hw⟩
    exact hw

end Aliases
end JsonSchema
