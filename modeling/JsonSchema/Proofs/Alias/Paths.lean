import Mathlib
import JsonSchema.Proofs.Alias.Resolution
import JsonSchema.Proofs.Building
/-!
# References by the places that they lead to

`Value.Resolves` says what a reference stands for in terms of places alone: a token is looked up in the
value at the place that is reached, by name or by an index in decimal digits. `Value.Leads` differs in
two ways, as resolution does. It takes an index with a plus sign for the index, although no place is
written like this; and a member beside a reference hides an element of the same name, if the reference
stands for an array. Apart from these, resolution succeeds exactly if each reference leads to a place,
and finds this place (`Aliases.resolve_iff_resolves`).
-/

namespace JsonSchema

namespace Value

/-- One token further down, for references: a member of an object that is not a reference itself, or
an element of an array. -/
def part? (v : Value) (token : String) : Option Value :=
  if v.isReference then none else v.child? token

/-- From position `p` the tokens lead to the place `x`: a local reference that is met stands for the
place that it leads to itself. -/
inductive Resolves (d : Value) : Pointer → List String → Pointer → Prop where
  | stop {p : Pointer} (plain : d.request? p = none) : Resolves d p [] p
  | link {p t x : Pointer} (named : d.request? p = some t) (target : Resolves d .root t.tokens x) :
      Resolves d p [] x
  | step {p x : Pointer} {v w : Value} {token : String} {ts : List String}
      (plain : d.request? p = none) (value : d.at? p = some v) (part : v.part? token = some w)
      (rest : Resolves d (p.child token) ts x) : Resolves d p (token :: ts) x
  | through {p t c x : Pointer} {u w : Value} {token : String} {ts : List String}
      (named : d.request? p = some t) (target : Resolves d .root t.tokens c)
      (value : d.at? c = some u) (part : u.part? token = some w)
      (rest : Resolves d (c.child token) ts x) : Resolves d p (token :: ts) x

/-- A token that is a number with a plus sign. -/
def IsSigned (token : String) : Prop :=
  ∃ digits i, token.toList = '+' :: digits ∧ Text.decimal? digits = some i

/-- From position `p` the tokens enter no array by a number with a plus sign. -/
def EntersUnsigned (d : Value) (p : Pointer) (ts : List String) : Prop :=
  ∀ us token rest c vs, ts = us ++ token :: rest → d.Resolves p us c → d.at? c = some (.array vs) →
    ¬IsSigned token

/-- No reference enters an array by a number with a plus sign. -/
def Unsigned (d : Value) : Prop :=
  ∀ p t, d.request? p = some t → d.EntersUnsigned .root t.tokens

/-- No reference that stands for an array has a member beside it that is named like an element. -/
def Unshadowed (d : Value) : Prop :=
  ∀ p t c v vs, d.request? p = some t → d.Resolves .root t.tokens c → d.at? p = some v →
    d.at? c = some (.array vs) → ∀ i < vs.length, v.member? (toString i) = none

variable {d v w : Value} {p x : Pointer} {token : String} {ts : List String} {n : Nat}

/-! ### One token -/

theorem arrayIndex?_of_signedIndex? {i : Nat} (hs : ¬IsSigned token)
    (h : signedIndex? token = some i) : arrayIndex? token = some i := by
  unfold signedIndex? at h
  split at h
  · next digits hd => exact absurd ⟨digits, i, hd, h⟩ hs
  · exact h

theorem isReference_array (vs : List Value) : (Value.array vs).isReference = false := rfl

theorem part?_of_step? (hs : ∀ vs, v = .array vs → ¬IsSigned token) (h : v.step? token = some w) :
    v.part? token = some w := by
  cases v with
  | object ms => exact h
  | array vs =>
    obtain ⟨i, hi, hw⟩ := Option.bind_eq_some_iff.1 h
    have index := arrayIndex?_of_signedIndex? (hs vs rfl) hi
    rw [part?, isReference_array, if_neg Bool.false_ne_true, child?, index]
    exact hw
  | _ => cases h

theorem step?_of_part? (h : v.part? token = some w) : v.step? token = some w := by
  cases v with
  | object ms => exact h
  | array vs =>
    rw [part?, isReference_array, if_neg Bool.false_ne_true, child?] at h
    obtain ⟨i, hi, hw⟩ := Option.bind_eq_some_iff.1 h
    rw [step?, signedIndex?_of_arrayIndex? hi]
    exact hw
  | _ => cases h

theorem child?_of_part? (h : v.part? token = some w) : v.child? token = some w := by
  unfold part? at h
  split at h
  · cases h
  · exact h

theorem at?_child_of_part? (hv : d.at? p = some v) (h : v.part? token = some w) :
    d.at? (p.child token) = some w := by
  rw [at?_child, hv]
  exact child?_of_part? h

/-! ### All tokens -/

theorem EntersUnsigned.head {c : Pointer} (h : d.EntersUnsigned p (token :: ts))
    (here : d.Resolves p [] c) (value : d.at? c = some v) (vs : List Value) (hv : v = .array vs) :
    ¬IsSigned token :=
  h [] token ts c vs rfl here (hv ▸ value)

theorem EntersUnsigned.tail {q : Pointer} (h : d.EntersUnsigned p (token :: ts))
    (onward : ∀ us c, d.Resolves q us c → d.Resolves p (token :: us) c) : d.EntersUnsigned q ts := by
  rintro us token' rest c vs rfl resolves
  exact h (token :: us) token' rest c vs rfl (onward us c resolves)

theorem Leads.resolves (hs : d.Unsigned) (h : d.Leads n p v ts x) (value : d.at? p = some v)
    (enters : d.EntersUnsigned p ts) : d.Resolves p ts x := by
  induction h with
  | stop plain => exact .stop plain
  | link named _ ih => exact .link named (ih rfl (hs _ _ named))
  | step plain part _ ih =>
    have part' := part?_of_step? (enters.head (.stop plain) value) part
    have onward := enters.tail fun us c => .step plain value part'
    exact .step plain value part' (ih (at?_child_of_part? value part') onward)
  | through named _ value' _ part _ iht ihr =>
    have target := iht rfl (hs _ _ named)
    have part' := part?_of_step? (enters.head (.link named target) value') part
    have onward := enters.tail fun us c => .through named target value' part'
    exact .through named target value' part' (ihr (at?_child_of_part? value' part') onward)

theorem Resolves.exists_leads (hu : d.Unshadowed) (h : d.Resolves p ts x) (value : d.at? p = some v) :
    ∃ n, d.Leads n p v ts x := by
  induction h generalizing v with
  | stop plain => exact ⟨0, .stop plain⟩
  | link named _ ih =>
    obtain ⟨n, target⟩ := ih rfl
    exact ⟨n + 1, .link named target⟩
  | step plain value' part _ ih =>
    cases value.symm.trans value'
    obtain ⟨n, rest⟩ := ih (at?_child_of_part? value part)
    exact ⟨n + 1, .step plain (step?_of_part? part) rest⟩
  | @through p t c x u w token ts named resolves value' part _ iht ihr =>
    obtain ⟨m, target⟩ := iht rfl
    obtain ⟨n, rest⟩ := ihr (at?_child_of_part? value' part)
    have shadowed : (v.member? token).isSome → (u.member? token).isSome := by
      intro beside
      have child := child?_of_part? part
      cases u with
      | object ms => exact Option.isSome_iff_exists.2 ⟨w, child⟩
      | array vs =>
        -- an element of this name would be hidden
        obtain ⟨i, hi, hw⟩ := Option.bind_eq_some_iff.1 child
        obtain rfl := arrayIndex?_eq_some.1 hi
        obtain ⟨lt, -⟩ := List.getElem?_eq_some_iff.1 hw
        rw [hu p t c v vs named resolves value value' i lt] at beside
        cases beside
      | _ => cases child
    exact ⟨m + n + 1, .through named target value' shadowed (step?_of_part? part) rest⟩

theorem exists_leads_iff_resolves (hs : d.Unsigned) (hu : d.Unshadowed) {t : Pointer}
    (named : d.request? p = some t) :
    (∃ n, d.Leads n .root d t.tokens x) ↔ d.Resolves .root t.tokens x := by
  constructor
  · rintro ⟨n, h⟩
    exact h.resolves hs rfl (hs p t named)
  · intro h
    exact h.exists_leads hu rfl

theorem exists_refers_iff_resolves (hs : d.Unsigned) (hu : d.Unshadowed) {t : Pointer}
    (named : d.request? p = some t) :
    (∃ n, d.Refers n p x) ↔ d.Resolves .root t.tokens x := by
  rw [← exists_leads_iff_resolves hs hu named]
  refine exists_congr fun n => ⟨?_, fun h => ⟨t, named, h⟩⟩
  rintro ⟨t', named', h⟩
  cases named.symm.trans named'
  exact h

end Value

namespace Aliases

open Value

variable {d : Value}

/-- References resolve exactly if each of them leads to a place, and to these places, where no index
has a sign and no element is hidden by a member beside a reference. -/
theorem resolve_iff_resolves (hd : d.IsDocument) (legible : ∀ p v, d.at? p = some v → v.Legible)
    (hs : d.Unsigned) (hu : d.Unshadowed) :
    ((∃ table, resolve d = .ok table) ↔
      ∀ p t, d.request? p = some t → ∃ x, d.Resolves .root t.tokens x) ∧
    ∀ table, resolve d = .ok table → ∀ p t, d.request? p = some t →
      ∀ x, table.lookup p = some x ↔ d.Resolves .root t.tokens x := by
  constructor
  · rw [exists_resolve hd]
    constructor
    · rintro ⟨-, refers⟩ p t named
      obtain ⟨n, x, hx⟩ := refers p (by rw [named]; exact Option.some_ne_none t)
      exact ⟨x, (exists_refers_iff_resolves hs hu named).1 ⟨n, hx⟩⟩
    · intro resolves
      refine ⟨legible, fun p hp => ?_⟩
      obtain ⟨t, named⟩ := Option.ne_none_iff_exists'.1 hp
      obtain ⟨x, hx⟩ := resolves p t named
      obtain ⟨n, hn⟩ := (exists_refers_iff_resolves hs hu named).2 hx
      exact ⟨n, x, hn⟩
  · intro table h p t named x
    rw [lookup_resolve hd h]
    exact exists_refers_iff_resolves hs hu named

/-! ### Elements of an array behind a reference -/

theorem request?_of_collect {requested : AliasTable} (hd : d.IsDocument)
    (collected : collect .root d = .ok requested) (sorted : sort requested = requested)
    (p : Pointer) : d.request? p = requested.lookup p := by
  rw [← lookup_sort_collect hd collected, sorted]

theorem not_isSigned_of_head {token : String} (h : token.toList.head? ≠ some '+') :
    ¬IsSigned token := by
  rintro ⟨digits, i, hd, -⟩
  exact h (by rw [hd]; rfl)

theorem member?_toString_eq_none {ms : Members} (h : ∀ m ∈ ms, arrayIndex? m.1 = none) (i : Nat) :
    (Value.object ms).member? (toString i) = none := by
  refine Option.eq_none_iff_forall_ne_some.2 fun w hw => ?_
  have index := h _ (mem_of_lookup hw)
  rw [arrayIndex?_toString] at index
  cases index

/-- A reference `c` to an element of an array, of which `a` is an alias with a member beside the
reference. -/
def element (beside path : String) : Value :=
  .object [("a", .object [("$ref", .string "#/b"), (beside, .object [])]),
    ("b", .array [.object []]), ("c", .object [("$ref", .string path)])]

/-- What is named by the references of such a document. -/
theorem element_named {beside path : String} {target : Pointer}
    (hd : (element beside path).IsDocument)
    (collected : collect .root (element beside path) = .ok [(⟨["a"]⟩, ⟨["b"]⟩), (⟨["c"]⟩, target)]) :
    (∀ p t, (element beside path).request? p = some t →
      p = ⟨["a"]⟩ ∧ t = ⟨["b"]⟩ ∨ p = ⟨["c"]⟩ ∧ t = target) ∧
    (element beside path).request? ⟨["a"]⟩ = some ⟨["b"]⟩ ∧
    (element beside path).request? ⟨["c"]⟩ = some target ∧
    ∀ p, p ≠ ⟨["a"]⟩ → p ≠ ⟨["c"]⟩ → (element beside path).request? p = none := by
  have sorted : sort [(⟨["a"]⟩, ⟨["b"]⟩), (⟨["c"]⟩, target)] =
      [(⟨["a"]⟩, ⟨["b"]⟩), (⟨["c"]⟩, target)] := by
    have ordered : Pointer.precedes ⟨["a"]⟩ ⟨["c"]⟩ = true := by decide
    exact List.mergeSort_of_pairwise (List.pairwise_pair.2 ordered)
  have request := request?_of_collect hd collected sorted
  refine ⟨fun p t named => ?_, by rw [request]; rfl, by rw [request]; rfl, fun p ha hc => ?_⟩
  · rw [request] at named
    simpa using mem_of_lookup named
  · simp [request, List.lookup, beq_eq_false_iff_ne.2 ha, beq_eq_false_iff_ne.2 hc]

/-- The references of such a document lead to places, if the one to the element goes through the
alias, whatever is beside the reference there. -/
theorem element_resolves {beside : String}
    (hd : (element beside "#/a/0").IsDocument)
    (collected : collect .root (element beside "#/a/0") =
      .ok [(⟨["a"]⟩, ⟨["b"]⟩), (⟨["c"]⟩, ⟨["a", "0"]⟩)]) :
    ∀ p t, (element beside "#/a/0").request? p = some t →
      ∃ x, (element beside "#/a/0").Resolves .root t.tokens x := by
  obtain ⟨only, ha, -, others⟩ := element_named hd collected
  have first : (element beside "#/a/0").Resolves .root ["b"] ⟨["b"]⟩ :=
    .step (others _ (by decide) (by decide)) rfl rfl (.stop (others _ (by decide) (by decide)))
  intro p t named
  rcases only p t named with ⟨-, rfl⟩ | ⟨-, rfl⟩
  · exact ⟨_, first⟩
  · have inner : (element beside "#/a/0").Resolves ⟨["a"]⟩ ["0"] ⟨["b", "0"]⟩ :=
      .through ha first rfl rfl (.stop (others _ (by decide) (by decide)))
    exact ⟨_, .step (others _ (by decide) (by decide)) rfl rfl inner⟩

/-- A member beside a reference to an array does not matter if it is not named like an element. -/
theorem resolve_element : (element "x" "#/a/0").IsDocument ∧
    (∀ p v, (element "x" "#/a/0").at? p = some v → v.Legible) ∧
    (element "x" "#/a/0").Unsigned ∧ (element "x" "#/a/0").Unshadowed ∧
    ∃ table, resolve (element "x" "#/a/0") = .ok table ∧
      ∀ x, table.lookup ⟨["c"]⟩ = some x ↔ (element "x" "#/a/0").Resolves .root ["a", "0"] x := by
  have document : (element "x" "#/a/0").IsDocument :=
    isDocument_iff.2 ⟨(element "x" "#/a/0").events, rfl⟩
  have collected : collect .root (element "x" "#/a/0") =
      .ok [(⟨["a"]⟩, ⟨["b"]⟩), (⟨["c"]⟩, ⟨["a", "0"]⟩)] := by cbv
  have legible := (exists_collect document).1 ⟨_, collected⟩
  obtain ⟨only, -, hc, -⟩ := element_named document collected
  have unsigned : (element "x" "#/a/0").Unsigned := by
    intro p t named us token rest c vs ht _ _
    have mem : token ∈ t.tokens := by rw [ht]; simp
    apply not_isSigned_of_head
    rcases only p t named with ⟨-, rfl⟩ | ⟨-, rfl⟩
    · obtain rfl := List.mem_singleton.1 mem
      decide
    · rcases List.mem_pair.1 mem with rfl | rfl <;> decide
  have unshadowed : (element "x" "#/a/0").Unshadowed := by
    intro p t c v vs named _ hv _ i _
    rcases only p t named with ⟨rfl, -⟩ | ⟨rfl, -⟩
    all_goals
      cases hv
      exact member?_toString_eq_none (by decide) i
  obtain ⟨succeeds, finds⟩ := resolve_iff_resolves document legible unsigned unshadowed
  obtain ⟨table, h⟩ := succeeds.2 (element_resolves document collected)
  exact ⟨document, legible, unsigned, unshadowed, table, h, finds table h _ _ hc⟩

/-- An element is hidden by a member of its name beside the reference; and an index with a sign is
followed, although it leads to no place. -/
theorem resolve_shadowed_and_signed :
    ((element "0" "#/a/0").IsDocument ∧
      (∀ p v, (element "0" "#/a/0").at? p = some v → v.Legible) ∧
      (∀ p t, (element "0" "#/a/0").request? p = some t →
        ∃ x, (element "0" "#/a/0").Resolves .root t.tokens x) ∧
      ¬∃ table, resolve (element "0" "#/a/0") = .ok table) ∧
    (element "x" "#/b/+0").IsDocument ∧
      (∀ p v, (element "x" "#/b/+0").at? p = some v → v.Legible) ∧
      (∃ table, resolve (element "x" "#/b/+0") = .ok table) ∧
      ¬∀ p t, (element "x" "#/b/+0").request? p = some t →
        ∃ x, (element "x" "#/b/+0").Resolves .root t.tokens x := by
  constructor
  · have document : (element "0" "#/a/0").IsDocument :=
      isDocument_iff.2 ⟨(element "0" "#/a/0").events, rfl⟩
    have collected : collect .root (element "0" "#/a/0") =
        .ok [(⟨["a"]⟩, ⟨["b"]⟩), (⟨["c"]⟩, ⟨["a", "0"]⟩)] := by cbv
    have refused : resolve (element "0" "#/a/0") =
        .error (.invalidReference ⟨["c"]⟩ .additionalMembers) := by cbv
    refine ⟨document, (exists_collect document).1 ⟨_, collected⟩,
      element_resolves document collected, ?_⟩
    rintro ⟨table, h⟩
    cases refused.symm.trans h
  · have document : (element "x" "#/b/+0").IsDocument :=
      isDocument_iff.2 ⟨(element "x" "#/b/+0").events, rfl⟩
    have collected : collect .root (element "x" "#/b/+0") =
        .ok [(⟨["a"]⟩, ⟨["b"]⟩), (⟨["c"]⟩, ⟨["b", "+0"]⟩)] := by cbv
    have found : resolve (element "x" "#/b/+0") =
        .ok [(⟨["a"]⟩, ⟨["b"]⟩), (⟨["c"]⟩, ⟨["b", "+0"]⟩)] := by cbv
    refine ⟨document, (exists_collect document).1 ⟨_, collected⟩, ⟨_, found⟩, ?_⟩
    obtain ⟨-, -, hc, others⟩ := element_named document collected
    intro resolves
    obtain ⟨x, h⟩ := resolves _ _ hc
    -- nothing is found in the array under a number with a sign
    have stuck : ¬(element "x" "#/b/+0").Resolves ⟨["b"]⟩ ["+0"] x := by
      intro h
      cases h with
      | step _ value part _ =>
        cases value
        cases part
      | through named =>
        rw [others _ (by decide) (by decide)] at named
        cases named
    cases h with
    | step _ _ _ rest => exact stuck rest
    | through named =>
      rw [others _ (by decide) (by decide)] at named
      cases named

end Aliases
end JsonSchema
