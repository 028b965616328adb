import Mathlib.Data.List.Perm.Subperm
import Mathlib.Data.List.Forall2
import JsonSchema.Comparator
import JsonSchema.Proofs.Document
import JsonSchema.Proofs.Recogniser
/-!
# What a comparator decides

`Value.Agrees` is structural equality of a document with a value whose members come in any order. A
comparator that expects a document and is fed the events of a value has not mismatched at the end
exactly when the two agree, and it is then where it was before, with the value consumed
(`Comparator.decides_events`).
-/

namespace JsonSchema

/-- Equality of an expected value with an actual one: numbers by value, arrays element by element,
objects by name in any order, no name of the actual object being repeated. -/
inductive Value.Agrees : Value → Value → Prop where
  | null : Agrees .null .null
  | boolean (b : Bool) : Agrees (.boolean b) (.boolean b)
  | number {m n : Number} (h : m.agrees n = true) : Agrees (.number m) (.number n)
  | string (s : String) : Agrees (.string s) (.string s)
  | array {es vs : List Value} (items : List.Forall₂ Agrees es vs) : Agrees (.array es) (.array vs)
  | object {es vs : Members} (distinct : vs.names.Nodup) (names : ∀ k, k ∈ vs.names ↔ k ∈ es.names)
    (members : ∀ k e v, (k, e) ∈ es → (k, v) ∈ vs → Agrees e v) : Agrees (.object es) (.object vs)

/-- Objects with one member of the same name agree if the members do. -/
theorem Value.agrees_single_iff {k : String} {e v : Value} :
    (Value.object [(k, e)]).Agrees (.object [(k, v)]) ↔ e.Agrees v := by
  constructor
  · intro h
    cases h with
    | object _ _ members => exact members k e v (List.mem_singleton.2 rfl) (List.mem_singleton.2 rfl)
  · intro h
    refine .object (List.nodup_singleton k) (fun _ => Iff.rfl) fun k' e' v' he hv => ?_
    cases List.mem_singleton.1 he
    cases List.mem_singleton.1 hv
    exact h

namespace Comparator

/-- Comparators as machines. -/
def machine : Recogniser Event Comparator where
  feed := feed
  matched := matched
  failed e h := by rw [feed, if_neg (by simp [h]), h]

variable {e v : Value} {fs : List Frame}

/-! ### Single events -/

theorem decides_expect (ev : Event) (test : Value → Bool)
    (h : ∀ c : Comparator, c.advance ev = c.expect test) :
    machine.Decides ⟨fs, some e, true⟩ [ev] (test e = true) ⟨fs, none, true⟩ := by
  have run : machine.run ⟨fs, some e, true⟩ [ev] = expect ⟨fs, some e, true⟩ test := h _
  constructor
  · intro ht
    rw [run, expect]
    simp [ht]
  · intro ht
    rw [run, expect]
    simp [ht, machine, fail]

/-- Where no value is expected none is taken. -/
theorem matched_run_events_of_none (v : Value) :
    (machine.run ⟨fs, none, true⟩ v.events).matched = false := by
  have first : ∀ ev es, (feed ⟨fs, none, true⟩ ev).matched = false →
      (machine.run ⟨fs, none, true⟩ (ev :: es)).matched = false :=
    fun ev es h => Recogniser.matched_run_of_failed (M := machine) h es
  cases v <;> exact first _ _ rfl

/-! ### Arrays -/

theorem decides_elements {es : List Value} (vs : List Value)
    (ih : ∀ v ∈ vs, ∀ e fs, e.IsDocument →
      machine.Decides ⟨fs, some e, true⟩ v.events (e.Agrees v) ⟨fs, none, true⟩)
    (he : ∀ e ∈ es, e.IsDocument) (n : Nat) (hn : n ≤ es.length) :
    machine.Decides ⟨.array es n :: fs, es[n]?, true⟩ (Value.elementEvents vs ++ [.endArray])
      (List.Forall₂ Value.Agrees (es.drop n) vs) ⟨fs, none, true⟩ := by
  induction vs generalizing n with
  | nil =>
    have run : machine.run ⟨.array es n :: fs, es[n]?, true⟩ [.endArray] =
        if n = es.length then ⟨fs, none, true⟩ else ⟨.array es n :: fs, es[n]?, false⟩ := rfl
    constructor
    · intro h
      have : n = es.length :=
        Nat.le_antisymm hn (List.drop_eq_nil_iff.1 (List.forall₂_nil_right_iff.1 h))
      rw [Value.elementEvents, List.nil_append, run, if_pos this]
    · intro h
      have : n ≠ es.length := by
        rintro rfl
        exact h (by rw [List.drop_length]; exact .nil)
      rw [Value.elementEvents, List.nil_append, run, if_neg this]
      rfl
  | cons v vs ihv =>
    rw [Value.elementEvents, List.append_assoc]
    by_cases hlt : n < es.length
    · have hd : es.drop n = es[n] :: es.drop (n + 1) := List.drop_eq_getElem_cons hlt
      have value := ih v (by simp) es[n] (.array es n :: fs) (he _ (List.getElem_mem hlt))
      have rest := ihv (fun w hw => ih w (by simp [hw])) (n + 1) hlt
      have close : machine.Decides ⟨.array es n :: fs, none, true⟩ [.element] True
          ⟨.array es (n + 1) :: fs, es[n + 1]?, true⟩ := ⟨fun _ => rfl, fun h => absurd trivial h⟩
      rw [List.getElem?_eq_getElem hlt, hd]
      refine (value.append fun _ => close.cons fun _ => rest).congr ?_
      rw [List.forall₂_cons, true_and]
    · -- the expected array is at its end, and so is the comparator
      have hnone : es[n]? = none := List.getElem?_eq_none (Nat.le_of_not_lt hlt)
      rw [hnone, List.drop_eq_nil_of_le (Nat.le_of_not_lt hlt)]
      refine ⟨fun h => (by cases h), fun _ => ?_⟩
      rw [Recogniser.run_append]
      exact Recogniser.matched_run_of_failed (M := machine) (matched_run_events_of_none v) _

/-! ### Objects -/

/-- The members still to come do not repeat a name, and each agrees with the expected one. -/
def MembersAgree (es : Members) (met : List String) (vs : Members) : Prop :=
  vs.names.Nodup ∧ ∀ p ∈ vs, p.1 ∉ met ∧ ∃ e, es.get? p.1 = some e ∧ e.Agrees p.2

theorem membersAgree_cons {es vs : Members} {met : List String} {k : String} {v : Value} :
    MembersAgree es met ((k, v) :: vs) ↔
      (k ∉ met ∧ ∃ e, es.get? k = some e ∧ e.Agrees v) ∧ MembersAgree es (k :: met) vs := by
  rw [MembersAgree, MembersAgree, List.forall_mem_cons]
  simp only [Members.names, List.map_cons, List.nodup_cons, List.mem_cons, not_or]
  constructor
  · rintro ⟨⟨hk, hd⟩, h, hvs⟩
    exact ⟨h, hd, fun p hp => ⟨⟨fun hpk => hk (hpk ▸ List.mem_map_of_mem hp), (hvs p hp).1⟩,
      (hvs p hp).2⟩⟩
  · rintro ⟨h, hd, hvs⟩
    refine ⟨⟨fun hk => ?_, hd⟩, h, fun p hp => ⟨(hvs p hp).1.2, (hvs p hp).2⟩⟩
    obtain ⟨p, hp, rfl⟩ := List.mem_map.1 hk
    exact (hvs p hp).1.1 rfl

/-- The name of a member whose value is expected next. -/
theorem decides_key {es : Members} {met : List String} {k : String} :
    (∀ e, es.get? k = some e → machine.Decides ⟨.object es met :: fs, none, true⟩ [.key k]
      (k ∉ met) ⟨.object es (k :: met) :: fs, some e, true⟩) ∧
    (es.get? k = none → (feed ⟨.object es met :: fs, none, true⟩ (.key k)).matched = false) := by
  constructor
  · intro e he
    have run : machine.run ⟨.object es met :: fs, none, true⟩ [.key k] =
        if met.contains k then ⟨.object es met :: fs, none, false⟩
        else ⟨.object es (k :: met) :: fs, some e, true⟩ := by
      simp only [Recogniser.run, machine, List.foldl_cons, List.foldl_nil, feed, advance, he,
        if_true, fail]
    constructor
    · intro hk
      rw [run, if_neg (by simpa using hk)]
    · intro hk
      rw [run, if_pos (by simpa using hk)]
      rfl
  · intro hn
    simp [feed, advance, hn, fail]

theorem decides_members {es : Members} (vs : Members)
    (ih : ∀ k v, (k, v) ∈ vs → ∀ e fs, e.IsDocument →
      machine.Decides ⟨fs, some e, true⟩ v.events (e.Agrees v) ⟨fs, none, true⟩)
    (he : (Value.object es).IsDocument) (met : List String) :
    machine.Decides ⟨.object es met :: fs, none, true⟩ (Value.memberEvents vs ++ [.endObject])
      (MembersAgree es met vs ∧ met.length + vs.length = es.length) ⟨fs, none, true⟩ := by
  induction vs generalizing met with
  | nil =>
    have run : machine.run ⟨.object es met :: fs, none, true⟩ [.endObject] =
        if met.length = es.length then ⟨fs, none, true⟩
        else ⟨.object es met :: fs, none, false⟩ := rfl
    have none_left : MembersAgree es met [] := ⟨List.nodup_nil, by simp⟩
    rw [Value.memberEvents, List.nil_append]
    constructor
    · intro h
      rw [run, if_pos (show met.length = es.length from h.2)]
    · intro h
      rw [run, if_neg fun hl : met.length = es.length => h ⟨none_left, hl⟩]
      rfl
  | cons p vs ihv =>
    obtain ⟨k, v⟩ := p
    have split : Value.memberEvents ((k, v) :: vs) ++ [.endObject] =
        .key k :: (v.events ++ .member :: (Value.memberEvents vs ++ [.endObject])) := by
      simp [Value.memberEvents]
    have close : machine.Decides ⟨.object es (k :: met) :: fs, none, true⟩ [.member] True
        ⟨.object es (k :: met) :: fs, none, true⟩ := ⟨fun _ => rfl, fun h => absurd trivial h⟩
    have rest := ihv (fun k' w hw => ih k' w (by simp [hw])) (k :: met)
    rw [split, membersAgree_cons]
    cases hk : es.get? k with
    | none =>
      refine ⟨fun h => ?_, fun _ => ?_⟩
      · obtain ⟨⟨⟨-, e, h, -⟩, -⟩, -⟩ := h
        cases h
      · exact Recogniser.matched_run_of_failed (M := machine) (decides_key.2 hk) _
    | some e =>
      have value := ih k v (by simp) e (.object es (k :: met) :: fs)
        (he.member (mem_of_lookup hk))
      refine ((decides_key.1 e hk).cons fun _ => value.append fun _ => close.cons fun _ =>
        rest).congr ?_
      simp only [List.length_cons, Option.some.injEq, exists_eq_left', true_and]
      rw [show met.length + 1 + vs.length = met.length + (vs.length + 1) by omega]
      tauto

theorem agrees_object_iff {es vs : Members} (he : es.names.Nodup) :
    (Value.object es).Agrees (.object vs) ↔ MembersAgree es [] vs ∧ vs.length = es.length := by
  constructor
  · intro h
    cases h with
    | object distinct names members =>
      have perm : vs.names.Perm es.names := (List.perm_ext_iff_of_nodup distinct he).2 names
      refine ⟨⟨distinct, fun p hp => ⟨by simp, ?_⟩⟩, ?_⟩
      · have hk : p.1 ∈ es.names := (names p.1).1 (List.mem_map_of_mem hp)
        obtain ⟨e, hk⟩ := Option.isSome_iff_exists.1 (lookup_isSome_iff_mem.2 hk)
        exact ⟨e, hk, members p.1 e p.2 (mem_of_lookup hk) hp⟩
      · simpa [Members.names] using perm.length_eq
  · rintro ⟨⟨distinct, h⟩, hl⟩
    have subset : vs.names ⊆ es.names := by
      intro k hk
      obtain ⟨p, hp, rfl⟩ := List.mem_map.1 hk
      obtain ⟨-, e, hk, -⟩ := h p hp
      exact lookup_isSome_iff_mem.1 (Option.isSome_iff_exists.2 ⟨e, hk⟩)
    have perm : vs.names.Perm es.names :=
      (List.subperm_of_subset distinct subset).perm_of_length_le (by simp [Members.names, hl])
    refine .object distinct (fun k => perm.mem_iff) fun k e v hke hkv => ?_
    obtain ⟨-, e', hk, ha⟩ := h (k, v) hkv
    cases (lookup_of_mem he hke).symm.trans hk
    exact ha

/-! ### Values -/

/-- The events of a value pass a comparator exactly if the value agrees with what it expects. -/
theorem decides_events (v : Value) : ∀ (e : Value) (fs : List Frame), e.IsDocument →
    machine.Decides ⟨fs, some e, true⟩ v.events (e.Agrees v) ⟨fs, none, true⟩ := by
  have mismatch : ∀ {fs e ev es P}, (advance ⟨fs, some e, true⟩ ev).matched = false → ¬P →
      machine.Decides ⟨fs, some e, true⟩ (ev :: es) P ⟨fs, none, true⟩ :=
    fun h hp => ⟨fun h => absurd h hp, fun _ => Recogniser.matched_run_of_failed (M := machine) h _⟩
  induction v using Value.induction with
  | null =>
    intro e fs _
    refine (decides_expect .null _ fun _ => rfl).congr ?_
    cases e with
    | null => exact ⟨fun _ => .null, fun _ => rfl⟩
    | _ => exact ⟨fun h => (by cases h), fun h => (by cases h)⟩
  | boolean b =>
    intro e fs _
    refine (decides_expect (.boolean b) _ fun _ => rfl).congr ?_
    cases e with
    | boolean a =>
      refine beq_iff_eq.trans ⟨fun h => h ▸ .boolean a, fun h => ?_⟩
      cases h
      rfl
    | _ => exact ⟨fun h => (by cases h), fun h => (by cases h)⟩
  | number n =>
    intro e fs _
    refine (decides_expect (.number n) _ fun _ => rfl).congr ?_
    cases e with
    | number m => exact ⟨.number, fun h => (by cases h; assumption)⟩
    | _ => exact ⟨fun h => (by cases h), fun h => (by cases h)⟩
  | string s =>
    intro e fs _
    refine (decides_expect (.string s) _ fun _ => rfl).congr ?_
    cases e with
    | string t =>
      refine beq_iff_eq.trans ⟨fun h => h ▸ .string t, fun h => ?_⟩
      cases h
      rfl
    | _ => exact ⟨fun h => (by cases h), fun h => (by cases h)⟩
  | array vs ih =>
    intro e fs he
    rw [Value.events]
    cases e with
    | array es =>
      have opened : machine.Decides ⟨fs, some (.array es), true⟩ [.beginArray] True
          ⟨.array es 0 :: fs, es[0]?, true⟩ :=
        ⟨fun _ => by rw [← List.head?_eq_getElem?]; rfl, fun h => absurd trivial h⟩
      refine (opened.cons fun _ =>
        decides_elements vs ih (fun _ => he.item) 0 (Nat.zero_le _)).congr ?_
      rw [true_and, List.drop_zero]
      exact ⟨.array, fun h => (by cases h; assumption)⟩
    | _ => exact mismatch rfl fun h => (by cases h)
  | object vs ih =>
    intro e fs he
    rw [Value.events]
    cases e with
    | object es =>
      have opened : machine.Decides ⟨fs, some (.object es), true⟩ [.beginObject] True
          ⟨.object es [] :: fs, none, true⟩ := ⟨fun _ => rfl, fun h => absurd trivial h⟩
      refine (opened.cons fun _ => decides_members vs ih he []).congr ?_
      rw [true_and, agrees_object_iff he.nodup, List.length_nil, Nat.zero_add]
    | _ => exact mismatch rfl fun h => (by cases h)

/-- The events of a value leave a comparator on a document matched exactly if the two agree. -/
theorem matched_feedAll_events {e : Value} (he : e.IsDocument) (v : Value) :
    ((expecting e).feedAll v.events).matched = true ↔ e.Agrees v :=
  (decides_events v e [] he).matched_iff rfl

/-- A comparator on a document is matched after the events of a value exactly if the value agrees
with the document. There is a mismatch on the way only where every value that begins so disagrees. -/
theorem decides_agreement {e : Value} (he : e.IsDocument) :
    (∀ v : Value, ((expecting e).feedAll v.events).matched = true ↔ e.Agrees v) ∧
      ∀ (es fs : List Event) (v : Value), v.events = es ++ fs →
        ((expecting e).feedAll es).matched = false → ¬e.Agrees v := by
  refine ⟨matched_feedAll_events he, fun es fs v hv hm hav => ?_⟩
  have failed : ((expecting e).feedAll (es ++ fs)).matched = false := by
    rw [feedAll, List.foldl_append]
    exact Recogniser.matched_run_of_failed (M := machine) hm fs
  rw [← hv, (matched_feedAll_events he v).2 hav] at failed
  cases failed

/-- The members of an object come in another order, the number in another representation; and an array
that is too short is refused at its end. -/
theorem decides_agreement_reordered :
    let e := Value.object [("a", .number (.unsigned 1)), ("b", .array [.null, .boolean true])]
    let v := Value.object [("b", .array [.null, .boolean true]),
      ("a", .number (.float ⟨0x3FF0000000000000⟩))]
    let w := Value.object [("b", .array [.null]), ("a", .number (.unsigned 1))]
    e.IsDocument ∧ e.Agrees v ∧ ((expecting e).feedAll (w.events.take 6)).matched = false ∧
      ¬e.Agrees w := by
  intro e v w
  have he : e.IsDocument := by
    refine .object (by decide) ?_
    simp only [List.forall_mem_cons]
    exact ⟨.number _, .array (by simp [Value.IsDocument.null, Value.IsDocument.boolean]), by simp⟩
  have short : ((expecting e).feedAll (w.events.take 6)).matched = false := by decide
  exact ⟨he, ((decides_agreement he).1 v).1 (by decide +kernel), short,
    (decides_agreement he).2 (w.events.take 6) (w.events.drop 6) w (List.take_append_drop ..).symm
      short⟩

end Comparator
end JsonSchema
