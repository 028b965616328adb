import Mathlib.Data.Set.List
import JsonSchema.Proofs.Arrangement
import JsonSchema.Event
/-!
# Sentences of events

A `Sentence` is the events of one value. Between the brackets of an aggregate there are entries,
each of them a sentence and the event that closes it. The walk of a value is a sentence, and so
is every sentence without opaque payloads the walk of a value (`Sentence.exists_value`).
-/

namespace JsonSchema

namespace Event

/-- An event that is a value by itself. -/
def IsScalar : Event → Prop
  | .null | .boolean _ | .number _ | .string _ | .binary _ => True
  | _ => False

/-- The events of elements, each closed. -/
def elements (l : List (List Event)) : List Event := l.flatMap fun es => es ++ [.element]

/-- The events of members under their names, each closed. -/
def members (l : List (String × List Event)) : List Event :=
  l.flatMap fun m => .key m.1 :: m.2 ++ [.member]

theorem elements_cons (es : List Event) (l : List (List Event)) :
    elements (es :: l) = es ++ .element :: elements l := by
  simp [elements]

theorem members_cons (k : String) (es : List Event) (l : List (String × List Event)) :
    members ((k, es) :: l) = .key k :: (es ++ .member :: members l) := by
  simp [members]

theorem elements_concat (l : List (List Event)) (es : List Event) :
    elements (l ++ [es]) = elements l ++ es ++ [.element] := by
  simp [elements]

theorem members_concat (l : List (String × List Event)) (k : String) (es : List Event) :
    members (l ++ [(k, es)]) = members l ++ [.key k] ++ es ++ [.member] := by
  simp [members]

theorem filter_elements {p : Event → Bool} (close : p .element = true) (l : List (List Event)) :
    (elements l).filter p = elements (l.map (List.filter p)) := by
  simp [elements, List.filter_flatMap, List.flatMap_map, close]

theorem filter_members {p : Event → Bool} (name : ∀ k, p (.key k) = true) (close : p .member = true)
    (l : List (String × List Event)) :
    (members l).filter p = members (l.map fun m => (m.1, m.2.filter p)) := by
  simp [members, List.filter_flatMap, List.flatMap_map, name, close]

variable {P : Event → Prop}

theorem forall_elements_iff {l : List (List Event)} (close : P .element) :
    (∀ e ∈ elements l, P e) ↔ ∀ es ∈ l, ∀ e ∈ es, P e := by
  constructor
  · intro h es hes e he
    exact h e (List.mem_flatMap.2 ⟨es, hes, List.mem_append_left _ he⟩)
  · intro h e he
    obtain ⟨es, hes, he⟩ := List.mem_flatMap.1 he
    rcases List.mem_append.1 he with he | he
    · exact h es hes e he
    · exact List.mem_singleton.1 he ▸ close

theorem forall_members_iff {l : List (String × List Event)} (name : ∀ k, P (.key k))
    (close : P .member) : (∀ e ∈ members l, P e) ↔ ∀ m ∈ l, ∀ e ∈ m.2, P e := by
  constructor
  · intro h m hm e he
    refine h e (List.mem_flatMap.2 ⟨m, hm, ?_⟩)
    exact List.mem_cons_of_mem _ (List.mem_append_left _ he)
  · intro h e he
    obtain ⟨m, hm, he⟩ := List.mem_flatMap.1 he
    rcases List.mem_cons.1 he with rfl | he
    · exact name m.1
    · rcases List.mem_append.1 he with he | he
      · exact h m hm e he
      · exact List.mem_singleton.1 he ▸ close

end Event

/-- The events of one value. -/
inductive Sentence : List Event → Prop where
  | scalar {e : Event} (h : e.IsScalar) : Sentence [e]
  | array {l : List (List Event)} (items : ∀ es ∈ l, Sentence es) :
      Sentence (.beginArray :: Event.elements l ++ [.endArray])
  | object {l : List (String × List Event)} (members : ∀ m ∈ l, Sentence m.2) :
      Sentence (.beginObject :: Event.members l ++ [.endObject])

namespace Value

theorem elementEvents_eq (vs : List Value) :
    elementEvents vs = Event.elements (vs.map Value.events) := by
  induction vs with
  | nil => rfl
  | cons v vs ih => simp [elementEvents, ih, Event.elements]

theorem memberEvents_eq (ms : Members) :
    memberEvents ms = Event.members (ms.map fun m => (m.1, m.2.events)) := by
  induction ms with
  | nil => rfl
  | cons m ms ih => simp [memberEvents, ih, Event.members]

/-- Members that are walks are those of a list of members. -/
theorem exists_members {l : List (String × List Event)} (h : ∀ m ∈ l, ∃ v : Value, v.events = m.2) :
    ∃ ms : Members, ms.map (fun m => (m.1, m.2.events)) = l := by
  show l ∈ Set.range (List.map fun m : String × Value => (m.1, m.2.events))
  rw [Set.range_list_map]
  intro m hm
  obtain ⟨v, hv⟩ := h m hm
  exact ⟨(m.1, v), Prod.ext rfl hv⟩

/-- The walk of a value is a sentence. -/
theorem sentence_events (v : Value) : Sentence v.events := by
  induction v using Value.induction with
  | array vs ih =>
    rw [events, elementEvents_eq]
    refine .array fun es hes => ?_
    obtain ⟨v, hv, rfl⟩ := List.mem_map.1 hes
    exact ih v hv
  | object ms ih =>
    rw [events, memberEvents_eq]
    refine .object fun m hm => ?_
    obtain ⟨⟨k, v⟩, hkv, rfl⟩ := List.mem_map.1 hm
    exact ih k v hkv
  | _ => exact .scalar trivial

end Value

/-- A sentence without opaque payloads is the walk of a value. -/
theorem Sentence.exists_value {es : List Event} (h : Sentence es)
    (plain : ∀ e ∈ es, ∀ payload, e ≠ .binary payload) : ∃ v : Value, v.events = es := by
  induction h with
  | @scalar e h =>
    cases e with
    | null => exact ⟨.null, rfl⟩
    | boolean b => exact ⟨.boolean b, rfl⟩
    | number n => exact ⟨.number n, rfl⟩
    | string s => exact ⟨.string s, rfl⟩
    | binary payload => exact absurd rfl (plain _ (List.mem_singleton_self _) payload)
    | _ => cases h
  | @array l _ ih =>
    have elements : ∀ e ∈ Event.elements l, ∀ payload, e ≠ .binary payload :=
      fun e he => plain e (by simp [he])
    have inside := (Event.forall_elements_iff nofun).1 elements
    -- a list of walks is the walks of a list
    obtain ⟨vs, rfl⟩ : l ∈ Set.range (List.map Value.events) := by
      rw [Set.range_list_map]
      exact fun es hes => ih es hes (inside es hes)
    exact ⟨.array vs, by rw [Value.events, Value.elementEvents_eq]⟩
  | @object l _ ih =>
    have members : ∀ e ∈ Event.members l, ∀ payload, e ≠ .binary payload :=
      fun e he => plain e (by simp [he])
    have inside := (Event.forall_members_iff (fun _ => nofun) nofun).1 members
    obtain ⟨ms, rfl⟩ := Value.exists_members fun m hm => ih m hm (inside m hm)
    exact ⟨.object ms, by rw [Value.events, Value.memberEvents_eq]⟩

/-! ### Representations of numbers -/

/-- A signed integer is negative. -/
def Number.IsNormal : Number → Prop
  | .signed i => i.toInt < 0
  | _ => True

/-- An event that a text may hold: no opaque payload, and a number in normal representation. -/
def Event.IsPlain : Event → Prop
  | .binary _ => False
  | .number n => n.IsNormal
  | _ => True

namespace Value

/-- Every number in the value is in normal representation. -/
inductive IsNormal : Value → Prop where
  | null : IsNormal .null
  | boolean (b : Bool) : IsNormal (.boolean b)
  | number {n : Number} (h : n.IsNormal) : IsNormal (.number n)
  | string (s : String) : IsNormal (.string s)
  | array {vs : List Value} (items : ∀ v ∈ vs, IsNormal v) : IsNormal (.array vs)
  | object {ms : Members} (members : ∀ m ∈ ms, IsNormal m.2) : IsNormal (.object ms)

/-- Arranging members leaves numbers as they are. -/
theorem IsNormal.arrange {f : Members → Members} (subset : ∀ ms, f ms ⊆ ms) {v : Value}
    (h : v.IsNormal) : (v.arrange f).IsNormal := by
  induction v using Value.induction with
  | array vs ih =>
    cases h with
    | array items =>
      rw [arrange_array]
      refine .array fun w hw => ?_
      obtain ⟨v, hv, rfl⟩ := List.mem_map.1 hw
      exact ih v hv (items v hv)
  | object ms ih =>
    cases h with
    | object members =>
      rw [arrange_object]
      refine .object fun p hp => ?_
      obtain ⟨m, hm, rfl⟩ := List.mem_map.1 (subset _ hp)
      exact ih m.1 m.2 hm (members m hm)
  | _ => exact h

/-- The walk of a value is plain exactly if the numbers in the value are normal. -/
theorem isPlain_events_iff {v : Value} : (∀ e ∈ v.events, e.IsPlain) ↔ v.IsNormal := by
  induction v using Value.induction with
  | null => exact iff_of_true (by simp [events, Event.IsPlain]) .null
  | boolean b => exact iff_of_true (by simp [events, Event.IsPlain]) (.boolean b)
  | string s => exact iff_of_true (by simp [events, Event.IsPlain]) (.string s)
  | number n =>
    rw [events, List.forall_mem_singleton]
    constructor
    · exact .number
    · rintro ⟨⟩
      assumption
  | array vs ih =>
    have parts : (∀ e ∈ (Value.array vs).events, e.IsPlain) ↔
        ∀ e ∈ Event.elements (vs.map Value.events), e.IsPlain := by
      simp [events, elementEvents_eq, or_imp, forall_and, Event.IsPlain]
    rw [parts, Event.forall_elements_iff trivial, List.forall_mem_map]
    constructor
    · exact fun h => .array fun v hv => (ih v hv).1 (h v hv)
    · intro h v hv
      cases h with
      | array items => exact (ih v hv).2 (items v hv)
  | object ms ih =>
    have parts : (∀ e ∈ (Value.object ms).events, e.IsPlain) ↔
        ∀ e ∈ Event.members (ms.map fun m => (m.1, m.2.events)), e.IsPlain := by
      simp [events, memberEvents_eq, or_imp, forall_and, Event.IsPlain]
    rw [parts, Event.forall_members_iff (fun _ => trivial) trivial, List.forall_mem_map]
    constructor
    · exact fun h => .object fun m hm => (ih m.1 m.2 hm).1 (h m hm)
    · intro h m hm
      cases h with
      | object members => exact (ih m.1 m.2 hm).2 (members m hm)

end Value
end JsonSchema
