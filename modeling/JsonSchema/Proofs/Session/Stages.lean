import JsonSchema.Proofs.Sentences
import JsonSchema.Session
/-!
# Stages of the description of a value

A `Stage` is how far a value has been described: which entries of the aggregates around are closed,
and the stage of the entry that is being described. The stages are the prefixes of walks
(`existsUnique_of_isPrefix`), and each is reached event by event from the beginning (`steps_events`).
The event that comes next belongs to the value itself or to the part of it that is being described
(`Step`).
-/

namespace JsonSchema

/-- How far a value has been described. -/
inductive Stage where
  | ahead
  | complete (v : Value)
  | inArray (closed : List Value) (current : Stage)
  | betweenMembers (closed : Members)
  | inMember (closed : Members) (name : String) (current : Stage)

namespace Stage

/-- The events so far. -/
def events : Stage → List Event
  | ahead => []
  | complete v => v.events
  | inArray closed current => .beginArray :: Value.elementEvents closed ++ current.events
  | betweenMembers closed => .beginObject :: Value.memberEvents closed
  | inMember closed name current =>
    .beginObject :: Value.memberEvents closed ++ .key name :: current.events

/-- The numbers of entries closed so far in the open aggregates, innermost first. -/
def counts : Stage → List Nat
  | ahead | complete _ => []
  | inArray closed current => current.counts ++ [closed.length]
  | betweenMembers closed => [closed.length]
  | inMember closed _ current => current.counts ++ [closed.length]

/-- The stage of the element or member that is being described. -/
def current : Stage → Stage
  | inArray _ p | inMember _ _ p => p
  | ahead | complete _ | betweenMembers _ => ahead

/-! ### Steps -/

/-- An event of the value itself. -/
inductive Turn : Stage → Event → Stage → Prop
  | scalar {v : Value} {e : Event} (h : v.events = [e]) : Turn ahead e (complete v)
  | beginArray : Turn ahead .beginArray (inArray [] ahead)
  | element {vs : List Value} {v : Value} :
      Turn (inArray vs (complete v)) .element (inArray (vs ++ [v]) ahead)
  | endArray {vs : List Value} : Turn (inArray vs ahead) .endArray (complete (.array vs))
  | beginObject : Turn ahead .beginObject (betweenMembers [])
  | key {ms : Members} {k : String} : Turn (betweenMembers ms) (.key k) (inMember ms k ahead)
  | member {ms : Members} {k : String} {v : Value} :
      Turn (inMember ms k (complete v)) .member (betweenMembers (ms ++ [(k, v)]))
  | endObject {ms : Members} : Turn (betweenMembers ms) .endObject (complete (.object ms))

/-- An event of the value or of the part of it that is being described. -/
inductive Step : Stage → Event → Stage → Prop
  | turn {p q : Stage} {e : Event} (h : Turn p e q) : Step p e q
  | inArray {vs : List Value} {p q : Stage} {e : Event} (h : Step p e q) :
      Step (inArray vs p) e (inArray vs q)
  | inMember {ms : Members} {k : String} {p q : Stage} {e : Event} (h : Step p e q) :
      Step (inMember ms k p) e (inMember ms k q)

/-- Events one after the other. -/
def Steps : Stage → List Event → Stage → Prop
  | p, [], q => p = q
  | p, e :: es, q => ∃ r, Step p e r ∧ Steps r es q

variable {p q r : Stage} {e : Event} {es fs : List Event} {v : Value} {vs : List Value}
  {ms : Members} {k : String}

theorem isScalar_of_events (h : v.events = [e]) : e.IsScalar ∧ e.isBinary = false := by
  cases v with
  | array vs => simp [Value.events] at h
  | object ms => simp [Value.events] at h
  | _ =>
    obtain ⟨rfl⟩ := List.cons.inj h
    exact ⟨trivial, rfl⟩

theorem eq_of_events {w : Value} (h : v.events = [e]) (h' : w.events = [e]) : v = w := by
  cases v with
  | array vs => simp [Value.events] at h
  | object ms => simp [Value.events] at h
  | _ =>
    obtain ⟨rfl⟩ := List.cons.inj h
    cases w <;> simp_all [Value.events]

/-- What closes an element or the array does not belong to the element. -/
theorem Turn.not_step_inArray (h : Turn (inArray vs p) e q) : ¬Step p e r := by
  rintro (turn | _ | _)
  · cases h with
    | element => cases turn
    | endArray =>
      cases turn with
      | scalar h => cases (isScalar_of_events h).1
  · cases h
  · cases h

theorem Turn.not_step_inMember (h : Turn (inMember ms k p) e q) : ¬Step p e r := by
  rintro (turn | _ | _)
  · cases h with
    | member => cases turn
  · cases h
  · cases h

theorem Turn.events (h : Turn p e q) : q.events = p.events ++ [e] := by
  cases h with
  | scalar h => exact h
  | element =>
    simp [Stage.events, Value.elementEvents_eq, Event.elements_concat]
  | member =>
    simp [Stage.events, Value.memberEvents_eq, Event.members_concat]
  | _ => simp [Stage.events, Value.events, Value.elementEvents, Value.memberEvents]

theorem Step.events (h : Step p e q) : q.events = p.events ++ [e] := by
  induction h with
  | turn h => exact h.events
  | inArray _ ih => simp [Stage.events, ih]
  | inMember _ ih => simp [Stage.events, ih]

theorem steps_append : Steps p (es ++ fs) q ↔ ∃ r, Steps p es r ∧ Steps r fs q := by
  induction es generalizing p with
  | nil => simp [Steps]
  | cons e es ih =>
    simp only [List.cons_append, Steps, ih]
    constructor
    · rintro ⟨r, first, r', rest, last⟩
      exact ⟨r', ⟨r, first, rest⟩, last⟩
    · rintro ⟨r', ⟨r, first, rest⟩, last⟩
      exact ⟨r, first, r', rest, last⟩

theorem Steps.cons (first : Step p e r) (rest : Steps r es q) : Steps p (e :: es) q :=
  ⟨r, first, rest⟩

theorem Steps.append (first : Steps p es r) (rest : Steps r fs q) : Steps p (es ++ fs) q :=
  steps_append.2 ⟨r, first, rest⟩

theorem Step.steps (h : Step p e q) : Steps p [e] q := ⟨q, h, rfl⟩

theorem Steps.events (h : Steps p es q) : q.events = p.events ++ es := by
  induction es generalizing p with
  | nil =>
    obtain rfl : p = q := h
    exact (List.append_nil _).symm
  | cons e es ih =>
    obtain ⟨r, first, rest⟩ := h
    rw [ih rest, first.events, List.append_assoc]
    rfl

theorem Steps.inArray (h : Steps p es q) : Steps (inArray vs p) es (inArray vs q) := by
  induction es generalizing p with
  | nil => exact congrArg (Stage.inArray vs) h
  | cons e es ih =>
    obtain ⟨r, first, rest⟩ := h
    exact ⟨_, first.inArray, ih rest⟩

theorem Steps.inMember (h : Steps p es q) : Steps (inMember ms k p) es (inMember ms k q) := by
  induction es generalizing p with
  | nil => exact congrArg (Stage.inMember ms k) h
  | cons e es ih =>
    obtain ⟨r, first, rest⟩ := h
    exact ⟨_, first.inMember, ih rest⟩

/-! ### From the beginning to every stage -/

theorem steps_elements (each : ∀ v ∈ vs, Steps ahead v.events (complete v)) (closed : List Value) :
    Steps (inArray closed ahead) (Value.elementEvents vs) (inArray (closed ++ vs) ahead) := by
  induction vs generalizing closed with
  | nil =>
    rw [List.append_nil]
    rfl
  | cons v vs ih =>
    obtain ⟨first, rest⟩ := List.forall_mem_cons.1 each
    refine first.inArray.append (.cons (.turn .element) ?_)
    have further := ih rest (closed ++ [v])
    rwa [List.append_assoc, List.singleton_append] at further

theorem steps_members (each : ∀ m ∈ ms, Steps ahead m.2.events (complete m.2)) (closed : Members) :
    Steps (betweenMembers closed) (Value.memberEvents ms) (betweenMembers (closed ++ ms)) := by
  induction ms generalizing closed with
  | nil =>
    rw [List.append_nil]
    rfl
  | cons m ms ih =>
    obtain ⟨first, rest⟩ := List.forall_mem_cons.1 each
    refine .cons (.turn .key) (first.inMember.append (.cons (.turn .member) ?_))
    have further := ih rest (closed ++ [m])
    rwa [List.append_assoc, List.singleton_append] at further

theorem steps_complete (v : Value) : Steps ahead v.events (complete v) := by
  induction v using Value.induction with
  | array vs ih =>
    have opened : Step ahead .beginArray (.inArray [] ahead) := .turn .beginArray
    exact .cons opened ((steps_elements ih []).append (Step.turn .endArray).steps)
  | object ms ih =>
    have opened : Step ahead .beginObject (.betweenMembers []) := .turn .beginObject
    exact .cons opened ((steps_members (fun m hm => ih m.1 m.2 hm) []).append
      (Step.turn .endObject).steps)
  | _ => exact (Step.turn (.scalar rfl)).steps

/-- Its own events lead to every stage. -/
theorem steps_events (p : Stage) : Steps ahead p.events p := by
  induction p with
  | ahead => rfl
  | complete v => exact steps_complete v
  | inArray closed current ih =>
    have elements := steps_elements (fun v (_ : v ∈ closed) => steps_complete v) []
    exact .cons (.turn .beginArray) (elements.append ih.inArray)
  | betweenMembers closed =>
    exact .cons (.turn .beginObject) (steps_members (fun m _ => steps_complete m.2) [])
  | inMember closed name current ih =>
    have members := steps_members (fun m (_ : m ∈ closed) => steps_complete m.2) []
    exact .cons (.turn .beginObject) (members.append (.cons (.turn .key) ih.inMember))

/-! ### The only stage -/

theorem Turn.unique {q' : Stage} (h : Turn p e q) (h' : Turn p e q') : q = q' := by
  cases h with
  | scalar h =>
    cases h' with
    | scalar h' => rw [eq_of_events h h']
    | beginArray => cases (isScalar_of_events h).1
    | beginObject => cases (isScalar_of_events h).1
  | beginArray =>
    cases h' with
    | scalar h' => cases (isScalar_of_events h').1
    | beginArray => rfl
  | beginObject =>
    cases h' with
    | scalar h' => cases (isScalar_of_events h').1
    | beginObject => rfl
  | _ =>
    cases h'
    rfl

theorem Step.unique {q' : Stage} (h : Step p e q) (h' : Step p e q') : q = q' := by
  induction h generalizing q' with
  | turn h =>
    cases h' with
    | turn h' => exact h.unique h'
    | inArray h' => exact absurd h' h.not_step_inArray
    | inMember h' => exact absurd h' h.not_step_inMember
  | inArray h ih =>
    cases h' with
    | turn h' => exact absurd h h'.not_step_inArray
    | inArray h' => rw [ih h']
  | inMember h ih =>
    cases h' with
    | turn h' => exact absurd h h'.not_step_inMember
    | inMember h' => rw [ih h']

theorem Steps.unique {q' : Stage} (h : Steps p es q) (h' : Steps p es q') : q = q' := by
  induction es generalizing p with
  | nil => exact h.symm.trans h'
  | cons e es ih =>
    obtain ⟨r, first, rest⟩ := h
    obtain ⟨r', first', rest'⟩ := h'
    rw [first.unique first'] at rest
    exact ih rest rest'

/-- What has been read of a walk is one stage. -/
theorem existsUnique_of_isPrefix (h : es <+: v.events) : ∃! p : Stage, p.events = es := by
  obtain ⟨rest, whole⟩ := h
  have walk := steps_complete v
  rw [← whole, steps_append] at walk
  obtain ⟨p, first, -⟩ := walk
  refine ⟨p, first.events, fun q hq => ?_⟩
  rw [← hq] at first
  exact (steps_events q).unique first

end Stage
end JsonSchema
