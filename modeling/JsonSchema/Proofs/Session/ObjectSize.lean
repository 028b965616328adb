import Mathlib
import JsonSchema.Proofs.Building
import JsonSchema.Proofs.Graph.Build
import JsonSchema.Proofs.Session.Objects
/-!
# The size of an object

A session on the schema whose only keywords are `minProperties` and `maxProperties` counts the
members of an object as they come, a repeated name as often as it is repeated
(`verdict_iff_inLimits`). The document that the same events describe keeps one member of each name,
so its verdict is about the number of names. They agree where no name is repeated
(`verdict_sized`).
-/

namespace JsonSchema

/-- The schema whose only keywords are `maxProperties` and `minProperties`. -/
def Node.sized {ρ : Type} (p : Pointer) (max min : Option Nat) : Node ρ :=
  { Node.unconstrained p with object := ⟨max, min, [], [], [], none, [], []⟩ }

/-- A number lies within the limits that there are. -/
def InLimits (max min : Option Nat) (n : Nat) : Prop := (∀ c ∈ max, n ≤ c) ∧ ∀ c ∈ min, c ≤ n

/-! ### What a builder refuses -/

namespace Value

variable {es : List Event} {v : Value}

theorem Builder.isBinary_of_feedAll {b b' : Builder} (h : b.feedAll es = some b') :
    ∀ e ∈ es, e.isBinary = false := by
  induction es generalizing b with
  | nil => simp
  | cons e es ih =>
    obtain ⟨b₁, first, rest⟩ := Option.bind_eq_some_iff.1 h
    refine List.forall_mem_cons.2 ⟨?_, ih rest⟩
    cases e with
    | binary payload => cases first
    | _ => rfl

/-- Events with an opaque payload describe no document. -/
theorem isBinary_of_ofEvents? (h : ofEvents? es = some v) : ∀ e ∈ es, e.isBinary = false := by
  unfold ofEvents? at h
  split at h
  · next hb => exact Builder.isBinary_of_feedAll hb
  · cases h

/-- The document of an object has one member for each name. -/
theorem exists_members_of_ofEvents? {l : List (String × List Event)} (hl : ∀ m ∈ l, Sentence m.2)
    (h : ofEvents? (.beginObject :: Event.members l ++ [.endObject]) = some v) :
    ∃ ms : Members, v = .object ms ∧ ms.length = (l.map (·.1)).dedup.length := by
  have plain : ∀ e ∈ Event.members l, e.isBinary = false :=
    fun e he => isBinary_of_ofEvents? h e (by simp [he])
  have values := (Event.forall_members_iff (P := fun e => e.isBinary = false) (fun _ => rfl) rfl).1
    plain
  obtain ⟨ms, rfl⟩ := exists_members fun m hm => (hl m hm).exists_value fun e he payload hb => by
    cases hb
    cases values m hm _ he
  have walk : .beginObject :: Event.members (ms.map fun m => (m.1, m.2.events)) ++ [.endObject] =
      (Value.object ms).events := by rw [events, memberEvents_eq]
  rw [walk, ofEvents?_events, toDocument, arrange_object] at h
  refine ⟨_, (Option.some.inj h).symm, ?_⟩
  rw [Members.length_collapse, List.map_map]
  exact congrArg (fun names : List String => names.dedup.length) (names_arranged ms)

end Value

namespace Session

variable {g : Graph} {id : NodeId} {p : Pointer} {max min : Option Nat}
  {l : List (String × List Event)}

/-! ### The verdict on an object -/

theorem membersOk_sized {names : List String} {i : Nat} :
    membersOk (Node.sized (ρ := NodeId) p max min).object names i = true ↔ InLimits max min i := by
  simp [membersOk, Node.sized, InLimits, atMost, atLeast, Option.all_eq_true]

/-- For events without payloads: nothing runs beside the bare session, which asks nothing of the
members. -/
theorem verdict_fresh_sized (enclosed : ∀ m ∈ l, Enclosed m.2)
    (plain : ∀ m ∈ l, ∀ e ∈ m.2, e.isBinary = false) :
    ((fresh (.sized p max min)).feedAll g
      (.beginObject :: Event.members l ++ [.endObject])).verdict g = true ↔
      InLimits max min l.length := by
  have members := (Event.forall_members_iff (P := fun e => e.isBinary = false) (fun _ => rfl)
    rfl).2 plain
  have whole : ∀ e ∈ .beginObject :: Event.members l ++ [.endObject], e.isBinary = false := by
    simpa [Event.isBinary, or_imp, forall_and] using members
  have own := (decides_objectEvents (g := g) (n := .sized p max min) List.nodup_nil
    enclosed).matched_iff rfl
  have noProperty : MembersPass g (.sized p max min) [] l := by
    refine ⟨by rintro ⟨⟩, by rintro ⟨⟩, fun m _ q hq => ?_⟩
    rcases hq with h | ⟨_, h, _⟩ | ⟨-, h⟩ <;> cases h
  rw [membersOk_sized] at own
  rw [verdict_fresh _ whole]
  simp only [Bool.and_eq_true]
  constructor
  · rintro ⟨⟨⟨hm, -⟩, -⟩, -⟩
    exact (own.1 hm).2.2
  · intro limits
    exact ⟨⟨⟨own.2 ⟨rfl, noProperty, limits⟩, rfl⟩, rfl⟩, rfl⟩

/-- The members are counted as they come. -/
theorem verdict_iff_inLimits (hn : g.node id = .sized p max min) (hl : ∀ m ∈ l, Sentence m.2) :
    ((start g id).feedAll g (.beginObject :: Event.members l ++ [.endObject])).verdict g = true ↔
      InLimits max min l.length := by
  have seen : (Event.beginObject :: Event.members l ++ [Event.endObject]).filter
      (fun e => !e.isBinary) = .beginObject ::
        Event.members (l.map fun m => (m.1, m.2.filter fun e => !e.isBinary)) ++ [.endObject] := by
    rw [List.cons_append, List.filter_cons_of_pos rfl, List.filter_append,
      Event.filter_members (fun _ => rfl) rfl]
    rfl
  rw [start, hn, ← verdict_feedAll_filter, seen, verdict_fresh_sized, List.length_map]
  · exact List.forall_mem_map.2 fun m hm => enclosed_filter (hl m hm)
  · refine List.forall_mem_map.2 fun m _ e he => ?_
    simpa using (List.mem_filter.1 he).2

theorem verdict_object_iff_inLimits (hn : g.node id = .sized p max min) (ms : Members) :
    ((start g id).feedAll g (Value.object ms).events).verdict g = true ↔
      InLimits max min ms.length := by
  rw [Value.events, Value.memberEvents_eq, verdict_iff_inLimits hn, List.length_map]
  exact List.forall_mem_map.2 fun m _ => m.2.sentence_events

/-- A session on the schema `minProperties` and `maxProperties` accepts an object exactly if the
number of its members is within the limits, where each occurrence of a repeated name counts. On the
document which the events describe it is the number of names that has to be within the limits, so
the two verdicts are the same if no name is repeated. -/
theorem verdict_sized (hn : g.node id = .sized p max min) (hl : ∀ m ∈ l, Sentence m.2) :
    let es := .beginObject :: Event.members l ++ [.endObject]
    let names := l.map (·.1)
    let accepts := fun es => ((start g id).feedAll g es).verdict g
    (accepts es = true ↔ InLimits max min l.length) ∧
      (names.Nodup → (accepts es = true ↔ InLimits max min names.dedup.length)) ∧
      ∀ v, Value.ofEvents? es = some v →
        (accepts v.events = true ↔ InLimits max min names.dedup.length) ∧
          (names.Nodup → accepts es = accepts v.events) := by
  intro es names accepts
  have counted : accepts es = true ↔ InLimits max min l.length := verdict_iff_inLimits hn hl
  have distinct : names.Nodup → (accepts es = true ↔ InLimits max min names.dedup.length) := by
    intro nodup
    rw [nodup.dedup, List.length_map]
    exact counted
  refine ⟨counted, distinct, fun v hv => ?_⟩
  obtain ⟨ms, rfl, length⟩ := Value.exists_members_of_ofEvents? hl hv
  have named : accepts (Value.object ms).events = true ↔ InLimits max min names.dedup.length := by
    rw [← length]
    exact verdict_object_iff_inLimits hn ms
  refine ⟨named, fun nodup => ?_⟩
  rw [Bool.eq_iff_iff, distinct nodup, named]

/-- A document that is the schema `minProperties` with the limit two. -/
def atLeastTwo : Value := .object [("minProperties", .number (.unsigned 2))]

theorem exists_build_atLeastTwo : ∃ g, Graph.build atLeastTwo = .ok g ∧
    g.node Graph.root = .sized .root none (some 2) := by
  have resolved : Aliases.resolve atLeastTwo = .ok [] := by cbv
  have closed : (Graph.closure [] atLeastTwo).map (·.nodes) = .ok #[.sized .root none (some 2)] := by
    cbv
  obtain ⟨g, hg, -, -, hn⟩ := Graph.exists_build_single resolved closed rfl
  exact ⟨g, hg, hn⟩

/-- Two members of different names. -/
theorem verdict_atLeastTwo_distinct :
    let l := [("b", [Event.null]), ("a", [Event.null])]
    (∀ m ∈ l, Sentence m.2) ∧ (l.map (·.1)).Nodup ∧
      Value.ofEvents? (.beginObject :: Event.members l ++ [.endObject]) =
        some (.object [("a", .null), ("b", .null)]) ∧
      ∃ g, Graph.build atLeastTwo = .ok g ∧ g.node Graph.root = .sized .root none (some 2) ∧
        ((start g Graph.root).feedAll g
          (.beginObject :: Event.members l ++ [.endObject])).verdict g = true ∧
        ((start g Graph.root).feedAll g
          (Value.object [("a", .null), ("b", .null)]).events).verdict g = true := by
  intro l
  have sentences : ∀ m ∈ l, Sentence m.2 := by
    simp only [l, List.forall_mem_cons]
    exact ⟨.scalar trivial, .scalar trivial, by simp⟩
  have nodup : (l.map (·.1)).Nodup := by decide
  have document : Value.ofEvents? (.beginObject :: Event.members l ++ [.endObject]) =
      some (.object [("a", .null), ("b", .null)]) := by cbv
  obtain ⟨g, hg, hn⟩ := exists_build_atLeastTwo
  obtain ⟨counted, -, onDocument⟩ := verdict_sized hn sentences
  have accepted := counted.2 ⟨by simp, by simp [l]⟩
  exact ⟨sentences, nodup, document, g, hg, hn, accepted,
    ((onDocument _ document).2 nodup).symm.trans accepted⟩

/-- One name, twice, makes two members, but one in the document. -/
theorem verdict_atLeastTwo_repeated :
    let l := [("a", [Event.null]), ("a", [Event.null])]
    (∀ m ∈ l, Sentence m.2) ∧ ¬InLimits none (some 2) (l.map (·.1)).dedup.length ∧
      Value.ofEvents? (.beginObject :: Event.members l ++ [.endObject]) =
        some (.object [("a", .null)]) ∧
      ∃ g, Graph.build atLeastTwo = .ok g ∧ g.node Graph.root = .sized .root none (some 2) ∧
        ((start g Graph.root).feedAll g
          (.beginObject :: Event.members l ++ [.endObject])).verdict g = true ∧
        ((start g Graph.root).feedAll g (Value.object [("a", .null)]).events).verdict g = false := by
  intro l
  have sentences : ∀ m ∈ l, Sentence m.2 := by
    simp only [l, List.forall_mem_cons]
    exact ⟨.scalar trivial, .scalar trivial, by simp⟩
  have document : Value.ofEvents? (.beginObject :: Event.members l ++ [.endObject]) =
      some (.object [("a", .null)]) := by cbv
  obtain ⟨g, hg, hn⟩ := exists_build_atLeastTwo
  have one : ¬InLimits none (some 2) 1 := fun limits => absurd (limits.2 2 rfl) (by decide)
  refine ⟨sentences, one, document, g, hg, hn, ?_, ?_⟩
  · exact (verdict_iff_inLimits hn sentences).2 ⟨by simp, by simp [l]⟩
  · rw [← Bool.not_eq_true, verdict_object_iff_inLimits hn]
    exact one

end Session
end JsonSchema
