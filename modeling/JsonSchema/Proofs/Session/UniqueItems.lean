import Mathlib
import JsonSchema.Proofs.Digest.Same
import JsonSchema.Proofs.Graph.Build
import JsonSchema.Proofs.Session.Arrays
/-!
# Repeated elements

A session on the schema whose only keyword is `uniqueItems` refuses an array exactly if two of its
elements have the same digest, each element being digested by itself (`verdict_distinctItems`). What
it digests are the events that reach the digest of an element, and opaque payloads do not, so two
different payloads are taken for a repetition (`verdict_distinctItems_payloads`).
-/

namespace JsonSchema

/-- The schema whose only keyword is `uniqueItems`. -/
def Node.distinctItems {ρ : Type} (p : Pointer) : Node ρ :=
  { Node.unconstrained p with array := ⟨none, none, none, none, true⟩ }

namespace Event

/-- The events without opaque payloads. -/
def withoutPayloads (es : List Event) : List Event := es.filter fun e => !e.isBinary

/-- Two elements have the same digest. -/
def Repeats (l : List (List Event)) : Prop :=
  ∃ (i j : Nat) (es fs : List Event),
    i < j ∧ l[i]? = some es ∧ l[j]? = some fs ∧ digest es = digest fs

theorem repeats_iff {l : List (List Event)} : Repeats l ↔ ¬(l.map digest).Nodup := by
  rw [List.nodup_iff_getElem?_ne_getElem?]
  push Not
  constructor
  · rintro ⟨i, j, es, fs, hij, hi, hj, same⟩
    have lt : j < l.length := (List.getElem?_eq_some_iff.1 hj).1
    exact ⟨i, j, hij, by simpa using lt, by simp [hi, hj, same]⟩
  · rintro ⟨i, j, hij, hj, same⟩
    rw [List.length_map] at hj
    have hi : i < l.length := hij.trans hj
    refine ⟨i, j, l[i], l[j], hij, List.getElem?_eq_getElem hi, List.getElem?_eq_getElem hj, ?_⟩
    simpa [List.getElem?_eq_getElem, hi, hj] using same

theorem withoutPayloads_eq_self {es : List Event} (h : ∀ e ∈ es, e.isBinary = false) :
    withoutPayloads es = es :=
  List.filter_eq_self.2 fun e he => by rw [h e he]; rfl

theorem isBinary_of_mem_withoutPayloads {es : List Event} :
    ∀ e ∈ withoutPayloads es, e.isBinary = false :=
  fun e he => by simpa using (List.mem_filter.1 he).2

end Event

namespace Session

open Event (Repeats withoutPayloads)

variable {g : Graph} {id : NodeId} {p : Pointer} {l : List (List Event)}

/-- For events without payloads: nothing runs beside the bare session, which asks for no more than
distinct digests. -/
theorem verdict_fresh_distinctItems (enclosed : ∀ es ∈ l, Enclosed es)
    (plain : ∀ es ∈ l, ∀ e ∈ es, e.isBinary = false) :
    ((fresh (.distinctItems p)).feedAll g
      (.beginArray :: Event.elements l ++ [.endArray])).verdict g = true ↔
      (l.map Event.digest).Nodup := by
  have elements := (Event.forall_elements_iff (P := fun e => e.isBinary = false) rfl).2 plain
  have whole : ∀ e ∈ .beginArray :: Event.elements l ++ [.endArray], e.isBinary = false := by
    simpa [Event.isBinary, or_imp, forall_and] using elements
  have own := (decides_arrayEvents (g := g) (n := .distinctItems p) enclosed).matched_iff rfl
  have noItem : ∀ j es, l[j]? = some es → ItemPasses g (.distinctItems p) j es := by
    rintro j es - m (h | ⟨ms, h, -⟩) <;> cases h
  rw [verdict_fresh _ whole]
  simp only [Bool.and_eq_true]
  constructor
  · rintro ⟨⟨⟨hm, -⟩, -⟩, -⟩
    exact (own.1 hm).2.2.1 rfl
  · intro distinct
    exact ⟨⟨⟨own.2 ⟨rfl, noItem, fun _ => distinct, rfl, rfl⟩, rfl⟩, rfl⟩, rfl⟩

/-- Opaque payloads do not reach the session, so they are no part of what it compares. -/
theorem verdict_eq_false_iff_repeats (hn : g.node id = .distinctItems p)
    (hl : ∀ es ∈ l, Sentence es) :
    ((start g id).feedAll g (.beginArray :: Event.elements l ++ [.endArray])).verdict g = false ↔
      Repeats (l.map withoutPayloads) := by
  have seen : withoutPayloads (.beginArray :: Event.elements l ++ [.endArray]) =
      .beginArray :: Event.elements (l.map withoutPayloads) ++ [.endArray] := by
    rw [withoutPayloads, List.cons_append, List.filter_cons_of_pos rfl, List.filter_append,
      Event.filter_elements rfl]
    rfl
  rw [start, hn, ← verdict_feedAll_filter, ← withoutPayloads, seen, Event.repeats_iff,
    ← Bool.not_eq_true, verdict_fresh_distinctItems]
  · exact List.forall_mem_map.2 fun es hes => enclosed_filter (hl es hes)
  · exact List.forall_mem_map.2 fun es _ => Event.isBinary_of_mem_withoutPayloads

/-- A session on the schema `uniqueItems` refuses an array exactly if two of its elements have the
same digest, when each one's events without opaque payloads are digested by themselves. Where there
are no payloads these are all of its events. -/
theorem verdict_distinctItems (hn : g.node id = .distinctItems p) (hl : ∀ es ∈ l, Sentence es) :
    let verdict := ((start g id).feedAll g
      (.beginArray :: Event.elements l ++ [.endArray])).verdict g
    (verdict = false ↔ Repeats (l.map withoutPayloads)) ∧
      ((∀ es ∈ l, ∀ e ∈ es, e.isBinary = false) → (verdict = false ↔ Repeats l)) := by
  intro verdict
  have all : verdict = false ↔ Repeats (l.map withoutPayloads) :=
    verdict_eq_false_iff_repeats hn hl
  refine ⟨all, fun plain => ?_⟩
  have same : l.map withoutPayloads = l :=
    (List.map_congr_left fun es hes => Event.withoutPayloads_eq_self (plain es hes)).trans
      (List.map_id l)
  rw [all, same]

/-- A document that is the schema `uniqueItems`. -/
def distinctItems : Value := .object [("uniqueItems", .boolean true)]

theorem exists_build_distinctItems :
    ∃ g, Graph.build distinctItems = .ok g ∧ g.node Graph.root = .distinctItems .root := by
  have resolved : Aliases.resolve distinctItems = .ok [] := by cbv
  have closed : (Graph.closure [] distinctItems).map (·.nodes) = .ok #[.distinctItems .root] := by cbv
  obtain ⟨g, hg, -, -, hn⟩ := Graph.exists_build_single resolved closed rfl
  exact ⟨g, hg, hn⟩

/-- An object is a repetition of the same one in another spelling. -/
theorem verdict_distinctItems_spellings :
    let l := [Event.oneSpelling, Event.otherSpelling]
    (∀ es ∈ l, Sentence es) ∧ (∀ es ∈ l, ∀ e ∈ es, e.isBinary = false) ∧
      ∃ g, Graph.build distinctItems = .ok g ∧ g.node Graph.root = .distinctItems .root ∧
        ((start g Graph.root).feedAll g
          (.beginArray :: Event.elements l ++ [.endArray])).verdict g = false := by
  have same := Event.same_spellings
  have sentences : ∀ es ∈ [Event.oneSpelling, Event.otherSpelling], Sentence es := by
    simpa using ⟨same.alike.left, same.alike.right⟩
  have plain : ∀ es ∈ [Event.oneSpelling, Event.otherSpelling], ∀ e ∈ es, e.isBinary = false := by
    decide
  have repeats : Repeats [Event.oneSpelling, Event.otherSpelling] :=
    ⟨0, 1, _, _, Nat.one_pos, rfl, rfl, same.digest_eq⟩
  obtain ⟨g, hg, hn⟩ := exists_build_distinctItems
  exact ⟨sentences, plain, g, hg, hn, ((verdict_distinctItems hn sentences).2 plain).2 repeats⟩

/-- Two payloads. -/
def twoPayloads : List (List Event) := [[.binary [0]], [.binary [1]]]

/-- Two payloads are refused although their digests differ. -/
theorem verdict_distinctItems_payloads : (∀ es ∈ twoPayloads, Sentence es) ∧
    ¬Repeats twoPayloads ∧
    ∃ g, Graph.build distinctItems = .ok g ∧ g.node Graph.root = .distinctItems .root ∧
      ((start g Graph.root).feedAll g
        (.beginArray :: Event.elements twoPayloads ++ [.endArray])).verdict g = false := by
  have sentences : ∀ es ∈ twoPayloads, Sentence es := by
    simp only [twoPayloads, List.forall_mem_cons]
    exact ⟨.scalar trivial, .scalar trivial, by simp⟩
  have distinct : (twoPayloads.map Event.digest).Nodup := by decide +kernel
  have merged : Repeats (twoPayloads.map withoutPayloads) :=
    ⟨0, 1, [], [], Nat.one_pos, rfl, rfl, rfl⟩
  obtain ⟨g, hg, hn⟩ := exists_build_distinctItems
  exact ⟨sentences, fun h => Event.repeats_iff.1 h distinct, g, hg, hn,
    (verdict_eq_false_iff_repeats hn sentences).2 merged⟩

end Session
end JsonSchema
