import JsonSchema.Load
import JsonSchema.Proofs.Arrangement
/-!
# Values built from events

A builder puts each member in its place, so what it has completed and what it has open is made of
documents, whatever the events are (`Builder.Documents`). The walk of a value builds its document
(`Value.ofEvents?_events`), which for a document is the value itself. So documents are exactly what
events describe (`Value.isDocument_iff`), and a graph that is loaded from a text is that of a document
(`Graph.exists_document_of_load`).
-/

namespace JsonSchema

namespace Value

/-! ### What a builder holds -/

/-- An open aggregate is made of documents. -/
def Frame.Documents : Frame → Prop
  | .array vs => ∀ v ∈ vs, v.IsDocument
  | .object ms _ => (Value.object ms).IsDocument

structure Builder.Documents (b : Builder) : Prop where
  frames : ∀ f ∈ b.frames, f.Documents
  latest : ∀ v ∈ b.latest, v.IsDocument

theorem IsDocument.insert {ms : Members} {k : String} {v : Value} (h : (Value.object ms).IsDocument)
    (hv : v.IsDocument) : (Value.object (ms.insert k v)).IsDocument := by
  cases h with
  | object sorted members =>
    refine .object (Members.sorted_insert sorted) fun p hp => ?_
    rcases Members.eq_or_mem_of_mem_insert hp with rfl | hp
    · exact hv
    · exact members p hp

theorem Builder.Documents.feed {b b' : Builder} {e : Event} (h : b.Documents)
    (hf : b.feed e = some b') : b'.Documents := by
  obtain ⟨frames, latest⟩ := h
  have completed : ∀ {v : Value}, v.IsDocument → Builder.Documents ⟨b.frames, some v⟩ :=
    fun hv => ⟨frames, by rintro _ ⟨⟩; exact hv⟩
  have opened : ∀ {f : Frame} {fs : List Frame}, f.Documents → (∀ f ∈ fs, f.Documents) →
      Builder.Documents ⟨f :: fs, none⟩ :=
    fun hf hfs => ⟨List.forall_mem_cons.2 ⟨hf, hfs⟩, by rintro _ ⟨⟩⟩
  have inner : ∀ {f : Frame} {fs : List Frame}, b.frames = f :: fs →
      f.Documents ∧ ∀ f ∈ fs, f.Documents :=
    fun hb => List.forall_mem_cons.1 (hb ▸ frames)
  cases e with
  | null => cases hf; exact completed .null
  | boolean x => cases hf; exact completed (.boolean x)
  | number n => cases hf; exact completed (.number n)
  | string s => cases hf; exact completed (.string s)
  | binary _ => cases hf
  | beginArray => cases hf; exact opened (by rintro _ ⟨⟩) frames
  | beginObject => cases hf; exact opened (.object .nil (by rintro _ ⟨⟩)) frames
  | element =>
    simp only [Builder.feed] at hf
    split at hf
    · next vs fs v hb hv =>
      cases hf
      exact opened (List.forall_mem_cons.2 ⟨latest v hv, (inner hb).1⟩) (inner hb).2
    · cases hf
  | endArray =>
    simp only [Builder.feed] at hf
    split at hf
    · next vs fs hb =>
      cases hf
      refine ⟨(inner hb).2, ?_⟩
      rintro _ ⟨⟩
      exact .array fun v hv => (inner hb).1 v (List.mem_reverse.1 hv)
    · cases hf
  | key k =>
    simp only [Builder.feed] at hf
    split at hf
    · next ms name fs hb =>
      cases hf
      exact opened (f := .object ms k) (inner hb).1 (inner hb).2
    · cases hf
  | member =>
    simp only [Builder.feed] at hf
    split at hf
    · next ms k fs v hb hv =>
      cases hf
      exact opened (f := .object (ms.insert k v) k)
        (IsDocument.insert (inner hb).1 (latest v hv)) (inner hb).2
    · cases hf
  | endObject =>
    simp only [Builder.feed] at hf
    split at hf
    · next ms k fs hb =>
      cases hf
      refine ⟨(inner hb).2, ?_⟩
      rintro _ ⟨⟩
      exact (inner hb).1
    · cases hf

theorem Builder.Documents.feedAll {b b' : Builder} {es : List Event} (h : b.Documents)
    (hf : b.feedAll es = some b') : b'.Documents := by
  induction es generalizing b with
  | nil => cases hf; exact h
  | cons e es ih =>
    obtain ⟨b₁, h₁, h₂⟩ := Option.bind_eq_some_iff.1 hf
    exact ih (h.feed h₁) h₂

theorem isDocument_of_ofEvents? {es : List Event} {v : Value} (h : ofEvents? es = some v) :
    v.IsDocument := by
  have nothing : Builder.Documents .empty := ⟨by rintro _ ⟨⟩, by rintro _ ⟨⟩⟩
  unfold ofEvents? at h
  split at h
  · next w hw =>
    cases h
    exact (nothing.feedAll hw).latest v rfl
  · cases h

/-! ### The walk of a document -/

theorem Builder.feedAll_append (b : Builder) (es fs : List Event) :
    b.feedAll (es ++ fs) = (b.feedAll es).bind (·.feedAll fs) := by
  induction es generalizing b with
  | nil => rfl
  | cons e es ih =>
    rw [List.cons_append, feedAll, feedAll, Option.bind_assoc]
    exact Option.bind_congr fun b₁ _ => ih b₁

/-- The walk of a value completes its document, whatever is open. -/
def Completes (v : Value) : Prop :=
  ∀ b : Builder, b.feedAll v.events = some ⟨b.frames, some v.toDocument⟩

theorem Builder.feedAll_elementEvents {vs : List Value} (h : ∀ v ∈ vs, v.Completes)
    (us : List Value) (fs : List Frame) :
    Builder.feedAll ⟨.array us :: fs, none⟩ (elementEvents vs) =
      some ⟨.array ((vs.map toDocument).reverse ++ us) :: fs, none⟩ := by
  induction vs generalizing us with
  | nil => rfl
  | cons v vs ih =>
    obtain ⟨hv, hvs⟩ := List.forall_mem_cons.1 h
    rw [elementEvents, feedAll_append, hv, Option.bind_some, List.map_cons, List.reverse_cons,
      List.append_assoc]
    exact ih hvs (v.toDocument :: us)

/-- Each member takes its place among those before. -/
theorem Builder.feedAll_memberEvents {ms : Members} (h : ∀ m ∈ ms, m.2.Completes)
    (done : Members) (k : String) (fs : List Frame) :
    ∃ k', Builder.feedAll ⟨.object done k :: fs, none⟩ (memberEvents ms) =
      some ⟨.object ((ms.map fun m => (m.1, m.2.toDocument)).foldl
        (fun l m => l.insert m.1 m.2) done) k' :: fs, none⟩ := by
  induction ms generalizing done k with
  | nil => exact ⟨k, rfl⟩
  | cons m ms ih =>
    obtain ⟨hm, hms⟩ := List.forall_mem_cons.1 h
    obtain ⟨k', hk'⟩ := ih hms (done.insert m.1 m.2.toDocument) m.1
    refine ⟨k', ?_⟩
    rw [List.map_cons, List.foldl_cons, ← hk', memberEvents, List.cons_append, feedAll, feed,
      Option.bind_some, feedAll_append, hm]
    rfl

theorem completes (v : Value) : v.Completes := by
  induction v using Value.induction with
  | array vs ih =>
    intro b
    rw [events, List.cons_append, Builder.feedAll, Builder.feed, Option.bind_some,
      Builder.feedAll_append, Builder.feedAll_elementEvents ih, List.append_nil, toDocument,
      arrange_array]
    show some (⟨b.frames, some (.array (vs.map toDocument).reverse.reverse)⟩ : Builder) = _
    rw [List.reverse_reverse]
    rfl
  | object ms ih =>
    intro b
    obtain ⟨k, hk⟩ := Builder.feedAll_memberEvents (fun m hm => ih m.1 m.2 hm) [] "" b.frames
    rw [events, List.cons_append, Builder.feedAll, Builder.feed, Option.bind_some,
      Builder.feedAll_append, hk, toDocument, arrange_object]
    rfl
  | _ => exact fun b => rfl

/-- The walk of a value describes its document. -/
theorem ofEvents?_events (v : Value) : ofEvents? v.events = some v.toDocument := by
  rw [ofEvents?, v.completes]
  rfl

/-- Documents are what events describe. -/
theorem isDocument_iff {v : Value} : v.IsDocument ↔ ∃ es, ofEvents? es = some v := by
  constructor
  · intro hd
    exact ⟨v.events, by rw [ofEvents?_events, hd.toDocument_eq]⟩
  · rintro ⟨es, h⟩
    exact isDocument_of_ofEvents? h

end Value

theorem Text.document_isDocument {bs : Bytes} {v : Value} (h : document bs = .ok v) :
    v.IsDocument := by
  unfold document at h
  dsimp only at h
  split at h
  · cases h
  · cases h
    cases hv : Value.ofEvents? (read bs).events with
    | none => exact .null
    | some v => exact Value.isDocument_of_ofEvents? hv

/-- A graph that is loaded is that of a document. -/
theorem Graph.exists_document_of_load {text : Bytes} {g : Graph} (h : load text = .ok g) :
    ∃ d : Value, d.IsDocument ∧ build d = .ok g := by
  unfold load at h
  split at h
  · cases h
  · next d hd =>
    split at h
    · cases h
    · next hb =>
      cases h
      exact ⟨d, Text.document_isDocument hd, hb⟩

end JsonSchema
