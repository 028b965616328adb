import Mathlib
import JsonSchema.Proofs.Building
import JsonSchema.Proofs.Text.Scalars
/-!
# What reading a text delivers

Wherever reading stops, the events so far end inside the aggregates that are open then, each of them
with complete entries, at the place that the mode of the machine names (`Text.State.Holds`). Every
step keeps this (`Text.yields_step`), so some sentence begins with the events, whatever the text is.
A text without fault delivers the walk of a value, and denotes its document (`Text.document_eq_ok`).
-/

namespace JsonSchema.Text

open Event (elements members)

variable {fs : List Frame} {es : List Event} {s : State}

/-! ### Places in a sentence -/

/-- The events so far end before a value inside the open aggregates. -/
inductive Awaits : List Frame → List Event → Prop where
  | outside : Awaits [] []
  | element {fs : List Frame} {es : List Event} {l : List (List Event)} (around : Awaits fs es)
      (entries : ∀ s ∈ l, Sentence s) : Awaits (.array :: fs) (es ++ .beginArray :: elements l)
  | member {fs : List Frame} {es : List Event} {l : List (String × List Event)} {k : String}
      (around : Awaits fs es) (entries : ∀ m ∈ l, Sentence m.2) :
      Awaits (.object :: fs) (es ++ .beginObject :: members l ++ [.key k])

/-- The events so far end where the machine says. -/
inductive State.Holds : State → List Event → Prop where
  | value {fs : List Frame} {es : List Event} (h : Awaits fs es) : Holds ⟨.value, fs⟩ es
  | firstElement {fs : List Frame} {es : List Event} (h : Awaits (.array :: fs) es) :
      Holds ⟨.firstElement, .array :: fs⟩ es
  | nextElement {fs : List Frame} {es : List Event} (h : Awaits (.array :: fs) es) :
      Holds ⟨.nextElement, .array :: fs⟩ es
  | firstMember {fs : List Frame} {es : List Event} (h : Awaits fs es) :
      Holds ⟨.firstMember, .object :: fs⟩ (es ++ [.beginObject])
  | nextMember {fs : List Frame} {es : List Event} {l : List (String × List Event)}
      (h : Awaits fs es) (entries : ∀ m ∈ l, Sentence m.2) :
      Holds ⟨.nextMember, .object :: fs⟩ (es ++ .beginObject :: members l)
  | colon {fs : List Frame} {es : List Event} (h : Awaits (.object :: fs) es) :
      Holds ⟨.colon, .object :: fs⟩ es
  | nothing {es : List Event} (h : Sentence es) : Holds ⟨.nothing, []⟩ es

theorem sentence_elements {l : List (List Event)} {s : List Event}
    (entries : ∀ es ∈ l, Sentence es) (hs : Sentence s) :
    ∀ es ∈ l ++ [s], Sentence es := by
  intro es hes
  rcases List.mem_append.1 hes with hes | hes
  · exact entries es hes
  · exact List.mem_singleton.1 hes ▸ hs

theorem sentence_members {l : List (String × List Event)} {k : String} {s : List Event}
    (entries : ∀ m ∈ l, Sentence m.2) (hs : Sentence s) :
    ∀ m ∈ l ++ [(k, s)], Sentence m.2 := by
  intro m hm
  rcases List.mem_append.1 hm with hm | hm
  · exact entries m hm
  · exact List.mem_singleton.1 hm ▸ hs

/-- With a value at their end the events begin a sentence. -/
theorem Awaits.exists_sentence (h : Awaits fs es) {s : List Event} (hs : Sentence s) :
    ∃ rest, Sentence (es ++ s ++ rest) := by
  induction h generalizing s with
  | outside =>
    refine ⟨[], ?_⟩
    rwa [List.nil_append, List.append_nil]
  | element _ entries ih =>
    obtain ⟨rest, whole⟩ := ih (.array (sentence_elements entries hs))
    refine ⟨.element :: .endArray :: rest, ?_⟩
    simpa [Event.elements_concat] using whole
  | @member _ _ _ k _ entries ih =>
    obtain ⟨rest, whole⟩ := ih (.object (sentence_members (k := k) entries hs))
    refine ⟨.member :: .endObject :: rest, ?_⟩
    simpa [Event.members_concat] using whole

/-- A sentence begins with the events so far. -/
theorem State.Holds.exists_sentence (h : s.Holds es) : ∃ t, Sentence t ∧ es <+: t := by
  have awaited {fs : List Frame} {es : List Event} (h : Awaits fs es) :
      ∃ t, Sentence t ∧ es <+: t := by
    obtain ⟨rest, whole⟩ := h.exists_sentence (.scalar (e := .null) trivial)
    exact ⟨_, whole, by simp⟩
  have opened {fs : List Frame} {es : List Event} {l : List (String × List Event)}
      (h : Awaits fs es) (entries : ∀ m ∈ l, Sentence m.2) :
      ∃ t, Sentence t ∧ es ++ .beginObject :: members l <+: t := by
    obtain ⟨rest, whole⟩ := h.exists_sentence (.object entries)
    exact ⟨_, whole, by simp⟩
  cases h with
  | value h => exact awaited h
  | firstElement h => exact awaited h
  | nextElement h => exact awaited h
  | firstMember h => exact opened (l := []) h (by simp)
  | nextMember h entries => exact opened h entries
  | colon h => exact awaited h
  | nothing h => exact ⟨es, h, List.prefix_refl es⟩

theorem State.Holds.sentence (h : s.Holds es) (mode : s.mode = .nothing) : Sentence es := by
  cases h with
  | nothing h => exact h
  | _ => cases mode

/-! ### Steps -/

/-- A step leads on to where its next state says, with plain events. -/
structure Progress (es : List Event) (st : Step) : Prop where
  holds : st.2.1.Holds (es ++ st.1)
  plain : ∀ e ∈ st.1, e.IsPlain

/-- A value is complete with its last event, and so is the entry that it is the value of. -/
theorem progress_scalarStep (h : Awaits fs es) (before : List Event) {e : Event}
    (value : Sentence (before ++ [e])) (plain : e.IsPlain) (rest : Bytes) :
    Progress (es ++ before) (scalarStep fs e rest) := by
  cases h with
  | outside =>
    refine ⟨.nothing value, ?_⟩
    intro e' he
    exact List.mem_singleton.1 he ▸ plain
  | @element fs es l around entries =>
    constructor
    · have := Awaits.element around (sentence_elements entries value)
      refine .nextElement ?_
      simpa [scalarStep, State.afterValue, Event.elements_concat] using this
    · rintro e' (_ | ⟨_, _ | ⟨_, ⟨⟩⟩⟩)
      · exact plain
      · trivial
  | @member fs es l k around entries =>
    constructor
    · have := State.Holds.nextMember around (sentence_members (k := k) entries value)
      simpa [scalarStep, State.afterValue, Event.members_concat] using this
    · rintro e' (_ | ⟨_, _ | ⟨_, ⟨⟩⟩⟩)
      · exact plain
      · trivial

theorem progress_closeArray (h : Awaits (.array :: fs) es) (rest : Bytes) :
    Progress es (closeStep (.array :: fs) .endArray rest) := by
  cases h with
  | element around entries =>
    exact progress_scalarStep around (.beginArray :: elements _) (.array entries) trivial rest

theorem progress_closeObject {l : List (String × List Event)} (h : Awaits fs es)
    (entries : ∀ m ∈ l, Sentence m.2) (rest : Bytes) :
    Progress (es ++ .beginObject :: members l) (closeStep (.object :: fs) .endObject rest) :=
  progress_scalarStep h (.beginObject :: members l) (.object entries) trivial rest

theorem yields_openStep {f : Frame} {m : Mode} {e : Event} (plain : e.IsPlain)
    (holds : State.Holds ⟨m, f :: fs⟩ (es ++ [e])) (rest : Bytes) :
    Yields (Progress es) Fault.IsInside (openStep fs f m e rest) := by
  unfold openStep
  split
  · rintro ⟨⟩
  · exact ⟨holds, List.forall_mem_singleton.2 plain⟩

theorem yields_valueStep (h : Awaits fs es) (b : UInt8) (rest : Bytes) :
    Yields (Progress es) Fault.IsInside (valueStep fs b rest) := by
  have scalar (e : Event) (value : e.IsScalar) (plain : e.IsPlain) (rest : Bytes) :
      Progress es (scalarStep fs e rest) := by
    simpa using progress_scalarStep h [] (.scalar value) plain rest
  have literal (word : Bytes) (e : Event) (value : e.IsScalar) (plain : e.IsPlain) :
      Yields (Progress es) Fault.IsInside (do return scalarStep fs e (← literal word rest)) :=
    Yields.bind (failsWith_literal word rest) fun rest _ => scalar e value plain rest
  have number (r : Number × Bytes) (normal : r.1.IsNormal) :
      Yields (Progress es) Fault.IsInside (.ok (scalarStep fs (.number r.1) r.2)) :=
    scalar (.number r.1) trivial normal r.2
  unfold valueStep
  split
  · exact literal _ .null trivial trivial
  split
  · exact literal _ (.boolean true) trivial trivial
  split
  · exact literal _ (.boolean false) trivial trivial
  split
  · exact Yields.bind (readsNormal_number _ _) number
  split
  · exact Yields.bind (readsNormal_number _ _) number
  split
  · exact Yields.bind (failsWith_string _ _) fun r _ => scalar (.string r.1) trivial trivial r.2
  split
  · have opened : Awaits (.array :: fs) (es ++ [.beginArray]) := .element (l := []) h (List.forall_mem_nil _)
    exact yields_openStep (e := .beginArray) trivial (.firstElement opened) rest
  split
  · exact yields_openStep (e := .beginObject) trivial (.firstMember h) rest
  · rintro ⟨⟩

theorem yields_nameStep (holds : ∀ k, State.Holds ⟨.colon, fs⟩ (es ++ [.key k])) (bs : Bytes) :
    Yields (Progress es) Fault.IsInside (nameStep fs bs) :=
  Yields.bind (failsWith_string [] bs) fun r _ =>
    ⟨holds r.1, List.forall_mem_singleton.2 trivial⟩

/-- A step goes on, or fails inside of the value unless that is complete. -/
theorem yields_step (h : s.Holds es) (bs : Bytes) : Yields (Progress es)
    (fun f => f.cause = .trailingCharacters → s.mode = .nothing) (s.step bs) := by
  have inside {x : Except Fault Step} (hx : Yields (Progress es) Fault.IsInside x) :
      Yields (Progress es) (fun f => f.cause = .trailingCharacters → s.mode = .nothing) x :=
    hx.mono (fun _ => id) fun _ hf hc => absurd hc hf
  cases h with
  | value h =>
    cases bs with
    | nil => rintro ⟨⟩
    | cons b rest => exact inside (yields_valueStep h b rest)
  | firstElement h =>
    cases bs with
    | nil => rintro ⟨⟩
    | cons b rest =>
      simp only [State.step]
      split
      · exact progress_closeArray h rest
      · exact inside (yields_valueStep h b rest)
  | nextElement h =>
    cases bs with
    | nil => rintro ⟨⟩
    | cons b rest =>
      simp only [State.step]
      split
      · exact progress_closeArray h rest
      split
      · split
        · rintro ⟨⟩
        · split
          · rintro ⟨⟩
          · exact inside (yields_valueStep h _ _)
      · rintro ⟨⟩
  | @firstMember fs es h =>
    cases bs with
    | nil => rintro ⟨⟩
    | cons b rest =>
      simp only [State.step]
      split
      · exact progress_closeObject (l := []) h (by simp) rest
      split
      · exact inside (yields_nameStep (fun k => .colon (.member (l := []) h (by simp))) rest)
      · rintro ⟨⟩
  | nextMember h entries =>
    cases bs with
    | nil => rintro ⟨⟩
    | cons b rest =>
      simp only [State.step]
      split
      · exact progress_closeObject h entries rest
      split
      · split
        · rintro ⟨⟩
        · split
          · exact inside (yields_nameStep (fun k => .colon (.member h entries)) _)
          · split <;> rintro ⟨⟩
      · rintro ⟨⟩
  | colon h =>
    cases bs with
    | nil => rintro ⟨⟩
    | cons b rest =>
      simp only [State.step]
      split
      · exact ⟨.value (by rwa [List.append_nil]), List.forall_mem_nil _⟩
      · rintro ⟨⟩
  | nothing => exact fun _ => rfl

/-! ### Whole texts -/

/-- What is delivered, and what the machine is left at: with a value complete, if nothing else than
bytes after it can be at fault. -/
theorem holds_run {acc : List Event} (h : s.Holds acc.reverse) (plain : ∀ e ∈ acc, e.IsPlain)
    (bs : Bytes) : ∃ s' : State, s'.Holds (s.run acc bs).events ∧
      (∀ e ∈ (s.run acc bs).events, e.IsPlain) ∧
      ((∀ f, (s.run acc bs).fault = some f → f.cause = .trailingCharacters) →
        s'.mode = .nothing) := by
  fun_induction State.run s acc bs with
  | case1 s acc bs finished =>
    exact ⟨s, h, fun e he => plain e (List.mem_reverse.1 he), fun _ => finished.1⟩
  | case2 s acc bs _ f hf =>
    -- the events stand, and trailing characters are a fault only after the value
    refine ⟨s, h, fun e he => plain e (List.mem_reverse.1 he), fun trailing => ?_⟩
    have step := yields_step h (skipSpace bs)
    rw [hf] at step
    exact step (trailing f rfl)
  | case3 s acc bs _ es s' rest hs ih =>
    -- `acc` has the latest event first, a step the first one
    have step := yields_step h (skipSpace bs)
    rw [hs] at step
    refine ih ?_ ?_
    · simpa using step.holds
    · intro e he
      rcases List.mem_append.1 he with he | he
      · exact step.plain e (List.mem_reverse.1 he)
      · exact plain e he

/-- What is delivered begins a sentence, and is one unless the value itself is at fault. -/
theorem delivers (bs : Bytes) : (∃ t, Sentence t ∧ (read bs).events <+: t) ∧
    ((∀ f, (read bs).fault = some f → f.cause = .trailingCharacters) →
      Sentence (read bs).events) ∧
    ∀ e ∈ (read bs).events, e.IsPlain := by
  have start : State.Holds ⟨.value, []⟩ ([] : List Event).reverse := .value .outside
  obtain ⟨s, holds, plain, last⟩ := holds_run start (List.forall_mem_nil _) bs
  refine ⟨holds.exists_sentence, fun trailing => ?_, plain⟩
  exact holds.sentence (last trailing)

/-- A text without fault delivers the walk of a value. -/
theorem exists_value_of_read {bs : Bytes} (h : (read bs).fault = none) :
    ∃ w : Value, (read bs).events = w.events ∧ w.IsNormal := by
  obtain ⟨-, complete, plain⟩ := delivers bs
  have sentence : Sentence (read bs).events := complete (by rw [h]; rintro _ ⟨⟩)
  obtain ⟨w, hw⟩ := sentence.exists_value fun e he payload hp => by
    subst hp
    exact plain _ he
  exact ⟨w, hw.symm, Value.isPlain_events_iff.1 (hw ▸ plain)⟩

/-! ### Documents -/

/-- A text denotes the document that its events describe. -/
theorem document_eq_ok {bs : Bytes} {v : Value} : document bs = .ok v ↔
    (read bs).fault = none ∧ Value.ofEvents? (read bs).events = some v := by
  unfold document
  dsimp only
  split
  · next hf => simp [hf]
  · next hf =>
    obtain ⟨w, hw, -⟩ := exists_value_of_read hf
    simp [hf, hw, Value.ofEvents?_events]

theorem exists_document_iff {bs : Bytes} :
    (∃ v, document bs = .ok v) ↔ (read bs).fault = none := by
  constructor
  · rintro ⟨v, h⟩
    exact (document_eq_ok.1 h).1
  · intro hf
    obtain ⟨w, hw, -⟩ := exists_value_of_read hf
    exact ⟨_, document_eq_ok.2 ⟨hf, by rw [hw, Value.ofEvents?_events]⟩⟩

theorem isNormal_of_document {bs : Bytes} {v : Value} (h : document bs = .ok v) : v.IsNormal := by
  obtain ⟨hf, hv⟩ := document_eq_ok.1 h
  obtain ⟨w, hw, normal⟩ := exists_value_of_read hf
  rw [hw, Value.ofEvents?_events] at hv
  cases hv
  exact normal.arrange Members.collapse_subset

/-! ### Producers of events -/

/-- Whatever is read keeps to the grammar of events: what is delivered begins a sentence, and is one
if the text has no fault before its end; and the walk of a value is a sentence. None of them has an
opaque payload, nor a signed number that is not negative, for no document has such a number. -/
theorem producers_keep_grammar : (∀ bs : Bytes,
      (∃ t, Sentence t ∧ (read bs).events <+: t) ∧
      ((∀ f, (read bs).fault = some f → f.cause = .trailingCharacters) →
        Sentence (read bs).events) ∧
      (∀ e ∈ (read bs).events, e.IsPlain) ∧ ∀ v, document bs = .ok v → v.IsNormal) ∧
    ∀ v : Value, Sentence v.events ∧ (v.IsNormal → ∀ e ∈ v.events, e.IsPlain) := by
  refine ⟨fun bs => ?_, fun v => ⟨v.sentence_events, Value.isPlain_events_iff.2⟩⟩
  obtain ⟨begins, complete, plain⟩ := delivers bs
  exact ⟨begins, complete, plain, fun v => isNormal_of_document⟩

/-- The events before trailing characters are those of a whole value. -/
theorem sentence_before_trailing :
    read (Utf8.bytes "[null] x") =
      ⟨[.beginArray, .null, .element, .endArray], some ⟨.trailingCharacters, 0, false⟩⟩ ∧
    Sentence [.beginArray, .null, .element, .endArray] ∧
    (Value.number (.signed (-1))).IsNormal ∧ (Event.number (.signed (-1))).IsPlain := by
  have reading : read (Utf8.bytes "[null] x") =
      ⟨[.beginArray, .null, .element, .endArray], some ⟨.trailingCharacters, 0, false⟩⟩ := by cbv
  obtain ⟨texts, values⟩ := producers_keep_grammar
  obtain ⟨-, complete, -⟩ := texts (Utf8.bytes "[null] x")
  rw [reading] at complete
  have below : (-1 : Int64).toInt < 0 := by decide
  have negative : (Value.number (.signed (-1))).IsNormal := .number below
  refine ⟨reading, complete ?_, negative, ?_⟩
  · rintro f ⟨⟩
    rfl
  · exact (values _).2 negative _ (List.mem_singleton_self _)

end JsonSchema.Text
