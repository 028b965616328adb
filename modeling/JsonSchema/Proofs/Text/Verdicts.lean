import Mathlib
import JsonSchema.Validate
import JsonSchema.Proofs.Building
import JsonSchema.Proofs.Reordering
import JsonSchema.Proofs.Text.Delivery
import JsonSchema.Proofs.Validation
/-!
# Verdicts on texts

A text is validated while it is read, without its value ever being built. If no object in it repeats
a name then the verdict is that on the document which the text denotes
(`Graph.validations_agree`), although the members of the document are in another order.
-/

namespace JsonSchema

namespace Graph

variable {d w : Value} {g : Graph} {bs : Bytes} {source : Text.Source}

/-- A text gets a verdict exactly if it denotes a document. -/
theorem validateBytes_eq_ok {b : Bool} : g.validateBytes source bs = .ok b ↔
    (Text.read bs).fault = none ∧ b = g.accepts (Text.read bs).events := by
  unfold validateBytes
  dsimp only
  split
  · next hf => simp [hf]
  · next hf => simp [hf, eq_comm]

/-- A verdict does not depend on the order of members. -/
theorem accepts_arrange (hd : d.IsDocument) (hg : build d = .ok g) {f : Members → Members}
    (perm : ∀ ms, (f ms).Perm ms) (w : Value) :
    g.accepts (w.arrange f).events = g.accepts w.events := by
  have sound := sound_of_build hd hg
  rw [Bool.eq_iff_iff]
  calc g.accepts (w.arrange f).events = true ↔ g.Satisfies root (w.arrange f) :=
        Session.accepts_iff_satisfies sound _ root
    _ ↔ g.Satisfies root w := satisfies_arrange perm w root
    _ ↔ g.accepts w.events = true := (Session.accepts_iff_satisfies sound w root).symm

/-- Validating a text in memory, the same text from a stream, and the document that it denotes. The
first two and reading the document have a result for the same texts, and the document is that of the
value which the text delivers. Where no object of the text repeats a name, the walk of the document
has the members of each object by name, and a graph gives the same verdict in all three ways. -/
theorem validations_agree (s : String) :
    ((Text.read (Utf8.bytes s)).fault = none ↔ ∃ v, Text.document (Utf8.bytes s) = .ok v) ∧
    (∀ g : Graph, ((∃ b, g.validateText s = .ok b) ↔ ∃ v, Text.document (Utf8.bytes s) = .ok v) ∧
      ∀ b, g.validateReader (Utf8.bytes s) = .ok b ↔ g.validateText s = .ok b) ∧
    ∀ v, Text.document (Utf8.bytes s) = .ok v →
      (∃ w : Value, (Text.read (Utf8.bytes s)).events = w.events ∧ v = w.toDocument) ∧
      ∀ w : Value, (Text.read (Utf8.bytes s)).events = w.events → w.Distinct →
        v.events = w.sorted.events ∧
        ∀ d g, d.IsDocument → build d = .ok g → g.validateText s = .ok (g.validate v) ∧
          g.validateReader (Utf8.bytes s) = .ok (g.validate v) := by
  refine ⟨Text.exists_document_iff.symm, fun g => ⟨?_, fun b => ?_⟩, fun v hv => ?_⟩
  · rw [Text.exists_document_iff]
    simp [validateText, validateBytes_eq_ok]
  · rw [validateReader, validateText, validateBytes_eq_ok, validateBytes_eq_ok]
  · obtain ⟨hf, described⟩ := Text.document_eq_ok.1 hv
    have denoted (w : Value) (hw : (Text.read (Utf8.bytes s)).events = w.events) :
        w.toDocument = v := by
      rw [hw, Value.ofEvents?_events] at described
      exact Option.some.inj described
    obtain ⟨w, hw, -⟩ := Text.exists_value_of_read hf
    refine ⟨⟨w, hw, (denoted w hw).symm⟩, fun w hw distinct => ?_⟩
    obtain rfl : w.sorted = v := (Value.toDocument_eq_sorted distinct).symm.trans (denoted w hw)
    refine ⟨rfl, fun d g hd hg => ?_⟩
    have verdict : g.validate w.sorted = g.accepts (Text.read (Utf8.bytes s)).events := by
      rw [validate, hw]
      exact accepts_arrange hd hg Members.perm_sort w
    exact ⟨validateBytes_eq_ok.2 ⟨hf, verdict⟩, validateBytes_eq_ok.2 ⟨hf, verdict⟩⟩

/-- A text that has its members in another order than its document. -/
theorem validations_agree_reordered : ∃ g, build nestedArrays = .ok g ∧
    (Text.read (Utf8.bytes "\x7b\"b\":null,\"a\":null\x7d")).events =
      (Value.object [("b", .null), ("a", .null)]).events ∧
    (Value.object [("b", .null), ("a", .null)]).sorted = .object [("a", .null), ("b", .null)] ∧
    g.validateText "\x7b\"b\":null,\"a\":null\x7d" =
      .ok (g.validate (.object [("a", .null), ("b", .null)])) := by
  have reading : Text.document (Utf8.bytes "\x7b\"b\":null,\"a\":null\x7d") =
      .ok (.object [("a", .null), ("b", .null)]) := by cbv
  have delivered : (Text.read (Utf8.bytes "\x7b\"b\":null,\"a\":null\x7d")).events =
      (Value.object [("b", .null), ("a", .null)]).events := by cbv
  have distinct : (Value.object [("b", .null), ("a", .null)]).Distinct := by
    refine .object (by decide) ?_
    rintro m (_ | ⟨_, _ | ⟨_, ⟨⟩⟩⟩) <;> exact .null
  obtain ⟨g, hg, -⟩ := build_nestedArrays
  obtain ⟨-, -, agree⟩ := validations_agree "\x7b\"b\":null,\"a\":null\x7d"
  obtain ⟨-, verdicts⟩ := (agree _ reading).2 _ delivered distinct
  exact ⟨g, hg, delivered, by cbv, (verdicts _ g nestedArrays_isDocument hg).1⟩

end Graph
end JsonSchema
