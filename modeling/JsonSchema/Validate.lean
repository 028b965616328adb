import JsonSchema.Session
import JsonSchema.Text.Document
/-!
# Validation

A graph validates a value in memory, a text, or the bytes of a stream. From a text the events are
taken while it is read, and one that is no JSON is not the same as one that is not valid.
-/

namespace JsonSchema.Graph

/-- Validates a value in memory. -/
def validate (g : Graph) (v : Value) : Bool := g.accepts v.events

/-- Validates the text whose bytes come from a source. -/
def validateBytes (g : Graph) (source : Text.Source) (bs : Bytes) : Except String Bool :=
  let r := Text.read bs
  match r.fault with
  | some f => .error (f.message bs source)
  | none => .ok (g.accepts r.events)

/-- Validates a text in memory. -/
def validateText (g : Graph) (s : String) : Except String Bool :=
  g.validateBytes .memory (Utf8.bytes s)

/-- Validates the text that a stream yields. -/
def validateReader (g : Graph) (bs : Bytes) : Except String Bool := g.validateBytes .stream bs

end JsonSchema.Graph
