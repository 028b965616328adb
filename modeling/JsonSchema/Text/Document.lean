import JsonSchema.Text.Reader
/-!
# Documents from text
-/

namespace JsonSchema.Text

/-- The document that a text denotes. A text without fault yields the events of exactly one value,
so the default is not used. -/
def document (bs : Bytes) : Except Fault Value :=
  let r := read bs
  match r.fault with
  | some f => .error f
  | none => .ok ((Value.ofEvents? r.events).getD .null)

end JsonSchema.Text
