import JsonSchema.Event
/-!
# Comparison of events with a value

A `Comparator` is fed the events of a value and tells at any time whether they still agree with the
value it expects. Objects agree when they have the same names, in any order and each once, with
agreeing values; numbers agree by value across representations.
-/

namespace JsonSchema

namespace Comparator

/-- An open aggregate of the expected value: an array with the number of elements closed, or an
object with the names met. -/
inductive Frame where
  | array (items : List Value) (closed : Nat)
  | object (members : Members) (met : List String)

end Comparator

/-- The open aggregates, innermost first, and the value expected next; a mismatch is final. -/
structure Comparator where
  frames : List Comparator.Frame
  next : Option Value
  matched : Bool

namespace Comparator

/-- Expects `v`. -/
def expecting (v : Value) : Comparator := ⟨[], some v, true⟩

/-- The comparator after a mismatch. -/
def fail (c : Comparator) : Comparator := { c with matched := false }

/-- Consumes the expected value if it passes the test. -/
def expect (c : Comparator) (test : Value → Bool) : Comparator :=
  match c.next with
  | some v => if test v then { c with next := none } else c.fail
  | none => c.fail

/-- One event on a comparator that has not mismatched. -/
def advance (c : Comparator) : Event → Comparator
  | .null => c.expect fun | .null => true | _ => false
  | .boolean b => c.expect fun | .boolean a => a == b | _ => false
  | .number n => c.expect fun | .number m => m.agrees n | _ => false
  | .string s => c.expect fun | .string t => t == s | _ => false
  | .binary _ => c.fail
  | .beginArray =>
    match c.next with
    | some (.array items) => ⟨.array items 0 :: c.frames, items.head?, true⟩
    | _ => c.fail
  | .element =>
    match c.frames with
    | .array items n :: fs => ⟨.array items (n + 1) :: fs, items[n + 1]?, true⟩
    | _ => c.fail
  | .endArray =>
    match c.frames with
    | .array items n :: fs => if n = items.length then ⟨fs, none, true⟩ else c.fail
    | _ => c.fail
  | .beginObject =>
    match c.next with
    | some (.object ms) => ⟨.object ms [] :: c.frames, none, true⟩
    | _ => c.fail
  | .key k =>
    match c.frames with
    | .object ms met :: fs =>
      match ms.get? k with
      | some v => if met.contains k then c.fail else ⟨.object ms (k :: met) :: fs, some v, true⟩
      | none => c.fail
    | _ => c.fail
  | .member => { c with next := none }
  | .endObject =>
    match c.frames with
    | .object ms met :: fs => if met.length = ms.length then ⟨fs, none, true⟩ else c.fail
    | _ => c.fail

/-- Takes one event; after a mismatch nothing changes. -/
def feed (c : Comparator) (e : Event) : Comparator := if c.matched then c.advance e else c

/-- Takes events in order. -/
def feedAll (c : Comparator) (es : List Event) : Comparator := es.foldl feed c

end Comparator
end JsonSchema
