import JsonSchema.Value
/-!
# Events

A value is described depth first by a sequence of events:

    value := scalar
           | beginArray (value element)* endArray
           | beginObject (key value member)* endObject

`Value.events` walks a value; `Value.ofEvents?` builds the document that a sequence describes.
-/

namespace JsonSchema

/-- One step of the description of a value. `binary` is an opaque payload that no JSON text
contains; `element` and `member` close one entry of the aggregate around them. -/
inductive Event where
  | null
  | boolean (b : Bool)
  | number (n : Number)
  | string (s : String)
  | binary (payload : Bytes)
  | beginArray
  | element
  | endArray
  | beginObject
  | key (name : String)
  | member
  | endObject
deriving DecidableEq

namespace Value

mutual

/-- The events of a value, members in the order of the list. -/
def events : Value → List Event
  | null => [.null]
  | boolean b => [.boolean b]
  | number n => [.number n]
  | string s => [.string s]
  | array items => .beginArray :: elementEvents items ++ [.endArray]
  | object ms => .beginObject :: memberEvents ms ++ [.endObject]

/-- The events between the brackets of an array. -/
def elementEvents : List Value → List Event
  | [] => []
  | v :: vs => v.events ++ .element :: elementEvents vs

/-- The events between the braces of an object. -/
def memberEvents : List (String × Value) → List Event
  | [] => []
  | (k, v) :: ms => .key k :: v.events ++ .member :: memberEvents ms

end

/-- An aggregate whose end has not come yet: the elements so far, latest first, or the members so
far under the name of the current one. -/
inductive Frame where
  | array (elements : List Value)
  | object (members : Members) (name : String)

/-- A value under construction: the open aggregates, innermost first, and the value completed
last. -/
structure Builder where
  frames : List Frame
  latest : Option Value

namespace Builder

/-- Nothing read. -/
def empty : Builder := ⟨[], none⟩

/-- Takes one event; events that fit nowhere are refused. -/
def feed (b : Builder) : Event → Option Builder
  | .null => some { b with latest := some .null }
  | .boolean x => some { b with latest := some (.boolean x) }
  | .number n => some { b with latest := some (.number n) }
  | .string s => some { b with latest := some (.string s) }
  | .binary _ => none
  | .beginArray => some ⟨.array [] :: b.frames, none⟩
  | .element =>
    match b.frames, b.latest with
    | .array vs :: fs, some v => some ⟨.array (v :: vs) :: fs, none⟩
    | _, _ => none
  | .endArray =>
    match b.frames with
    | .array vs :: fs => some ⟨fs, some (.array vs.reverse)⟩
    | _ => none
  | .beginObject => some ⟨.object [] "" :: b.frames, none⟩
  | .key k =>
    match b.frames with
    | .object ms _ :: fs => some ⟨.object ms k :: fs, none⟩
    | _ => none
  | .member =>
    match b.frames, b.latest with
    | .object ms k :: fs, some v => some ⟨.object (ms.insert k v) k :: fs, none⟩
    | _, _ => none
  | .endObject =>
    match b.frames with
    | .object ms _ :: fs => some ⟨fs, some (.object ms)⟩
    | _ => none

/-- Takes events in order. -/
def feedAll (b : Builder) : List Event → Option Builder
  | [] => some b
  | e :: es => (b.feed e).bind fun b => b.feedAll es

end Builder

/-- The document that the events describe: members sorted by name, the last of one name kept. -/
def ofEvents? (es : List Event) : Option Value :=
  match Builder.empty.feedAll es with
  | some ⟨[], some v⟩ => some v
  | _ => none

end Value
end JsonSchema
