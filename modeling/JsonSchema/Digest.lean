import JsonSchema.Event
import JsonSchema.Digest.Sha256
/-!
# Structural digests

A `Hasher` is fed the events of a value and yields a digest that depends neither on the order of
members nor on how numbers are spelled: each member is digested by itself, the digests of an object
are sorted, and numbers are hashed in canonical form. Strings, keys and numbers are tagged and carry
their length, so that no two sequences of them run together into the same bytes.
-/

namespace JsonSchema

/-- The hash of a byte string. -/
abbrev Digest := Bytes

namespace Hasher

/-- An open object: the digests of its closed members, latest first, and the bytes of the current
one. -/
structure Frame where
  closed : List Digest
  current : Array UInt8

end Hasher

/-- The bytes outside of every object, and the open objects, innermost first. -/
structure Hasher where
  root : Array UInt8
  frames : List Hasher.Frame

namespace Hasher

/-- Nothing consumed. -/
def empty : Hasher := ⟨#[], []⟩

/-- Appends bytes to the innermost open object, or to the root outside of all objects. -/
def write (h : Hasher) (bs : Bytes) : Hasher :=
  match h.frames with
  | [] => { h with root := h.root ++ bs }
  | f :: fs => { h with frames := { f with current := f.current ++ bs } :: fs }

/-- The eight bytes of a number below `2 ^ 64`, least significant first. -/
def littleEndian (n : Nat) : Bytes := (List.range 8).map fun i => UInt8.ofNat (n / Nat.pow 256 i)

/-- A payload after its tag and its length. -/
def tagged (tag : UInt8) (payload : Bytes) : Bytes := tag :: littleEndian payload.length ++ payload

/-- A number in canonical form; the tag tells the representation. -/
def numberBytes (n : Number) : Bytes :=
  match n.canonical with
  | .signed i => tagged 0x69 (littleEndian i.toUInt64.toNat)
  | .unsigned u => tagged 0x75 (littleEndian u.toNat)
  | .float x => tagged 0x64 (littleEndian x.bits.toNat)

/-- An object as its sorted member digests between braces. -/
def objectBytes (members : List Digest) : Bytes :=
  0x7B :: (members.mergeSort fun a b => decide (a ≤ b)).flatten ++ [0x7D]

/-- Takes one event. The ends of members and objects outside of any object are ignored. -/
def feed (h : Hasher) : Event → Hasher
  | .null => h.write [0x6E]
  | .boolean b => h.write [if b then 0x74 else 0x66]
  | .number n => h.write (numberBytes n)
  | .string s => h.write (tagged 0x73 (Utf8.bytes s))
  | .binary bs => h.write (tagged 0x78 bs)
  | .beginArray => h.write [0x5B]
  | .element => h.write [0x2C]
  | .endArray => h.write [0x5D]
  | .beginObject => { h with frames := ⟨[], #[]⟩ :: h.frames }
  | .key k => h.write (tagged 0x6B (Utf8.bytes k))
  | .member =>
    match h.frames with
    | [] => h
    | f :: fs => { h with frames := ⟨Sha256.hash f.current.toList :: f.closed, #[]⟩ :: fs }
  | .endObject =>
    match h.frames with
    | [] => h
    | f :: fs => { h with frames := fs }.write (objectBytes f.closed)

/-- Takes events in order. -/
def feedAll (h : Hasher) (es : List Event) : Hasher := es.foldl feed h

/-- The digest of the bytes outside of open objects. -/
def digest (h : Hasher) : Digest := Sha256.hash h.root.toList

/-- The digest of everything consumed so far, with the hasher for what comes next. -/
def take (h : Hasher) : Digest × Hasher := (h.digest, empty)

end Hasher
end JsonSchema
