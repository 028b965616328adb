import JsonSchema.Digest
import JsonSchema.Proofs.Sentences
/-!
# What is hashed for a sentence

The events of one value append the same bytes wherever a hasher stands, its `Event.image`
(`Sentence.appends`). Apart from the image, the byte strings that are hashed for a value are those of
the members of the objects in it, at whatever depth (`Event.memberInputs`).
-/

namespace JsonSchema

/-! ### Appended bytes -/

namespace Hasher

variable {h : Hasher} {a b : Bytes} {es fs : List Event}

theorem append_append (bytes : Array UInt8) (a b : Bytes) :
    bytes ++ a ++ b = bytes ++ (a ++ b) := by
  apply Array.ext'
  simp

theorem write_write (h : Hasher) (a b : Bytes) : (h.write a).write b = h.write (a ++ b) := by
  rcases h with ⟨root, _ | ⟨f, fs⟩⟩ <;> simp [write, append_append]

theorem write_nil (h : Hasher) : h.write [] = h := by
  rcases h with ⟨root, _ | ⟨f, fs⟩⟩ <;> simp [write]

theorem feedAll_append : h.feedAll (es ++ fs) = (h.feedAll es).feedAll fs := List.foldl_append

theorem feedAll_cons {e : Event} : h.feedAll (e :: es) = (h.feed e).feedAll es := rfl

/-- Hashes are sorted, so it does not matter in which order they are. -/
theorem objectBytes_perm {ds ds' : List Digest} (h : ds.Perm ds') :
    objectBytes ds = objectBytes ds' := by
  have sorted (l : List Digest) : (l.mergeSort fun a b => decide (a ≤ b)).Pairwise (· ≤ ·) :=
    List.pairwise_mergeSort' _ l
  have perm := (List.mergeSort_perm ds fun a b => decide (a ≤ b)).trans
    (h.trans (List.mergeSort_perm ds' fun a b => decide (a ≤ b)).symm)
  have same := perm.eq_of_pairwise (fun _ _ _ _ => List.le_antisymm) (sorted ds) (sorted ds')
  rw [objectBytes, objectBytes, same]

theorem objectBytes_pair {c d : Digest} (h : d ≤ c) :
    objectBytes [c, d] = 0x7B :: (d ++ c) ++ [0x7D] := by
  have sorted : [d, c].mergeSort (fun a b => decide (a ≤ b)) = [d, c] :=
    List.mergeSort_of_pairwise (by simpa using h)
  rw [objectBytes_perm (List.Perm.swap d c []), objectBytes, sorted]
  simp

/-- The bytes of an array from those of its elements. -/
def arrayBytes (items : List Bytes) : Bytes := 0x5B :: items.flatMap (· ++ [0x2C]) ++ [0x5D]

/-- The bytes of a member from those of its value. -/
def memberBytes (name : String) (value : Bytes) : Bytes := tagged 0x6B (Utf8.bytes name) ++ value

/-- The bytes that are hashed when an event comes, if any are. -/
def closing? (h : Hasher) : Event → Option Bytes
  | .member => h.frames.head?.map fun f => f.current.toList
  | _ => none

/-- The byte strings that are hashed while events are taken. -/
def memberInputs (h : Hasher) : List Event → List Bytes
  | [] => []
  | e :: es => (h.closing? e).toList ++ (h.feed e).memberInputs es

theorem memberInputs_append :
    h.memberInputs (es ++ fs) = h.memberInputs es ++ (h.feedAll es).memberInputs fs := by
  induction es generalizing h with
  | nil => rfl
  | cons e es ih => rw [List.cons_append, memberInputs, memberInputs, ih, List.append_assoc]; rfl

end Hasher

/-! ### The image of events -/

open Hasher (arrayBytes memberBytes objectBytes numberBytes tagged)

variable {e : Event} {es : List Event} {l : List (List Event)} {m : List (String × List Event)}

namespace Event

/-- The bytes that events leave outside of all objects. -/
def image (es : List Event) : Bytes := (Hasher.empty.feedAll es).root.toList

/-- The byte strings that are hashed for the members of objects. -/
def memberInputs (es : List Event) : List Bytes := Hasher.empty.memberInputs es

/-- Wherever a hasher stands, the events append their image, after the same byte strings have been
hashed for members. -/
structure Appends (es : List Event) : Prop where
  image : ∀ h : Hasher, h.feedAll es = h.write (image es)
  members : ∀ h : Hasher, h.memberInputs es = memberInputs es

theorem image_eq {bs : Bytes} (h : ∀ h : Hasher, h.feedAll es = h.write bs) : image es = bs := by
  rw [image, h]
  simp [Hasher.write, Hasher.empty]

theorem appends_of {bs : Bytes} {inputs : List Bytes}
    (bytes : ∀ h : Hasher, h.feedAll es = h.write bs)
    (members : ∀ h : Hasher, h.memberInputs es = inputs) :
    Appends es ∧ image es = bs ∧ memberInputs es = inputs := by
  have image := image_eq bytes
  exact ⟨⟨fun h => image ▸ bytes h, fun h => (members h).trans (members _).symm⟩, image, members _⟩

/-! ### Scalars -/

/-- The bytes of a scalar. -/
def scalarBytes : Event → Bytes
  | .null => [0x6E]
  | .boolean b => [if b then 0x74 else 0x66]
  | .number n => numberBytes n
  | .string s => tagged 0x73 (Utf8.bytes s)
  | .binary bs => tagged 0x78 bs
  | _ => []

theorem appends_scalar (he : e.IsScalar) :
    Appends [e] ∧ image [e] = e.scalarBytes ∧ memberInputs [e] = [] := by
  refine appends_of (fun h => ?_) fun h => ?_
  · cases e <;> first | rfl | cases he
  · cases e <;> first | rfl | cases he

/-! ### Arrays -/

theorem feedAll_elements (hl : ∀ es ∈ l, Appends es) (h : Hasher) :
    h.feedAll (elements l) = h.write ((l.map image).flatMap (· ++ [0x2C])) := by
  induction l generalizing h with
  | nil => exact (Hasher.write_nil h).symm
  | cons es l ih =>
    obtain ⟨hes, hl⟩ := List.forall_mem_cons.1 hl
    rw [elements_cons, Hasher.feedAll_append, hes.image, Hasher.feedAll_cons, ih hl, Hasher.feed,
      Hasher.write_write, Hasher.write_write, List.map_cons, List.flatMap_cons, List.append_assoc]

theorem memberInputs_elements (hl : ∀ es ∈ l, Appends es) (h : Hasher) :
    h.memberInputs (elements l) = l.flatMap memberInputs := by
  induction l generalizing h with
  | nil => rfl
  | cons es l ih =>
    obtain ⟨hes, hl⟩ := List.forall_mem_cons.1 hl
    rw [elements_cons, Hasher.memberInputs_append, hes.members, Hasher.memberInputs, ih hl]
    rfl

theorem appends_array (hl : ∀ es ∈ l, Appends es) :
    Appends (.beginArray :: elements l ++ [.endArray]) ∧
      image (.beginArray :: elements l ++ [.endArray]) = arrayBytes (l.map image) ∧
      memberInputs (.beginArray :: elements l ++ [.endArray]) = l.flatMap memberInputs := by
  refine appends_of (fun h => ?_) fun h => ?_
  · rw [List.cons_append, Hasher.feedAll_cons, Hasher.feedAll_append, feedAll_elements hl]
    simp only [Hasher.feedAll, List.foldl_cons, List.foldl_nil, Hasher.feed, Hasher.write_write]
    rfl
  · rw [List.cons_append, Hasher.memberInputs, Hasher.memberInputs_append,
      memberInputs_elements hl]
    exact List.append_nil _

/-! ### Objects -/

/-- The bytes of a member. -/
def memberInput (m : String × List Event) : Bytes := memberBytes m.1 (image m.2)

/-- A member is hashed by itself, and its hash put to those of the members before it. -/
theorem feedAll_member {k : String} (hes : Appends es) (root : Array UInt8) (ds : List Digest)
    (fs : List Hasher.Frame) :
    Hasher.feedAll ⟨root, ⟨ds, #[]⟩ :: fs⟩ (.key k :: es) =
      ⟨root, ⟨ds, (memberInput (k, es)).toArray⟩ :: fs⟩ := by
  rw [Hasher.feedAll_cons, hes.image]
  simp [Hasher.feed, Hasher.write, memberInput, memberBytes]

theorem feedAll_members (hm : ∀ p ∈ m, Appends p.2) (root : Array UInt8) (ds : List Digest)
    (fs : List Hasher.Frame) :
    Hasher.feedAll ⟨root, ⟨ds, #[]⟩ :: fs⟩ (members m) =
      ⟨root, ⟨(m.map fun p => Sha256.hash (memberInput p)).reverse ++ ds, #[]⟩ :: fs⟩ := by
  induction m generalizing ds with
  | nil => rfl
  | cons p m ih =>
    obtain ⟨hp, hm⟩ := List.forall_mem_cons.1 hm
    rw [members_cons, ← List.cons_append, Hasher.feedAll_append, feedAll_member hp,
      Hasher.feedAll_cons]
    simp only [Hasher.feed]
    rw [ih hm, List.map_cons, List.reverse_cons, List.append_assoc]
    rfl

theorem memberInputs_members (hm : ∀ p ∈ m, Appends p.2) (root : Array UInt8) (ds : List Digest)
    (fs : List Hasher.Frame) :
    Hasher.memberInputs ⟨root, ⟨ds, #[]⟩ :: fs⟩ (members m) =
      m.flatMap fun p => memberInputs p.2 ++ [memberInput p] := by
  induction m generalizing ds with
  | nil => rfl
  | cons p m ih =>
    obtain ⟨hp, hm⟩ := List.forall_mem_cons.1 hm
    have value : Hasher.memberInputs ⟨root, ⟨ds, #[]⟩ :: fs⟩ (.key p.1 :: p.2) =
        memberInputs p.2 := hp.members _
    rw [members_cons, ← List.cons_append, Hasher.memberInputs_append, value, feedAll_member hp,
      Hasher.memberInputs, List.flatMap_cons, List.append_assoc]
    exact congrArg (memberInputs p.2 ++ memberInput p :: ·) (ih hm _)

theorem appends_object (hm : ∀ p ∈ m, Appends p.2) :
    Appends (.beginObject :: members m ++ [.endObject]) ∧
      image (.beginObject :: members m ++ [.endObject]) =
        objectBytes ((m.map memberInput).map Sha256.hash) ∧
      memberInputs (.beginObject :: members m ++ [.endObject]) =
        m.flatMap fun p => memberInputs p.2 ++ [memberInput p] := by
  refine appends_of (fun h => ?_) fun h => ?_
  · rw [List.cons_append, Hasher.feedAll_cons, Hasher.feedAll_append, Hasher.feed,
      feedAll_members hm, List.append_nil, List.map_map,
      Hasher.objectBytes_perm (List.reverse_perm _).symm]
    rfl
  · rw [List.cons_append, Hasher.memberInputs, Hasher.memberInputs_append, Hasher.feed,
      memberInputs_members hm]
    exact List.append_nil _

end Event

/-! ### Sentences -/

/-- Wherever a hasher stands, a sentence appends its image. -/
theorem Sentence.appends (h : Sentence es) : Event.Appends es := by
  induction h with
  | scalar h => exact (Event.appends_scalar h).1
  | array _ ih => exact (Event.appends_array ih).1
  | object _ ih => exact (Event.appends_object ih).1

namespace Event

theorem image_scalar (he : e.IsScalar) : image [e] = e.scalarBytes := (appends_scalar he).2.1

theorem image_array (hl : ∀ es ∈ l, Sentence es) :
    image (.beginArray :: elements l ++ [.endArray]) = arrayBytes (l.map image) :=
  (appends_array fun es hes => (hl es hes).appends).2.1

theorem image_object (hm : ∀ p ∈ m, Sentence p.2) :
    image (.beginObject :: members m ++ [.endObject]) =
      objectBytes ((m.map memberInput).map Sha256.hash) :=
  (appends_object fun p hp => (hm p hp).appends).2.1

theorem memberInputs_array (hl : ∀ es ∈ l, Sentence es) :
    memberInputs (.beginArray :: elements l ++ [.endArray]) = l.flatMap memberInputs :=
  (appends_array fun es hes => (hl es hes).appends).2.2

theorem memberInputs_object (hm : ∀ p ∈ m, Sentence p.2) :
    memberInputs (.beginObject :: members m ++ [.endObject]) =
      m.flatMap fun p => memberInputs p.2 ++ [memberInput p] :=
  (appends_object fun p hp => (hm p hp).appends).2.2

end Event
end JsonSchema
