import Mathlib.Data.List.Nodup
import Mathlib.Data.Set.Function
import JsonSchema.Proofs.Digest.Layout
import JsonSchema.Proofs.Digest.Same
/-!
# What a digest identifies

Sentences of the same value have the same digest, whatever a hasher took before. Conversely, where
the hash function does not collide on what is hashed for two sentences, and no hash of a member
begins with the byte that closes an object, sentences with the same digest are of the same value
(`Event.take_identifies`): an image can be read back, whatever comes after it (`Sentence.reads`).
-/

namespace JsonSchema

open Hasher (arrayBytes memberBytes objectBytes numberBytes tagged)

variable {e e' : Event} {es es' : List Event} {l l' : List (List Event)}
  {m m' : List (String × List Event)} {r r' : Bytes} {S : Set Bytes}

namespace Event

/-- The text or payload of an event. -/
def payload : Event → Bytes
  | .string s => Utf8.bytes s
  | .key k => Utf8.bytes k
  | .binary bs => bs
  | _ => []

/-- The bytes with which a value that begins with the event may begin. -/
def tags : Event → List UInt8
  | .null => [0x6E]
  | .boolean _ => [0x74, 0x66]
  | .number _ => [0x69, 0x75, 0x64]
  | .string _ => [0x73]
  | .binary _ => [0x78]
  | .beginArray => [0x5B]
  | .beginObject => [0x7B]
  | _ => []

/-- Texts and payloads have lengths of 64 bits, and the members are hashed from byte strings of `S`,
none to a hash that begins like the end of an object. -/
structure Within (S : Set Bytes) (es : List Event) : Prop where
  fits : ∀ e ∈ es, e.payload.length < UInt64.size
  hashed : ∀ b ∈ memberInputs es, b ∈ S ∧ (Sha256.hash b).head? ≠ some 0x7D

structure MemberWithin (S : Set Bytes) (p : String × List Event) : Prop where
  value : Within S p.2
  fits : (Utf8.bytes p.1).length < UInt64.size
  hashed : memberInput p ∈ S ∧ (Sha256.hash (memberInput p)).head? ≠ some 0x7D

theorem Within.item (hl : ∀ es ∈ l, Sentence es)
    (h : Within S (.beginArray :: elements l ++ [.endArray])) (hes : es ∈ l) : Within S es where
  fits e he := by
    have inside : e ∈ elements l := List.mem_flatMap.2 ⟨es, hes, List.mem_append_left _ he⟩
    exact h.fits e (by simp [inside])
  hashed b hb := h.hashed b (by rw [memberInputs_array hl]; exact List.mem_flatMap_of_mem hes hb)

theorem Within.member {p : String × List Event} (hm : ∀ p ∈ m, Sentence p.2)
    (h : Within S (.beginObject :: members m ++ [.endObject])) (hp : p ∈ m) :
    MemberWithin S p := by
  have fits : ∀ e ∈ .key p.1 :: p.2, e.payload.length < UInt64.size := fun e he => by
    have inside : e ∈ members m := List.mem_flatMap.2 ⟨p, hp, List.mem_append_left _ he⟩
    exact h.fits e (by simp [inside])
  have hashed : ∀ b ∈ memberInputs p.2 ++ [memberInput p],
      b ∈ S ∧ (Sha256.hash b).head? ≠ some 0x7D := fun b hb =>
    h.hashed b (by rw [memberInputs_object hm]; exact List.mem_flatMap_of_mem hp hb)
  exact ⟨⟨fun e he => fits e (.tail _ he), fun b hb => hashed b (by simp [hb])⟩,
    fits _ (.head _), hashed _ (by simp)⟩

/-! ### First bytes -/

theorem exists_tag (h : Sentence (e :: es)) : ∃ b bs, b ∈ e.tags ∧ image (e :: es) = b :: bs := by
  cases h with
  | scalar he =>
    rw [image_scalar he]
    cases e with
    | boolean b => cases b <;> simp [scalarBytes, tags]
    | number n =>
      rw [scalarBytes, numberBytes]
      cases n.canonical <;> simp [tagged, tags]
    | null | string | binary => simp [scalarBytes, tags, tagged]
    | _ => cases he
  | array hl => exact ⟨_, _, .head _, image_array hl⟩
  | object hm => exact ⟨_, _, .head _, image_object hm⟩

theorem exists_tag_of_append (h : Sentence (e :: es)) (h' : Sentence (e' :: es'))
    (eq : image (e :: es) ++ r = image (e' :: es') ++ r') : ∃ b, b ∈ e.tags ∧ b ∈ e'.tags := by
  obtain ⟨b, bs, hb, image⟩ := exists_tag h
  obtain ⟨b', bs', hb', image'⟩ := exists_tag h'
  rw [image, image'] at eq
  obtain rfl : b = b' := (List.cons.inj eq).1
  exact ⟨b, hb, hb'⟩

/-! ### Scalars -/

/-- A scalar does not begin like an aggregate. -/
theorem scalar_apart {b : UInt8} (he : e.IsScalar) (hb : b ∈ e.tags) : b ≠ 0x5B ∧ b ≠ 0x7B := by
  cases e with
  | boolean | number =>
    simp only [tags, List.mem_cons, List.not_mem_nil, or_false] at hb
    rcases hb with rfl | rfl | rfl <;> decide
  | null | string | binary =>
    cases List.mem_singleton.1 hb
    decide
  | _ => cases he

theorem same_of_scalar (he : e.IsScalar) (he' : e'.IsScalar) (fits : e.payload.length < UInt64.size)
    (fits' : e'.payload.length < UInt64.size) (eq : image [e] ++ r = image [e'] ++ r') :
    Same [e] [e'] ∧ r = r' := by
  have tag := exists_tag_of_append (.scalar he) (.scalar he') eq
  rw [image_scalar he, image_scalar he'] at eq
  cases e with
  | null =>
    cases e' with
    | null => exact ⟨.scalar he, (List.cons.inj eq).2⟩
    | _ => simp [tags] at tag
  | boolean b =>
    cases e' with
    | boolean b' =>
      obtain ⟨byte, rfl⟩ := List.cons.inj eq
      obtain rfl : b = b' := by cases b <;> cases b' <;> simp at byte <;> rfl
      exact ⟨.scalar he, rfl⟩
    | _ => simp [tags] at tag
  | number n =>
    cases e' with
    | number n' =>
      obtain ⟨canonical, rfl⟩ := Hasher.numberBytes_append_inj eq
      exact ⟨.number canonical, rfl⟩
    | _ => simp [tags] at tag
  | string s =>
    cases e' with
    | string s' =>
      obtain ⟨-, bytes, rfl⟩ := Hasher.tagged_append_inj fits fits' eq
      obtain rfl := Utf8.bytes_injective bytes
      exact ⟨.scalar he, rfl⟩
    | _ => simp [tags] at tag
  | binary bs =>
    cases e' with
    | binary bs' =>
      obtain ⟨-, rfl, rfl⟩ := Hasher.tagged_append_inj fits fits' eq
      exact ⟨.scalar he, rfl⟩
    | _ => simp [tags] at tag
  | _ => cases he

/-! ### Aggregates -/

/-- The image of a sentence tells it from every other value and from what comes after it. -/
def Reads (S : Set Bytes) (es : List Event) : Prop :=
  ∀ (es' : List Event) (r r' : Bytes), Sentence es' → Within S es' →
    image es ++ r = image es' ++ r' → Same es es' ∧ r = r'

/-- No value begins like the end of an array. -/
theorem end_ne_image (h : Sentence es) : 0x5D :: r ≠ image es ++ r' := by
  intro eq
  obtain ⟨e, es, rfl⟩ : ∃ e es₁, es = e :: es₁ := by cases h <;> exact ⟨_, _, rfl⟩
  obtain ⟨b, bs, hb, image⟩ := exists_tag h
  rw [image] at eq
  obtain rfl : 0x5D = b := (List.cons.inj eq).1
  cases e <;> simp [tags] at hb

theorem same_of_elements (hl : ∀ es ∈ l, Sentence es ∧ Reads S es)
    (hl' : ∀ es ∈ l', Sentence es ∧ Within S es)
    (eq : (l.map image).flatMap (· ++ [0x2C]) ++ 0x5D :: r =
      (l'.map image).flatMap (· ++ [0x2C]) ++ 0x5D :: r') :
    List.Forall₂ Same l l' ∧ r = r' := by
  induction l generalizing l' with
  | nil =>
    cases l' with
    | nil => exact ⟨.nil, (List.cons.inj eq).2⟩
    | cons es' l' =>
      rw [List.map_cons, List.flatMap_cons, List.append_assoc, List.append_assoc] at eq
      exact absurd eq (end_ne_image (hl' es' (.head _)).1)
  | cons es l ih =>
    obtain ⟨⟨sentence, reads⟩, hl⟩ := List.forall_mem_cons.1 hl
    rw [List.map_cons, List.flatMap_cons, List.append_assoc, List.append_assoc] at eq
    cases l' with
    | nil => exact absurd eq.symm (end_ne_image sentence)
    | cons es' l' =>
      obtain ⟨⟨sentence', within⟩, hl'⟩ := List.forall_mem_cons.1 hl'
      rw [List.map_cons, List.flatMap_cons, List.append_assoc (image es' ++ _),
        List.append_assoc (image es')] at eq
      obtain ⟨same, rest⟩ := reads es' _ _ sentence' within eq
      obtain ⟨items, rfl⟩ := ih hl hl' (List.cons.inj rest).2
      exact ⟨.cons same items, rfl⟩

theorem same_of_members (inj : S.InjOn Sha256.hash) (hm : ∀ p ∈ m, MemberWithin S p ∧ Reads S p.2)
    (hm' : ∀ p ∈ m', Sentence p.2 ∧ MemberWithin S p)
    (eq : m.map (fun p => Sha256.hash (memberInput p)) =
      m'.map fun p => Sha256.hash (memberInput p)) :
    m.map (·.1) = m'.map (·.1) ∧ List.Forall₂ Same (m.map (·.2)) (m'.map (·.2)) := by
  induction m generalizing m' with
  | nil =>
    obtain rfl : m' = [] := List.map_eq_nil_iff.1 eq.symm
    exact ⟨rfl, .nil⟩
  | cons p m ih =>
    cases m' with
    | nil => cases eq
    | cons p' m' =>
      obtain ⟨⟨within, reads⟩, hm⟩ := List.forall_mem_cons.1 hm
      obtain ⟨⟨sentence, within'⟩, hm'⟩ := List.forall_mem_cons.1 hm'
      obtain ⟨hash, eq⟩ := List.cons.inj eq
      have input : memberInput p = memberInput p' := inj within.hashed.1 within'.hashed.1 hash
      obtain ⟨-, names, values⟩ := Hasher.tagged_append_inj within.fits within'.fits input
      have value := (reads p'.2 [] [] sentence within'.value (by rw [values])).1
      obtain ⟨rest, all⟩ := ih hm hm' eq
      exact ⟨congrArg₂ List.cons (Utf8.bytes_injective names) rest, .cons value all⟩

/-! ### Reading back -/

theorem reads_scalar (he : e.IsScalar) (fits : e.payload.length < UInt64.size) : Reads S [e] := by
  intro es' r r' h' within' eq
  cases h' with
  | scalar he' => exact same_of_scalar he he' fits (within'.fits _ (.head _)) eq
  | array hl' =>
    obtain ⟨b, hb, hb'⟩ := exists_tag_of_append (.scalar he) (.array hl') eq
    exact absurd (List.mem_singleton.1 hb') (scalar_apart he hb).1
  | object hm' =>
    obtain ⟨b, hb, hb'⟩ := exists_tag_of_append (.scalar he) (.object hm') eq
    exact absurd (List.mem_singleton.1 hb') (scalar_apart he hb).2

theorem reads_array (hl : ∀ es ∈ l, Sentence es) (reads : ∀ es ∈ l, Reads S es) :
    Reads S (.beginArray :: elements l ++ [.endArray]) := by
  intro es' r r' h' within' eq
  cases h' with
  | scalar he' =>
    obtain ⟨b, hb, hb'⟩ := exists_tag_of_append (.array hl) (.scalar he') eq
    exact absurd (List.mem_singleton.1 hb) (scalar_apart he' hb').1
  | @array l' hl' =>
    rw [image_array hl, image_array hl', arrayBytes, arrayBytes] at eq
    simp only [List.cons_append, List.append_assoc, List.nil_append, List.cons.injEq,
      true_and] at eq
    obtain ⟨items, rest⟩ := same_of_elements (fun es hes => ⟨hl es hes, reads es hes⟩)
      (fun es hes => ⟨hl' es hes, within'.item hl' hes⟩) eq
    exact ⟨.array items, rest⟩
  | object hm' =>
    obtain ⟨b, hb, hb'⟩ := exists_tag_of_append (.array hl) (.object hm') eq
    cases (List.mem_singleton.1 hb).symm.trans (List.mem_singleton.1 hb')

theorem reads_object (inj : S.InjOn Sha256.hash) (hm : ∀ p ∈ m, Sentence p.2)
    (within : ∀ p ∈ m, MemberWithin S p) (reads : ∀ p ∈ m, Reads S p.2) :
    Reads S (.beginObject :: members m ++ [.endObject]) := by
  intro es' r r' h' within' eq
  cases h' with
  | scalar he' =>
    obtain ⟨b, hb, hb'⟩ := exists_tag_of_append (.object hm) (.scalar he') eq
    exact absurd (List.mem_singleton.1 hb) (scalar_apart he' hb').2
  | array hl' =>
    obtain ⟨b, hb, hb'⟩ := exists_tag_of_append (.object hm) (.array hl') eq
    cases (List.mem_singleton.1 hb).symm.trans (List.mem_singleton.1 hb')
  | @object m' hm' =>
    have within' (p) (hp : p ∈ m') : MemberWithin S p := within'.member hm' hp
    rw [image_object hm, image_object hm', List.map_map, List.map_map] at eq
    obtain ⟨perm, rest⟩ := Hasher.objectBytes_append_inj
      (List.forall_mem_map.2 fun p hp => ⟨Sha256.length_hash _, (within p hp).hashed.2⟩)
      (List.forall_mem_map.2 fun p hp => ⟨Sha256.length_hash _, (within' p hp).hashed.2⟩) eq
    -- the members in the order of the other object
    obtain ⟨m₁, perm, hashes⟩ := exists_perm_of_map_perm perm
    have mem (p) (hp : p ∈ m₁) : p ∈ m := perm.mem_iff.2 hp
    obtain ⟨names, values⟩ := same_of_members inj
      (fun p hp => ⟨within p (mem p hp), reads p (mem p hp)⟩)
      (fun p hp => ⟨hm' p hp, within' p hp⟩) hashes
    exact ⟨.object perm names values, rest⟩

end Event

/-- The image of a sentence can be read back, in front of whatever comes after it. -/
theorem Sentence.reads (inj : S.InjOn Sha256.hash) (h : Sentence es)
    (within : Event.Within S es) : Event.Reads S es := by
  induction h with
  | scalar he => exact Event.reads_scalar he (within.fits _ (.head _))
  | array hl ih => exact Event.reads_array hl fun es hes => ih es hes (within.item hl hes)
  | object hm ih =>
    have members (p) (hp : p ∈ _) := within.member hm hp
    exact Event.reads_object inj hm members fun p hp => ih p hp (members p hp).value

namespace Event

open Hasher (empty)

/-- The byte strings that are hashed for a sentence: those of members, and its image. -/
def hashed (es : List Event) : List Bytes := memberInputs es ++ [image es]

/-- Whatever was taken before, sentences of the same value have the same digest. Sentences with the
same digest are of the same value, provided that no two byte strings hashed for them have the same
hash and that no hash of a member begins with the byte that closes an object. The length of a text
or payload is one of 64 bits, as every length in memory is. -/
theorem take_identifies (h : Sentence es) (h' : Sentence es') (earlier earlier' : Hasher) :
    (Same es es' →
      (earlier.take.2.feedAll es).take.1 = (earlier'.take.2.feedAll es').take.1) ∧
    ((∀ e ∈ es ++ es', e.payload.length < UInt64.size) →
      Set.InjOn Sha256.hash {b | b ∈ hashed es ++ hashed es'} →
      (∀ b ∈ memberInputs es ++ memberInputs es', (Sha256.hash b).head? ≠ some 0x7D) →
      (earlier.take.2.feedAll es).take.1 = (earlier'.take.2.feedAll es').take.1 → Same es es') := by
  refine ⟨fun same => same.digest_eq, fun fits inj heads eq => ?_⟩
  have within : Within {b | b ∈ hashed es ++ hashed es'} es :=
    ⟨fun e he => fits e (by simp [he]), fun b hb => ⟨by simp [hashed, hb], heads b (by simp [hb])⟩⟩
  have within' : Within {b | b ∈ hashed es ++ hashed es'} es' :=
    ⟨fun e he => fits e (by simp [he]), fun b hb => ⟨by simp [hashed, hb], heads b (by simp [hb])⟩⟩
  have images : image es = image es' := inj (by simp [hashed]) (by simp [hashed]) eq
  exact (h.reads inj within es' [] [] h' within' (by rw [images])).1

/-- Two spellings of an object have one digest, from which it follows that they are the same. -/
theorem take_identifies_spellings :
    (empty.take.2.feedAll oneSpelling).take.1 = (empty.take.2.feedAll otherSpelling).take.1 ∧
      Set.InjOn Sha256.hash {b | b ∈ hashed oneSpelling ++ hashed otherSpelling} ∧
      Same oneSpelling otherSpelling := by
  have same := same_spellings
  have both := take_identifies same.alike.left same.alike.right empty empty
  have digests := both.1 same
  let a := memberInput ("a", [.number (.signed 1)])
  let b := memberInput ("b", [.null])
  have inputs : memberInputs oneSpelling = [a, b] := by decide +kernel
  have inputs' : memberInputs otherSpelling = [b, a] := by decide +kernel
  have sentences : ∀ p ∈ [("a", [Event.number (.signed 1)]), ("b", [.null])], Sentence p.2 := by
    simp only [List.forall_mem_cons]
    exact ⟨.scalar trivial, .scalar trivial, by simp⟩
  have bytes : image oneSpelling = 0x7B :: (Sha256.hash b ++ Sha256.hash a) ++ [0x7D] := by
    rw [oneSpelling, image_object sentences]
    exact Hasher.objectBytes_pair (by decide +kernel)
  have distinct : ([a, b, image oneSpelling].map Sha256.hash).Nodup := by
    rw [bytes]
    decide +kernel
  have inj : Set.InjOn Sha256.hash {b | b ∈ hashed oneSpelling ++ hashed otherSpelling} := by
    have among : ∀ x ∈ hashed oneSpelling ++ hashed otherSpelling,
        x ∈ [a, b, image oneSpelling] := by
      rw [hashed, hashed, inputs, inputs', ← same.alike.image]
      simp
    exact fun x hx y hy => List.inj_on_of_nodup_map distinct (among x hx) (among y hy)
  refine ⟨digests, inj, both.2 (by decide +kernel) inj ?_ digests⟩
  rw [inputs, inputs']
  decide +kernel

end Event
end JsonSchema
