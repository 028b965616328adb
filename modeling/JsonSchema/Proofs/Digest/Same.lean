import Mathlib.Data.List.Perm.Basic
import JsonSchema.Proofs.Digest.Input
import JsonSchema.Proofs.Satisfaction
/-!
# Spellings of one value

Two sentences are the `Event.Same` value if they differ only in the order of members and in the
representation of numbers. They have the same image then (`Event.Same.alike`), and so the same digest
(`Event.Same.digest_eq`).
-/

namespace JsonSchema

/-- What is a permutation after a map is the map of a permutation. -/
theorem exists_perm_of_map_perm {α β : Type} {f : α → β} {l : List α} {l' : List β}
    (h : (l.map f).Perm l') : ∃ l₁, l.Perm l₁ ∧ l₁.map f = l' := by
  have mapped : Relation.Comp (List.Forall₂ fun a b => f a = b) List.Perm l l' :=
    ⟨l.map f, List.forall₂_map_right_iff.2 (List.forall₂_same.2 fun _ _ => rfl), h⟩
  rw [List.forall₂_comp_perm_eq_perm_comp_forall₂] at mapped
  obtain ⟨l₁, perm, eq⟩ := mapped
  exact ⟨l₁, perm, by rwa [← List.forall₂_map_left_iff, List.forall₂_eq_eq_eq] at eq⟩

/-- Equality of values: members in any order, the same one as often on both sides, and numbers of
one canonical form. -/
inductive Event.Same : List Event → List Event → Prop where
  | scalar {e : Event} (h : e.IsScalar) : Same [e] [e]
  | number {m n : Number} (h : m.canonical = n.canonical) : Same [.number m] [.number n]
  | array {l l' : List (List Event)} (items : List.Forall₂ Same l l') :
      Same (.beginArray :: Event.elements l ++ [.endArray])
        (.beginArray :: Event.elements l' ++ [.endArray])
  | object {m m' m₁ : List (String × List Event)} (perm : m.Perm m₁)
      (names : m₁.map (·.1) = m'.map (·.1))
      (values : List.Forall₂ Same (m₁.map (·.2)) (m'.map (·.2))) :
      Same (.beginObject :: Event.members m ++ [.endObject])
        (.beginObject :: Event.members m' ++ [.endObject])

namespace Event

variable {es es' : List Event} {l l' : List (List Event)}

/-- Both are sentences with one image. -/
structure Alike (es es' : List Event) : Prop where
  left : Sentence es
  right : Sentence es'
  image : image es = image es'

theorem Alike.forall₂ (h : List.Forall₂ Alike l l') :
    (∀ es ∈ l, Sentence es) ∧ (∀ es ∈ l', Sentence es) ∧
      l.map Event.image = l'.map Event.image := by
  induction h with
  | nil => simp
  | cons h _ ih =>
    obtain ⟨left, right, images⟩ := ih
    exact ⟨List.forall_mem_cons.2 ⟨h.left, left⟩, List.forall_mem_cons.2 ⟨h.right, right⟩,
      congrArg₂ List.cons h.image images⟩

theorem map_memberInput (m : List (String × List Event)) :
    m.map memberInput =
      List.zipWith Hasher.memberBytes (m.map (·.1)) ((m.map (·.2)).map image) := by
  rw [List.map_map, List.zipWith_map, List.zipWith_self]
  rfl

/-- What is hashed for a value depends on nothing but the value. -/
theorem Same.alike (h : Same es es') : Alike es es' := by
  refine @Same.rec (fun es es' _ => Alike es es') (fun l l' _ => List.Forall₂ Alike l l')
    ?scalar ?number ?array ?object ?nil ?cons es es' h
  case scalar => exact fun h => ⟨.scalar h, .scalar h, rfl⟩
  case number =>
    intro m n h
    have image_number (n : Number) : image [.number n] = Hasher.numberBytes n :=
      image_scalar (e := .number n) trivial
    refine ⟨.scalar trivial, .scalar trivial, ?_⟩
    rw [image_number, image_number, Hasher.numberBytes, Hasher.numberBytes, h]
  case array =>
    intro l l' _ ih
    obtain ⟨left, right, images⟩ := Alike.forall₂ ih
    refine ⟨.array left, .array right, ?_⟩
    rw [image_array left, image_array right, images]
  case object =>
    intro m m' m₁ perm names _ ih
    obtain ⟨left, right, images⟩ := Alike.forall₂ ih
    have left : ∀ p ∈ m, Sentence p.2 :=
      fun p hp => left p.2 (List.mem_map_of_mem (perm.mem_iff.1 hp))
    have right : ∀ p ∈ m', Sentence p.2 := fun p hp => right p.2 (List.mem_map_of_mem hp)
    have inputs : m₁.map memberInput = m'.map memberInput := by
      rw [map_memberInput, map_memberInput, names, images]
    refine ⟨.object left, .object right, ?_⟩
    rw [image_object left, image_object right, Hasher.objectBytes_perm ((perm.map _).map _),
      inputs]
  case nil => exact .nil
  case cons => exact fun _ _ h ih => .cons h ih

theorem digest_eq_hash (es : List Event) : digest es = Sha256.hash (image es) := rfl

theorem Same.digest_eq (h : Same es es') : digest es = digest es' := by
  rw [digest_eq_hash, digest_eq_hash, h.alike.image]

/-- An object with its members in one order, and a number in one representation. -/
def oneSpelling : List Event :=
  .beginObject :: members [("a", [.number (.signed 1)]), ("b", [.null])] ++ [.endObject]

/-- The same object in other words. -/
def otherSpelling : List Event :=
  .beginObject :: members [("b", [.null]), ("a", [.number (.float ⟨0x3FF0000000000000⟩)])] ++
    [.endObject]

theorem same_spellings : Same oneSpelling otherSpelling := by
  refine .object (List.Perm.swap ("b", [Event.null]) _ []) rfl (.cons (.scalar trivial) ?_)
  exact .cons (.number (by decide +kernel)) .nil

end Event

namespace Value

open Event (Same)

variable {f : Members → Members}

/-- Members in another order make no other value. -/
theorem same_arrange (perm : ∀ ms, (f ms).Perm ms) (v : Value) :
    Same (v.arrange f).events v.events := by
  induction v using Value.induction with
  | array vs ih =>
    rw [arrange_array, events, events, elementEvents_eq, elementEvents_eq, List.map_map]
    refine .array (List.forall₂_map_left_iff.2 (List.forall₂_map_right_iff.2 ?_))
    exact List.forall₂_same.2 ih
  | object ms ih =>
    rw [arrange_object, events, events, memberEvents_eq, memberEvents_eq]
    refine .object ((perm _).map _) (by simp) ?_
    simp only [List.map_map, List.forall₂_map_left_iff, List.forall₂_map_right_iff]
    exact List.forall₂_same.2 fun m hm => ih m.1 m.2 hm
  | _ => exact .scalar trivial

theorem digest_arrange (perm : ∀ ms, (f ms).Perm ms) (v : Value) :
    (v.arrange f).digest = v.digest :=
  (same_arrange perm v).digest_eq

end Value
end JsonSchema
