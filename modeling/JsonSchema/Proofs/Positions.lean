import JsonSchema.Graph
import JsonSchema.Proofs.Document
import JsonSchema.Proofs.Text.Digits
/-!
# Positions in documents

The places of a document are its positions with the values that are found there
(`Value.mem_places`), each of them once (`Value.nodup_places`). An element is found under one token
only, its index in decimal digits (`Value.arrayIndex?_eq_some`).
-/

namespace JsonSchema

/-! ### Indexes -/

namespace Value

theorem arrayIndex?_toString (i : Nat) : arrayIndex? (toString i) = some i := by
  have digits : (toString i).toList = Nat.toDigits 10 i := Nat.toList_repr
  have all : (Nat.toDigits 10 i).all Char.isDigit = true :=
    List.all_eq_true.2 fun c hc => Nat.isDigit_of_mem_toDigits (by decide) (by decide) hc
  have lead : ¬(toString i ≠ "0" ∧ (toString i).toList.head? = some '0') := by
    rintro ⟨hne, hh⟩
    rw [digits] at hh
    rcases Nat.eq_zero_or_pos i with rfl | hi
    · exact hne rfl
    · exact Text.head_toDigits hi hh
  rw [arrayIndex?, if_neg lead, Text.decimal?, digits, all, if_pos (by simp), Text.decimal_toDigits]

/-- The token of an index is its decimal form. -/
theorem arrayIndex?_eq_some {t : String} {i : Nat} : arrayIndex? t = some i ↔ t = toString i := by
  constructor
  · intro h
    unfold arrayIndex? at h
    split at h
    · cases h
    · next lead =>
      unfold Text.decimal? at h
      split at h
      · next hc =>
        cases h
        simp only [Bool.and_eq_true, Bool.not_eq_true', List.isEmpty_eq_false_iff,
          List.all_eq_true] at hc
        have h0 : t.toList = ['0'] ∨ t.toList.head? ≠ some '0' := by
          rcases not_and_or.1 lead with h0 | h0
          · exact .inl (by rw [not_not.1 h0]; rfl)
          · exact .inr h0
        rw [← String.toList_inj, show (toString (Text.decimal t.toList)).toList =
          Nat.toDigits 10 (Text.decimal t.toList) from Nat.toList_repr]
        exact (Text.toDigits_decimal t.toList hc.1 hc.2 h0).symm
      · cases h
  · rintro rfl
    exact arrayIndex?_toString i

end Value

/-! ### Positions below a position -/

/-- The position some tokens further down. -/
def Pointer.below (p : Pointer) (ts : List String) : Pointer := ⟨p.tokens ++ ts⟩

namespace Pointer

variable {p q : Pointer} {t : String} {ts us : List String}

theorem below_nil : p.below [] = p := by simp [below]

theorem below_below : (p.below ts).below us = p.below (ts ++ us) := by simp [below]

theorem child_eq_below : p.child t = p.below [t] := rfl

theorem index_eq_below {i : Nat} : p.index i = p.below [toString i] := rfl

theorem below_injective : Function.Injective p.below := fun ts us h => by
  simpa [below] using h

end Pointer

namespace Value

open Pointer

variable {v w : Value} {p q : Pointer} {t : String} {ts us : List String}

theorem descend?_append : v.descend? (ts ++ us) = (v.descend? ts).bind (·.descend? us) := by
  induction ts generalizing v with
  | nil => rfl
  | cons t ts ih =>
    simp only [List.cons_append, descend?, Option.bind_assoc, ih]

theorem at?_below : v.at? (p.below ts) = (v.at? p).bind (·.descend? ts) := descend?_append

theorem at?_child : v.at? (p.child t) = (v.at? p).bind (·.child? t) := by
  rw [child_eq_below, at?_below]
  refine Option.bind_congr fun u _ => ?_
  rw [descend?]
  cases u.child? t <;> rfl

theorem child?_isDocument (hd : v.IsDocument) (h : v.child? t = some w) : w.IsDocument := by
  cases v with
  | array vs =>
    obtain ⟨i, -, hi⟩ := Option.bind_eq_some_iff.1 h
    exact hd.item (List.mem_of_getElem? hi)
  | object ms => exact hd.member (mem_of_lookup h)
  | _ => cases h

theorem descend?_isDocument (hd : v.IsDocument) (h : v.descend? ts = some w) : w.IsDocument := by
  induction ts generalizing v with
  | nil => cases h; exact hd
  | cons t ts ih =>
    obtain ⟨u, hu, hw⟩ := Option.bind_eq_some_iff.1 h
    exact ih (child?_isDocument hd hu) hw

/-! ### Places -/

theorem mem_elementPlaces {vs : List Value} {i : Nat} : (q, w) ∈ elementPlaces p i vs ↔
    ∃ j, ∃ u : Value, vs[j]? = some u ∧ (q, w) ∈ u.places (p.index (i + j)) := by
  induction vs generalizing i with
  | nil => simp [elementPlaces]
  | cons v vs ih =>
    rw [elementPlaces, List.mem_append, ih]
    constructor
    · rintro (h | ⟨j, u, hj, h⟩)
      · exact ⟨0, v, rfl, h⟩
      · exact ⟨j + 1, u, hj, by rwa [Nat.add_comm j, ← Nat.add_assoc]⟩
    · rintro ⟨j, u, hj, h⟩
      cases j with
      | zero => cases hj; exact .inl h
      | succ j => exact .inr ⟨j, u, hj, by rwa [Nat.add_assoc, Nat.add_comm 1]⟩

theorem mem_memberPlaces {ms : Members} : (q, w) ∈ memberPlaces p ms ↔
    ∃ k, ∃ u : Value, (k, u) ∈ ms ∧ (q, w) ∈ u.places (p.child k) := by
  induction ms with
  | nil => simp [memberPlaces]
  | cons m ms ih =>
    obtain ⟨k, v⟩ := m
    rw [memberPlaces, List.mem_append, ih]
    constructor
    · rintro (h | ⟨k', u, hu, h⟩)
      · exact ⟨k, v, by simp, h⟩
      · exact ⟨k', u, by simp [hu], h⟩
    · rintro ⟨k', u, hu, h⟩
      rcases List.mem_cons.1 hu with he | hu
      · cases he; exact .inl h
      · exact .inr ⟨k', u, hu, h⟩

theorem mem_scalar_places (hv : ∀ t, v.child? t = none) :
    (q, w) ∈ [(p, v)] ↔ ∃ ts, q = p.below ts ∧ v.descend? ts = some w := by
  rw [List.mem_singleton, Prod.mk.injEq]
  constructor
  · rintro ⟨rfl, rfl⟩
    exact ⟨[], below_nil.symm, rfl⟩
  · rintro ⟨ts, rfl, h⟩
    cases ts with
    | nil => cases h; exact ⟨below_nil, rfl⟩
    | cons t ts => rw [descend?, hv] at h; cases h

/-- The places of a document at a position are the positions below it where a value is found. -/
theorem mem_places_iff (hd : v.IsDocument) :
    (q, w) ∈ v.places p ↔ ∃ ts, q = p.below ts ∧ v.descend? ts = some w := by
  induction v using Value.induction generalizing p with
  | array vs ih =>
    rw [places, List.mem_cons, mem_elementPlaces, Prod.mk.injEq]
    constructor
    · rintro (⟨rfl, rfl⟩ | ⟨j, u, hj, h⟩)
      · exact ⟨[], below_nil.symm, rfl⟩
      · rw [Nat.zero_add] at h
        have hu := List.mem_of_getElem? hj
        obtain ⟨ts, rfl, hts⟩ := (ih u hu (hd.item hu)).1 h
        refine ⟨toString j :: ts, below_below, ?_⟩
        rw [descend?, child?, arrayIndex?_toString]
        simpa [hj] using hts
    · rintro ⟨ts, rfl, h⟩
      cases ts with
      | nil => cases h; exact .inl ⟨below_nil, rfl⟩
      | cons t ts =>
        obtain ⟨u, hu, h⟩ := Option.bind_eq_some_iff.1 h
        obtain ⟨j, hj, hu⟩ := Option.bind_eq_some_iff.1 hu
        rw [arrayIndex?_eq_some] at hj
        have hm := List.mem_of_getElem? hu
        refine .inr ⟨j, u, hu, (ih u hm (hd.item hm)).2 ⟨ts, ?_, h⟩⟩
        rw [hj, Nat.zero_add, index_eq_below, below_below]
        rfl
  | object ms ih =>
    rw [places, List.mem_cons, mem_memberPlaces, Prod.mk.injEq]
    constructor
    · rintro (⟨rfl, rfl⟩ | ⟨k, u, hu, h⟩)
      · exact ⟨[], below_nil.symm, rfl⟩
      · obtain ⟨ts, rfl, hts⟩ := (ih k u hu (hd.member hu)).1 h
        refine ⟨k :: ts, below_below, ?_⟩
        rw [descend?, child?, Members.get?, lookup_of_mem hd.nodup hu]
        exact hts
    · rintro ⟨ts, rfl, h⟩
      cases ts with
      | nil => cases h; exact .inl ⟨below_nil, rfl⟩
      | cons t ts =>
        obtain ⟨u, hu, h⟩ := Option.bind_eq_some_iff.1 h
        have hm := mem_of_lookup hu
        refine .inr ⟨t, u, hm, (ih t u hm (hd.member hm)).2 ⟨ts, ?_, h⟩⟩
        rw [child_eq_below, below_below]
        rfl
  | _ => exact mem_scalar_places fun _ => rfl

/-- The places of a document are its positions with the values found there. -/
theorem mem_places (hd : v.IsDocument) : (q, w) ∈ v.places .root ↔ v.at? q = some w := by
  rw [mem_places_iff hd]
  constructor
  · rintro ⟨ts, rfl, h⟩
    exact h
  · intro h
    exact ⟨q.tokens, rfl, h⟩

theorem child_below_inj {t t' : String} {ts ts' : List String}
    (h : (p.child t).below ts = (p.child t').below ts') : t = t' := by
  rw [child_eq_below, child_eq_below, below_below, below_below] at h
  exact (List.cons.inj (below_injective h)).1

theorem nodup_append_places {l l' : Places} (hl : (l.map (·.1)).Nodup)
    (hl' : (l'.map (·.1)).Nodup) (h : ∀ q w w', (q, w) ∈ l → (q, w') ∈ l' → False) :
    ((l ++ l').map (·.1)).Nodup := by
  rw [List.map_append, List.nodup_append]
  refine ⟨hl, hl', fun q hq q' hq' he => ?_⟩
  obtain ⟨⟨q, w⟩, hw, rfl⟩ := List.mem_map.1 hq
  obtain ⟨⟨q', w'⟩, hw', rfl⟩ := List.mem_map.1 hq'
  cases he
  exact h q w w' hw hw'

theorem nodup_elementPlaces {vs : List Value} (hd : ∀ v ∈ vs, v.IsDocument)
    (ih : ∀ v ∈ vs, ∀ p, ((v.places p).map (·.1)).Nodup) (i : Nat) :
    ((elementPlaces p i vs).map (·.1)).Nodup := by
  induction vs generalizing i with
  | nil => exact List.nodup_nil
  | cons v vs ihv =>
    refine nodup_append_places (ih v (by simp) _)
      (ihv (fun w hw => hd w (by simp [hw])) (fun w hw => ih w (by simp [hw])) (i + 1)) ?_
    intro q w w' hw hw'
    obtain ⟨ts, rfl, -⟩ := (mem_places_iff (hd v (by simp))).1 hw
    obtain ⟨j, u, hj, hw'⟩ := mem_elementPlaces.1 hw'
    obtain ⟨ts', he, -⟩ :=
      (mem_places_iff (hd u (List.mem_cons_of_mem _ (List.mem_of_getElem? hj)))).1 hw'
    have := congrArg arrayIndex? (child_below_inj he)
    rw [arrayIndex?_toString, arrayIndex?_toString, Option.some.injEq] at this
    omega

theorem nodup_memberPlaces {ms : Members} (hn : ms.names.Nodup)
    (hd : ∀ k v, (k, v) ∈ ms → v.IsDocument)
    (ih : ∀ k v, (k, v) ∈ ms → ∀ p, ((v.places p).map (·.1)).Nodup) :
    ((memberPlaces p ms).map (·.1)).Nodup := by
  induction ms with
  | nil => exact List.nodup_nil
  | cons m ms ihm =>
    obtain ⟨k, v⟩ := m
    obtain ⟨hk, hn⟩ := List.nodup_cons.1 hn
    refine nodup_append_places (ih k v (by simp) _) (ihm hn (fun k' w hw => hd k' w (by simp [hw]))
      (fun k' w hw => ih k' w (by simp [hw]))) ?_
    intro q w w' hw hw'
    obtain ⟨ts, rfl, -⟩ := (mem_places_iff (hd k v (by simp))).1 hw
    obtain ⟨k', u, hu, hw'⟩ := mem_memberPlaces.1 hw'
    obtain ⟨ts', he, -⟩ := (mem_places_iff (hd k' u (by simp [hu]))).1 hw'
    rw [child_below_inj he] at hk
    exact hk (List.mem_map.2 ⟨_, hu, rfl⟩)

theorem ne_of_mem_child_places (hd : v.IsDocument) (h : (q, w) ∈ v.places (p.child t)) : q ≠ p := by
  rintro rfl
  obtain ⟨ts, he, -⟩ := (mem_places_iff hd).1 h
  have := congrArg (fun p : Pointer => p.tokens.length) he
  simp [Pointer.below, Pointer.child] at this

/-- No position is listed twice. -/
theorem nodup_places (hd : v.IsDocument) (p : Pointer) : ((v.places p).map (·.1)).Nodup := by
  induction v using Value.induction generalizing p with
  | array vs ih =>
    refine List.nodup_cons.2 ⟨fun h => ?_, nodup_elementPlaces (fun v hv => hd.item hv)
      (fun v hv p => ih v hv (hd.item hv) p) 0⟩
    obtain ⟨⟨q, w⟩, hw, rfl⟩ := List.mem_map.1 h
    obtain ⟨j, u, hj, hw⟩ := mem_elementPlaces.1 hw
    exact ne_of_mem_child_places (hd.item (List.mem_of_getElem? hj)) hw rfl
  | object ms ih =>
    refine List.nodup_cons.2 ⟨fun h => ?_, nodup_memberPlaces hd.nodup (fun k v hv => hd.member hv)
      (fun k v hv p => ih k v hv (hd.member hv) p)⟩
    obtain ⟨⟨q, w⟩, hw, rfl⟩ := List.mem_map.1 h
    obtain ⟨k, u, hu, hw⟩ := mem_memberPlaces.1 hw
    exact ne_of_mem_child_places (hd.member hu) hw rfl
  | _ => exact List.nodup_singleton p

end Value
end JsonSchema
