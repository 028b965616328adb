import JsonSchema.Proofs.Satisfaction
import JsonSchema.Proofs.Session.Inside
/-!
# Arrays and the bare session

Between two elements of its value the session of a bare node is determined by the number of elements
closed and by their digests (`inArray`). An element takes it on if the schema for its place accepts
it and its digest is new (`decides_element`), so the events of an array pass exactly if that holds of
every element and the keywords about the whole array hold (`decides_array`).
-/

namespace JsonSchema.Session

variable {g : Graph} {n : Node NodeId} {s b : Session} {e : Event}

/-- The session on a node accepts a value. -/
def Accepts (g : Graph) (m : NodeId) (w : Value) : Prop :=
  ((start g m).feedAll g w.events).verdict g = true

/-! ### Single steps of a bare session -/

theorem delegate_of_empty (h : s.children = .empty) : s.delegate g e = s := by
  cases hm : s.matched with
  | false => rw [delegate, absorb_of_failed hm]
  | true =>
    have holds : (s.children.map (feed g e)).holds = true := by rw [h]; rfl
    have pruned : (s.children.map (feed g e)).pruned = s.children := by rw [h]; rfl
    rw [delegate, absorb_of_holds hm holds, pruned]
    cases s; rfl

theorem prepare_own (hb : Bare b) (hm : b.matched = true) (hc : b.counts ≠ []) :
    b.prepare g e = b.close g e := by
  have hk : b.checkKind e = b := require_of_matched hm (by simp [atTop, hc])
  rw [prepare, hk, prune_of_no_enumeration hb.enumeration]

theorem prepare_top (hb : Bare b) (hc : b.counts = []) : b.prepare g e = b.checkKind e := by
  have own : (b.checkKind e).inOwn = false := by simp [inOwn, checkKind, require, hc]
  have hk : (b.checkKind e).node.enumeration = none := hb.enumeration
  rw [prepare, prune_of_no_enumeration hk, close_of_not_own own]

theorem feed_of_prepare (he : e.isBinary = false) (ht : b.touched = true)
    (h : (b.prepare g e).children = .empty) : b.feed g e = (b.prepare g e).conclude g e := by
  rw [feed_eq g he, touch_of_touched ht, delegate_of_empty h]

theorem matched_feed_of_prepare (he : e.isBinary = false) (ht : b.touched = true)
    (h : (b.prepare g e).matched = false) : (b.feed g e).matched = false := by
  rw [feed_eq g he, touch_of_touched ht, delegate, absorb_of_failed h, conclude_of_failed h]
  exact h

theorem bare_core : Bare (core n) := ⟨rfl, rfl, rfl, rfl, rfl, rfl, rfl, rfl⟩

/-! ### Between the elements -/

/-- The digests of elements, if they have to be distinct. -/
def seen (n : Node NodeId) (ds : List Digest) : Option UniqueItems :=
  if n.array.uniqueItems then some ⟨.empty, ds⟩ else none

/-- The session of the bare node before the element at an index. -/
def inArray (g : Graph) (n : Node NodeId) (i : Nat) (ds : List Digest) : Session :=
  { core n with
    counts := [i]
    children := { Children.empty with item := itemAt g n.array i }
    unique := seen n ds }

theorem decides_beginArray :
    (machine g).Decides (core n) [.beginArray] (kindOk n .beginArray = true) (inArray g n 0 []) := by
  have hp : (core n).prepare g .beginArray = (core n).require (kindOk n .beginArray) :=
    prepare_top bare_core rfl
  constructor
  · intro hk
    have : (core n).require (kindOk n .beginArray) = core n := require_of_matched rfl hk
    show (core n).feed g .beginArray = _
    rw [feed_of_prepare rfl rfl (by rw [hp, this]; rfl), hp, this]
    rfl
  · intro hk
    refine matched_feed_of_prepare rfl rfl ?_
    rw [hp]
    exact Bool.eq_false_iff.2 hk

theorem itemAt_eq_some_iff {r : ArrayRules NodeId} {i : Nat} {c : Session} :
    itemAt g r i = some c ↔ ∃ m, r.Applies i m ∧ c = start g m := by
  unfold itemAt ArrayRules.Applies
  cases hr : r.items with
  | none => simp
  | some items =>
    cases items with
    | uniform m => simp [eq_comm]
    | tuple ms =>
      cases hi : ms[i]? with
      | some m =>
        have : i < ms.length := (List.getElem?_eq_some_iff.1 hi).1
        simp [hi, eq_comm, Nat.not_le.2 this]
      | none =>
        have : ms.length ≤ i := List.getElem?_eq_none_iff.1 hi
        cases ha : r.additional with
        | none => simp [hi]
        | some a => cases a <;> simp [this, eq_comm]

theorem events_ne_nil (v : Value) : v.events ≠ [] := by cases v <;> simp [Value.events]

/-! ### The end of an element -/

section Element

variable {es : List Event} (i : Nat) (ds : List Digest)

/-- The sessions on the schemas that apply to the element at an index accept what events describe.
Without any event there is no value to accept. -/
def ItemPasses (g : Graph) (n : Node NodeId) (i : Nat) (es : List Event) : Prop :=
  ∀ m, n.array.Applies i m → es ≠ [] → ((start g m).feedAll g es).verdict g = true

theorem itemPasses_events {w : Value} :
    ItemPasses g n i w.events ↔ ∀ m, n.array.Applies i m → Accepts g m w :=
  forall₂_congr fun _ _ => ⟨fun h => h (events_ne_nil w), fun h _ => h⟩

/-- The session of the bare node after an element, before its digest is looked at. -/
def afterElement (es : List Event) (i : Nat) (ds : List Digest) (n : Node NodeId) : Session :=
  { core n with
    counts := [i]
    unique := (seen n ds).map fun u => { u with current := u.current.feedAll es } }

theorem prepare_element (he : Enclosed es) :
    ((inArray g n i ds).passOn g es).prepare g .element =
      ((inArray g n i ds).passOn g es).closeItem g := by
  have counts : ((inArray g n i ds).passOn g es).counts = [i] := (he [i]).2
  rw [prepare_own ⟨rfl, rfl, rfl, rfl, rfl, rfl, rfl, rfl⟩ rfl (by simp [counts])]
  unfold close
  rw [inOwn, counts]
  rfl

theorem item_passOn_iff : ((inArray g n i ds).passOn g es).children.item.all
    (fun c => !c.touched || c.verdict g) = true ↔ ItemPasses g n i es := by
  have touched : ∀ m, ((start g m).feedAll g es).touched = true ↔ es ≠ [] := by
    refine fun m => ⟨?_, touched_feedAll⟩
    rintro h rfl
    cases h
  simp only [passOn, inArray, Option.all_map, Option.all_eq_true, itemAt_eq_some_iff,
    Bool.or_eq_true, Bool.not_eq_true']
  constructor
  · intro h m hm hes
    refine (h _ ⟨m, hm, rfl⟩).resolve_left fun ht => ?_
    cases ht.symm.trans ((touched m).2 hes)
  · rintro h _ ⟨m, hm, rfl⟩
    refine (Decidable.em (es = [])).imp (fun hes => ?_) (h m hm)
    exact Bool.eq_false_iff.2 fun ht => (touched m).1 ht hes

theorem closeItem_passOn (he : Enclosed es) (h : ItemPasses g n i es) :
    ((inArray g n i ds).passOn g es).closeItem g = afterElement es i ds n := by
  have counts : ((inArray g n i ds).passOn g es).counts = [i] := (he [i]).2
  rw [closeItem, (item_passOn_iff i ds).2 h, counts]
  rfl

theorem closeElement_afterElement (h : n.array.uniqueItems = true) :
    (afterElement es i ds n).closeElement =
      if ds.contains (Event.digest es) then
        { core n with counts := [i], unique := some ⟨.empty, ds⟩, matched := false }
      else { core n with counts := [i], unique := some ⟨.empty, Event.digest es :: ds⟩ } := by
  rw [afterElement, seen, if_pos h]
  rfl

theorem conclude_afterElement (h : n.array.uniqueItems = true → Event.digest es ∉ ds) :
    (afterElement es i ds n).conclude g .element =
      inArray g n (i + 1) (Event.digest es :: ds) := by
  cases hu : n.array.uniqueItems with
  | false =>
    simp only [afterElement, inArray, seen, hu, Bool.false_eq_true, if_false, Option.map_none]
    rfl
  | true =>
    have new : ds.contains (Event.digest es) = false := by simpa using h hu
    rw [conclude, closeElement_afterElement i ds hu, new]
    simp only [inArray, seen, hu, if_true]
    rfl

theorem matched_conclude_afterElement (h : ¬(n.array.uniqueItems = true → Event.digest es ∉ ds)) :
    ((afterElement es i ds n).conclude g .element).matched = false := by
  obtain ⟨hu, hd⟩ := Classical.not_imp.1 h
  have old : ds.contains (Event.digest es) = true := by simpa using hd
  rw [conclude, closeElement_afterElement i ds hu, old]
  rfl

theorem decides_closeElement (he : Enclosed es) :
    (machine g).Decides ((inArray g n i ds).passOn g es) [.element]
      (ItemPasses g n i es ∧ (n.array.uniqueItems = true → Event.digest es ∉ ds))
      (inArray g n (i + 1) (Event.digest es :: ds)) := by
  by_cases hi : ItemPasses g n i es
  · -- the children are as before the array now, and the digest decides
    have run : (machine g).run ((inArray g n i ds).passOn g es) [.element] =
        (afterElement es i ds n).conclude g .element := by
      show ((inArray g n i ds).passOn g es).feed g .element = _
      rw [feed_of_prepare rfl rfl (by rw [prepare_element i ds he, closeItem_passOn i ds he hi]; rfl),
        prepare_element i ds he, closeItem_passOn i ds he hi]
    constructor
    · rintro ⟨-, hd⟩
      rw [run, conclude_afterElement i ds hd]
    · intro h
      rw [run]
      exact matched_conclude_afterElement i ds fun hd => h ⟨hi, hd⟩
  · refine ⟨fun h => absurd h.1 hi, fun _ => matched_feed_of_prepare rfl rfl ?_⟩
    rw [prepare_element i ds he]
    exact Bool.eq_false_iff.2 fun h =>
      hi ((item_passOn_iff i ds).1 (Bool.and_eq_true_iff (x := true).1 h).2)

theorem decides_element (he : Enclosed es) :
    (machine g).Decides (inArray g n i ds) (es ++ [.element])
      (ItemPasses g n i es ∧ (n.array.uniqueItems = true → Event.digest es ∉ ds))
      (inArray g n (i + 1) (Event.digest es :: ds)) := by
  have started : ∀ c, itemAt g n.array i = some c → c.matched = true := fun c hc => by
    obtain ⟨m, -, rfl⟩ := itemAt_eq_some_iff.1 hc
    rfl
  have partsOk : (inArray g n i ds).partsOk = true := by
    rw [Session.partsOk, Bool.and_eq_true, Option.all_eq_true]
    exact ⟨started, rfl⟩
  have inside := decides_inside (g := g) (b := inArray g n i ds)
    ⟨rfl, rfl, rfl, rfl, rfl, rfl, rfl, rfl⟩ rfl rfl partsOk ((he [i]).1 (by simp))
  refine (inside.append fun _ => decides_closeElement i ds he).congr ⟨And.right, fun h => ⟨?_, h⟩⟩
  rw [Session.partsOk, Bool.and_eq_true]
  refine ⟨?_, rfl⟩
  simp only [passOn, inArray, Option.all_map, Option.all_eq_true, itemAt_eq_some_iff]
  rintro c ⟨m, hm, rfl⟩
  cases es with
  | nil => rfl
  | cons e es => exact matched_of_verdict (h.1 m hm (by simp))

end Element

theorem decides_endArray (i : Nat) (ds : List Digest) :
    (machine g).Decides (inArray g n i ds) [.endArray]
      (tupleOk n.array i = true ∧ sizeOk n.array i = true) { core n with unique := seen n ds } := by
  have item : (inArray g n i ds).children.item.all (fun c => !c.touched || c.verdict g) = true := by
    simp only [inArray, Option.all_eq_true, itemAt_eq_some_iff]
    rintro c ⟨m, -, rfl⟩
    rfl
  have hc : (inArray g n i ds).closeItem g =
      { core n with counts := [i], unique := seen n ds } := by
    rw [closeItem, item]
    rfl
  have hp : (inArray g n i ds).prepare g .endArray =
      ({ core n with counts := [i], unique := seen n ds } : Session).require (tupleOk n.array i) := by
    rw [prepare_own ⟨rfl, rfl, rfl, rfl, rfl, rfl, rfl, rfl⟩ rfl (by simp [inArray]), close, hc]
    rfl
  have run : (machine g).run (inArray g n i ds) [.endArray] =
      ((inArray g n i ds).prepare g .endArray).conclude g .endArray := by
    show (inArray g n i ds).feed g .endArray = _
    rw [feed_of_prepare rfl rfl (by rw [hp]; rfl)]
  have closed : (machine g).run (inArray g n i ds) [.endArray] = { core n with
      matched := tupleOk n.array i && sizeOk n.array i, unique := seen n ds } := by
    rw [run, hp]
    rfl
  constructor
  · rintro ⟨ht, hs⟩
    rw [closed, ht, hs]
    rfl
  · intro h
    rw [closed]
    simpa [machine] using h

/-! ### Whole arrays -/

theorem decides_elements {l : List (List Event)} (hl : ∀ es ∈ l, Enclosed es) (i : Nat)
    (ds : List Digest) :
    (machine g).Decides (inArray g n i ds) (Event.elements l)
      ((∀ j es, l[j]? = some es → ItemPasses g n (i + j) es) ∧
        (n.array.uniqueItems = true →
          (l.map Event.digest).Nodup ∧ ∀ es ∈ l, Event.digest es ∉ ds))
      (inArray g n (i + l.length) ((l.map Event.digest).reverse ++ ds)) := by
  induction l generalizing i ds with
  | nil => exact .nil ⟨by simp, by simp⟩
  | cons es l ih =>
    obtain ⟨he, hl⟩ := List.forall_mem_cons.1 hl
    have split : Event.elements (es :: l) = es ++ [.element] ++ Event.elements l := by
      simp [Event.elements]
    have last : inArray g n (i + 1 + l.length)
        ((l.map Event.digest).reverse ++ Event.digest es :: ds) =
        inArray g n (i + (es :: l).length) (((es :: l).map Event.digest).reverse ++ ds) := by
      simp [Nat.add_assoc, Nat.add_comm 1]
    rw [split, ← last]
    refine ((decides_element i ds he).append fun _ => ih hl (i + 1) (Event.digest es :: ds)).congr ?_
    constructor
    · rintro ⟨⟨hv, hd⟩, hvs, hds⟩
      refine ⟨fun j fs hfs => ?_, fun hu => ⟨?_, ?_⟩⟩
      · cases j with
        | zero => cases hfs; exact hv
        | succ j => rw [show i + (j + 1) = i + 1 + j by omega]; exact hvs j fs hfs
      · refine List.nodup_cons.2 ⟨fun h => ?_, (hds hu).1⟩
        obtain ⟨fs, hfs, he⟩ := List.mem_map.1 h
        exact (hds hu).2 fs hfs (by simp [he])
      · refine List.forall_mem_cons.2 ⟨hd hu, fun fs hfs h => ?_⟩
        exact (hds hu).2 fs hfs (List.mem_cons_of_mem _ h)
    · rintro ⟨hvs, hds⟩
      refine ⟨⟨hvs 0 es rfl, fun hu => (hds hu).2 es (by simp)⟩, fun j fs hfs => ?_, fun hu => ?_⟩
      · rw [show i + 1 + j = i + (j + 1) by omega]
        exact hvs (j + 1) fs hfs
      · obtain ⟨hv, hd⟩ := List.nodup_cons.1 (hds hu).1
        refine ⟨hd, fun fs hfs h => ?_⟩
        rcases List.mem_cons.1 h with he | h
        · exact hv (he ▸ List.mem_map_of_mem hfs)
        · exact (hds hu).2 fs (by simp [hfs]) h

/-- The events of an array pass the bare session exactly if the sessions for its elements accept
them, no digest is repeated where that matters, and its length is admitted. -/
theorem decides_arrayEvents {l : List (List Event)} (hl : ∀ es ∈ l, Enclosed es) :
    (machine g).Decides (core n) (.beginArray :: Event.elements l ++ [.endArray])
      (kindOk n .beginArray = true ∧ (∀ j es, l[j]? = some es → ItemPasses g n j es) ∧
        (n.array.uniqueItems = true → (l.map Event.digest).Nodup) ∧
        tupleOk n.array l.length = true ∧ sizeOk n.array l.length = true)
      { core n with unique := seen n (l.map Event.digest).reverse } := by
  have elements := decides_elements (g := g) (n := n) hl 0 []
  simp only [Nat.zero_add, List.append_nil, List.not_mem_nil, not_false_iff, implies_true,
    and_true] at elements
  refine (decides_beginArray.cons fun _ =>
    elements.append fun _ => decides_endArray l.length _).congr (and_congr_right fun _ => ?_)
  rw [and_assoc]

theorem tupleOk_iff {r : ArrayRules NodeId} {k : Nat} : tupleOk r k = true ↔
    ∀ ms, r.items = some (.tuple ms) → r.additional = some .forbidden → k ≤ ms.length := by
  unfold tupleOk
  split
  · next ms hi ha => simp [hi, ha]
  · next h =>
    refine ⟨fun _ ms hi ha => absurd ha (h ms hi), fun _ => rfl⟩

theorem admits_array_iff {r : ArrayRules NodeId} {vs : List Value} : r.Admits vs ↔
    (r.uniqueItems = true → (vs.map Value.digest).Nodup) ∧ tupleOk r vs.length = true ∧
      sizeOk r vs.length = true := by
  have size : sizeOk r vs.length = true ↔
      (∀ n ∈ r.maxItems, vs.length ≤ n) ∧ ∀ n ∈ r.minItems, n ≤ vs.length := by
    simp [sizeOk, atMost, atLeast, Option.all_eq_true]
  rw [tupleOk_iff, size]
  constructor
  · rintro ⟨h1, h2, h3, h4⟩
    exact ⟨h4, h1, h2, h3⟩
  · rintro ⟨h4, h1, h2, h3⟩
    exact ⟨h1, h2, h3, h4⟩

/-- The events of an array pass the bare session exactly if the elements satisfy the schemas that
apply to them, and the array the other keywords about arrays. -/
theorem decides_array (vs : List Value) :
    (machine g).Decides (core n) (Value.array vs).events
      (kindOk n .beginArray = true ∧ n.array.Admits vs ∧
        ∀ i w, vs[i]? = some w → ∀ m, n.array.Applies i m → Accepts g m w)
      { core n with unique := seen n (vs.map Value.digest).reverse } := by
  have array := decides_arrayEvents (g := g) (n := n) (l := vs.map Value.events)
    (List.forall_mem_map.2 fun v _ => enclosed_events v)
  have digests : (vs.map Value.events).map Event.digest = vs.map Value.digest := List.map_map
  rw [digests, List.length_map] at array
  rw [Value.events, Value.elementEvents_eq]
  refine array.congr (and_congr_right fun _ => ?_)
  have items : (∀ j es, (vs.map Value.events)[j]? = some es → ItemPasses g n j es) ↔
      ∀ i w, vs[i]? = some w → ∀ m, n.array.Applies i m → Accepts g m w := by
    simp only [List.getElem?_map, Option.map_eq_some_iff, forall_exists_index, and_imp,
      forall_apply_eq_imp_iff₂, itemPasses_events]
  rw [admits_array_iff, items]
  tauto

end JsonSchema.Session
