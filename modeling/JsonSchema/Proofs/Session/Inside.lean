import JsonSchema.Proofs.Recogniser
import JsonSchema.Proofs.Sentences
import JsonSchema.Proofs.Session.Composition
/-!
# Events inside the value of a session

The events of a value that is a part of a session's own value reach only the children for that part
and the digest of the current element (`decides_inside`): the session passes them on, counts, and
fails if one of those children does. Which events these are depends on the counters alone
(`Inside`), and the events of a whole value leave the counters as they were (`inside_events`).
-/

namespace JsonSchema

/-- The events that belong to the aggregate around them and not to one of its entries. -/
def Event.ofAggregate : Event → Bool
  | .element | .endArray | .key _ | .member | .endObject => true
  | _ => false

namespace Session

variable {g : Graph} {s b : Session} {e : Event} {es fs : List Event} {counts : List Nat}

/-- Sessions as machines. -/
def machine (g : Graph) : Recogniser Event Session where
  feed s e := s.feed g e
  matched := matched
  failed _ h := matched_feed_of_failed h

/-! ### Where events belong -/

theorem countsAfter_key (k : String) : countsAfter counts (.key k) = counts := rfl

/-- An event belongs to a part of the value, not to the value itself. -/
def Inner (counts : List Nat) (e : Event) : Prop :=
  e.isBinary = false ∧ counts ≠ [] ∧ (e.ofAggregate = true → counts.length ≠ 1)

/-- All of some events belong to a part of the value. -/
def Inside : List Nat → List Event → Prop
  | _, [] => True
  | counts, e :: es => Inner counts e ∧ Inside (countsAfter counts e) es

theorem inside_append :
    Inside counts (es ++ fs) ↔ Inside counts es ∧ Inside (es.foldl countsAfter counts) fs := by
  induction es generalizing counts with
  | nil => simp [Inside]
  | cons e es ih => simp only [List.cons_append, Inside, ih, List.foldl_cons, and_assoc]

/-- Some events close what they open, and belong to a part of the value if they begin inside it. -/
def Enclosed (es : List Event) : Prop :=
  ∀ counts, (counts ≠ [] → Inside counts es) ∧ es.foldl countsAfter counts = counts

section Aggregates

variable {l : List (List Event)} {m : List (String × List Event)}

theorem counts_elements (h : ∀ es ∈ l, Enclosed es) (n : Nat) :
    (Event.elements l).foldl countsAfter (n :: counts) = (n + l.length) :: counts := by
  induction l generalizing n with
  | nil => rfl
  | cons es l ih =>
    obtain ⟨hes, hl⟩ := List.forall_mem_cons.1 h
    rw [Event.elements_cons, List.foldl_append, (hes _).2, List.foldl_cons]
    refine (ih hl (n + 1)).trans ?_
    rw [List.length_cons, Nat.add_right_comm, Nat.add_assoc]

theorem inside_elements (h : ∀ es ∈ l, Enclosed es) (hc : counts ≠ []) (n : Nat) :
    Inside (n :: counts) (Event.elements l) := by
  induction l generalizing n with
  | nil => exact trivial
  | cons es l ih =>
    obtain ⟨hes, hl⟩ := List.forall_mem_cons.1 h
    rw [Event.elements_cons, inside_append, (hes _).2]
    exact ⟨(hes _).1 (by simp), ⟨rfl, by simp, fun _ => by simpa using hc⟩, ih hl (n + 1)⟩

theorem enclosed_array (h : ∀ es ∈ l, Enclosed es) :
    Enclosed (.beginArray :: Event.elements l ++ [.endArray]) := by
  intro counts
  have tail : (Event.elements l).foldl countsAfter (0 :: counts) = (0 + l.length) :: counts :=
    counts_elements h 0
  rw [List.cons_append, List.foldl_cons, List.foldl_append, countsAfter, tail]
  refine ⟨fun hc => ⟨⟨rfl, hc, by simp [Event.ofAggregate]⟩, ?_⟩, rfl⟩
  rw [countsAfter, inside_append, tail]
  exact ⟨inside_elements h hc 0, ⟨rfl, by simp, fun _ => by simpa using hc⟩, trivial⟩

theorem counts_members (h : ∀ p ∈ m, Enclosed p.2) (n : Nat) :
    (Event.members m).foldl countsAfter (n :: counts) = (n + m.length) :: counts := by
  induction m generalizing n with
  | nil => rfl
  | cons p m ih =>
    obtain ⟨hp, hm⟩ := List.forall_mem_cons.1 h
    rw [Event.members_cons, List.foldl_cons, List.foldl_append, countsAfter_key, (hp _).2,
      List.foldl_cons]
    refine (ih hm (n + 1)).trans ?_
    rw [List.length_cons, Nat.add_right_comm, Nat.add_assoc]

theorem inside_members (h : ∀ p ∈ m, Enclosed p.2) (hc : counts ≠ []) (n : Nat) :
    Inside (n :: counts) (Event.members m) := by
  have inner : ∀ e : Event, e.isBinary = false → ∀ n, Inner (n :: counts) e :=
    fun e he n => ⟨he, by simp, fun _ => by simpa using hc⟩
  induction m generalizing n with
  | nil => exact trivial
  | cons p m ih =>
    obtain ⟨hp, hm⟩ := List.forall_mem_cons.1 h
    rw [Event.members_cons]
    refine ⟨inner _ rfl n, ?_⟩
    rw [countsAfter_key, inside_append, (hp _).2]
    exact ⟨(hp _).1 (by simp), inner _ rfl n, ih hm (n + 1)⟩

theorem enclosed_object (h : ∀ p ∈ m, Enclosed p.2) :
    Enclosed (.beginObject :: Event.members m ++ [.endObject]) := by
  intro counts
  have tail : (Event.members m).foldl countsAfter (0 :: counts) = (0 + m.length) :: counts :=
    counts_members h 0
  rw [List.cons_append, List.foldl_cons, List.foldl_append, countsAfter, tail]
  refine ⟨fun hc => ⟨⟨rfl, hc, by simp [Event.ofAggregate]⟩, ?_⟩, rfl⟩
  rw [countsAfter, inside_append, tail]
  exact ⟨inside_members h hc 0, ⟨rfl, by simp, fun _ => by simpa using hc⟩, trivial⟩

end Aggregates

theorem ofAggregate_of_isScalar (h : e.IsScalar) : e.ofAggregate = false := by
  cases e with
  | element | endArray | key | member | endObject => cases h
  | _ => rfl

theorem countsAfter_of_isScalar (h : e.IsScalar) (counts : List Nat) :
    countsAfter counts e = counts := by
  cases e with
  | null | boolean | number | string | binary => rfl
  | _ => cases h

theorem enclosed_scalar (hs : e.IsScalar) (hb : e.isBinary = false) : Enclosed [e] := by
  have own := ofAggregate_of_isScalar hs
  exact fun counts =>
    ⟨fun hc => ⟨⟨hb, hc, by simp [own]⟩, trivial⟩, countsAfter_of_isScalar hs counts⟩

/-- What a session sees of a sentence is enclosed. -/
theorem enclosed_filter (h : Sentence es) : Enclosed (es.filter fun e => !e.isBinary) := by
  induction h with
  | @scalar e hs =>
    cases hb : e.isBinary with
    | true =>
      rw [List.filter_cons_of_neg (by simp [hb])]
      exact fun counts => ⟨fun _ => trivial, rfl⟩
    | false =>
      rw [List.filter_cons_of_pos (by simp [hb])]
      exact enclosed_scalar hs hb
  | @array l _ ih =>
    rw [List.cons_append, List.filter_cons_of_pos rfl, List.filter_append,
      Event.filter_elements rfl]
    exact enclosed_array (List.forall_mem_map.2 ih)
  | @object m _ ih =>
    rw [List.cons_append, List.filter_cons_of_pos rfl, List.filter_append,
      Event.filter_members (fun _ => rfl) rfl]
    exact enclosed_object (List.forall_mem_map.2 ih)

theorem isBinary_of_mem_events {v : Value} : ∀ e ∈ v.events, e.isBinary = false := by
  induction v using Value.induction with
  | array vs ih =>
    have inside := (Event.forall_elements_iff (P := fun e => e.isBinary = false) rfl).2
      (List.forall_mem_map.2 ih)
    simpa [Value.events, Value.elementEvents_eq, Event.isBinary, or_imp, forall_and] using inside
  | object ms ih =>
    have values : ∀ p ∈ ms.map fun m => (m.1, m.2.events), ∀ e ∈ p.2, e.isBinary = false :=
      List.forall_mem_map.2 fun (m : String × Value) hm => ih m.1 m.2 hm
    have inside := (Event.forall_members_iff (P := fun e => e.isBinary = false) (fun _ => rfl)
      rfl).2 values
    simpa [Value.events, Value.memberEvents_eq, Event.isBinary, or_imp, forall_and] using inside
  | _ => simp [Value.events, Event.isBinary]

/-- The events of a value are enclosed, whatever the value is. -/
theorem enclosed_events (v : Value) : Enclosed v.events := by
  have seen : (v.events.filter fun e => !e.isBinary) = v.events :=
    List.filter_eq_self.2 fun e he => by rw [isBinary_of_mem_events e he]; rfl
  rw [← seen]
  exact enclosed_filter v.sentence_events

/-! ### One event -/

/-- The session after events inside its value, if it does not fail with a child. -/
def passOn (g : Graph) (es : List Event) (s : Session) : Session :=
  { s with
    counts := es.foldl countsAfter s.counts
    children := { s.children with
      item := s.children.item.map fun c => c.feedAll g es
      properties := s.children.properties.map fun c => c.feedAll g es }
    unique := s.unique.map fun u => { u with current := u.current.feedAll es } }

/-- No child for a part of the value has failed. -/
def partsOk (s : Session) : Bool :=
  s.children.item.all (·.matched) && s.children.properties.all (·.matched)

theorem require_of_matched (h : s.matched = true) {ok : Bool} (hok : ok = true) :
    s.require ok = s := by
  cases s; simp_all [require]

theorem close_of_not_own (h : s.inOwn = false) : s.close g e = s := by
  unfold close
  rw [h, Bool.and_false, if_neg (by simp)]

theorem prepare_inner (hb : Bare b) (hm : b.matched = true) (hi : Inner b.counts e) :
    b.prepare g e = b := by
  obtain ⟨-, hc, ho⟩ := hi
  have hk : b.checkKind e = b := require_of_matched hm (by simp [atTop, hc])
  rw [prepare, hk, prune_of_no_enumeration hb.enumeration]
  cases ha : e.ofAggregate with
  | true => exact close_of_not_own (by simpa [inOwn] using ho ha)
  | false =>
    unfold close
    cases e <;> first | exact ite_self b | cases ha

theorem digest_of_none (h : s.unique = none) : s.digest e = s := by
  unfold digest
  split
  · cases s; simp_all
  · rfl

theorem openArray_of_not_top (h : s.atTop = false) : s.openArray = s.digest .beginArray := by
  cases hu : s.unique with
  | none =>
    rw [openArray, digest_of_none hu, h]
    split
    · cases s; simp_all
    · rfl
  | some u => simp [openArray, hu]

theorem closeElement_of_not_own (h : s.inOwn = false) : s.closeElement = s.digest .element := by
  cases hu : s.unique with
  | none => rw [digest_of_none hu, closeElement, hu]
  | some u => simp [closeElement, hu, h]

theorem conclude_inner (hm : s.matched = true) (hi : Inner s.counts e) :
    s.conclude g e = (s.digest e).tally e := by
  obtain ⟨hb, hc, ho⟩ := hi
  have top : s.atTop = false := by simpa [atTop] using hc
  have scalar : ∀ ok, s.require (!s.atTop || ok) = s :=
    fun ok => require_of_matched hm (by rw [top]; rfl)
  have own : e.ofAggregate = true → s.inOwn = false := fun he => by simpa [inOwn] using ho he
  have frame : (s.digest e).frame = s.frame := frame_digest
  have counts : (s.digest e).counts = s.counts := congrArg (·.2.2) frame
  have matched : ∀ ok, (s.digest e).require (!false || ok) = s.digest e :=
    fun ok => require_of_matched (by simp [digest, hm]) rfl
  cases e with
  | beginArray =>
    have top' : (s.digest .beginArray).atTop = false := by rw [atTop, counts]; exact top
    simp only [conclude, openArray_of_not_top top, top', Bool.and_false]
    rfl
  | element =>
    have own' : ((s.digest .element).tally .element).inOwn = false := by
      obtain ⟨n, ns, hn⟩ := List.exists_cons_of_ne_nil hc
      have hl : s.counts.length ≠ 1 := ho rfl
      rw [hn] at hl
      simpa [inOwn, tally, counts, hn, countsAfter] using hl
    simp only [conclude, closeElement_of_not_own (own rfl), own', Bool.and_false]
    rfl
  | endArray =>
    have own' : (s.digest .endArray).inOwn = false := by rw [inOwn, counts]; exact own rfl
    simp only [conclude, own rfl, own', matched, Bool.false_eq_true, if_false]
  | key k =>
    have own' : (s.digest (.key k)).inOwn = false := by rw [inOwn, counts]; exact own rfl
    rw [tally_eq_self rfl]
    simp only [conclude, own', Bool.and_false]
    rfl
  | endObject =>
    have own' : (s.digest .endObject).inOwn = false := by rw [inOwn, counts]; exact own rfl
    simp only [conclude, own', matched]
  | beginObject => rfl
  | member => rfl
  | binary => cases hb
  | _ =>
    rw [tally_eq_self rfl]
    exact congrArg (digest _) (scalar _)

theorem delegate_inner (hb : Bare b) (hm : b.matched = true) :
    (b.delegate g e).matched = (b.passOn g [e]).partsOk ∧
      ((b.passOn g [e]).partsOk = true → ((b.delegate g e).digest e).tally e = b.passOn g [e]) := by
  obtain ⟨h1, h2, h3, h4, h5⟩ := hb.branches
  have holds : (b.children.map (feed g e)).holds = (b.passOn g [e]).partsOk := by
    simp only [Children.holds, Children.map, partsOk, passOn, h1, h2, h3, List.map_nil,
      List.all_nil, List.isEmpty_nil, Bool.true_or, Bool.and_true]
    rfl
  have pruned : (b.children.map (feed g e)).pruned = (b.passOn g [e]).children := by
    cases hc : b.children
    simp_all [Children.map, Children.pruned, passOn, feedAll]
  rw [delegate, matched_absorb, hm, Bool.true_and, holds]
  refine ⟨rfl, fun hp => ?_⟩
  rw [absorb_of_holds hm (holds.trans hp), pruned, digest, if_pos hm]
  rfl

theorem decides_inner (hb : Bare b) (ht : b.touched = true) (hm : b.matched = true)
    (hi : Inner b.counts e) :
    (machine g).Decides b [e] ((b.passOn g [e]).partsOk = true) (b.passOn g [e]) := by
  have run : (machine g).run b [e] = (b.delegate g e).conclude g e := by
    show b.feed g e = _
    rw [feed_eq g hi.1, touch_of_touched ht, prepare_inner hb hm hi]
  have counts : (b.delegate g e).counts = b.counts := congrArg (·.2.2) frame_delegate
  obtain ⟨matched, passed⟩ := delegate_inner (g := g) (e := e) hb hm
  constructor
  · intro hp
    rw [run, conclude_inner (matched.trans hp) (by rwa [counts]), passed hp]
  · intro hp
    have hf : (b.delegate g e).matched = false := by rw [matched]; simpa using hp
    rw [run, conclude_of_failed hf]
    exact hf

/-! ### Sequences of events -/

theorem passOn_cons : (b.passOn g [e]).passOn g es = b.passOn g (e :: es) := by
  simp only [passOn, Option.map_map, List.map_map]
  rfl

theorem passOn_nil : b.passOn g [] = b := by
  obtain ⟨_, _, _, _, _, ⟨_, _, _, _, _, _, _⟩, _, unique⟩ := b
  simp only [passOn, feedAll, Hasher.feedAll, List.foldl_nil, Option.map_id', List.map_id']

/-- A child that has failed inside a value has failed at its end. -/
theorem partsOk_of_passOn (h : (b.passOn g es).partsOk = true) : b.partsOk = true := by
  simp only [partsOk, passOn, Bool.and_eq_true, Option.all_map, List.all_map, Option.all_eq_true,
    List.all_eq_true] at h ⊢
  exact ⟨fun c hc => matched_of_feedAll (h.1 c hc), fun c hc => matched_of_feedAll (h.2 c hc)⟩

theorem Bare.passOn (hb : Bare b) : Bare (b.passOn g es) :=
  ⟨hb.enumeration, hb.composition, hb.candidates, hb.branches.allOf, hb.branches.anyOf,
    hb.branches.oneOf, hb.branches.not, hb.branches.dependencies⟩

/-- Events inside the value of a bare session reach the children for the part that they belong to
and the digest, and nothing else. -/
theorem decides_inside (hb : Bare b) (ht : b.touched = true) (hm : b.matched = true)
    (hp : b.partsOk = true) (hi : Inside b.counts es) :
    (machine g).Decides b es ((b.passOn g es).partsOk = true) (b.passOn g es) := by
  induction es generalizing b with
  | nil =>
    rw [passOn_nil]
    exact .nil hp
  | cons e es ih =>
    have first := decides_inner (g := g) hb ht hm hi.1
    have rest := fun hp' => ih (b := b.passOn g [e]) hb.passOn ht hm hp' hi.2
    rw [passOn_cons] at rest
    refine (first.cons rest).congr ⟨And.right, fun h => ⟨?_, h⟩⟩
    rw [← passOn_cons] at h
    exact partsOk_of_passOn h

end Session
end JsonSchema
