import Mathlib
import JsonSchema.Proofs.Graph.Build
import JsonSchema.Proofs.Session.Inside
import JsonSchema.Proofs.Session.Placement
import JsonSchema.Proofs.Session.Stages
/-!
# Sessions and the stage of their value

The counters of a session go with the stage of its value: each session counts for itself, and events
that belong to a part of the value add the same above and below (`Step.counts`). Aligned are the
sessions for which this holds at every session below them, as long as none has failed (`Aligned`).
An event of the value itself ends the part before it (`parts_prepare`) and begins the next one,
whose sessions are fresh as its stage is (`after_turn`); an event inside of a part leaves the parts
in place and goes on to them (`after_inward`). So every event leaves sessions aligned
(`Aligned.feed`).
-/

namespace JsonSchema

namespace Stage

open Session (countsAfter Inner countsAfter_of_isScalar ofAggregate_of_isScalar)

variable {p q : Stage} {e : Event}

/-- An element is being described, or is still to come. -/
def InArray (p : Stage) : Prop := ∃ vs c, p = inArray vs c

/-- A member is being described: its name has come, but not its end. -/
def InMember (p : Stage) : Prop := ∃ ms k c, p = inMember ms k c

theorem countsAfter_append {inside outside : List Nat}
    (h : e.ofAggregate = true → inside ≠ []) :
    countsAfter (inside ++ outside) e = countsAfter inside e ++ outside := by
  cases inside with
  | nil =>
    cases e with
    | element | endArray | key | member | endObject => exact absurd rfl (h rfl)
    | _ => rfl
  | cons n inside => cases e <;> rfl

theorem Step.counts_ne_nil (h : Step p e q) (own : e.ofAggregate = true) : p.counts ≠ [] := by
  cases h with
  | turn h =>
    cases h with
    | scalar h =>
      rw [ofAggregate_of_isScalar (isScalar_of_events h).1] at own
      cases own
    | beginArray | beginObject => cases own
    | _ => simp [counts]
  | inArray h => simp [counts]
  | inMember h => simp [counts]

/-- The counters go on as the stages do. -/
theorem Step.counts (h : Step p e q) : q.counts = countsAfter p.counts e := by
  induction h with
  | turn h =>
    cases h with
    | scalar h => exact (countsAfter_of_isScalar (isScalar_of_events h).1 []).symm
    | _ => simp [Stage.counts, countsAfter]
  | inArray h ih =>
    rw [Stage.counts, Stage.counts, countsAfter_append h.counts_ne_nil, ih]
  | inMember h ih =>
    rw [Stage.counts, Stage.counts, countsAfter_append h.counts_ne_nil, ih]

theorem Step.isBinary (h : Step p e q) : e.isBinary = false := by
  induction h with
  | turn h =>
    cases h with
    | scalar h => exact (isScalar_of_events h).2
    | _ => rfl
  | inArray _ ih => exact ih
  | inMember _ ih => exact ih

/-- The part that is being described has one counter less. -/
theorem counts_current (h : p.InArray ∨ p.InMember) : ∃ n, p.counts = p.current.counts ++ [n] := by
  rcases h with ⟨vs, c, rfl⟩ | ⟨ms, k, c, rfl⟩
  · exact ⟨vs.length, rfl⟩
  · exact ⟨ms.length, rfl⟩

theorem Turn.current (h : Turn p e q) : q.current = ahead := by
  cases h <;> rfl

theorem Turn.inArray (h : Turn p e q) (opens : e = .beginArray ∨ e = .element) : q.InArray := by
  cases h with
  | beginArray => exact ⟨_, _, rfl⟩
  | element => exact ⟨_, _, rfl⟩
  | scalar h =>
    have scalar := (isScalar_of_events h).1
    rcases opens with rfl | rfl <;> cases scalar
  | _ => rcases opens with h | h <;> cases h

theorem Turn.inMember {k : String} (h : Turn p (.key k) q) : q.InMember := by
  cases h with
  | key => exact ⟨_, _, _, rfl⟩
  | scalar h => cases (isScalar_of_events h).1

/-- An event of the part that is being described. -/
structure Inward (p : Stage) (e : Event) (q : Stage) : Prop where
  step : Step p.current e q.current
  inArray : p.InArray → q.InArray
  inMember : p.InMember → q.InMember
  inner : Inner p.counts e

theorem Step.turn_or_inward (h : Step p e q) : Turn p e q ∨ Inward p e q := by
  have inner {p q : Stage} (h : Step p e q) (n : Nat) : Inner (p.counts ++ [n]) e := by
    refine ⟨h.isBinary, by simp, fun own => ?_⟩
    have := List.length_pos_of_ne_nil (h.counts_ne_nil own)
    rw [List.length_append, List.length_singleton]
    omega
  cases h with
  | turn h => exact .inl h
  | inArray h =>
    refine .inr ⟨h, fun _ => ⟨_, _, rfl⟩, ?_, inner h _⟩
    rintro ⟨ms, k, c, ⟨⟩⟩
  | inMember h =>
    refine .inr ⟨h, ?_, fun _ => ⟨_, _, _, rfl⟩, inner h _⟩
    rintro ⟨vs, c, ⟨⟩⟩

end Stage

theorem Children.All.pruned {c : Children Session} {P Q : Session → Prop} (h : c.All P Q) :
    c.pruned.All P Q :=
  { h with
    anyOf := fun x hx => h.anyOf x (List.mem_of_mem_filter hx)
    oneOf := fun x hx => h.oneOf x (List.mem_of_mem_filter hx)
    not := fun x hx => h.not x (Option.eq_some_of_filter_eq_some hx)
    dependencies := fun p hp => h.dependencies p (List.mem_of_mem_filter hp) }

namespace Session

open Stage (Turn Inward Step)

variable {g : Graph} {p q : Stage} {s : Session} {e : Event}

/-- There is a child for an element only in an array, and there are children for a member only
between its name and its end. -/
structure Fits (p : Stage) (c : Children Session) : Prop where
  item : c.item ≠ none → p.InArray
  properties : c.properties ≠ [] → p.InMember

theorem Fits.prepare (h : Fits p s.children) : Fits p (s.prepare g e).children := by
  have kept : Fits p ((s.checkKind e).prune e).children := by
    rw [children_prune]
    exact h
  have item : Fits p (((s.checkKind e).prune e).closeItem g).children :=
    { kept with item := absurd rfl }
  unfold Session.prepare close
  split
  · split
    · exact item
    · exact item
    · exact { kept with properties := absurd rfl }
    · exact kept
  · exact kept

/-- The counters of a session are those of a stage of its value. As long as it has not failed, its
branches are at the same stage, and its children for a part of the value at the stage of that
part. -/
inductive Aligned : Stage → Session → Prop
  | intro {p : Stage} {s : Session} (counts : s.counts = p.counts)
      (touched : s.touched = false → p = .ahead)
      (fits : s.matched = true → Fits p s.children)
      (parts : s.matched = true → ∀ c ∈ s.children.parts, Aligned p.current c)
      (branches : s.matched = true → ∀ c ∈ s.children.branches, Aligned p c) : Aligned p s

theorem Aligned.all (h : Aligned p s) (hm : s.matched = true) :
    s.children.All (Aligned p.current) (Aligned p) := by
  obtain ⟨-, -, -, parts, branches⟩ := h
  exact Children.all_iff_forall_mem.2 ⟨parts hm, branches hm⟩

theorem aligned_start (id : NodeId) : Aligned .ahead (start g id) := by
  refine ⟨rfl, fun _ => rfl, fun _ => ⟨absurd rfl, absurd rfl⟩, fun _ => ?_, fun _ => ?_⟩
  · rintro c ⟨⟩
  · rintro c ⟨⟩

theorem Aligned.touch (h : Aligned p s) : Aligned p (s.touch g) := by
  cases ht : s.touched with
  | true => rwa [touch_of_touched ht]
  | false =>
    have fresh := h
    obtain ⟨counts, touched, fits, -, -⟩ := fresh
    obtain rfl := touched ht
    have all (hm : s.matched = true) : (s.touch g).children.All (Aligned .ahead) (Aligned .ahead) :=
      all_touch (h.all hm) fun m _ => aligned_start m
    refine ⟨counts_touch.trans counts, fun _ => rfl, fun hm => ?_, fun hm => ?_, fun hm => ?_⟩
    · rw [matched_touch] at hm
      unfold Session.touch
      split
      · exact fits hm
      · exact ⟨(fits hm).item, (fits hm).properties⟩
    · rw [matched_touch] at hm
      exact (Children.all_iff_forall_mem.1 (all hm)).1
    · rw [matched_touch] at hm
      exact (Children.all_iff_forall_mem.1 (all hm)).2

/-! ### A session that is left matched -/

theorem matched_of_close (h : (s.close g e).matched = true) : s.matched = true := by
  cases hm : s.matched with
  | true => rfl
  | false =>
    rw [close_of_failed hm, hm] at h
    cases h

theorem matched_of_prepare (h : (s.prepare g e).matched = true) : s.matched = true := by
  cases hm : s.matched with
  | true => rfl
  | false =>
    rw [prepare_of_failed hm, hm] at h
    cases h

theorem matched_of_conclude (h : (s.conclude g e).matched = true) : s.matched = true := by
  cases hm : s.matched with
  | true => rfl
  | false =>
    rw [conclude_of_failed hm] at h
    exact absurd (hm.symm.trans h) (by decide)

theorem children_delegate (h : (s.delegate g e).matched = true) : s.matched = true ∧
    (s.delegate g e).children = (s.children.map (feed g e)).pruned := by
  rw [delegate, matched_absorb, Bool.and_eq_true] at h
  rw [delegate, absorb_of_holds h.1 h.2]
  exact ⟨h.1, rfl⟩

theorem all_delegate {P Q : Session → Prop} (hm : (s.delegate g e).matched = true)
    (fed : (s.children.map (feed g e)).All P Q) : (s.delegate g e).children.All P Q := by
  rw [(children_delegate hm).2]
  exact fed.pruned

/-! ### Events of the value itself -/

theorem children_conclude (array : e ≠ .beginArray) (element : e ≠ .element)
    (name : ∀ k, e ≠ .key k) : (s.conclude g e).children = s.children := by
  have digested (t : Session) (ht : t.children = s.children) :
      (t.digest e).children = s.children := (congrArg (·.2) kin_digest).trans ht
  cases e with
  | beginArray => exact absurd rfl array
  | element => exact absurd rfl element
  | key k => exact absurd rfl (name k)
  | endArray =>
    simp only [conclude]
    split
    · rfl
    · exact digested s rfl
  | beginObject | member | endObject => exact digested s rfl
  | _ => exact digested _ rfl

/-- Only where an array or an element in it begins there is a new child for an element. -/
theorem item_conclude (array : e ≠ .beginArray) (element : e ≠ .element) :
    (s.conclude g e).children.item = s.children.item := by
  by_cases name : ∃ k, e = .key k
  · obtain ⟨k, rfl⟩ := name
    have digested : (s.digest (.key k)).children = s.children := congrArg (·.2) kin_digest
    have opened (t : Session) : (t.openMember g k).children.item = t.children.item := by
      unfold openMember
      split <;> rfl
    rw [← digested]
    simp only [conclude, enterMember]
    split
    · split
      · split
        · rfl
        · exact opened _
      · exact opened _
    · rfl
  · rw [children_conclude array element fun k hk => name ⟨k, hk⟩]

/-- Only behind a name there are new children for a member. -/
theorem properties_conclude (name : ∀ k, e ≠ .key k) :
    (s.conclude g e).children.properties = s.children.properties := by
  by_cases array : e = .beginArray
  · subst array
    have opened : s.openArray.children = s.children := congrArg (·.2) kin_openArray
    rw [← opened]
    simp only [conclude]
    split <;> rfl
  by_cases element : e = .element
  · subst element
    have closed : s.closeElement.children = s.children := congrArg (·.2) kin_closeElement
    rw [← closed]
    simp only [conclude]
    split <;> rfl
  · rw [children_conclude array element name]

/-- Ending a part makes none. -/
theorem parts_close_of_nil (h : s.children.parts = []) : (s.close g e).children.parts = [] := by
  unfold close
  split
  · split
    · exact (List.append_eq_nil_iff.1 h).2
    · exact (List.append_eq_nil_iff.1 h).2
    · rw [closeMember, Children.parts, List.append_nil]
      exact (List.append_eq_nil_iff.1 h).1
    · exact h
  · exact h

/-- Before an event of the value itself the part that is being described is ended. -/
theorem parts_prepare (turn : Turn p e q) (counts : s.counts = p.counts)
    (fits : Fits p s.children) (hm : (s.prepare g e).matched = true) :
    (s.prepare g e).children.parts = [] := by
  have item (h : ¬p.InArray) : s.children.item = none := by
    by_contra present
    exact h (fits.item present)
  have properties (h : ¬p.InMember) : s.children.properties = [] := by
    by_contra present
    exact h (fits.properties present)
  -- the checks before leave the counters and the children alone
  generalize hb : (s.checkKind e).prune e = b
  have frame : b.frame = s.frame := by rw [← hb, frame_prune, checkKind, frame_require]
  have children : b.children = s.children := by
    rw [← hb, children_prune]
    rfl
  rw [prepare, hb] at hm ⊢
  have matched := matched_of_close hm
  have none (hi : ¬p.InArray) (hp : ¬p.InMember) : (b.close g e).children.parts = [] := by
    refine parts_close_of_nil ?_
    rw [children, Children.parts, item hi, properties hp]
    rfl
  have own {n : Nat} (hn : p.counts = [n]) : (b.matched && b.inOwn) = true := by
    have : b.counts = [n] := ((congrArg (·.2.2) frame).trans counts).trans hn
    rw [matched, inOwn, this]
    rfl
  cases turn with
  | element =>
    rw [close, if_pos (own rfl), closeItem, Children.parts, children]
    exact properties (by rintro ⟨_, _, _, ⟨⟩⟩)
  | endArray =>
    rw [close, if_pos (own rfl), closeItem, Children.parts, require, children]
    exact properties (by rintro ⟨_, _, _, ⟨⟩⟩)
  | member =>
    rw [close, if_pos (own rfl), closeMember, Children.parts, children, List.append_nil,
      item (by rintro ⟨_, _, ⟨⟩⟩)]
    rfl
  | _ =>
    refine none ?_ ?_
    · rintro ⟨_, _, ⟨⟩⟩
    · rintro ⟨_, _, _, ⟨⟩⟩

/-- An event of the value itself begins the parts that come next, if any. -/
theorem fits_turn (turn : Turn p e q) (parts : s.children.parts = []) :
    Fits q (s.conclude g e).children := by
  obtain ⟨item, properties⟩ := List.append_eq_nil_iff.1 parts
  constructor
  · intro opened
    refine turn.inArray ?_
    by_contra none
    obtain ⟨array, element⟩ := not_or.1 none
    rw [item_conclude array element] at opened
    exact opened (Option.toList_eq_nil_iff.1 item)
  · intro opened
    by_cases name : ∃ k, e = .key k
    · obtain ⟨k, rfl⟩ := name
      exact turn.inMember
    · rw [properties_conclude fun k hk => name ⟨k, hk⟩] at opened
      exact absurd properties opened

theorem after_turn (turn : Turn p e q) (ended : s.children.parts = [])
    (hm : (s.delegate g e).matched = true)
    (branches : ∀ c ∈ s.children.branches, Aligned q (c.feed g e)) :
    Fits q ((s.delegate g e).conclude g e).children ∧
      ((s.delegate g e).conclude g e).children.All (Aligned q.current) (Aligned q) := by
  have parts : (s.delegate g e).children.parts = [] := by
    rw [(children_delegate hm).2]
    show (s.children.map (feed g e)).parts = []
    rw [Children.parts_map, ended, List.map_nil]
  have fed : (s.children.map (feed g e)).All (Aligned q.current) (Aligned q) := by
    rw [Children.all_iff_forall_mem, Children.parts_map, Children.branches_map, ended]
    exact ⟨List.forall_mem_nil _, List.forall_mem_map.2 branches⟩
  refine ⟨fits_turn turn parts, all_conclude (all_delegate hm fed) fun m _ => ?_⟩
  rw [turn.current]
  exact aligned_start m

/-- An event inside of a part neither begins parts nor ends them. -/
theorem after_inward (inward : Inward p e q) (counts : s.counts = p.counts)
    (fits : Fits p s.children) (hm : (s.delegate g e).matched = true)
    (fed : (s.children.map (feed g e)).All (Aligned q.current) (Aligned q)) :
    Fits q ((s.delegate g e).conclude g e).children ∧
      ((s.delegate g e).conclude g e).children.All (Aligned q.current) (Aligned q) := by
  have same : (s.delegate g e).counts = p.counts :=
    (congrArg (·.2.2) frame_delegate).trans counts
  have concluded : ((s.delegate g e).conclude g e).children = (s.delegate g e).children := by
    rw [conclude_inner hm (by rw [same]; exact inward.inner)]
    exact congrArg (·.2) kin_digest
  rw [concluded]
  refine ⟨?_, all_delegate hm fed⟩
  rw [(children_delegate hm).2]
  constructor
  · intro present
    refine inward.inArray (fits.item fun absent => present ?_)
    exact Option.map_eq_none_iff.2 absent
  · intro present
    refine inward.inMember (fits.properties fun absent => present ?_)
    exact List.map_eq_nil_iff.2 absent

/-! ### One event -/

theorem Aligned.prepare (h : Aligned p s) (hm : s.matched = true) :
    ((s.touch g).prepare g e).children.All (Aligned p.current) (Aligned p) := by
  refine all_prepare ((h.touch (g := g)).all ?_)
  rwa [matched_touch]

/-- An event leaves a session aligned. -/
theorem Aligned.feed {p q : Stage} {s : Session} (h : Aligned p s) (step : Step p e q) :
    Aligned q (s.feed g e) := by
  have left : (s.feed g e).matched = true → Fits q (s.feed g e).children ∧
      (s.feed g e).children.All (Aligned q.current) (Aligned q) := by
    intro hm
    rw [feed_eq g step.isBinary] at hm ⊢
    have delegated := matched_of_conclude hm
    have prepared := (children_delegate delegated).1
    have touched := matched_of_prepare prepared
    have before := h.prepare (g := g) (e := e) (by rwa [matched_touch] at touched)
    -- by recursion on the weight: what the event is passed on to is lighter
    have branches : ∀ c ∈ ((s.touch g).prepare g e).children.toList, Aligned p c →
        Aligned q (c.feed g e) := fun c _hc hp => hp.feed step
    obtain ⟨counts, -, fits, -, -⟩ := h.touch (g := g)
    rcases step.turn_or_inward with turn | inward
    · have ended := parts_prepare turn counts (fits touched) prepared
      refine after_turn turn ended delegated fun c hc => ?_
      exact branches c (Children.mem_toList_iff.2 (.inr hc))
        ((Children.all_iff_forall_mem.1 before).2 c hc)
    · have same : ((s.touch g).prepare g e).counts = p.counts :=
        (congrArg (·.2.2) frame_prepare).trans counts
      refine after_inward inward same (fits touched).prepare delegated ?_
      exact before.map (fun c _hc hp => hp.feed inward.step) branches
  have all (hm : (s.feed g e).matched = true) := Children.all_iff_forall_mem.1 (left hm).2
  obtain ⟨counts, -, -, -, -⟩ := h
  refine ⟨?_, ?_, fun hm => (left hm).1, fun hm => (all hm).1, fun hm => (all hm).2⟩
  · rw [counts_feed, counts, step.counts]
  · rw [touched_feed]
    rintro ⟨⟩
termination_by s.weight g
decreasing_by all_goals exact weight_child_touch g (mem_prepare g _hc)

theorem Aligned.feedAll {es : List Event} (h : Aligned p s) (steps : p.Steps es q) :
    Aligned q (s.feedAll g es) := by
  induction es generalizing p s with
  | nil =>
    obtain rfl : p = q := steps
    exact h
  | cons e es ih =>
    obtain ⟨r, first, rest⟩ := steps
    exact ih (h.feed first) rest

/-! ### The sessions below one -/

/-- A session at or below another one whose value is at a stage, and the stage of its own value. No
session above it has failed. -/
inductive Live (s : Session) (p : Stage) : Session → Stage → Prop
  | self : Live s p s p
  | branch {t c : Session} {q : Stage} (above : Live s p t q) (matched : t.matched = true)
      (mem : c ∈ t.children.branches) : Live s p c q
  | part {t c : Session} {q : Stage} (above : Live s p t q) (matched : t.matched = true)
      (mem : c ∈ t.children.parts) : Live s p c q.current

variable {t c : Session}

theorem Aligned.live (h : Aligned p s) (live : Live s p t q) : Aligned q t := by
  induction live with
  | self => exact h
  | branch _ matched mem ih =>
    obtain ⟨-, -, -, -, branches⟩ := ih
    exact branches matched _ mem
  | part _ matched mem ih =>
    obtain ⟨-, -, -, parts, -⟩ := ih
    exact parts matched _ mem

theorem Fits.of_mem_parts {children : Children Session} (h : Fits p children)
    (hc : c ∈ children.parts) : p.InArray ∨ p.InMember := by
  rcases List.mem_append.1 hc with hc | hc
  · refine .inl (h.item ?_)
    rw [Option.mem_toList.1 hc]
    exact Option.some_ne_none c
  · exact .inr (h.properties (List.ne_nil_of_mem hc))

theorem Aligned.length_counts (h : Aligned p s) (hm : s.matched = true) :
    (∀ c ∈ s.children.branches, c.counts.length = s.counts.length) ∧
      ∀ c ∈ s.children.parts, c.counts.length + 1 = s.counts.length := by
  obtain ⟨counts, -, fits, parts, branches⟩ := h
  constructor
  · intro c hc
    obtain ⟨same, -, -, -, -⟩ := branches hm c hc
    rw [same, counts]
  · intro c hc
    obtain ⟨inner, -, -, -, -⟩ := parts hm c hc
    obtain ⟨n, outer⟩ := Stage.counts_current ((fits hm).of_mem_parts hc)
    rw [inner, counts, outer, List.length_append, List.length_singleton]

theorem Aligned.of_complete {v : Value} (h : Aligned (.complete v) s) (hm : s.matched = true) :
    s.counts = [] ∧ s.children.parts = [] := by
  obtain ⟨counts, -, fits, -, -⟩ := h
  refine ⟨counts, List.eq_nil_iff_forall_not_mem.2 fun c hc => ?_⟩
  rcases (fits hm).of_mem_parts hc with ⟨vs, r, ⟨⟩⟩ | ⟨ms, k, r, ⟨⟩⟩

/-- Below a session whose value is complete there are branches only. -/
theorem Live.eq_complete {v : Value} (h : Aligned (.complete v) s)
    (live : Live s (.complete v) t q) : q = .complete v := by
  induction live with
  | self => rfl
  | branch _ _ _ ih => exact ih
  | part above matched mem ih =>
    have none := ((ih ▸ h.live above).of_complete matched).2
    rw [none] at mem
    cases mem

/-- What has been read of the description of a value is one stage of it, and after it every session
below the first one, if none above it has failed, is at a stage of its own value. As long as it has
not failed itself, its counters are those of the stage, its branches have as many, and its children
for a part of the value one less. It has a child for an element only while its array is open, and
children for a member only between the name and the end of the member. If its value is complete it
has no counters and no such children, and so it is for all of them at the end. -/
theorem aligned_of_isPrefix (g : Graph) (id : NodeId) {v : Value} {es : List Event}
    (h : es <+: v.events) :
    (∃! p : Stage, p.events = es) ∧
    ∀ p : Stage, p.events = es → ∀ t q, Live ((start g id).feedAll g es) p t q →
      t.matched = true →
        t.counts = q.counts ∧
        (∀ c ∈ t.children.branches, c.counts.length = t.counts.length) ∧
        (∀ c ∈ t.children.parts, c.counts.length + 1 = t.counts.length) ∧
        (t.children.item ≠ none → ∃ vs r, q = .inArray vs r) ∧
        (t.children.properties ≠ [] → ∃ ms k r, q = .inMember ms k r) ∧
        ((∃ w, q = .complete w) ∨ es = v.events → t.counts = [] ∧ t.children.parts = []) := by
  have unique := Stage.existsUnique_of_isPrefix h
  refine ⟨unique, ?_⟩
  rintro p rfl t q live hm
  have first : Aligned p ((start g id).feedAll g p.events) :=
    (aligned_start id).feedAll p.steps_events
  have aligned := first.live live
  obtain ⟨branches, parts⟩ := aligned.length_counts hm
  have complete : (∃ w, q = .complete w) ∨ p.events = v.events →
      t.counts = [] ∧ t.children.parts = [] := by
    rintro (⟨w, rfl⟩ | whole)
    · exact aligned.of_complete hm
    · obtain rfl : p = .complete v := unique.unique rfl whole.symm
      rw [live.eq_complete first] at aligned
      exact aligned.of_complete hm
  obtain ⟨counts, -, fits, -, -⟩ := aligned
  exact ⟨counts, branches, parts, (fits hm).item, (fits hm).properties, complete⟩

/-- A schema of lists whose elements are such lists. -/
def nestedLists : Value := .object [("items", .object [("$ref", .string "#")])]

def listNode : Node NodeId :=
  { Node.unconstrained .root with array := ⟨some (.uniform Graph.root), none, none, none, false⟩ }

theorem build_nestedLists :
    ∃ g, Graph.build nestedLists = .ok g ∧ g.node Graph.root = listNode := by
  have resolved : Aliases.resolve nestedLists = .ok [(⟨["items"]⟩, .root)] := by cbv
  have closed : (Graph.closure [(⟨["items"]⟩, .root)] nestedLists).map (·.nodes) =
      .ok #[listNode] := by cbv
  obtain ⟨g, hg, -, -, hn⟩ := Graph.exists_build_single resolved closed rfl
  exact ⟨g, hg, hn⟩

/-- The session of such a list in which some lists are open, with its child. -/
def openLists (counts : List Nat) (c : Session) : Session :=
  { fresh listNode with
    touched := true
    counts := counts
    children := { Children.empty with item := some c } }

theorem feed_fresh_listNode (hn : g.node Graph.root = listNode) :
    (fresh listNode).feed g .beginArray = openLists [0] (fresh listNode) := by
  have child : itemAt g listNode.array 0 = some (fresh listNode) := by
    show some (start g Graph.root) = some (fresh listNode)
    rw [start, hn]
  rw [feed_eq g rfl, openLists, ← child]
  rfl

theorem feed_openLists (hm : (c.feed g .beginArray).matched = true) :
    (openLists [0] c).feed g .beginArray = openLists [0, 0] (c.feed g .beginArray) := by
  have children : (((openLists [0] c).touch g).prepare g .beginArray).children =
      { Children.empty with item := some c } := rfl
  rw [feed_eq g rfl, delegate, absorb_of_holds rfl]
  · rfl
  · rw [children]
    simp [Children.holds, Children.map, Children.empty, hm]

/-- Two lists are open, and the one inside is the value of a child with a counter less. -/
theorem aligned_nestedLists : ∃ g, Graph.build nestedLists = .ok g ∧
    [.beginArray, .beginArray] <+: (Value.array [.array []]).events ∧
    ∃ t c, (start g Graph.root).feedAll g [.beginArray, .beginArray] = t ∧ t.matched = true ∧
      t.counts = [0, 0] ∧ t.children.item = some c ∧ c.matched = true ∧ c.counts = [0] := by
  obtain ⟨g, hg, hn⟩ := build_nestedLists
  have walk : [.beginArray, .beginArray] <+: (Value.array [.array []]).events :=
    ⟨[.endArray, .element, .endArray], rfl⟩
  let inner : Session := openLists [0] (fresh listNode)
  let outer : Session := openLists [0, 0] inner
  have run : (start g Graph.root).feedAll g [.beginArray, .beginArray] = outer := by
    have first := feed_fresh_listNode hn
    have second : (openLists [0] (fresh listNode)).feed g .beginArray =
        openLists [0, 0] ((fresh listNode).feed g .beginArray) :=
      feed_openLists (by rw [first]; rfl)
    rw [start, hn, feedAll_cons, first, feedAll_cons, second, first]
    rfl
  have aligned := (aligned_of_isPrefix g Graph.root walk).2 (.inArray [] (.inArray [] .ahead)) rfl
  rw [run] at aligned
  have below : Live outer (.inArray [] (.inArray [] .ahead)) inner (.inArray [] .ahead) :=
    .part .self rfl (List.mem_singleton.2 rfl)
  exact ⟨g, hg, walk, outer, inner, run, rfl, (aligned _ _ .self rfl).1, rfl, rfl,
    (aligned _ _ below rfl).1⟩

end Session
end JsonSchema
