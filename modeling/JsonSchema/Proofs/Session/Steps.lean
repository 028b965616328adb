import JsonSchema.Session
/-!
# What the steps of a session leave alone

The node of a session never changes, an event touches it, and its counters depend on the events
alone, whether it has failed or not (`node_feed`, `touched_feed`, `counts_feed`).
-/

namespace JsonSchema.Session

variable {g : Graph} {s : Session} {e : Event}

/-- What only `touch` and `tally` change. -/
def frame (s : Session) : Node NodeId × Bool × List Nat := (s.node, s.touched, s.counts)

theorem tally_eq_self (h : countsAfter s.counts e = s.counts) : s.tally e = s := by
  cases s; simp_all [tally]

theorem touch_of_touched (h : s.touched = true) : s.touch g = s := if_pos h

@[simp] theorem touched_touch : (s.touch g).touched = true := by
  unfold touch; split <;> simp [*]

@[simp] theorem matched_touch : (s.touch g).matched = s.matched := by
  unfold touch; split <;> rfl

@[simp] theorem node_touch : (s.touch g).node = s.node := by
  unfold touch; split <;> rfl

@[simp] theorem counts_touch : (s.touch g).counts = s.counts := by
  unfold touch; split <;> rfl

/-! ### Before the children take an event -/

@[simp] theorem frame_require (ok : Bool) : (s.require ok).frame = s.frame := rfl

@[simp] theorem frame_prune : (s.prune e).frame = s.frame := by
  unfold prune; split <;> rfl

@[simp] theorem frame_close : (s.close g e).frame = s.frame := by
  unfold close; repeat' split
  all_goals rfl

@[simp] theorem frame_prepare : (s.prepare g e).frame = s.frame := by
  rw [prepare, frame_close, frame_prune, checkKind, frame_require]

/-! ### The children -/

@[simp] theorem frame_renew (f : Children Session → Children Session) (ok : Bool) :
    (s.renew f ok).frame = s.frame := by
  unfold renew; split <;> rfl

@[simp] theorem frame_delegate : (s.delegate g e).frame = s.frame := by
  simp only [delegate, absorb, frame_renew]

/-! ### After the children have taken an event -/

@[simp] theorem frame_digest : (s.digest e).frame = s.frame := by
  unfold digest; split <;> rfl

@[simp] theorem frame_openArray : s.openArray.frame = s.frame := by
  unfold openArray; split
  · rfl
  · exact frame_digest

@[simp] theorem frame_closeElement : s.closeElement.frame = s.frame := by
  unfold closeElement; split
  · split
    · dsimp only; split <;> rfl
    · exact frame_digest
  · rfl

@[simp] theorem frame_openItem (i : Nat) : (s.openItem g i).frame = s.frame := rfl

@[simp] theorem frame_openMember (k : String) : (s.openMember g k).frame = s.frame := by
  unfold openMember; split <;> rfl

@[simp] theorem frame_enterMember (k : String) : (s.enterMember g k).frame = s.frame := by
  unfold enterMember; split
  · split
    · rfl
    · exact frame_openMember k
  · exact frame_openMember k

theorem frame_tally : (s.tally e).frame = (s.node, s.touched, countsAfter s.counts e) := rfl

theorem frame_eq_of {t : Session} (h : t.frame = s.frame) (h' : countsAfter s.counts e = s.counts) :
    t.frame = (s.node, s.touched, countsAfter s.counts e) := by
  rw [h, h']; rfl

theorem frame_tally_of {t : Session} (h : t.frame = s.frame) :
    (t.tally e).frame = (s.node, s.touched, countsAfter s.counts e) := by
  simp only [frame, Prod.mk.injEq] at h
  rw [frame_tally, h.1, h.2.1, h.2.2]

theorem frame_conclude : (s.conclude g e).frame = (s.node, s.touched, countsAfter s.counts e) := by
  cases e with
  | beginArray =>
    refine frame_tally_of ?_
    split
    · rw [frame_openItem, frame_openArray]
    · exact frame_openArray
  | element =>
    simp only [conclude]
    split
    · rw [frame_openItem]; exact frame_tally_of frame_closeElement
    · exact frame_tally_of frame_closeElement
  | endArray =>
    refine frame_tally_of ?_
    rw [frame_require]
    split
    · rfl
    · exact frame_digest
  | key k =>
    refine frame_eq_of ?_ rfl
    simp only [conclude]
    split
    · rw [frame_enterMember, frame_digest]
    · exact frame_digest
  | endObject => exact frame_tally_of (by rw [frame_require, frame_digest])
  | beginObject => exact frame_tally_of frame_digest
  | member => exact frame_tally_of frame_digest
  | _ => exact frame_eq_of (by simp only [conclude, frame_digest, frame_require]) rfl

theorem frame_feed : (s.feed g e).frame = (s.node, true, countsAfter s.counts e) := by
  cases he : e.isBinary with
  | true =>
    rw [feed_binary g he]
    cases e with
    | binary => simp [frame, countsAfter]
    | _ => cases he
  | false =>
    have h : (((s.touch g).prepare g e).delegate g e).frame = (s.node, true, s.counts) := by
      rw [frame_delegate, frame_prepare]
      simp [frame]
    simp only [frame, Prod.mk.injEq] at h
    rw [feed_eq g he, frame_conclude, h.1, h.2.1, h.2.2]

@[simp] theorem node_feed : (s.feed g e).node = s.node := congrArg (·.1) frame_feed

@[simp] theorem touched_feed : (s.feed g e).touched = true := congrArg (·.2.1) frame_feed

@[simp] theorem counts_feed : (s.feed g e).counts = countsAfter s.counts e :=
  congrArg (·.2.2) frame_feed

/-! ### Sequences of events -/

theorem feedAll_cons (s : Session) (e : Event) (es : List Event) :
    s.feedAll g (e :: es) = (s.feed g e).feedAll g es := rfl

theorem feedAll_append (s : Session) (es fs : List Event) :
    s.feedAll g (es ++ fs) = (s.feedAll g es).feedAll g fs := List.foldl_append

theorem feedAll_concat (s : Session) (es : List Event) (e : Event) :
    s.feedAll g (es ++ [e]) = (s.feedAll g es).feed g e := feedAll_append s es [e]

@[simp] theorem node_feedAll (es : List Event) : (s.feedAll g es).node = s.node := by
  induction es generalizing s with
  | nil => rfl
  | cons e es ih => rw [feedAll_cons, ih, node_feed]

theorem touched_feedAll {es : List Event} (h : es ≠ []) : (s.feedAll g es).touched = true := by
  obtain ⟨fs, e, rfl⟩ := (List.eq_nil_or_concat es).resolve_left h
  rw [List.concat_eq_append, feedAll_append]
  exact touched_feed

theorem touched_feedAll_of_touched (h : s.touched = true) (es : List Event) :
    (s.feedAll g es).touched = true := by
  cases es with
  | nil => exact h
  | cons e es => exact touched_feedAll (by simp)

/-! ### When the branches are made -/

theorem touch_touch : (s.touch g).touch g = s.touch g := touch_of_touched touched_touch

theorem feed_touch : (s.touch g).feed g e = s.feed g e := by
  cases he : e.isBinary with
  | true => rw [feed_binary g he, feed_binary g he, touch_touch]
  | false => rw [feed_eq g he, feed_eq g he, touch_touch]

theorem verdict_touch : (s.touch g).verdict g = s.verdict g := by
  rw [verdict_eq, verdict_eq, touch_touch]

/-- It makes no difference whether the branches are made before the first event or with it. -/
theorem touch_feedAll (es : List Event) : (s.touch g).feedAll g es = (s.feedAll g es).touch g := by
  cases es with
  | nil => rfl
  | cons e es =>
    have touched := touched_feedAll (s := s) (g := g) (List.cons_ne_nil e es)
    rw [touch_of_touched touched, feedAll_cons, feed_touch, feedAll_cons]

/-- Once there are branches, binary events have no effect. -/
theorem feedAll_filter (h : s.touched = true) (es : List Event) :
    s.feedAll g (es.filter fun e => !e.isBinary) = s.feedAll g es := by
  induction es generalizing s with
  | nil => rfl
  | cons e es ih =>
    cases he : e.isBinary with
    | true =>
      rw [List.filter_cons_of_neg (by simp [he]), ih h, feedAll_cons, feed_binary g he,
        touch_of_touched h]
    | false => rw [List.filter_cons_of_pos (by simp [he]), feedAll_cons, feedAll_cons, ih touched_feed]

theorem verdict_feedAll_filter (es : List Event) :
    (s.feedAll g (es.filter fun e => !e.isBinary)).verdict g = (s.feedAll g es).verdict g := by
  rw [← verdict_touch, ← touch_feedAll, feedAll_filter touched_touch, touch_feedAll, verdict_touch]

end JsonSchema.Session
