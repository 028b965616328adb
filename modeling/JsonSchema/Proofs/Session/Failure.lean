import JsonSchema.Proofs.Session.Steps
/-!
# A session that has failed

Nothing that an event does to a session undoes a failure, and all that it does to one that has
failed is to count. Each step of `Session.feed` has a lemma `…_of_failed`; `feed_of_failed` puts
them together for an event and `feedAll_of_failed` for a sequence of events. `failure_is_final`
states it for the sessions that begin on a node of a graph.
-/

namespace JsonSchema.Session

variable {g : Graph} {s : Session} {e : Event}

/-! ### Steps -/

theorem require_of_failed (h : s.matched = false) (ok : Bool) : s.require ok = s := by
  cases s; simp_all [require]

theorem prune_of_failed (h : s.matched = false) : s.prune e = s := by simp [prune, h]

theorem close_of_failed (h : s.matched = false) : s.close g e = s := by simp [close, h]

theorem prepare_of_failed (h : s.matched = false) : s.prepare g e = s := by
  rw [prepare, checkKind, require_of_failed h, prune_of_failed h, close_of_failed h]

theorem renew_of_failed (h : s.matched = false) (f : Children Session → Children Session)
    (ok : Bool) : s.renew f ok = s := by simp [renew, h]

theorem absorb_of_failed (h : s.matched = false) (fed : Children Session) : s.absorb fed = s := by
  simp only [absorb, renew_of_failed h]

theorem digest_of_failed (h : s.matched = false) : s.digest e = s := by simp [digest, h]

theorem openArray_of_failed (h : s.matched = false) : s.openArray = s := by
  rw [openArray, digest_of_failed h]; simp [h]

theorem closeElement_of_failed (h : s.matched = false) : s.closeElement = s := by
  unfold closeElement
  split
  · rw [digest_of_failed h]; simp [h]
  · rfl

theorem conclude_of_failed (h : s.matched = false) : s.conclude g e = s.tally e := by
  cases e with
  | beginArray => simp [conclude, openArray_of_failed h, h]
  | element =>
    have : (s.tally .element).matched = false := h
    simp [conclude, closeElement_of_failed h, this]
  | endArray => simp [conclude, digest_of_failed h, require_of_failed h]
  | key k => rw [tally_eq_self rfl]; simp [conclude, digest_of_failed h, h]
  | endObject => simp [conclude, digest_of_failed h, require_of_failed h]
  | beginObject => simp [conclude, digest_of_failed h]
  | member => simp [conclude, digest_of_failed h]
  | _ => rw [tally_eq_self rfl]; simp [conclude, digest_of_failed h, require_of_failed h]

/-! ### Events -/

theorem feed_of_failed (h : s.matched = false) : s.feed g e = (s.touch g).tally e := by
  have ht : (s.touch g).matched = false := by rw [matched_touch, h]
  cases he : e.isBinary with
  | true =>
    rw [feed_binary g he]
    cases e with
    | binary => exact (tally_eq_self rfl).symm
    | _ => cases he
  | false =>
    rw [feed_eq g he, prepare_of_failed ht, delegate, absorb_of_failed ht, conclude_of_failed ht]

theorem matched_feed_of_failed (h : s.matched = false) : (s.feed g e).matched = false := by
  rw [feed_of_failed h]
  exact matched_touch.trans h

theorem matched_feedAll_of_failed (h : s.matched = false) (es : List Event) :
    (s.feedAll g es).matched = false := by
  induction es generalizing s with
  | nil => exact h
  | cons e es ih => exact ih (matched_feed_of_failed h)

/-- What events leave of a failed session that some have reached before. -/
theorem feedAll_of_failed (ht : s.touched = true) (h : s.matched = false) (es : List Event) :
    s.feedAll g es = { s with counts := es.foldl countsAfter s.counts } := by
  induction es generalizing s with
  | nil => cases s; rfl
  | cons e es ih =>
    rw [feedAll_cons, feed_of_failed h, touch_of_touched ht]
    exact ih ht h

theorem verdict_of_failed (h : s.matched = false) : s.verdict g = false := by
  rw [verdict_eq]
  simp [concludes, h]

theorem matched_of_verdict (h : s.verdict g = true) : s.matched = true := by
  cases hm : s.matched with
  | true => rfl
  | false => rw [verdict_of_failed hm] at h; cases h

theorem matched_of_feedAll {es : List Event} (h : (s.feedAll g es).matched = true) :
    s.matched = true := by
  cases hm : s.matched with
  | true => rfl
  | false => rw [matched_feedAll_of_failed hm es] at h; cases h

/-- Before its first event a session has not failed. -/
theorem touched_of_failed (n : Node NodeId) (es : List Event)
    (h : ((fresh n).feedAll g es).matched = false) : ((fresh n).feedAll g es).touched = true := by
  refine touched_feedAll ?_
  rintro rfl
  cases h

/-- Once a session has failed it goes on failing: later events change nothing in it but the counters
of open aggregates, and its value is not accepted. So one that accepts its value has never
failed. -/
theorem failure_is_final (g : Graph) (id : NodeId) (es fs : List Event) :
    let s := (start g id).feedAll g es
    let t := (start g id).feedAll g (es ++ fs)
    (s.matched = false →
      t = { s with counts := fs.foldl countsAfter s.counts } ∧ t.matched = false ∧
        t.verdict g = false) ∧
    (t.verdict g = true → s.matched = true) := by
  intro s t
  have failed : s.matched = false → t = { s with counts := fs.foldl countsAfter s.counts } ∧
      t.matched = false ∧ t.verdict g = false := by
    intro h
    have ht : s.touched = true := touched_of_failed (g.node id) es h
    have eq : t = s.feedAll g fs := feedAll_append _ es fs
    have hm : t.matched = false := by rw [eq]; exact matched_feedAll_of_failed h fs
    exact ⟨by rw [eq, feedAll_of_failed ht h], hm, verdict_of_failed hm⟩
  refine ⟨failed, fun hv => ?_⟩
  cases h : s.matched with
  | true => rfl
  | false => rw [(failed h).2.2] at hv; cases hv

end JsonSchema.Session
