import Mathlib.Data.List.Induction
import JsonSchema.Proofs.Session.Branches
/-!
# Composition

The verdict of a session is a boolean combination of the verdict on the bare node and of those on
the branches, each of which takes all events (`verdict_fresh`): that sessions make branches late,
drop some of them and stop as soon as they have failed cannot be observed. `verdict_composition`
states it for the keywords that combine schemas.
-/

namespace JsonSchema.Session

variable {g : Graph} {n : Node NodeId} {s b : Session} {e : Event}

/-! ### Sequences of events -/

/-- The session on the bare node, which has no branches to make. -/
def core (n : Node NodeId) : Session := { fresh n.bare with touched := true }

theorem core_feedAll (es : List Event) :
    Bare ((core n).feedAll g es) ∧ ((core n).feedAll g es).touched = true := by
  induction es using List.reverseRecOn with
  | nil => exact ⟨⟨rfl, rfl, rfl, rfl, rfl, rfl, rfl, rfl⟩, rfl⟩
  | append_singleton es e ih =>
    rw [feedAll_concat]
    exact ⟨ih.1.feed ih.2, touched_feed⟩

theorem after_concat (es : List Event) (e : Event) :
    Runs.after g n (es ++ [e]) = ((Runs.after g n es).feedCandidates e).feedBranches g e := by
  have begun : (es ++ [e]).isEmpty = false := by simp
  simp only [Runs.after, Runs.feedCandidates, Runs.feedBranches, Composition.map, feedAll_concat,
    Comparator.feedAll, List.foldl_append, List.foldl_cons, List.foldl_nil, List.map_map,
    Option.map_map, Function.comp_def, begun, Bool.not_false]

theorem after_nil :
    Runs.after g n [] =
      ⟨false, n.enumeration.map (·.map .expecting), n.composition.map (start g),
        n.object.schemaDependencies.map fun p => (p.1, start g p.2)⟩ := rfl

theorem follows_nil : Follows n ((fresh n).touch g) (core n) (.after g n []) := by
  have all : ∀ l : List NodeId, (l.map (start g)).all (·.matched) = true :=
    fun l => by rw [List.all_map]; exact List.all_eq_true.2 fun _ _ => rfl
  have any : ∀ l : List NodeId,
      ((l.map (start g)).isEmpty || (l.map (start g)).any (·.matched)) = true :=
    fun l => by cases l <;> simp [start, fresh]
  have kept : ∀ l : List NodeId, (l.map (start g)).filter (·.matched) = l.map (start g) :=
    fun l => List.filter_eq_self.2 (List.all_eq_true.1 (all l))
  have candidates : ∀ vs : List Value,
      (vs.map Comparator.expecting).filter (·.matched) = vs.map .expecting :=
    fun vs => List.filter_eq_self.2 fun c hc => by
      obtain ⟨v, -, rfl⟩ := List.mem_map.1 hc; rfl
  have ok : (Runs.after g n []).ok = true := by
    simp only [after_nil, Runs.ok, Runs.candidatesOk, Runs.branchesOk, Composition.map, all, any,
      Bool.not_false, Bool.true_or, Bool.and_true]
  have dependencies : (n.object.schemaDependencies.map fun p => (p.1, start g p.2)).filter
      (·.2.matched) = n.object.schemaDependencies.map fun p => (p.1, start g p.2) :=
    List.filter_eq_self.2 fun d hd => by
      obtain ⟨p, -, rfl⟩ := List.mem_map.1 hd; rfl
  have not : (n.composition.not.map (start g)).filter (·.matched) = n.composition.not.map (start g) :=
    by cases n.composition.not <;> rfl
  have enumeration : ((n.enumeration.map (·.map Comparator.expecting)).getD []).filter (·.matched) =
      (n.enumeration.getD []).map .expecting := by
    cases n.enumeration with
    | none => rfl
    | some vs => exact candidates vs
  refine ⟨by rw [ok]; rfl, fun _ => ?_⟩
  simp only [graft, after_nil, Composition.map, kept, dependencies, not, enumeration]
  rfl

/-- A session does what the bare one does with the runs grafted on, whatever the events are. -/
theorem follows (es : List Event) (h : ∀ e ∈ es, e.isBinary = false) :
    Follows n (((fresh n).touch g).feedAll g es) ((core n).feedAll g es) (.after g n es) := by
  induction es using List.reverseRecOn with
  | nil => exact follows_nil
  | append_singleton es e ih =>
    obtain ⟨hb, hbt⟩ := core_feedAll (g := g) (n := n) es
    rw [feedAll_concat, feedAll_concat, after_concat]
    exact (ih fun e he => h e (by simp [he])).feed (h e (by simp))
      (touched_feedAll_of_touched touched_touch es) hbt hb (by simp [Runs.after])

/-! ### The verdict -/

theorem Runs.branchesOk_of_accepts {r : Runs} (h : r.accepts g = true) : r.branchesOk = true := by
  simp only [Runs.accepts, Runs.branchesOk, Bool.and_eq_true, Bool.or_eq_true, List.all_eq_true,
    List.any_eq_true, List.countP_eq_length_filter, beq_iff_eq] at h ⊢
  obtain ⟨⟨⟨all, any⟩, one⟩, -⟩ := h
  refine ⟨⟨fun s hs => matched_of_verdict (all s hs), any.imp_right ?_⟩, one.imp_right fun h1 => ?_⟩
  · rintro ⟨s, hs, hv⟩
    exact ⟨s, hs, matched_of_verdict hv⟩
  · obtain ⟨s, hs⟩ := List.length_eq_one_iff.1 h1
    obtain ⟨hs, hv⟩ := List.mem_filter.1 (hs ▸ List.mem_singleton_self s)
    exact ⟨s, hs, matched_of_verdict hv⟩

theorem verdict_graft {r : Runs} (ht : b.touched = true) (hr : r.branchesOk = true) :
    (b.graft n r).verdict g =
      (b.matched && r.accepts g && r.dependenciesOk g b.node.object b.keys) := by
  have failed : ∀ s : Session, s.matched = false → s.verdict g = false :=
    fun _ => verdict_of_failed
  have not : ((r.composition.not.filter (·.matched)).map (verdict g) != some true) =
      r.composition.not.all fun s => !s.verdict g := by
    cases hn : r.composition.not with
    | none => rfl
    | some s =>
      cases hm : s.matched with
      | false => simp [Option.filter, hm, verdict_of_failed hm]
      | true => cases hv : s.verdict g <;> simp [Option.filter, hm, hv]
  simp only [Runs.branchesOk, Bool.and_eq_true] at hr
  rw [verdict_eq, touch_of_touched (s := b.graft n r) ht]
  simp only [graft, concludes, Children.map, Runs.accepts, List.all_map, List.any_map,
    List.countP_map, List.isEmpty_map, isEmpty_filter hr.1.2, isEmpty_filter hr.2, not,
    Function.comp_def, any_filter_of failed, countP_filter_of failed, Runs.dependenciesOk,
    Bool.and_assoc]

/-- The verdict on a node is that of the bare node with the verdicts of what runs beside it. -/
theorem verdict_fresh (es : List Event) (h : ∀ e ∈ es, e.isBinary = false) :
    ((fresh n).feedAll g es).verdict g = (((core n).feedAll g es).matched &&
      (Runs.after g n es).candidatesOk && (Runs.after g n es).accepts g &&
      (Runs.after g n es).dependenciesOk g n.object ((core n).feedAll g es).keys) := by
  have hf := follows (n := n) (g := g) es h
  rw [← verdict_touch, ← touch_feedAll]
  cases hs : (((fresh n).touch g).feedAll g es).matched with
  | true =>
    obtain ⟨hb, hr⟩ := Bool.and_eq_true_iff.1 (hf.matched.symm.trans hs)
    obtain ⟨hc, hbr⟩ := Bool.and_eq_true_iff.1 hr
    rw [hf.eq hs, verdict_graft (core_feedAll es).2 hbr, hc, node_feedAll, Bool.and_true]
    rfl
  | false =>
    rw [verdict_of_failed hs]
    rcases Bool.and_eq_false_iff.1 (hf.matched.symm.trans hs) with hb | hr
    · rw [hb]; rfl
    rcases Bool.and_eq_false_iff.1 hr with hc | hbr
    · rw [hc]; simp
    · have ha : (Runs.after g n es).accepts g = false := by
        by_contra ha
        rw [Runs.branchesOk_of_accepts (by simpa using ha)] at hbr
        cases hbr
      rw [ha]; simp

/-- Composition is boolean for every list of events: the verdict on a node is the verdict on the
node without the keywords that combine schemas, combined with the verdicts that its branches reach
by themselves on all of the events. -/
theorem verdict_composition (g : Graph) (id : NodeId) (es : List Event) :
    let n := g.node id
    let own (m : NodeId) := ((start g m).feedAll g es).verdict g
    own id = (((fresh n.withoutComposition).feedAll g es).verdict g &&
      n.composition.allOf.all own &&
      (n.composition.anyOf.isEmpty || n.composition.anyOf.any own) &&
      (n.composition.oneOf.isEmpty || n.composition.oneOf.countP own == 1) &&
      n.composition.not.all fun m => !own m) := by
  intro n own
  let fs := es.filter fun e => !e.isBinary
  have h : ∀ e ∈ fs, e.isBinary = false := fun e he => by simpa using (List.mem_filter.1 he).2
  have filtered : ∀ n : Node NodeId,
      ((fresh n).feedAll g es).verdict g = ((fresh n).feedAll g fs).verdict g :=
    fun n => (verdict_feedAll_filter es).symm
  have own_eq : own = fun m => ((start g m).feedAll g fs).verdict g :=
    funext fun m => filtered (g.node m)
  have bare : ((fresh n.withoutComposition).feedAll g fs).verdict g =
      (((core n).feedAll g fs).matched && (Runs.after g n fs).candidatesOk &&
        (Runs.after g n fs).dependenciesOk g n.object ((core n).feedAll g fs).keys) := by
    rw [verdict_fresh fs h, show (Runs.after g n.withoutComposition fs).accepts g = true from rfl,
      Bool.and_true]
    rfl
  have accepts : (Runs.after g n fs).accepts g = (n.composition.allOf.all own &&
      (n.composition.anyOf.isEmpty || n.composition.anyOf.any own) &&
      (n.composition.oneOf.isEmpty || n.composition.oneOf.countP own == 1) &&
      n.composition.not.all fun m => !own m) := by
    simp only [own_eq, Runs.after, Runs.accepts, Composition.map, List.all_map, List.any_map,
      List.countP_map, List.isEmpty_map, Option.all_map, Function.comp_def]
  have whole : own id = (((core n).feedAll g fs).matched && (Runs.after g n fs).candidatesOk &&
      (Runs.after g n fs).accepts g &&
      (Runs.after g n fs).dependenciesOk g n.object ((core n).feedAll g fs).keys) := by
    rw [own_eq]
    exact verdict_fresh fs h
  rw [whole, filtered, bare, accepts, Bool.and_right_comm]
  simp only [Bool.and_assoc]

end JsonSchema.Session
