import JsonSchema.Proofs.Session.Failure
/-!
# What runs beside a session

The literals of `enum` and the sessions on the branches of a node take the events of the value one
by one beside the node's other keywords, and a session drops those that fail. `Runs` lets all of
them run to the end, whatever becomes of the rest. A session that has not failed is then the session
of the bare node with the runs that have not failed grafted on (`Follows`), and its verdict is a
boolean combination of the parts (`verdict_fresh`). That composition is boolean for every list of
events follows (`verdict_composition`).
-/

namespace JsonSchema

/-! ### Lists from which what has failed is dropped -/

theorem Comparator.matched_feed_of_failed {e : Event} (c : Comparator) (h : c.matched = false) :
    (c.feed e).matched = false := by
  rw [Comparator.feed, if_neg (by simp [h]), h]

section

variable {σ : Type} {p v : σ → Bool} {f : σ → σ}

theorem filter_map_filter (hf : ∀ x, p x = false → p (f x) = false) (l : List σ) :
    ((l.filter p).map f).filter p = (l.map f).filter p := by
  induction l with
  | nil => rfl
  | cons x l ih => cases hx : p x <;> simp [hx, hf, ih, List.filter_cons]

theorem any_map_filter (hf : ∀ x, p x = false → p (f x) = false) (l : List σ) :
    ((l.filter p).map f).any p = (l.map f).any p := by
  induction l with
  | nil => rfl
  | cons x l ih => cases hx : p x <;> simp [hx, hf, ih]

theorem option_filter_map_filter (hf : ∀ x, p x = false → p (f x) = false) (o : Option σ) :
    ((o.filter p).map f).filter p = (o.map f).filter p := by
  cases o with
  | none => rfl
  | some x => cases hx : p x <;> simp [hx, hf, Option.filter]

theorem isEmpty_filter {l : List σ} (h : (l.isEmpty || l.any p) = true) :
    (l.filter p).isEmpty = l.isEmpty := by
  cases l with
  | nil => rfl
  | cons x l =>
    obtain ⟨y, hy, hp⟩ : ∃ y ∈ x :: l, p y = true := by simpa using h
    simp only [List.isEmpty_cons, List.isEmpty_eq_false_iff]
    exact List.ne_nil_of_mem (List.mem_filter.2 ⟨hy, hp⟩)

theorem any_of_any_map (hf : ∀ x, p x = false → p (f x) = false) {l : List σ}
    (h : (l.map f).any p = true) : l.any p = true := by
  obtain ⟨x, hx, hp⟩ : ∃ x ∈ l, p (f x) = true := by simpa using h
  refine List.any_eq_true.2 ⟨x, hx, ?_⟩
  cases hn : p x with
  | true => rfl
  | false => rw [hf x hn] at hp; cases hp

theorem all_of_all_map (hf : ∀ x, p x = false → p (f x) = false) {l : List σ}
    (h : (l.map f).all p = true) : l.all p = true := by
  refine List.all_eq_true.2 fun x hx => ?_
  have hp : p (f x) = true := List.all_eq_true.1 h _ (List.mem_map_of_mem hx)
  cases hn : p x with
  | true => rfl
  | false => rw [hf x hn] at hp; cases hp

theorem any_filter_of (hv : ∀ x, p x = false → v x = false) (l : List σ) :
    (l.filter p).any v = l.any v := by
  induction l with
  | nil => rfl
  | cons x l ih => cases hx : p x <;> simp [hx, hv, ih]

theorem countP_filter_of (hv : ∀ x, p x = false → v x = false) (l : List σ) :
    (l.filter p).countP v = l.countP v := by
  induction l with
  | nil => rfl
  | cons x l ih => cases hx : p x <;> simp [hx, hv, ih, List.countP_cons]

end

/-- The node without the keywords that combine schemas. -/
def Node.withoutComposition {ρ : Type} (n : Node ρ) : Node ρ :=
  { n with composition := ⟨[], [], [], none⟩ }

/-- The node without the keywords that are decided beside the others. -/
def Node.bare {ρ : Type} (n : Node ρ) : Node ρ := { n.withoutComposition with enumeration := none }

/-- The literals of a node and the sessions on its branches, each fed on its own; `begun` tells
whether any event has come. -/
structure Runs where
  begun : Bool
  candidates : Option (List Comparator)
  composition : Composition Session
  dependencies : List (String × Session)

namespace Children

/-- There are children only for parts of the value. -/
structure Branchless (c : Children Session) : Prop where
  allOf : c.allOf = []
  anyOf : c.anyOf = []
  oneOf : c.oneOf = []
  not : c.not = none
  dependencies : c.dependencies = []

/-- None that has to hold has failed, and where branches are alternatives one has not. -/
def holds (c : Children Session) : Bool :=
  c.item.all (·.matched) && c.properties.all (·.matched) && c.allOf.all (·.matched) &&
    (c.anyOf.isEmpty || c.anyOf.any (·.matched)) && (c.oneOf.isEmpty || c.oneOf.any (·.matched))

/-- The children without the branches that have failed. -/
def pruned (c : Children Session) : Children Session :=
  { c with
    anyOf := c.anyOf.filter (·.matched)
    oneOf := c.oneOf.filter (·.matched)
    not := c.not.filter (·.matched)
    dependencies := c.dependencies.filter (·.2.matched) }

end Children

namespace Session

variable {g : Graph} {n : Node NodeId} {s b : Session} {e : Event}

theorem matched_renew (f : Children Session → Children Session) (ok : Bool) :
    (s.renew f ok).matched = (s.matched && ok) := by
  unfold renew; cases h : s.matched <;> simp [h]

theorem renew_of_matched (h : s.matched = true) (f : Children Session → Children Session)
    (ok : Bool) : s.renew f ok = { s with children := f s.children, matched := ok } := by
  simp [renew, h]

theorem matched_absorb (fed : Children Session) :
    (s.absorb fed).matched = (s.matched && fed.holds) := by
  simp only [absorb, matched_renew, Children.holds, Bool.and_true, Bool.and_assoc]

theorem absorb_of_holds {fed : Children Session} (h : s.matched = true) (hf : fed.holds = true) :
    s.absorb fed = { s with children := fed.pruned } := by
  simp only [Children.holds, Bool.and_eq_true] at hf
  obtain ⟨⟨⟨⟨h1, h2⟩, h3⟩, h4⟩, h5⟩ := hf
  simp only [absorb, h1, h2, h3, h4, h5, renew_of_matched, h, Children.pruned]

end Session

/-! ### Runs -/

namespace Runs

variable (g : Graph)

/-- The runs beside a session on a node after some events. -/
def after (n : Node NodeId) (es : List Event) : Runs where
  begun := !es.isEmpty
  candidates := n.enumeration.map (·.map fun v => (Comparator.expecting v).feedAll es)
  composition := n.composition.map fun m => (Session.start g m).feedAll g es
  dependencies := n.object.schemaDependencies.map fun p => (p.1, (Session.start g p.2).feedAll g es)

/-- One more event for the literals. -/
def feedCandidates (e : Event) (r : Runs) : Runs :=
  { r with begun := true, candidates := r.candidates.map (·.map (·.feed e)) }

/-- One more event for the branches. -/
def feedBranches (e : Event) (r : Runs) : Runs :=
  { r with
    composition := r.composition.map (Session.feed g e)
    dependencies := r.dependencies.map fun p => (p.1, p.2.feed g e) }

/-- Whether a literal is left, if there is `enum`. The first event is the first to find that none
is. -/
def candidatesOk (r : Runs) : Bool := !r.begun || r.candidates.all (·.any (·.matched))

/-- Whether no failure of branches is one of the whole. -/
def branchesOk (r : Runs) : Bool :=
  let c := r.composition
  c.allOf.all (·.matched) && (c.anyOf.isEmpty || c.anyOf.any (·.matched)) &&
    (c.oneOf.isEmpty || c.oneOf.any (·.matched))

def ok (r : Runs) : Bool := r.candidatesOk && r.branchesOk

/-- Whether the verdicts on the branches are what the keywords that combine them ask for. -/
def accepts (r : Runs) : Bool :=
  let c := r.composition
  c.allOf.all (Session.verdict g) && (c.anyOf.isEmpty || c.anyOf.any (Session.verdict g)) &&
    (c.oneOf.isEmpty || c.oneOf.countP (Session.verdict g) == 1) &&
    c.not.all fun s => !s.verdict g

/-- Whether each dependency whose name is among some names holds. -/
def dependenciesOk (r : Runs) (o : ObjectRules NodeId) (keys : List String) : Bool :=
  o.schemaDependencies.all fun (k, _) => !keys.contains k ||
    ((r.dependencies.filter (·.2.matched)).map fun p => (p.1, p.2.verdict g)).lookup k == some true

end Runs

namespace Session

variable {g : Graph} {n : Node NodeId} {s b : Session} {e : Event}

/-- The session with the literals and branches of a node in the place of its own, as far as they
have not failed. -/
def graft (n : Node NodeId) (r : Runs) (b : Session) : Session :=
  { b with
    node := { b.node with enumeration := n.enumeration, composition := n.composition }
    candidates := (r.candidates.getD []).filter (·.matched)
    children := { b.children with
      allOf := r.composition.allOf
      anyOf := r.composition.anyOf.filter (·.matched)
      oneOf := r.composition.oneOf.filter (·.matched)
      not := r.composition.not.filter (·.matched)
      dependencies := r.dependencies.filter (·.2.matched) } }

/-- A session does what another does with some runs grafted on it, until one of the two fails. -/
structure Follows (n : Node NodeId) (s b : Session) (r : Runs) : Prop where
  matched : s.matched = (b.matched && r.ok)
  eq : s.matched = true → s = b.graft n r

/-- A session without anything that runs beside it. -/
structure Bare (b : Session) : Prop where
  enumeration : b.node.enumeration = none
  composition : b.node.composition = ⟨[], [], [], none⟩
  candidates : b.candidates = []
  branches : b.children.Branchless

/-! ### Steps on a session with runs grafted on -/

variable {r : Runs}

theorem graft_tally : (b.graft n r).tally e = (b.tally e).graft n r := rfl

theorem graft_close : (b.graft n r).close g e = (b.close g e).graft n r := by
  have hm : (b.graft n r).matched = b.matched := rfl
  have ho : (b.graft n r).inOwn = b.inOwn := rfl
  unfold close
  rw [hm, ho]
  cases b.matched && b.inOwn with
  | false => rfl
  | true => cases e <;> rfl

theorem graft_digest : (b.graft n r).digest e = (b.digest e).graft n r := by
  have hm : (b.graft n r).matched = b.matched := rfl
  unfold digest
  rw [hm]
  cases b.matched <;> rfl

theorem graft_openArray : (b.graft n r).openArray = b.openArray.graft n r := by
  have hm : (b.graft n r).matched = b.matched := rfl
  have hu : (b.graft n r).unique = b.unique := rfl
  unfold openArray
  rw [hm, hu, graft_digest]
  cases b.matched && b.unique.isNone <;> rfl

theorem graft_closeElement : (b.graft n r).closeElement = b.closeElement.graft n r := by
  have hm : (b.graft n r).matched = b.matched := rfl
  have ho : (b.graft n r).inOwn = b.inOwn := rfl
  have hu : (b.graft n r).unique = b.unique := rfl
  unfold closeElement
  rw [hm, ho, hu, graft_digest]
  cases b.unique with
  | none => rfl
  | some u =>
    cases b.matched && b.inOwn with
    | false => rfl
    | true =>
      dsimp only
      rw [if_pos rfl, if_pos rfl]
      split <;> rfl

theorem graft_openMember (k : String) :
    (b.graft n r).openMember g k = (b.openMember g k).graft n r := by
  have ho : (b.graft n r).node.object = b.node.object := rfl
  have hp : (b.graft n r).children.properties = b.children.properties := rfl
  unfold openMember
  rw [ho, hp]
  cases membersAt g b.node.object b.children.properties k <;> rfl

theorem graft_enterMember (k : String) :
    (b.graft n r).enterMember g k = (b.enterMember g k).graft n r := by
  have ht : (b.graft n r).node.tracksKeys = b.node.tracksKeys := rfl
  have hk : (b.graft n r).keys = b.keys := rfl
  unfold enterMember
  rw [ht, hk, graft_openMember]
  cases b.node.tracksKeys with
  | false => rfl
  | true =>
    cases b.keys.contains k with
    | true => rfl
    | false => exact graft_openMember (b := { b with keys := k :: b.keys }) k

/-- What happens after the children have taken an event does not look at the runs. -/
theorem graft_conclude : (b.graft n r).conclude g e = (b.conclude g e).graft n r := by
  have matched : ∀ b : Session, (b.graft n r).matched = b.matched := fun _ => rfl
  have inOwn : ∀ b : Session, (b.graft n r).inOwn = b.inOwn := fun _ => rfl
  have atTop : ∀ b : Session, (b.graft n r).atTop = b.atTop := fun _ => rfl
  cases e with
  | beginArray =>
    simp only [conclude, graft_openArray, matched, atTop]
    cases b.openArray.matched && b.openArray.atTop <;> rfl
  | element =>
    simp only [conclude, graft_closeElement, graft_tally, matched, inOwn]
    cases (b.closeElement.tally .element).matched && (b.closeElement.tally .element).inOwn <;> rfl
  | endArray =>
    simp only [conclude, graft_digest, inOwn]
    cases h : b.inOwn <;> rfl
  | key k =>
    simp only [conclude, graft_digest, matched, inOwn, graft_enterMember]
    cases (b.digest (.key k)).matched && (b.digest (.key k)).inOwn <;> rfl
  | endObject => simp only [conclude, graft_digest]; rfl
  | beginObject => simp only [conclude, graft_digest]; rfl
  | member => simp only [conclude, graft_digest]; rfl
  | _ => simp only [conclude, ← graft_digest]; rfl

/-! ### Sessions that nothing runs beside -/

namespace Bare

/-- Nothing that runs. -/
abbrev nothing : Runs := ⟨false, none, ⟨[], [], [], none⟩, []⟩

theorem iff_graft : Bare b ↔ b.graft (.unconstrained .root) nothing = b := by
  constructor
  · rintro ⟨he, hc, hs, h1, h2, h3, h4, h5⟩
    obtain ⟨node, _, _, _, _, children, _, _⟩ := b
    cases node; cases children
    simp_all [graft, Node.unconstrained]
  · intro h
    rw [← h]
    exact ⟨rfl, rfl, rfl, rfl, rfl, rfl, rfl, rfl⟩

theorem step (f : Session → Session)
    (hf : f (b.graft (.unconstrained .root) nothing) = (f b).graft (.unconstrained .root) nothing)
    (hb : Bare b) : Bare (f b) := by
  rw [iff_graft, ← hf, iff_graft.1 hb]

theorem prepare (hb : Bare b) : Bare (b.prepare g e) := by
  have hk : Bare (b.checkKind e) := hb.step (·.checkKind e) rfl
  rw [Session.prepare, prune, hk.enumeration, if_neg (by simp)]
  exact hk.step (·.close g e) graft_close

theorem renew (hb : Bare b) {f : Children Session → Children Session}
    (hf : ∀ c : Children Session, c.Branchless → (f c).Branchless) (ok : Bool) :
    Bare (b.renew f ok) := by
  unfold Session.renew
  split
  · exact ⟨hb.enumeration, hb.composition, hb.candidates, hf _ hb.branches⟩
  · exact hb

theorem delegate (hb : Bare b) : Bare (b.delegate g e) := by
  have hf : (b.children.map (feed g e)).Branchless := by
    obtain ⟨h1, h2, h3, h4, h5⟩ := hb.branches
    constructor <;> simp [Children.map, *]
  unfold Session.delegate absorb
  refine (((((((hb.renew ?_ _).renew ?_ _).renew ?_ _).renew ?_ _).renew ?_ _).renew ?_ _).renew ?_ _)
  · exact fun c h => ⟨h.allOf, h.anyOf, h.oneOf, h.not, h.dependencies⟩
  · exact fun c h => ⟨h.allOf, h.anyOf, h.oneOf, h.not, h.dependencies⟩
  · exact fun c h => ⟨hf.allOf, h.anyOf, h.oneOf, h.not, h.dependencies⟩
  · exact fun c h => ⟨h.allOf, by simp [hf.anyOf], h.oneOf, h.not, h.dependencies⟩
  · exact fun c h => ⟨h.allOf, h.anyOf, by simp [hf.oneOf], h.not, h.dependencies⟩
  · exact fun c h => ⟨h.allOf, h.anyOf, h.oneOf, by simp [hf.not], h.dependencies⟩
  · exact fun c h => ⟨h.allOf, h.anyOf, h.oneOf, h.not, by simp [hf.dependencies]⟩

theorem feed (hb : Bare b) (ht : b.touched = true) : Bare (b.feed g e) := by
  cases he : e.isBinary with
  | true => rwa [feed_binary g he, touch_of_touched ht]
  | false =>
    rw [feed_eq g he, touch_of_touched ht]
    exact hb.prepare.delegate.step (·.conclude g e) graft_conclude

end Bare

/-! ### One event -/

theorem prune_of_no_enumeration (h : b.node.enumeration = none) : b.prune e = b := by
  simp [prune, h]

theorem prune_graft (hm : b.matched = true) (hn : n.enumeration.isSome = true)
    (hc : r.candidates.isSome = true) :
    (b.graft n r).prune e =
      { b.graft n (r.feedCandidates e) with matched := (r.feedCandidates e).candidatesOk } := by
  obtain ⟨cs, hcs⟩ := Option.isSome_iff_exists.1 hc
  have hg : ((b.graft n r).matched && (b.graft n r).node.enumeration.isSome) = true := by
    rw [Bool.and_eq_true]; exact ⟨hm, hn⟩
  have left : ((b.graft n r).candidates.map (·.feed e)).filter (·.matched) =
      (cs.map (·.feed e)).filter (·.matched) := by
    simp only [graft, hcs, Option.getD_some]
    exact filter_map_filter Comparator.matched_feed_of_failed cs
  have some_left : (!((cs.map (·.feed e)).filter (·.matched)).isEmpty) =
      (cs.map (·.feed e)).any (·.matched) := by
    rw [Bool.eq_iff_iff]; simp
  rw [prune, if_pos hg]
  dsimp only
  rw [left, some_left]
  simp only [graft, Runs.feedCandidates, Runs.candidatesOk, hcs, Option.map_some,
    Option.getD_some, Option.all_some, Bool.not_true, Bool.false_or]

/-- The children of a session with runs grafted on take an event each as if nothing had been dropped
before. -/
theorem holds_graft (hb : Bare b) (hr : r.branchesOk = true) :
    ((b.graft n r).children.map (feed g e)).holds =
      ((b.children.map (feed g e)).holds && (r.feedBranches g e).branchesOk) := by
  have hf : ∀ s : Session, s.matched = false → (s.feed g e).matched = false :=
    fun _ => matched_feed_of_failed
  simp only [Runs.branchesOk, Bool.and_eq_true] at hr
  simp only [Children.holds, Children.map, graft, Runs.feedBranches, Runs.branchesOk,
    Composition.map, hb.branches.allOf, hb.branches.anyOf, hb.branches.oneOf, List.map_nil,
    List.all_nil, List.isEmpty_nil, List.isEmpty_map, any_map_filter hf, isEmpty_filter hr.1.2,
    isEmpty_filter hr.2, Bool.true_or, Bool.and_true, Bool.and_assoc]

theorem pruned_graft :
    { b.graft n r with children := ((b.graft n r).children.map (feed g e)).pruned } =
      ({ b with children := (b.children.map (feed g e)).pruned }).graft n (r.feedBranches g e) := by
  have hf : ∀ s : Session, s.matched = false → (s.feed g e).matched = false :=
    fun _ => matched_feed_of_failed
  have hd := filter_map_filter (p := fun d : String × Session => d.2.matched)
    (f := fun d => (d.1, d.2.feed g e)) (fun _ => matched_feed_of_failed) r.dependencies
  simp only [graft, Children.pruned, Children.map, Runs.feedBranches, Composition.map,
    filter_map_filter hf, option_filter_map_filter hf, hd]

namespace Follows

theorem of_failed (hs : s.matched = false) (h : (b.matched && r.ok) = false) : Follows n s b r :=
  ⟨by rw [hs, h], fun hm => by rw [hs] at hm; cases hm⟩

/-- A step that does not look at the runs and leaves failures alone. -/
theorem step (f : Session → Session) (hf : ∀ b, (b.graft n r).matched = b.matched →
    f (b.graft n r) = (f b).graft n r) (failed : ∀ s, s.matched = false → (f s).matched = false)
    (h : Follows n s b r) : Follows n (f s) (f b) r := by
  cases hs : s.matched with
  | false =>
    refine of_failed (failed s hs) ?_
    rcases Bool.and_eq_false_iff.1 (h.matched.symm.trans hs) with hb | hr
    · rw [failed b hb, Bool.false_and]
    · rw [hr, Bool.and_false]
  | true =>
    have hr : r.ok = true := (Bool.and_eq_true_iff.1 (h.matched.symm.trans hs)).2
    rw [h.eq hs, hf b rfl]
    exact ⟨by rw [hr, Bool.and_true]; rfl, fun _ => rfl⟩

theorem checkKind (h : Follows n s b r) : Follows n (s.checkKind e) (b.checkKind e) r :=
  h.step (·.checkKind e) (fun _ _ => rfl) fun s hs => by
    rw [Session.checkKind, require_of_failed hs, hs]

theorem close (h : Follows n s b r) : Follows n (s.close g e) (b.close g e) r :=
  h.step (·.close g e) (fun _ _ => graft_close) fun s hs => by rw [close_of_failed hs, hs]

theorem conclude (h : Follows n s b r) : Follows n (s.conclude g e) (b.conclude g e) r :=
  h.step (·.conclude g e) (fun _ _ => graft_conclude) fun s hs => by
    rw [conclude_of_failed hs]; exact hs

theorem candidatesOk_of_feed (h : (r.feedCandidates e).candidatesOk = true) :
    r.candidatesOk = true := by
  unfold Runs.candidatesOk Runs.feedCandidates at *
  cases hc : r.candidates with
  | none => simp
  | some cs =>
    rw [hc] at h
    simp only [Option.all_some, any_of_any_map Comparator.matched_feed_of_failed h, Bool.or_true]

theorem branchesOk_of_feed (h : (r.feedBranches g e).branchesOk = true) : r.branchesOk = true := by
  have hf : ∀ s : Session, s.matched = false → (s.feed g e).matched = false :=
    fun _ => matched_feed_of_failed
  simp only [Runs.branchesOk, Runs.feedBranches, Composition.map, Bool.and_eq_true, Bool.or_eq_true,
    List.isEmpty_map] at h ⊢
  exact ⟨⟨all_of_all_map hf h.1.1, h.1.2.imp_right (any_of_any_map hf)⟩,
    h.2.imp_right (any_of_any_map hf)⟩

/-- The literals take an event. -/
theorem prune (hb : b.node.enumeration = none) (hc : r.candidates.isSome = n.enumeration.isSome)
    (h : Follows n s b r) : Follows n (s.prune e) (b.prune e) (r.feedCandidates e) := by
  rw [prune_of_no_enumeration hb]
  have branches : (r.feedCandidates e).branchesOk = r.branchesOk := rfl
  cases hs : s.matched with
  | false =>
    refine of_failed (by rw [prune_of_failed hs, hs]) ?_
    have failed : (b.matched && r.ok) = false := h.matched.symm.trans hs
    cases hf : (r.feedCandidates e).candidatesOk with
    | false => rw [Runs.ok, hf, Bool.false_and, Bool.and_false]
    | true => rwa [Runs.ok, hf, branches, ← candidatesOk_of_feed hf]
  | true =>
    obtain ⟨hm, hr⟩ := Bool.and_eq_true_iff.1 (h.matched.symm.trans hs)
    have hbr : r.branchesOk = true := (Bool.and_eq_true_iff.1 hr).2
    rw [h.eq hs]
    cases hn : n.enumeration.isSome with
    | false =>
      have hn' : n.enumeration = none := by simpa using hn
      have hcs : r.candidates = none := Option.not_isSome_iff_eq_none.1 (by rw [hc, hn]; simp)
      have kept : b.graft n (r.feedCandidates e) = b.graft n r := by
        simp only [graft, Runs.feedCandidates, hcs, Option.map_none]
      have hr' : (r.feedCandidates e).ok = true := by
        rw [Runs.ok, branches, hbr, Runs.candidatesOk, Runs.feedCandidates, hcs]
        rfl
      rw [prune_of_no_enumeration (b := b.graft n r) hn']
      exact ⟨by rw [hr', Bool.and_true]; rfl, fun _ => kept.symm⟩
    | true =>
      rw [prune_graft hm hn (hc.trans hn)]
      refine ⟨by rw [Runs.ok, branches, hbr, hm, Bool.and_true, Bool.true_and], fun h => ?_⟩
      rw [show (r.feedCandidates e).candidatesOk = true from h, ← hm]
      rfl

/-- The children take an event. -/
theorem delegate (hb : Bare b) (h : Follows n s b r) :
    Follows n (s.delegate g e) (b.delegate g e) (r.feedBranches g e) := by
  have candidates : (r.feedBranches g e).candidatesOk = r.candidatesOk := rfl
  cases hs : s.matched with
  | false =>
    refine of_failed (by rw [Session.delegate, absorb_of_failed hs, hs]) ?_
    rcases Bool.and_eq_false_iff.1 (h.matched.symm.trans hs) with hm | hr
    · rw [Session.delegate, absorb_of_failed hm, hm, Bool.false_and]
    · cases hf : (r.feedBranches g e).branchesOk with
      | false => rw [Runs.ok, hf, Bool.and_false, Bool.and_false]
      | true => 
        rw [Runs.ok, branchesOk_of_feed hf, Bool.and_true] at hr
        rw [Runs.ok, candidates, hr, Bool.false_and, Bool.and_false]
  | true =>
    obtain ⟨hm, hr⟩ := Bool.and_eq_true_iff.1 (h.matched.symm.trans hs)
    obtain ⟨hc, hbr⟩ := Bool.and_eq_true_iff.1 hr
    have hg : (b.graft n r).matched = true := hm
    rw [h.eq hs]
    refine ⟨?_, fun hd => ?_⟩
    · rw [Session.delegate, Session.delegate, matched_absorb, matched_absorb, hg, hm,
        holds_graft hb hbr, Runs.ok, candidates, hc, Bool.true_and, Bool.true_and, Bool.true_and]
    · rw [Session.delegate, matched_absorb, hg, Bool.true_and] at hd
      have hd' : (b.children.map (feed g e)).holds = true := by
        rw [holds_graft hb hbr, Bool.and_eq_true] at hd
        exact hd.1
      rw [Session.delegate, absorb_of_holds hg hd, Session.delegate, absorb_of_holds hm hd']
      exact pruned_graft

/-- An event that is not binary. -/
theorem feed (he : e.isBinary = false) (hs : s.touched = true) (ht : b.touched = true)
    (hb : Bare b) (hc : r.candidates.isSome = n.enumeration.isSome) (h : Follows n s b r) :
    Follows n (s.feed g e) (b.feed g e) ((r.feedCandidates e).feedBranches g e) := by
  have hk : Bare (b.checkKind e) := hb.step (·.checkKind e) rfl
  rw [feed_eq g he, feed_eq g he, touch_of_touched hs, touch_of_touched ht]
  exact ((h.checkKind.prune hk.enumeration hc).close.delegate hb.prepare).conclude

end Follows

end Session
end JsonSchema
