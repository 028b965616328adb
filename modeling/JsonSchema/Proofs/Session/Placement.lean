import Mathlib.Tactic.Tauto
import JsonSchema.Proofs.Graph.Morphism
import JsonSchema.Proofs.Session.Arrays
/-!
# Where sessions are placed

Whatever events come, the children of a session stay on the nodes that its own node refers to, and
its branches on those that it applies to the same value (`Session.Placed`). The steps of an event
only drop children, hand the event on to them, or begin new ones on such nodes (`all_touch`,
`all_prepare`, `all_absorb`, `all_conclude`), so an event leaves everything below a session in its
place (`Placed.feed`), and so does any list of events (`Placed.feedAll`).
-/

namespace JsonSchema

namespace Children

variable {σ τ : Type} {c d : Children σ} {x : σ} {P Q : σ → Prop} {P' Q' : τ → Prop}

/-- The children on schemas for the part of the value that is being described. -/
def parts (c : Children σ) : List σ := c.item.toList ++ c.properties

/-- The children on schemas that apply to the value itself. -/
def branches (c : Children σ) : List σ :=
  c.allOf ++ c.anyOf ++ c.oneOf ++ c.not.toList ++ c.dependencies.map (·.2)

theorem mem_toList_iff : x ∈ c.toList ↔ x ∈ c.parts ∨ x ∈ c.branches := by
  simp only [toList, parts, branches, List.mem_append, or_assoc]

theorem map_congr {f f' : σ → τ} (h : ∀ x ∈ c.toList, f x = f' x) : c.map f = c.map f' := by
  rw [← pmap_eq_map, ← pmap_eq_map]
  congr
  funext x hx
  exact h x hx

/-- Every child for a part of the value has one property, and every branch another. -/
@[mk_iff]
structure All (P Q : σ → Prop) (c : Children σ) : Prop where
  item : ∀ x, c.item = some x → P x
  properties : ∀ x ∈ c.properties, P x
  allOf : ∀ x ∈ c.allOf, Q x
  anyOf : ∀ x ∈ c.anyOf, Q x
  oneOf : ∀ x ∈ c.oneOf, Q x
  not : ∀ x, c.not = some x → Q x
  dependencies : ∀ p ∈ c.dependencies, Q p.2

theorem all_iff_forall_mem : c.All P Q ↔ (∀ x ∈ c.parts, P x) ∧ ∀ x ∈ c.branches, Q x := by
  simp only [all_iff, parts, branches, List.mem_append, Option.mem_toList, List.mem_map,
    or_imp, forall_and, forall_exists_index, and_imp, forall_apply_eq_imp_iff₂,
    and_assoc]

theorem all_and_iff {R : σ → Prop} :
    c.All (fun x => P x ∧ R x) (fun x => Q x ∧ R x) ↔ c.All P Q ∧ ∀ x ∈ c.toList, R x := by
  simp only [all_iff_forall_mem, mem_toList_iff, or_imp, forall_and]
  tauto

theorem parts_map (f : σ → τ) : (c.map f).parts = c.parts.map f := by
  cases hi : c.item <;> simp [parts, map, hi]

theorem branches_map (f : σ → τ) : (c.map f).branches = c.branches.map f := by
  cases hn : c.not <;> simp [branches, map, hn]

theorem All.map {f : σ → τ} (h : c.All P Q) (hp : ∀ x ∈ c.toList, P x → P' (f x))
    (hq : ∀ x ∈ c.toList, Q x → Q' (f x)) : (c.map f).All P' Q' := by
  rw [all_iff_forall_mem] at h ⊢
  rw [parts_map, branches_map, List.forall_mem_map, List.forall_mem_map]
  exact ⟨fun x hx => hp x (mem_toList_iff.2 (.inl hx)) (h.1 x hx),
    fun x hx => hq x (mem_toList_iff.2 (.inr hx)) (h.2 x hx)⟩

end Children

namespace Session

variable {g : Graph} {s : Session} {e : Event} {id : NodeId} {P Q : Session → Prop}

/-! ### The children that an event leaves -/

theorem all_touch (h : s.children.All P Q) (hq : ∀ m ∈ s.node.inPlace, Q (start g m)) :
    (s.touch g).children.All P Q := by
  by_cases ht : s.touched
  · rwa [touch, if_pos ht]
  · rw [touch, if_neg ht]
    simp only [Node.inPlace, Composition.schemas, List.mem_append, Option.mem_toList, List.mem_map,
      or_imp, forall_and, forall_exists_index, and_imp, forall_apply_eq_imp_iff₂] at hq
    obtain ⟨⟨⟨⟨allOf, anyOf⟩, oneOf⟩, not⟩, dependencies⟩ := hq
    exact
      { item := h.item
        properties := h.properties
        allOf := List.forall_mem_map.2 allOf
        anyOf := List.forall_mem_map.2 anyOf
        oneOf := List.forall_mem_map.2 oneOf
        not := by
          rintro x hx
          obtain ⟨m, hm, rfl⟩ := Option.map_eq_some_iff.1 hx
          exact not m hm
        dependencies := List.forall_mem_map.2 dependencies }

theorem children_prune : (s.prune e).children = s.children := by
  unfold prune
  split <;> rfl

theorem all_prepare (h : s.children.All P Q) : (s.prepare g e).children.All P Q := by
  have kept : ((s.checkKind e).prune e).children.All P Q := by
    rw [children_prune]
    exact h
  have item : (((s.checkKind e).prune e).closeItem g).children.All P Q :=
    { kept with item := by rintro x ⟨⟩ }
  unfold prepare close
  split
  · split
    · exact item
    · exact item
    · exact { kept with properties := by simp [closeMember] }
    · exact kept
  · exact kept

theorem all_renew {f : Children Session → Children Session} {ok : Bool}
    (h : s.children.All P Q) (hf : ∀ c : Children Session, c.All P Q → (f c).All P Q) :
    (s.renew f ok).children.All P Q := by
  unfold renew
  split
  · exact hf _ h
  · exact h

theorem all_absorb {fed : Children Session} (h : s.children.All P Q) (hf : fed.All P Q) :
    (s.absorb fed).children.All P Q := by
  refine all_renew (all_renew (all_renew (all_renew (all_renew (all_renew (all_renew h ?item)
    ?properties) ?allOf) ?anyOf) ?oneOf) ?not) ?dependencies
  case item => exact fun c hc => { hc with item := hf.item }
  case properties => exact fun c hc => { hc with properties := hf.properties }
  case allOf => exact fun c hc => { hc with allOf := hf.allOf }
  case anyOf =>
    exact fun c hc => { hc with anyOf := fun x hx => hf.anyOf x (List.mem_of_mem_filter hx) }
  case oneOf =>
    exact fun c hc => { hc with oneOf := fun x hx => hf.oneOf x (List.mem_of_mem_filter hx) }
  case not =>
    exact fun c hc => { hc with not := fun x hx => hf.not x (Option.eq_some_of_filter_eq_some hx) }
  case dependencies =>
    exact fun c hc =>
      { hc with dependencies := fun p hp => hf.dependencies p (List.mem_of_mem_filter hp) }

/-- The node of a session and its children. -/
def kin (s : Session) : Node NodeId × Children Session := (s.node, s.children)

theorem kin_digest : (s.digest e).kin = s.kin := by
  unfold digest
  split <;> rfl

theorem kin_openArray : s.openArray.kin = s.kin := by
  unfold openArray
  split
  · rfl
  · exact kin_digest

theorem kin_closeElement : s.closeElement.kin = s.kin := by
  unfold closeElement
  split
  · split
    · dsimp only
      split <;> rfl
    · exact kin_digest
  · rfl

theorem mem_schemas_of_membersAt {r : ObjectRules NodeId} {opened l : List Session} {name : String}
    {c : Session} (h : membersAt g r opened name = some l) (hc : c ∈ l) :
    c ∈ opened ∨ ∃ m ∈ r.schemas, c = start g m := by
  unfold membersAt at h
  dsimp only at h
  split at h
  · cases ha : r.additional with
    | none =>
      rw [ha] at h
      cases h
      cases hc
    | some a =>
      cases a with
      | forbidden =>
        rw [ha] at h
        cases h
      | schema m =>
        rw [ha] at h
        cases h
        refine .inr ⟨m, ?_, List.mem_singleton.1 hc⟩
        simp [ObjectRules.schemas, ha, Additional.schemas]
  · cases h
    rcases List.mem_append.1 hc with hc | hc
    · exact .inl hc
    · obtain ⟨m, hm, rfl⟩ := List.mem_map.1 hc
      refine .inr ⟨m, ?_, rfl⟩
      simp only [namedSchemas, List.mem_append, Option.mem_toList, List.mem_map] at hm
      simp only [ObjectRules.schemas, List.mem_append, List.mem_map]
      rcases hm with hm | ⟨p, hp, rfl⟩
      · exact .inl (.inl (.inl ⟨(name, m), mem_of_lookup hm, rfl⟩))
      · exact .inl (.inl (.inr ⟨p, List.mem_of_mem_filter hp, rfl⟩))

section Conclude

variable (h : s.children.All P Q) (hp : ∀ m ∈ s.node.subschemas, P (start g m))
include h hp

theorem all_openItem (i : Nat) : (s.openItem g i).children.All P Q := by
  refine { h with item := fun x hx => ?_ }
  obtain ⟨m, hm, rfl⟩ := itemAt_eq_some_iff.1 hx
  refine hp m ?_
  simp [Node.subschemas, hm.mem_schemas]

theorem all_openMember (k : String) : (s.openMember g k).children.All P Q := by
  unfold openMember
  split
  · exact h
  · next l hl =>
    refine { h with properties := fun x hx => ?_ }
    rcases mem_schemas_of_membersAt hl hx with hx | ⟨m, hm, rfl⟩
    · exact h.properties x hx
    · refine hp m ?_
      simp [Node.subschemas, hm]

theorem all_enterMember (k : String) : (s.enterMember g k).children.All P Q := by
  have opened (keys : List String) : ({ s with keys := keys }.openMember g k).children.All P Q :=
    all_openMember (s := { s with keys := keys }) h hp k
  unfold enterMember
  split
  · split
    · exact h
    · exact opened (k :: s.keys)
  · exact opened s.keys

theorem all_conclude : (s.conclude g e).children.All P Q := by
  have kept {t : Session} (ht : t.kin = s.kin) :
      t.children.All P Q ∧ ∀ m ∈ t.node.subschemas, P (start g m) := by
    obtain ⟨hn, hc⟩ := Prod.mk.inj ht
    exact ⟨hc ▸ h, hn ▸ hp⟩
  have digested (e : Event) := kept (kin_digest (s := s) (e := e))
  cases e with
  | beginArray =>
    obtain ⟨hc, hm⟩ := kept kin_openArray
    simp only [conclude]
    split
    · exact all_openItem hc hm 0
    · exact hc
  | element =>
    obtain ⟨hc, hm⟩ := kept kin_closeElement
    simp only [conclude]
    split
    · exact all_openItem (s := s.closeElement.tally .element) hc hm _
    · exact hc
  | endArray =>
    simp only [conclude]
    split
    · exact h
    · exact (digested .endArray).1
  | key k =>
    obtain ⟨hc, hm⟩ := digested (.key k)
    simp only [conclude]
    split
    · exact all_enterMember hc hm k
    · exact hc
  | endObject => exact (digested .endObject).1
  | beginObject => exact (digested .beginObject).1
  | member => exact (digested .member).1
  | _ =>
    simp only [conclude]
    refine (kept ?_).1
    exact kin_digest

end Conclude

/-! ### Where the sessions below one are placed -/

/-- The session is on a node that the list names. -/
def Among (g : Graph) (ms : List NodeId) (s : Session) : Prop := ∃ m ∈ ms, s.node = g.node m

/-- At and below the session, children are on the nodes that the node of their parent refers to, and
branches on those that it applies to the same value. -/
inductive Placed (g : Graph) : Session → Prop
  | intro {s : Session}
      (edges : s.children.All (Among g s.node.subschemas) (Among g s.node.inPlace))
      (below : ∀ c ∈ s.children.toList, Placed g c) : Placed g s

theorem placed_iff : Placed g s ↔ s.children.All
    (fun c => Among g s.node.subschemas c ∧ Placed g c)
    (fun c => Among g s.node.inPlace c ∧ Placed g c) := by
  rw [Children.all_and_iff]
  constructor
  · rintro ⟨edges, below⟩
    exact ⟨edges, below⟩
  · rintro ⟨edges, below⟩
    exact ⟨edges, below⟩

theorem placed_start (id : NodeId) : Placed g (start g id) := by
  rw [placed_iff, Children.all_iff]
  simp [start, fresh, Children.empty]

theorem Placed.touch (h : Placed g s) : Placed g (s.touch g) := by
  rw [placed_iff, node_touch]
  exact all_touch (placed_iff.1 h) fun m hm => ⟨⟨m, hm, rfl⟩, placed_start m⟩

theorem node_delegate : (((s.touch g).prepare g e).delegate g e).node = s.node := by
  have : (((s.touch g).prepare g e).delegate g e).frame = (s.touch g).frame := by
    rw [frame_delegate, frame_prepare]
  exact (congrArg (·.1) this).trans node_touch

/-- An event leaves every session in its place. -/
theorem Placed.feed {s : Session} (h : Placed g s) (e : Event) : Placed g (s.feed g e) := by
  cases he : e.isBinary with
  | true =>
    rw [feed_binary g he]
    exact h.touch
  | false =>
    have prepared := all_prepare (g := g) (e := e) (placed_iff.1 h.touch)
    rw [node_touch] at prepared
    -- a child goes on to lighter sessions, and keeps its node
    have fed (ms : List NodeId) : ∀ c ∈ ((s.touch g).prepare g e).children.toList,
        Among g ms c ∧ Placed g c → Among g ms (c.feed g e) ∧ Placed g (c.feed g e) := by
      rintro c hc ⟨⟨m, hm, hn⟩, placed⟩
      exact ⟨⟨m, hm, node_feed.trans hn⟩, placed.feed e⟩
    rw [placed_iff, node_feed, feed_eq g he]
    refine all_conclude (all_absorb prepared (prepared.map (fed _) (fed _))) fun m hm => ?_
    rw [node_delegate] at hm
    exact ⟨⟨m, hm, rfl⟩, placed_start m⟩
termination_by s.weight g
decreasing_by exact weight_child_touch g (mem_prepare g hc)

theorem Placed.feedAll (h : Placed g s) (es : List Event) : Placed g (s.feedAll g es) := by
  induction es generalizing s with
  | nil => exact h
  | cons e es ih => exact ih (h.feed e)

end Session
end JsonSchema
