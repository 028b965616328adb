import JsonSchema.Proofs.Session.Arrays
/-!
# Objects and the bare session

Between two members of its value the session of a bare node is determined by the number of members
closed and by the names met, if they have to be remembered (`inObject`). A member takes it on if its
name is allowed there and the schemas for that name accept the value, so the events of an object pass
exactly if that holds of every member and the keywords about the whole object hold
(`decides_object`).
-/

namespace JsonSchema.Session

variable {g : Graph} {n : Node NodeId} {r : ObjectRules NodeId} {k : String} {c : Session}

/-! ### The schemas for a name -/

theorem names_iff : r.Names k ↔ namedSchemas r k ≠ [] := by
  have listed : k ∈ r.properties.map (·.1) ↔ (r.properties.lookup k).toList ≠ [] := by
    rw [← lookup_isSome_iff_mem]
    cases r.properties.lookup k <;> simp
  rw [ObjectRules.Names, listed, namedSchemas]
  simp only [ne_eq, List.append_eq_nil_iff, not_and_or]
  refine or_congr_right ?_
  simp [List.filter_eq_nil_iff]

theorem mem_namedSchemas (hd : (r.properties.map (·.1)).Nodup) {m : NodeId} :
    m ∈ namedSchemas r k ↔
      (k, m) ∈ r.properties ∨ ∃ p, (p, m) ∈ r.patterns ∧ p.isMatch k = true := by
  simp only [namedSchemas, List.mem_append, Option.mem_toList, lookup_eq_some_iff_mem hd,
    List.mem_map, List.mem_filter]
  refine or_congr_right ⟨?_, ?_⟩
  · rintro ⟨⟨p, m⟩, ⟨hp, hk⟩, rfl⟩
    exact ⟨p, hp, hk⟩
  · rintro ⟨p, hp, hk⟩
    exact ⟨(p, m), ⟨hp, hk⟩, rfl⟩

theorem membersAt_isSome : (membersAt g r [] k).isSome = true ↔
    (r.additional = some .forbidden → r.Names k) := by
  rw [names_iff, membersAt, List.nil_append]
  cases hs : namedSchemas r k with
  | cons m ms => simp
  | nil =>
    cases ha : r.additional with
    | none => simp
    | some a => cases a <;> simp

theorem mem_membersAt (hd : (r.properties.map (·.1)).Nodup) {cs : List Session}
    (h : membersAt g r [] k = some cs) : c ∈ cs ↔ ∃ m, r.Applies k m ∧ c = start g m := by
  have applies : ∀ m, r.Applies k m ↔
      m ∈ namedSchemas r k ∨ namedSchemas r k = [] ∧ r.additional = some (.schema m) := fun m => by
    rw [mem_namedSchemas hd, ObjectRules.Applies, names_iff, not_not, or_assoc]
  simp only [applies]
  rw [membersAt, List.nil_append] at h
  cases hs : namedSchemas r k with
  | cons m ms =>
    rw [hs] at h
    cases h
    simp [eq_comm]
  | nil =>
    rw [hs] at h
    cases ha : r.additional with
    | none => rw [ha] at h; cases h; simp
    | some a =>
      rw [ha] at h
      cases a with
      | forbidden => cases h
      | schema m => cases h; simp

/-! ### Between the members -/

/-- The names met, if they have to be remembered. -/
def noted (n : Node NodeId) (ks : List String) : List String := if n.tracksKeys then ks else []

/-- The session of the bare node after some members. -/
def inObject (n : Node NodeId) (i : Nat) (ks : List String) : Session :=
  { core n with counts := [i], keys := noted n ks }

/-- The session of the bare node inside a member. -/
def inMember (n : Node NodeId) (i : Nat) (ks : List String) (cs : List Session) : Session :=
  { inObject n i ks with children := { Children.empty with properties := cs } }

theorem bare_inMember (i : Nat) (ks : List String) (cs : List Session) :
    Bare (inMember n i ks cs) := ⟨rfl, rfl, rfl, rfl, rfl, rfl, rfl, rfl⟩

theorem decides_beginObject :
    (machine g).Decides (core n) [.beginObject] (kindOk n .beginObject = true) (inObject n 0 []) := by
  have hp : (core n).prepare g .beginObject = (core n).require (kindOk n .beginObject) :=
    prepare_top bare_core rfl
  have none_noted : noted n [] = [] := ite_self []
  constructor
  · intro hk
    have : (core n).require (kindOk n .beginObject) = core n := require_of_matched rfl hk
    show (core n).feed g .beginObject = _
    rw [feed_of_prepare rfl rfl (by rw [hp, this]; rfl), hp, this, inObject, none_noted]
    rfl
  · intro hk
    refine matched_feed_of_prepare rfl rfl ?_
    rw [hp]
    exact Bool.eq_false_iff.2 hk

theorem decides_key (i : Nat) (ks : List String) : (machine g).Decides (inObject n i ks) [.key k]
    ((n.object.additional = some .forbidden → n.object.Names k) ∧ (n.tracksKeys = true → k ∉ ks))
    (inMember n i (k :: ks) ((membersAt g n.object [] k).getD [])) := by
  have hp : (inObject n i ks).prepare g (.key k) = inObject n i ks := by
    rw [prepare_own ⟨rfl, rfl, rfl, rfl, rfl, rfl, rfl, rfl⟩ rfl (by simp [inObject])]
    rfl
  have run : (machine g).run (inObject n i ks) [.key k] = (inObject n i ks).enterMember g k := by
    show (inObject n i ks).feed g (.key k) = _
    rw [feed_of_prepare rfl rfl (by rw [hp]; rfl), hp]
    rfl
  have enter : (inObject n i ks).enterMember g k =
      if n.tracksKeys && ks.contains k then { inObject n i ks with matched := false }
      else (inObject n i (k :: ks)).openMember g k := by
    have ht : (inObject n i ks).node.tracksKeys = n.tracksKeys := rfl
    rw [enterMember, ht]
    cases ht' : n.tracksKeys <;> simp [inObject, noted, ht']
  let b := inObject n i (k :: ks)
  have found : membersAt g b.node.object b.children.properties k = membersAt g n.object [] k := rfl
  rw [← membersAt_isSome (g := g)]
  constructor
  · rintro ⟨hs, hk⟩
    obtain ⟨cs, hcs⟩ := Option.isSome_iff_exists.1 hs
    rw [run, enter, if_neg (by simpa using hk), openMember, found, hcs]
    rfl
  · intro h
    rw [run, enter]
    split
    · rfl
    · next hk =>
      have hk' : n.tracksKeys = true → k ∉ ks := by simpa using hk
      have hn : membersAt g n.object [] k = none :=
        Option.not_isSome_iff_eq_none.1 fun hs => h ⟨hs, hk'⟩
      rw [openMember, found, hn]
      rfl

/-- The sessions on the schemas that apply to a member of this name accept what events describe. -/
def MemberPasses (g : Graph) (n : Node NodeId) (k : String) (es : List Event) : Prop :=
  ∀ m, n.object.Applies k m → ((start g m).feedAll g es).verdict g = true

section Member

variable {es : List Event} (i : Nat) (ks : List String)

theorem decides_closeMember (he : Enclosed es) (cs : List Session) :
    (machine g).Decides ((inMember n i ks cs).passOn g es) [.member]
      (∀ c ∈ cs, (c.feedAll g es).verdict g = true) (inObject n (i + 1) ks) := by
  let b := (inMember n i ks cs).passOn g es
  have counts : b.counts = [i] := (he [i]).2
  have hp : b.prepare g .member = b.closeMember g := by
    rw [prepare_own (b := b) (bare_inMember i ks cs).passOn rfl (by simp [counts])]
    unfold close
    rw [inOwn, counts]
    rfl
  have properties : b.children.properties.all (verdict g) = true ↔
      ∀ c ∈ cs, (c.feedAll g es).verdict g = true := by
    simp only [b, passOn, inMember, List.all_map, List.all_eq_true, Function.comp_def]
  constructor
  · intro h
    have hc : b.closeMember g = inObject n i ks := by
      rw [closeMember, properties.2 h, counts]
      rfl
    show b.feed g .member = _
    rw [feed_of_prepare rfl rfl (by rw [hp, hc]; rfl), hp, hc]
    rfl
  · intro h
    refine matched_feed_of_prepare (b := b) rfl rfl ?_
    rw [hp]
    exact Bool.eq_false_iff.2 fun h' => h (properties.1 (Bool.and_eq_true_iff (x := true).1 h').2)

theorem decides_member (hd : (n.object.properties.map (·.1)).Nodup) (he : Enclosed es) :
    (machine g).Decides (inObject n i ks) (.key k :: es ++ [.member])
      ((n.object.additional = some .forbidden → n.object.Names k) ∧ (n.tracksKeys = true → k ∉ ks) ∧
        MemberPasses g n k es)
      (inObject n (i + 1) (k :: ks)) := by
  let cs := (membersAt g n.object [] k).getD []
  have applies : ((n.object.additional = some .forbidden → n.object.Names k) →
      ∀ c, c ∈ cs ↔ ∃ m, n.object.Applies k m ∧ c = start g m) := fun ha c => by
    obtain ⟨cs', hcs⟩ := Option.isSome_iff_exists.1 ((membersAt_isSome (g := g)).2 ha)
    simp only [cs, hcs, Option.getD_some, mem_membersAt hd hcs]
  have started : cs.all (·.matched) = true := by
    refine List.all_eq_true.2 fun c hc => ?_
    cases hcs : membersAt g n.object [] k with
    | none => simp [cs, hcs] at hc
    | some cs' =>
      obtain ⟨m, -, rfl⟩ := (mem_membersAt hd hcs).1 (by simpa [cs, hcs] using hc)
      rfl
  have inside := decides_inside (g := g) (b := inMember n i (k :: ks) cs) (bare_inMember i _ cs)
    rfl rfl (by rw [partsOk]; exact started) ((he [i]).1 (by simp))
  refine ((decides_key i ks).cons fun _ => inside.append fun _ =>
    decides_closeMember i (k :: ks) he cs).congr ?_
  constructor
  · rintro ⟨⟨ha, hk⟩, -, hv⟩
    exact ⟨ha, hk, fun m hm => hv _ ((applies ha _).2 ⟨m, hm, rfl⟩)⟩
  · rintro ⟨ha, hk, hv⟩
    have accepted : ∀ c ∈ cs, (c.feedAll g es).verdict g = true := fun c hc => by
      obtain ⟨m, hm, rfl⟩ := (applies ha c).1 hc
      exact hv m hm
    refine ⟨⟨ha, hk⟩, ?_, accepted⟩
    simp only [partsOk, passOn, inMember, Children.empty, Option.map_none, Option.all_none,
      Bool.true_and, List.all_map, List.all_eq_true]
    exact fun c hc => matched_of_verdict (accepted c hc)

end Member

theorem decides_endObject (i : Nat) (ks : List String) :
    (machine g).Decides (inObject n i ks) [.endObject]
      (membersOk n.object (noted n ks) i = true) { core n with keys := noted n ks } := by
  have hp : (inObject n i ks).prepare g .endObject = inObject n i ks := by
    rw [prepare_own ⟨rfl, rfl, rfl, rfl, rfl, rfl, rfl, rfl⟩ rfl (by simp [inObject])]
    rfl
  have run : (machine g).run (inObject n i ks) [.endObject] = { core n with
      matched := membersOk n.object (noted n ks) i, keys := noted n ks } := by
    show (inObject n i ks).feed g .endObject = _
    rw [feed_of_prepare rfl rfl (by rw [hp]; rfl), hp]
    rfl
  constructor
  · intro h
    rw [run, h]
    rfl
  · intro h
    rw [run]
    exact Bool.eq_false_iff.2 h

/-! ### Whole objects -/

/-- What members ask of a session that has met some names. -/
def MembersPass (g : Graph) (n : Node NodeId) (ks : List String) (l : List (String × List Event)) :
    Prop :=
  (n.object.additional = some .forbidden → ∀ k ∈ l.map (·.1), n.object.Names k) ∧
  (n.tracksKeys = true → (l.map (·.1)).Nodup ∧ ∀ k ∈ l.map (·.1), k ∉ ks) ∧
  ∀ m ∈ l, MemberPasses g n m.1 m.2

theorem membersPass_cons {ks : List String} {es : List Event} {l : List (String × List Event)} :
    MembersPass g n ks ((k, es) :: l) ↔
      ((n.object.additional = some .forbidden → n.object.Names k) ∧
        (n.tracksKeys = true → k ∉ ks) ∧ MemberPasses g n k es) ∧
      MembersPass g n (k :: ks) l := by
  simp only [MembersPass, List.map_cons, List.forall_mem_cons, List.nodup_cons]
  constructor
  · rintro ⟨ha, hk, hw, hws⟩
    refine ⟨⟨fun h => (ha h).1, fun h => (hk h).2.1, hw⟩, fun h => (ha h).2, fun h => ?_, hws⟩
    obtain ⟨⟨hn, hd⟩, -, hks⟩ := hk h
    refine ⟨hd, fun k' hk' hmem => ?_⟩
    rcases List.mem_cons.1 hmem with rfl | hmem
    · exact hn hk'
    · exact hks k' hk' hmem
  · rintro ⟨⟨ha, hk, hw⟩, has, hks, hws⟩
    refine ⟨fun h => ⟨ha h, has h⟩, fun h => ?_, hw, hws⟩
    obtain ⟨hd, hns⟩ := hks h
    exact ⟨⟨fun hn => hns k hn (by simp), hd⟩, hk h,
      fun k' hk' hmem => hns k' hk' (List.mem_cons_of_mem _ hmem)⟩

theorem decides_members (hd : (n.object.properties.map (·.1)).Nodup)
    {l : List (String × List Event)} (hl : ∀ m ∈ l, Enclosed m.2) (i : Nat) (ks : List String) :
    (machine g).Decides (inObject n i ks) (Event.members l) (MembersPass g n ks l)
      (inObject n (i + l.length) ((l.map (·.1)).reverse ++ ks)) := by
  induction l generalizing i ks with
  | nil => exact .nil ⟨by simp, by simp, by simp⟩
  | cons m l ih =>
    obtain ⟨k, es⟩ := m
    obtain ⟨he, hl⟩ := List.forall_mem_cons.1 hl
    have split : Event.members ((k, es) :: l) = (.key k :: es ++ [.member]) ++ Event.members l := by
      simp [Event.members]
    have last : inObject n (i + 1 + l.length) ((l.map (·.1)).reverse ++ k :: ks) =
        inObject n (i + ((k, es) :: l).length) ((((k, es) :: l).map (·.1)).reverse ++ ks) := by
      simp [Nat.add_assoc, Nat.add_comm 1]
    rw [split, ← last, membersPass_cons]
    exact (decides_member i ks hd he).append fun _ => ih hl (i + 1) (k :: ks)

theorem membersOk_iff {names : List String} {i : Nat} :
    membersOk n.object (noted n names.reverse) i = true ↔
      (∀ c ∈ n.object.maxProperties, i ≤ c) ∧ (∀ c ∈ n.object.minProperties, c ≤ i) ∧
      (∀ k ∈ n.object.required, k ∈ names) ∧
      ∀ d ∈ n.object.propertyDependencies, d.1 ∈ names → ∀ k ∈ d.2, k ∈ names := by
  cases ht : n.tracksKeys with
  | true =>
    simp only [membersOk, noted, ht, if_true, atMost, atLeast, Bool.and_eq_true, Option.all_eq_true,
      List.all_eq_true, Bool.or_eq_true, Bool.not_eq_true', List.contains_eq_mem,
      List.mem_reverse, decide_eq_true_eq, decide_eq_false_iff_not, and_assoc,
      Option.mem_def, imp_iff_not_or]
  | false =>
    obtain ⟨⟨hr, hp⟩, -⟩ : (n.object.required = [] ∧ n.object.propertyDependencies = []) ∧
        n.object.schemaDependencies = [] := by
      simpa [Node.tracksKeys] using ht
    simp [membersOk, hr, hp, atMost, atLeast, Option.all_eq_true]

/-- The events of an object pass the bare session exactly if the members do, and the keywords about
the names and the number of members hold. -/
theorem decides_objectEvents (hd : (n.object.properties.map (·.1)).Nodup)
    {l : List (String × List Event)} (hl : ∀ m ∈ l, Enclosed m.2) :
    (machine g).Decides (core n) (.beginObject :: Event.members l ++ [.endObject])
      (kindOk n .beginObject = true ∧ MembersPass g n [] l ∧
        membersOk n.object (noted n (l.map (·.1)).reverse) l.length = true)
      { core n with keys := noted n (l.map (·.1)).reverse } := by
  have members := decides_members (g := g) hd hl 0 []
  rw [Nat.zero_add, List.append_nil] at members
  exact decides_beginObject.cons fun _ => members.append fun _ => decides_endObject l.length _

/-- The events of an object pass the bare session exactly if the members satisfy the schemas that
apply to them, and the object the other keywords about objects. -/
theorem decides_object (hd : (n.object.properties.map (·.1)).Nodup) (ms : Members) :
    (machine g).Decides (core n) (Value.object ms).events
      (kindOk n .beginObject = true ∧ n.object.Admits ms ∧ (n.tracksKeys = true → ms.names.Nodup) ∧
        ∀ k w, (k, w) ∈ ms → ∀ m, n.object.Applies k m → Accepts g m w)
      { core n with keys := noted n ms.names.reverse } := by
  have object := decides_objectEvents (g := g) hd (l := ms.map fun m => (m.1, m.2.events))
    (List.forall_mem_map.2 fun m _ => enclosed_events m.2)
  have names : (ms.map fun m => (m.1, m.2.events)).map (·.1) = ms.names := List.map_map
  rw [names, List.length_map] at object
  rw [Value.events, Value.memberEvents_eq]
  refine object.congr (and_congr_right fun _ => ?_)
  rw [membersOk_iff, MembersPass, names, List.forall_mem_map]
  simp only [List.not_mem_nil, not_false_iff, implies_true, and_true]
  constructor
  · rintro ⟨⟨ha, hk, hw⟩, h1, h2, h3, h4⟩
    exact ⟨⟨h1, h2, ha, h3, h4⟩, hk, fun k w hm => hw (k, w) hm⟩
  · rintro ⟨⟨h1, h2, ha, h3, h4⟩, hk, hw⟩
    exact ⟨⟨ha, hk, fun m hm => hw m.1 m.2 hm⟩, h1, h2, h3, h4⟩

end JsonSchema.Session
