import JsonSchema.Proofs.Alias.Meaning
/-!
# Resolving local references

`Aliases.resolve` finds what each local reference stands for, if every fragment is a pointer and every
reference stands for something, and fails otherwise (`Aliases.exists_resolve`,
`Aliases.lookup_resolve`). What is found is sound whatever is free to be followed; it is found if
whatever takes less steps is free, and that is kept when a reference is being followed, for none
of those that it meets takes as many.
-/

namespace JsonSchema.Aliases

variable {d : Value} {pb : Problem}

/-- Resolution of the local references of a document. -/
structure Problem.Of (pb : Problem) (d : Value) : Prop where
  document : pb.document = d
  requested : ∀ p, pb.requested.lookup p = d.request? p

theorem Problem.Of.isAlias (h : pb.Of d) {p : Pointer} :
    pb.isAlias p = true ↔ d.request? p ≠ none := by
  rw [Problem.isAlias, h.requested, Option.isSome_iff_ne_none]

theorem Problem.Of.not_isAlias (h : pb.Of d) {p : Pointer} :
    ¬pb.isAlias p = true ↔ d.request? p = none := by
  rw [h.isAlias, not_not]

section

variable {source target p : Pointer} {v w link : Value} {token : String}

theorem step_eq_ok : step source target p v token = .ok w ↔ v.step? token = some w := by
  unfold step Value.step?
  cases v with
  | object ms =>
    cases hr : (Value.object ms).isReference <;> cases hm : Members.get? ms token <;> simp [hm]
  | array vs =>
    cases hi : (Value.signedIndex? token).bind fun i => vs[i]? <;> simp [hi]
  | _ => simp

theorem enter_eq_ok : enter pb source target link p token = .ok w ↔ pb.document.at? p = some w ∧
    ((link.member? token).isSome → (w.member? token).isSome) := by
  unfold enter
  cases pb.document.at? p with
  | none => simp
  | some v =>
    by_cases hl : (link.member? token).isSome <;> cases hv : v.member? token <;> simp [hl, hv]
    all_goals rintro rfl; simp [hv]

end

/-- Following a reference that is free and not in the table. -/
theorem follow_eq_ok {free : List Pointer} {table table' : AliasTable} {source target x : Pointer}
    (hl : table.lookup source = none) (hf : source ∈ free)
    (ht : pb.requested.lookup source = some target) :
    follow pb free table source = .ok (x, table') ↔ ∃ y table₁ table₂,
      walk pb (free.erase source) table source target .root pb.document target.tokens =
        .ok (y, table₁) ∧ y ≠ source ∧
      (pb.isAlias y = true ∧ follow pb (free.erase source) table₁ y = .ok (x, table₂) ∨
        ¬pb.isAlias y = true ∧ x = y ∧ table₂ = table₁) ∧
      x ≠ source ∧ table' = table₂ ++ [(source, x)] := by
  rw [follow, hl]
  simp only [dif_pos hf, ht, bind_eq_ok]
  constructor
  · rintro ⟨⟨y, table₁⟩, hw, h⟩
    split at h
    · cases h
    · next hy =>
      split at h
      · next ha =>
        obtain ⟨⟨c, table₂⟩, hc, h⟩ := bind_eq_ok.1 h
        split at h
        · cases h
        · next hx => cases h; exact ⟨y, table₁, table₂, hw, hy, .inl ⟨ha, hc⟩, hx, rfl⟩
      · next ha =>
        obtain ⟨⟨c, table₂⟩, hc, h⟩ := bind_eq_ok.1 h
        cases hc
        split at h
        · cases h
        · next hx => cases h; exact ⟨y, table₁, table₁, hw, hy, .inr ⟨ha, rfl, rfl⟩, hx, rfl⟩
  · rintro ⟨y, table₁, table₂, hw, hy, h, hx, rfl⟩
    refine ⟨(y, table₁), hw, ?_⟩
    rw [if_neg hy]
    rcases h with ⟨ha, hc⟩ | ⟨ha, rfl, rfl⟩
    · rw [if_pos ha]
      exact bind_eq_ok.2 ⟨(x, table₂), hc, if_neg hx⟩
    · rw [if_neg ha]
      exact bind_eq_ok.2 ⟨(x, table₂), rfl, if_neg hx⟩

/-! ### Soundness -/

/-- Each local reference in a table stands for the position beside it. -/
def Sound (d : Value) (table : AliasTable) : Prop := ∀ q c, (q, c) ∈ table → ∃ n, d.Refers n q c

theorem Sound.append {table : AliasTable} {n : Nat} {q c : Pointer} (hs : Sound d table)
    (h : d.Refers n q c) : Sound d (table ++ [(q, c)]) := by
  intro q' c' hm
  rcases List.mem_append.1 hm with hm | hm
  · exact hs q' c' hm
  · cases List.mem_singleton.1 hm
    exact ⟨n, h⟩

mutual

theorem follow_sound (hp : pb.Of d) (free : List Pointer) (table : AliasTable) (source : Pointer)
    {x : Pointer} {table' : AliasTable} (named : d.request? source ≠ none) (hs : Sound d table)
    (h : follow pb free table source = .ok (x, table')) :
    Sound d table' ∧ table ⊆ table' ∧ (source, x) ∈ table' := by
  cases hl : table.lookup source with
  | some done =>
    rw [follow, hl] at h
    cases h
    exact ⟨hs, List.Subset.refl _, mem_of_lookup hl⟩
  | none =>
    by_cases hf : source ∈ free
    · obtain ⟨target, ht⟩ := Option.ne_none_iff_exists'.1 named
      obtain ⟨y, table₁, table₂, hw, -, hy, -, rfl⟩ :=
        (follow_eq_ok hl hf ((hp.requested source).trans ht)).1 h
      obtain ⟨hs₁, sub₁, lead⟩ := walk_sound hp (free.erase source) table source target .root
        pb.document target.tokens hs hw
      -- the walk may end on a reference, which is followed in its turn
      have last : Sound d table₂ ∧ table₁ ⊆ table₂ ∧ ∃ n, d.Leads n y d [] x := by
        rcases hy with ⟨ha, hc⟩ | ⟨ha, rfl, rfl⟩
        · obtain ⟨hs₂, sub₂, hm⟩ :=
            follow_sound hp (free.erase source) table₁ y (hp.isAlias.1 ha) hs₁ hc
          obtain ⟨n, hn⟩ := hs₂ _ _ hm
          exact ⟨hs₂, sub₂, n + 1, hn.leads d⟩
        · exact ⟨hs₁, List.Subset.refl _, 0, .stop (hp.not_isAlias.1 ha)⟩
      obtain ⟨hs₂, sub₂, n, hn⟩ := last
      obtain ⟨m, hm⟩ := lead n d x hn
      rw [hp.document] at hm
      refine ⟨hs₂.append ⟨target, ht, hm⟩, ?_, by simp⟩
      exact List.Subset.trans (List.Subset.trans sub₁ sub₂) (List.subset_append_left _ _)
    · rw [follow, hl] at h
      simp only [dif_neg hf] at h
      cases h
termination_by (free.length, 0)
decreasing_by all_goals exact Prod.Lex.left _ _ (length_erase_lt ‹_›)

theorem walk_sound (hp : pb.Of d) (free : List Pointer) (table : AliasTable)
    (source target p : Pointer) (v : Value) (ts : List String) {y : Pointer} {table' : AliasTable}
    (hs : Sound d table) (h : walk pb free table source target p v ts = .ok (y, table')) :
    Sound d table' ∧ table ⊆ table' ∧ ∀ n u x, d.Leads n y u [] x → ∃ m, d.Leads m p v ts x := by
  match ts with
  | [] =>
    unfold walk at h
    cases h
    refine ⟨hs, List.Subset.refl _, fun n u x hl => ?_⟩
    rcases Value.leads_nil hl with ⟨plain, rfl⟩ | ⟨m, -, hm⟩
    · exact ⟨0, .stop plain⟩
    · exact ⟨m + 1, hm.leads v⟩
  | token :: ts =>
    unfold walk at h
    split at h
    · next ha =>
      split at h
      · next hf =>
        simp only [bind_eq_ok, enter_eq_ok, step_eq_ok, hp.document] at h
        obtain ⟨⟨c, table₁⟩, hc, u, ⟨value, shadowed⟩, w, part, hw⟩ := h
        obtain ⟨hs₁, sub₁, hm⟩ := follow_sound hp free table p (hp.isAlias.1 ha) hs hc
        obtain ⟨hs₂, sub₂, lead⟩ := walk_sound hp free table₁ source target (c.child token) w ts hs₁ hw
        obtain ⟨k, t, named, hk⟩ := hs₁ _ _ hm
        refine ⟨hs₂, List.Subset.trans sub₁ sub₂, fun n u' x hl => ?_⟩
        obtain ⟨m, hm⟩ := lead n u' x hl
        exact ⟨_, .through named hk value shadowed part hm⟩
      · cases h
    · next ha =>
      simp only [bind_eq_ok, step_eq_ok] at h
      obtain ⟨w, part, hw⟩ := h
      obtain ⟨hs₁, sub₁, lead⟩ := walk_sound hp free table source target (p.child token) w ts hs hw
      refine ⟨hs₁, sub₁, fun n u x hl => ?_⟩
      obtain ⟨m, hm⟩ := lead n u x hl
      exact ⟨_, .step (hp.not_isAlias.1 ha) part hm⟩
termination_by (free.length, ts.length + 1)

end

theorem followAll_sound (hp : pb.Of d) (free : List Pointer) {ps : List Pointer}
    {table table' : AliasTable} (named : ∀ p ∈ ps, d.request? p ≠ none) (hs : Sound d table)
    (h : followAll pb free table ps = .ok table') :
    Sound d table' ∧ table ⊆ table' ∧ ∀ p ∈ ps, ∃ c, (p, c) ∈ table' := by
  induction ps generalizing table with
  | nil =>
    cases h
    exact ⟨hs, List.Subset.refl _, by simp⟩
  | cons p ps ih =>
    simp only [followAll, bind_eq_ok] at h
    obtain ⟨⟨c, table₁⟩, hc, h⟩ := h
    obtain ⟨hs₁, sub₁, hm⟩ := follow_sound hp free table p (named p (by simp)) hs hc
    obtain ⟨hs₂, sub₂, rest⟩ := ih (fun q hq => named q (by simp [hq])) hs₁ h
    refine ⟨hs₂, List.Subset.trans sub₁ sub₂, ?_⟩
    rw [List.forall_mem_cons]
    exact ⟨⟨c, sub₂ hm⟩, rest⟩

/-! ### Completeness -/

/-- Every local reference that takes less than `n` steps is free. -/
def Ample (d : Value) (free : List Pointer) (n : Nat) : Prop :=
  ∀ m q c, d.Refers m q c → m < n → q ∈ free

theorem Ample.mono {free : List Pointer} {m n : Nat} (h : Ample d free n) (hm : m ≤ n) :
    Ample d free m :=
  fun k q c hq hk => h k q c hq (Nat.lt_of_lt_of_le hk hm)

/-- None that takes less steps is the one that is being followed. -/
theorem Ample.erase {free : List Pointer} {n : Nat} {source x : Pointer}
    (h : Ample d free (n + 1)) (hx : d.Refers n source x) : Ample d (free.erase source) n := by
  intro m q c hq hm
  have hne : q ≠ source := by
    rintro rfl
    exact absurd (hq.unique hx).1 (Nat.ne_of_lt hm)
  exact (List.mem_erase_of_ne hne).2 (h m q c hq (Nat.lt_succ_of_lt hm))

/-- A local reference that takes `n` steps is followed. -/
def Followed (d : Value) (pb : Problem) (n : Nat) : Prop :=
  ∀ source x, d.Refers n source x → ∀ free table, Sound d table → Ample d free (n + 1) →
    ∃ table', follow pb free table source = .ok (x, table')

theorem walk_isOk (hp : pb.Of d) {free : List Pointer} {table : AliasTable} {N n : Nat}
    (ih : ∀ k < N, Followed d pb k) (hs : Sound d table) (hf : Ample d free N) (hn : n ≤ N)
    (source target : Pointer) {p x : Pointer} {v : Value} {ts : List String}
    (h : d.Leads n p v ts x) :
    ∃ y table', walk pb free table source target p v ts = .ok (y, table') ∧
      ∃ m ≤ n, ∃ u, d.Leads m y u [] x := by
  induction h generalizing table with
  | @stop p v plain =>
    exact ⟨p, table, by rw [walk], 0, Nat.le_refl _, v, .stop plain⟩
  | @link n p t x v named target _ =>
    exact ⟨p, table, by rw [walk], n + 1, Nat.le_refl _, v, .link named target⟩
  | @step n p x v w token ts plain part _ ihr =>
    obtain ⟨y, table', hw, m, hm, u, hu⟩ := ihr hs (by omega)
    refine ⟨y, table', ?_, m, by omega, u, hu⟩
    rw [walk, if_neg (hp.not_isAlias.2 plain), bind_eq_ok]
    exact ⟨w, step_eq_ok.2 part, hw⟩
  | @through k n p t c x v u w token ts named lead value shadowed part _ _ ihr =>
    have refers : d.Refers k p c := ⟨t, named, lead⟩
    obtain ⟨table₁, hc⟩ := ih k (by omega) p c refers free table hs (hf.mono (by omega))
    obtain ⟨hs₁, -, -⟩ := follow_sound hp free table p refers.named hs hc
    obtain ⟨y, table', hw, m, hm, u', hu⟩ := ihr hs₁ (by omega)
    refine ⟨y, table', ?_, m, by omega, u', hu⟩
    rw [walk, if_pos (hp.isAlias.2 refers.named), if_pos (hf k p c refers (by omega))]
    simp only [bind_eq_ok, enter_eq_ok, step_eq_ok, hp.document]
    exact ⟨(c, table₁), hc, u, ⟨value, shadowed⟩, w, part, hw⟩

/-- Whatever stands for something is followed, if whatever takes less steps is free. -/
theorem follow_isOk (hp : pb.Of d) (n : Nat) : Followed d pb n := by
  induction n using Nat.strongRecOn with
  | ind n ih =>
    intro source x hx free table hs hf
    cases hl : table.lookup source with
    | some done =>
      -- what the table has is right, and a reference stands for one position only
      obtain ⟨m, hm⟩ := hs _ _ (mem_of_lookup hl)
      obtain ⟨-, rfl⟩ := hm.unique hx
      exact ⟨table, by rw [follow, hl]⟩
    | none =>
      obtain ⟨target, named, lead⟩ := id hx
      have hf' := hf.erase hx
      obtain ⟨y, table₁, hw, m, hm, u, hu⟩ :=
        walk_isOk hp ih hs hf' (Nat.le_refl n) source target lead
      obtain ⟨hs₁, -, -⟩ := walk_sound hp _ _ _ _ _ _ _ hs hw
      rw [← hp.document] at hw
      simp only [follow_eq_ok hl (hf n source x hx (Nat.lt_succ_self n))
        ((hp.requested source).trans named)]
      rcases Value.leads_nil hu with ⟨plain, rfl⟩ | ⟨k, hk, hy⟩
      · exact ⟨_, x, table₁, table₁, hw, hx.ne, .inr ⟨hp.not_isAlias.2 plain, rfl, rfl⟩, hx.ne, rfl⟩
      · -- another round would need as many steps as the first
        have hne : y ≠ source := by
          rintro rfl
          have := (hy.unique hx).1
          omega
        obtain ⟨table₂, hc⟩ := ih k (by omega) y x hy _ table₁ hs₁ (hf'.mono (by omega))
        exact ⟨_, y, table₁, table₂, hw, hne, .inl ⟨hp.isAlias.2 hy.named, hc⟩, hx.ne, rfl⟩

theorem followAll_isOk (hp : pb.Of d) {free : List Pointer} (hf : ∀ n, Ample d free n)
    {ps : List Pointer} {table : AliasTable} (refers : ∀ p ∈ ps, ∃ n x, d.Refers n p x)
    (hs : Sound d table) : ∃ table', followAll pb free table ps = .ok table' := by
  induction ps generalizing table with
  | nil => exact ⟨table, rfl⟩
  | cons p ps ih =>
    obtain ⟨n, x, hx⟩ := refers p (by simp)
    obtain ⟨table₁, hc⟩ := follow_isOk hp n p x hx free table hs (hf _)
    obtain ⟨hs₁, -, -⟩ := follow_sound hp free table p hx.named hs hc
    obtain ⟨table', h⟩ := ih (fun q hq => refers q (by simp [hq])) hs₁
    exact ⟨table', by simp only [followAll, bind_eq_ok]; exact ⟨(x, table₁), hc, h⟩⟩

/-! ### All references -/

section

variable {ps : List Pointer} (hp : pb.Of d) (all : ∀ p, p ∈ ps ↔ d.request? p ≠ none)

include hp all

/-- The references of a document with what they stand for are the entries of any table that is found
by following all of them. -/
theorem mem_followAll {free : List Pointer} {found : AliasTable}
    (h : followAll pb free [] ps = .ok found) (p c : Pointer) :
    (p, c) ∈ found ↔ ∃ n, d.Refers n p c := by
  obtain ⟨sound, -, cover⟩ :=
    followAll_sound hp free (fun p hp => (all p).1 hp) (by rintro _ _ ⟨⟩) h
  constructor
  · exact sound p c
  · rintro ⟨n, hn⟩
    obtain ⟨c', hc'⟩ := cover p ((all p).2 hn.named)
    obtain ⟨m, hm⟩ := sound p c' hc'
    rwa [(hm.unique hn).2] at hc'

/-- All local references can be followed exactly if each of them stands for something. -/
theorem exists_followAll : (∃ found, followAll pb ps [] ps = .ok found) ↔
    ∀ p, d.request? p ≠ none → ∃ n c, d.Refers n p c := by
  constructor
  · rintro ⟨found, h⟩ p named
    obtain ⟨sound, -, cover⟩ :=
      followAll_sound hp ps (fun p hp => (all p).1 hp) (by rintro _ _ ⟨⟩) h
    obtain ⟨c, hc⟩ := cover p ((all p).2 named)
    obtain ⟨n, hn⟩ := sound p c hc
    exact ⟨n, c, hn⟩
  · intro refers
    exact followAll_isOk hp (fun _ _ q _ hq _ => (all q).2 hq.named)
      (fun p hp => refers p ((all p).1 hp)) (by rintro _ _ ⟨⟩)

end

/-! ### Resolution of a document -/

theorem resolve_eq_ok {table : AliasTable} : resolve d = .ok table ↔
    ∃ requested, collect .root d = .ok requested ∧ ∃ found,
      followAll ⟨d, sort requested⟩ ((sort requested).map (·.1)) [] ((sort requested).map (·.1)) =
        .ok found ∧ sort found = table := by
  simp only [resolve, bind_eq_ok, pure_eq_ok]

theorem problem_of_collect (hd : d.IsDocument) {requested : AliasTable}
    (h : collect .root d = .ok requested) : (Problem.mk d (sort requested)).Of d :=
  ⟨rfl, lookup_sort_collect hd h⟩

theorem mem_requested (hd : d.IsDocument) {requested : AliasTable}
    (h : collect .root d = .ok requested) {p : Pointer} :
    p ∈ (sort requested).map (·.1) ↔ d.request? p ≠ none := by
  rw [← lookup_isSome_iff_mem, lookup_sort_collect hd h, Option.isSome_iff_ne_none]

/-- The entries of the table of a document are its local references with what they stand for. -/
theorem mem_resolve (hd : d.IsDocument) {table : AliasTable} (h : resolve d = .ok table)
    {p c : Pointer} : (p, c) ∈ table ↔ ∃ n, d.Refers n p c := by
  obtain ⟨requested, hr, found, hf, rfl⟩ := resolve_eq_ok.1 h
  exact List.mem_mergeSort.trans
    (mem_followAll (problem_of_collect hd hr) (fun _ => mem_requested hd hr) hf p c)

/-- The table of a document finds what each local reference stands for. -/
theorem lookup_resolve (hd : d.IsDocument) {table : AliasTable} (h : resolve d = .ok table)
    {p c : Pointer} : table.lookup p = some c ↔ ∃ n, d.Refers n p c := by
  constructor
  · exact fun hl => (mem_resolve hd h).1 (mem_of_lookup hl)
  · rintro ⟨n, hn⟩
    obtain ⟨x, hx⟩ : ∃ x, table.lookup p = some x := by
      rw [← Option.isSome_iff_exists, lookup_isSome_iff_mem]
      exact List.mem_map.2 ⟨(p, c), (mem_resolve hd h).2 ⟨n, hn⟩, rfl⟩
    obtain ⟨m, hm⟩ := (mem_resolve hd h).1 (mem_of_lookup hx)
    rw [hx, (hm.unique hn).2]

/-- A document is resolved if each of its fragments is a pointer and each of its local references
stands for something. -/
theorem exists_resolve (hd : d.IsDocument) : (∃ table, resolve d = .ok table) ↔
    (∀ p v, d.at? p = some v → v.Legible) ∧ ∀ p, d.request? p ≠ none → ∃ n x, d.Refers n p x := by
  simp only [resolve_eq_ok]
  constructor
  · rintro ⟨_, requested, hr, found, hf, -⟩
    exact ⟨(exists_collect hd).1 ⟨requested, hr⟩,
      (exists_followAll (problem_of_collect hd hr) fun _ => mem_requested hd hr).1 ⟨found, hf⟩⟩
  · rintro ⟨legible, refers⟩
    obtain ⟨requested, hr⟩ := (exists_collect hd).2 legible
    obtain ⟨found, hf⟩ :=
      (exists_followAll (problem_of_collect hd hr) fun _ => mem_requested hd hr).2 refers
    exact ⟨_, requested, hr, found, hf, rfl⟩

theorem canonical_of_refers (hd : d.IsDocument) {table : AliasTable} (h : resolve d = .ok table)
    {n : Nat} {p c : Pointer} (hp : d.Refers n p c) : canonical table p = c := by
  rw [canonical, (lookup_resolve hd h).2 ⟨n, hp⟩, Option.getD_some]

theorem canonical_of_mem (hd : d.IsDocument) {table : AliasTable} (h : resolve d = .ok table)
    {p c : Pointer} (hc : (p, c) ∈ table) : canonical table p = c := by
  obtain ⟨n, hn⟩ := (mem_resolve hd h).1 hc
  exact canonical_of_refers hd h hn

theorem canonical_of_plain (hd : d.IsDocument) {table : AliasTable} (h : resolve d = .ok table)
    {p : Pointer} (hp : d.request? p = none) : canonical table p = p := by
  cases hl : table.lookup p with
  | none => rw [canonical, hl, Option.getD_none]
  | some c =>
    obtain ⟨n, hn⟩ := (lookup_resolve hd h).1 hl
    exact absurd hp hn.named

/-- A canonical position stands for itself. -/
theorem canonical_canonical (hd : d.IsDocument) {table : AliasTable} (h : resolve d = .ok table)
    (p : Pointer) : canonical table (canonical table p) = canonical table p := by
  cases hl : table.lookup p with
  | none =>
    have plain : canonical table p = p := by rw [canonical, hl, Option.getD_none]
    rw [plain, plain]
  | some c =>
    obtain ⟨n, t, -, target⟩ := (lookup_resolve hd h).1 hl
    have reached : canonical table p = c := by rw [canonical, hl, Option.getD_some]
    rw [reached]
    exact canonical_of_plain hd h target.plain

/-- The root is no local reference. -/
theorem request?_root (hd : d.IsDocument) {table : AliasTable} (h : resolve d = .ok table) :
    d.request? .root = none := by
  by_contra named
  obtain ⟨n, x, hn⟩ := ((exists_resolve hd).1 ⟨table, h⟩).2 .root named
  exact hn.ne_root rfl

theorem canonical_root (hd : d.IsDocument) {table : AliasTable} (h : resolve d = .ok table) :
    canonical table .root = .root :=
  canonical_of_plain hd h (request?_root hd h)

end JsonSchema.Aliases
