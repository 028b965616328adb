import Mathlib.Data.Finset.Card
import Mathlib.Logic.Relation
import JsonSchema.Graph.Descent
/-!
# Searches for cycles

What a visit has done when it ends, with or without a result, is told by one lemma for each case
(`Descent.visit_eq_ok`, `Descent.visitAll_eq_error` and so on). A search that fails has come back to
a node that is still on the way: every node that is not free leads to the node that is visited
(`Descent.visit_error`), so the node at which the search fails leads to itself
(`Descent.settle_error`). A rank that decreases along every edge excludes this
(`Descent.settle_isOk`), and a search that succeeds leaves such a rank (`Descent.Settled.not_cycle`).
Where there are only finitely many things, there is one as soon as there is no cycle
(`Descent.exists_rank`).
-/

namespace JsonSchema.Descent

variable {edges : Nat → List Nat} {N m : Nat}

/-! ### How visits end -/

section Inversion

variable {free done ns : List Nat} {settled : Settled edges done} {n : Nat}

theorem visit_eq_error (h : visit edges free done settled n = .error m) :
    n ∈ free ∧ visitAll edges (free.erase n) done settled (edges n) = .error m ∨
      n ∉ free ∧ m = n := by
  unfold visit at h
  split at h
  · cases h
  · split at h
    · next hf =>
      refine .inl ⟨hf, ?_⟩
      split at h
      · next he =>
        rw [he]
        exact congrArg _ (Except.error.inj h)
      · cases h
    · next hf => exact .inr ⟨hf, (Except.error.inj h).symm⟩

theorem visit_eq_ok {l : Extension edges done [n]}
    (h : visit edges free done settled n = .ok l) : n ∈ done ∧ l.val = done ∨
      n ∉ done ∧ n ∈ free ∧ ∃ l', visitAll edges (free.erase n) done settled (edges n) = .ok l' ∧
        l.val = n :: l'.val := by
  unfold visit at h
  split at h
  · next hd =>
    cases h
    exact .inl ⟨hd, rfl⟩
  · next hd =>
    split at h
    · next hf =>
      split at h
      · cases h
      · next ha =>
        cases h
        exact .inr ⟨hd, hf, _, ha, rfl⟩
    · cases h

theorem visitAll_eq_error (h : visitAll edges free done settled (n :: ns) = .error m) :
    visit edges free done settled n = .error m ∨
      ∃ l, visit edges free done settled n = .ok l ∧
        visitAll edges free l.val l.property.1 ns = .error m := by
  unfold visitAll at h
  split at h
  · next hv =>
    cases h
    exact .inl hv
  · next hv =>
    split at h
    · next ha =>
      cases h
      exact .inr ⟨_, hv, ha⟩
    · cases h

theorem visitAll_eq_ok {l : Extension edges done (n :: ns)}
    (h : visitAll edges free done settled (n :: ns) = .ok l) :
    ∃ k, visit edges free done settled n = .ok k ∧
      ∃ l', visitAll edges free k.val k.property.1 ns = .ok l' ∧ l.val = l'.val := by
  unfold visitAll at h
  split at h
  · cases h
  · next hv =>
    split at h
    · cases h
    · next ha =>
      cases h
      exact ⟨_, hv, _, ha, rfl⟩

theorem settle_eq_error (h : settle edges N = .error m) :
    visitAll edges (List.range N) [] .nil (List.range N) = .error m := by
  unfold settle at h
  split at h
  · next ha =>
    cases h
    exact ha
  · cases h

theorem settle_eq_ok {l : { l : List Nat // Settled edges l ∧ ∀ m < N, m ∈ l }}
    (h : settle edges N = .ok l) :
    ∃ l', visitAll edges (List.range N) [] .nil (List.range N) = .ok l' ∧ l.val = l'.val := by
  unfold settle at h
  split at h
  · cases h
  · next ha =>
    cases h
    exact ⟨_, ha, rfl⟩

end Inversion

/-! ### Where a search fails -/

/-- An edge from one node to another. -/
def Edge (edges : Nat → List Nat) (a b : Nat) : Prop := b ∈ edges a

/-- What is on the way to a node stays on the way to the next one, and the node itself joins. -/
theorem way_erase {free : List Nat} {n : Nat} (hn : m ∈ edges n)
    (way : ∀ u < N, u ∉ free → Relation.TransGen (Edge edges) u n) :
    ∀ u < N, u ∉ free.erase n → Relation.TransGen (Edge edges) u m := by
  intro u hu hfree
  by_cases hun : u = n
  · subst hun
    exact .single hn
  · have : u ∉ free := fun h => hfree ((List.mem_erase_of_ne hun).2 h)
    exact (way u hu this).tail hn

mutual

theorem visit_error (inside : ∀ n < N, ∀ m ∈ edges n, m < N) (free done : List Nat)
    (settled : Settled edges done) (n : Nat) (hn : n < N)
    (way : ∀ u < N, u ∉ free → Relation.TransGen (Edge edges) u n)
    (he : visit edges free done settled n = .error m) :
    m < N ∧ Relation.TransGen (Edge edges) m m := by
  rcases visit_eq_error he with ⟨hf, ha⟩ | ⟨hf, rfl⟩
  · refine visitAll_error inside (free.erase n) done settled (edges n) (fun k hk => ?_) ha
    exact ⟨inside n hn k hk, way_erase hk way⟩
  · exact ⟨hn, way m hn hf⟩
termination_by (free.length, 0)
decreasing_by exact Prod.Lex.left _ _ (erase_lt ‹_›)

theorem visitAll_error (inside : ∀ n < N, ∀ m ∈ edges n, m < N) (free done : List Nat)
    (settled : Settled edges done) (ns : List Nat)
    (way : ∀ n ∈ ns, n < N ∧ ∀ u < N, u ∉ free → Relation.TransGen (Edge edges) u n)
    (he : visitAll edges free done settled ns = .error m) :
    m < N ∧ Relation.TransGen (Edge edges) m m := by
  match ns with
  | [] =>
    unfold visitAll at he
    cases he
  | n :: ns =>
    rcases visitAll_eq_error he with hv | ⟨l, -, ha⟩
    · obtain ⟨hn, here⟩ := way n (by simp)
      exact visit_error inside free done settled n hn here hv
    · exact visitAll_error inside free l.val l.property.1 ns (fun k hk => way k (by simp [hk])) ha
termination_by (free.length, ns.length + 1)

end

/-- The node at which a search fails lies on a cycle. -/
theorem settle_error (inside : ∀ n < N, ∀ m ∈ edges n, m < N) (he : settle edges N = .error m) :
    m < N ∧ Relation.TransGen (Edge edges) m m := by
  -- at first every node is free, so none is on the way
  refine visitAll_error inside (List.range N) [] .nil (List.range N) (fun n hn => ?_)
    (settle_eq_error he)
  exact ⟨List.mem_range.1 hn, fun u hu hf => absurd (List.mem_range.2 hu) hf⟩

/-! ### Ranks -/

section

variable {α : Type} {edge : α → α → Prop} {W : α → Prop}

/-- A rank that decreases along every edge excludes cycles. -/
theorem not_transGen {rank : α → Nat} (closed : ∀ a b, W a → edge a b → W b)
    (lt : ∀ a b, W a → edge a b → rank b < rank a) {a : α} (ha : W a) :
    ¬Relation.TransGen edge a a := by
  have path {b : α} (h : Relation.TransGen edge a b) : W b ∧ rank b < rank a := by
    induction h with
    | single h => exact ⟨closed a _ ha h, lt a _ ha h⟩
    | tail _ h ih => exact ⟨closed _ _ ih.1 h, Nat.lt_trans (lt _ _ ih.1 h) ih.2⟩
  exact fun h => Nat.lt_irrefl _ (path h).2

/-- Without cycles the number of things that can be reached decreases along every edge. -/
theorem exists_rank {l : List α} (listed : ∀ a, W a → a ∈ l) (closed : ∀ a b, W a → edge a b → W b)
    (acyclic : ∀ a, W a → ¬Relation.TransGen edge a a) :
    ∃ rank : α → Nat, ∀ a b, W a → edge a b → rank b < rank a := by
  classical
  let reached (a : α) : Finset α := l.toFinset.filter (Relation.TransGen edge a)
  refine ⟨fun a => (reached a).card, fun a b ha hab => Finset.card_lt_card ?_⟩
  have hb := closed a b ha hab
  have here : b ∈ reached a :=
    Finset.mem_filter.2 ⟨List.mem_toFinset.2 (listed b hb), .single hab⟩
  have gone : b ∉ reached b := fun h => acyclic b hb (Finset.mem_filter.1 h).2
  refine Finset.ssubset_iff_subset_ne.2 ⟨fun c hc => ?_, fun h => gone (h ▸ here)⟩
  obtain ⟨hl, hc⟩ := Finset.mem_filter.1 hc
  exact Finset.mem_filter.2 ⟨hl, .head hab hc⟩

end

/-- A graph with a rank that decreases along its edges is settled. -/
theorem settle_isOk {r : Nat → Nat} (hr : ∀ i < N, ∀ j ∈ edges i, j < N ∧ r j < r i) :
    ∃ l, settle edges N = .ok l := by
  have inside (i j : Nat) (hi : i < N) (hij : Edge edges i j) : j < N := (hr i hi j hij).1
  have lt (i j : Nat) (hi : i < N) (hij : Edge edges i j) : r j < r i := (hr i hi j hij).2
  cases hs : settle edges N with
  | ok l => exact ⟨l, rfl⟩
  | error m =>
    obtain ⟨hm, cycle⟩ := settle_error (fun i hi j hj => inside i j hi hj) hs
    exact absurd cycle (not_transGen inside lt hm)

/-- Among the nodes of a settled list there is no cycle. -/
theorem Settled.not_cycle {l : List Nat} (settled : Settled edges l) (hm : m ∈ l) :
    ¬Relation.TransGen (Edge edges) m m := by
  have closed (a b : Nat) (ha : a ∈ l) (hab : Edge edges a b) : b ∈ l := settled.mem_of_edge ha hab
  have lt (a b : Nat) (ha : a ∈ l) (hab : Edge edges a b) : Descent.rank b l < Descent.rank a l :=
    Descent.rank_lt settled ha hab
  exact not_transGen closed lt hm

end JsonSchema.Descent
