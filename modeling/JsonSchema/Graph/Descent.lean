/-!
# Descent

Schemas that apply other schemas to the same value must not do so in a circle. `Descent.settle`
searches a finite graph depth first and either finds a node on a cycle or lists the nodes so that
every edge points to a node further down the list. Such a list bounds recursion along edges:
`Descent.rank` decreases with each (`rank_lt`).
-/

namespace JsonSchema.Descent

/-- Every node of the list has all its edges into the part of the list after it. -/
inductive Settled (edges : Nat → List Nat) : List Nat → Prop where
  | nil : Settled edges []
  | cons {n : Nat} {l : List Nat} (next : ∀ m ∈ edges n, m ∈ l) (rest : Settled edges l) :
    Settled edges (n :: l)

variable {edges : Nat → List Nat}

/-- A settled list that extends `done` and contains `goals`. -/
def Extension (edges : Nat → List Nat) (done goals : List Nat) : Type :=
  { l : List Nat // Settled edges l ∧ (∀ n ∈ done, n ∈ l) ∧ ∀ n ∈ goals, n ∈ l }

theorem erase_lt {free : List Nat} {n : Nat} (h : n ∈ free) :
    (free.erase n).length < free.length := by
  have := List.length_pos_of_mem h
  rw [List.length_erase_of_mem h]
  omega

mutual

/-- Adds a node after everything it leads to. `free` are the nodes that are not on the way from the
start to this one; to come back to one that is on the way is to go in a circle. -/
def visit (edges : Nat → List Nat) (free done : List Nat) (settled : Settled edges done) (n : Nat) :
    Except Nat (Extension edges done [n]) :=
  if known : n ∈ done then .ok ⟨done, settled, fun _ h => h, by simpa using known⟩
  else if _open : n ∈ free then
    match visitAll edges (free.erase n) done settled (edges n) with
    | .error m => .error m
    | .ok ⟨l, sl, kept, reached⟩ =>
      .ok ⟨n :: l, .cons reached sl, fun m h => .tail _ (kept m h), by simp⟩
  else .error n
termination_by (free.length, 0)
decreasing_by exact Prod.Lex.left _ _ (erase_lt ‹_›)

/-- Adds nodes in order. -/
def visitAll (edges : Nat → List Nat) (free done : List Nat) (settled : Settled edges done) :
    (ns : List Nat) → Except Nat (Extension edges done ns)
  | [] => .ok ⟨done, settled, fun _ h => h, by simp⟩
  | n :: ns =>
    match visit edges free done settled n with
    | .error m => .error m
    | .ok ⟨l, sl, kept, reached⟩ =>
      match visitAll edges free l sl ns with
      | .error m => .error m
      | .ok ⟨l', sl', kept', reached'⟩ =>
        .ok ⟨l', sl', fun m h => kept' m (kept m h), by
          intro m h
          rcases List.mem_cons.mp h with rfl | h
          · exact kept' _ (reached _ (by simp))
          · exact reached' _ h⟩
termination_by ns => (free.length, ns.length + 1)

end

/-- The nodes below `n` in settled order, or a node on a cycle. -/
def settle (edges : Nat → List Nat) (n : Nat) :
    Except Nat { l : List Nat // Settled edges l ∧ ∀ m < n, m ∈ l } :=
  match visitAll edges (List.range n) [] .nil (List.range n) with
  | .error m => .error m
  | .ok ⟨l, sl, _, reached⟩ => .ok ⟨l, sl, fun m h => reached m (List.mem_range.mpr h)⟩

/-- The number of places from the last occurrence of a node to the end of the list, zero if there is
none. -/
def rank (n : Nat) : List Nat → Nat
  | [] => 0
  | m :: l => if n ∈ l then rank n l else if m = n then l.length + 1 else 0

theorem rank_le_length (n : Nat) (l : List Nat) : rank n l ≤ l.length := by
  induction l with
  | nil => simp [rank]
  | cons m l ih =>
    simp only [rank, List.length_cons]
    split
    · omega
    · split <;> omega

theorem rank_cons_of_mem {n m : Nat} {l : List Nat} (h : n ∈ l) : rank n (m :: l) = rank n l := by
  simp [rank, h]

/-- A settled list is closed under edges. -/
theorem Settled.mem_of_edge {l : List Nat} (settled : Settled edges l) {n m : Nat} (hn : n ∈ l)
    (hm : m ∈ edges n) : m ∈ l := by
  induction settled with
  | nil => cases hn
  | cons next _ ih =>
    rcases List.mem_cons.mp hn with rfl | h
    · exact .tail _ (next m hm)
    · exact .tail _ (ih h)

/-- Along an edge from a listed node the rank decreases. -/
theorem rank_lt {l : List Nat} (settled : Settled edges l) {n m : Nat} (hn : n ∈ l)
    (hm : m ∈ edges n) : rank m l < rank n l := by
  induction settled with
  | nil => cases hn
  | @cons k l next rest ih =>
    by_cases h : n ∈ l
    · rw [rank_cons_of_mem h, rank_cons_of_mem (rest.mem_of_edge h hm)]
      exact ih h
    · have hk : n = k := (List.mem_cons.mp hn).resolve_right h
      subst hk
      rw [rank_cons_of_mem (next m hm)]
      have := rank_le_length m l
      simp only [rank, h, if_false, if_true]
      omega

end JsonSchema.Descent
