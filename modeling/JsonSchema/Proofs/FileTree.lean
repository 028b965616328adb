import JsonSchema.FileTree
import JsonSchema.Proofs.Except
import JsonSchema.Proofs.Path
/-!
# Trees without links

In a tree without links a path leads where its components say (`FileTree.resolve_eq_ok`), so paths
with the same components lead to the same place if they lead anywhere. A name joined to the path of a
directory leads to the entry of that name (`FileTree.resolve_join`).
-/

namespace JsonSchema

/-- The place reached from `p` by going along components. -/
def RealPath.locate (p : RealPath) : List Path.Component → RealPath
  | [] => p
  | .root :: cs => locate [] cs
  | .here :: cs => locate p cs
  | .parent :: cs => locate p.dropLast cs
  | .name s :: cs => locate (p ++ [s]) cs

theorem RealPath.locate_append {p : RealPath} (cs ds : List Path.Component) :
    p.locate (cs ++ ds) = (p.locate cs).locate ds := by
  induction cs generalizing p with
  | nil => rfl
  | cons c cs ih => cases c <;> exact ih

theorem RealPath.locate_names {p : RealPath} (ss : List String) :
    p.locate (ss.map .name) = p ++ ss := by
  induction ss generalizing p with
  | nil => exact (List.append_nil p).symm
  | cons s ss ih => exact ih.trans (List.append_cons p s ss).symm

namespace FileTree

/-- The names of entries are ordinary ones. -/
def Named (t : FileTree) : Prop := ∀ e ∈ t.nodes, ∀ s ∈ e.1, Path.IsName s

/-- There are no links, and the names of entries are ordinary ones. -/
structure Plain (t : FileTree) : Prop where
  noLink : ∀ e ∈ t.nodes, ∀ target, e.2 ≠ .link target
  names : ∀ e ∈ t.nodes, ∀ s ∈ e.1, Path.IsName s

variable {t : FileTree} {p q : RealPath} {path : Path} {s : String} {followLast : Bool} {n : Nat}
  {node : FileNode}

theorem Plain.node?_ne_link (plain : t.Plain) (p : RealPath) (target : String) :
    t.node? p ≠ some (.link target) := by
  intro h
  unfold node? at h
  split at h
  · cases h
  · obtain ⟨before, after, hn, -⟩ := List.lookup_eq_some_iff.1 h
    exact plain.noLink (p, .link target) (by rw [hn]; simp) target rfl

theorem Named.isName (named : t.Named) (h : s ∈ t.names p) : Path.IsName s := by
  obtain ⟨e, he, hs⟩ := List.mem_filterMap.1 h
  split at hs
  · exact named e he s (List.mem_of_getLast? hs)
  · cases hs

theorem Plain.named (plain : t.Plain) : t.Named := plain.names

/-! ### Resolving -/

theorem resolveFrom_cons (plain : t.Plain) (piece : String) (rest : List String) :
    t.resolveFrom followLast n p (piece :: rest) =
      (t.resolveFrom followLast n p [piece] >>= fun q => t.resolveFrom followLast n q rest) := by
  simp only [resolveFrom]
  cases t.node? p with
  | none => rfl
  | some node =>
    cases node with
    | directory =>
      dsimp only
      by_cases dot : (decide (piece = "") || decide (piece = ".")) = true
      · rw [if_pos dot, if_pos dot]
        rfl
      · rw [if_neg dot, if_neg dot]
        by_cases up : piece = ".."
        · rw [if_pos up, if_pos up]
          rfl
        · rw [if_neg up, if_neg up]
          cases hq : t.node? (p ++ [piece]) with
          | none => rfl
          | some node =>
            cases node with
            | link target => exact absurd hq (plain.node?_ne_link _ _)
            | file | directory | special => rfl
    | link | file | special => rfl

theorem resolveFrom_append (plain : t.Plain) (pieces rest : List String) :
    t.resolveFrom followLast n p (pieces ++ rest) =
      (t.resolveFrom followLast n p pieces >>= fun q => t.resolveFrom followLast n q rest) := by
  induction pieces generalizing p with
  | nil =>
    rw [List.nil_append, resolveFrom]
    rfl
  | cons piece pieces ih =>
    rw [List.cons_append, resolveFrom_cons plain, resolveFrom_cons plain piece pieces, bind_assoc]
    simp only [ih]

theorem resolveFrom_singleton (plain : t.Plain) {piece : String}
    (h : t.resolveFrom followLast n p [piece] = .ok q) :
    t.node? p = some .directory ∧ q = p.locate (Path.component? piece).toList := by
  simp only [resolveFrom] at h
  split at h
  · cases h
  · next dir =>
    refine ⟨dir, ?_⟩
    unfold Path.component?
    split at h
    · next dot =>
      cases h
      rw [if_pos dot]
      rfl
    · next dot =>
      rw [if_neg dot]
      split at h
      · next up =>
        cases h
        rw [if_pos up]
        rfl
      · next up =>
        rw [if_neg up]
        split at h
        · cases h
        · next target hq => exact absurd hq (plain.node?_ne_link _ _)
        · cases h
          rfl
  · cases h

theorem resolveFrom_eq_ok (plain : t.Plain) {pieces : List String}
    (h : t.resolveFrom followLast n p pieces = .ok q) :
    q = p.locate (pieces.filterMap Path.component?) := by
  induction pieces generalizing p with
  | nil =>
    rw [resolveFrom] at h
    cases h
    rfl
  | cons piece pieces ih =>
    rw [resolveFrom_cons plain, bind_eq_ok] at h
    obtain ⟨m, first, rest⟩ := h
    obtain ⟨-, rfl⟩ := resolveFrom_singleton plain first
    rw [ih rest, ← RealPath.locate_append]
    cases hc : Path.component? piece <;> simp [hc]

/-- A path leads where its components say. -/
theorem resolve_eq_ok (plain : t.Plain) (h : t.resolve path = .ok q) :
    q = t.cwd.locate path.components := by
  unfold resolve at h
  split at h
  · cases h
  · rw [resolveFrom_eq_ok plain h, Path.components, RealPath.locate_append]
    split
    · rfl
    · split <;> rfl

theorem resolve_eq_of_components {path' : Path} {q' : RealPath} (plain : t.Plain)
    (h : t.resolve path = .ok q) (h' : t.resolve path' = .ok q')
    (same : path.components = path'.components) : q = q' := by
  rw [resolve_eq_ok plain h, resolve_eq_ok plain h', same]

theorem resolveFrom_name (plain : t.Plain) (dir : t.node? p = some .directory) (name : Path.IsName s)
    (hs : t.node? (p ++ [s]) = some node) :
    t.resolveFrom followLast n p [s] = .ok (p ++ [s]) := by
  simp only [resolveFrom, dir, name.1, name.2.1, name.2.2.1, decide_false, Bool.or_false,
    Bool.false_eq_true, if_false, hs]
  cases node with
  | link target => exact absurd hs (plain.node?_ne_link _ _)
  | file | directory | special => rfl

/-- A name joined to the path of a directory leads to the entry of that name. -/
theorem resolve_join (plain : t.Plain) (h : t.resolve path = .ok p)
    (dir : t.node? p = some .directory) (name : Path.IsName s) (hs : t.node? (p ++ [s]) = some node) :
    t.resolve (path.join s) = .ok (p ++ [s]) := by
  unfold resolve at h
  split at h
  · cases h
  · next nonempty =>
    obtain ⟨front, ending, -, he, hn, joined, absolute⟩ := Path.exists_names_join nonempty name
    rw [hn, resolveFrom_append plain, bind_eq_ok] at h
    obtain ⟨m, hm, last⟩ := h
    -- an empty piece at the end makes no difference
    obtain rfl : p = m := by
      rcases he with rfl | rfl
      · rw [resolveFrom] at last
        exact (Except.ok.inj last).symm
      · exact (resolveFrom_singleton plain last).2
    rw [resolve, if_neg (Path.join_ne_empty name), absolute, joined, resolveFrom_append plain,
      bind_eq_ok]
    exact ⟨p, hm, resolveFrom_name plain dir name hs⟩

end FileTree
end JsonSchema
