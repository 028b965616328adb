import JsonSchema.Proofs.Alias.Table
/-!
# How deep references are followed

`Aliases.resolveDepth` is the greatest number of calls of `Aliases.follow` that are in progress at
one time while a document is resolved. A call that makes another one is on a local reference that was
free and is not free any more for what it calls, so there is at most one call more than there are
local references (`Aliases.resolveDepth_le`), whether these form chains, lead through each other or
go in circles.
-/

namespace JsonSchema.Aliases

/-- The depth of what comes after a computation, if it has a result. -/
def depthAfter {ε α : Type} (x : Except ε α) (depth : α → Nat) : Nat :=
  match x with
  | .ok a => depth a
  | .error _ => 0

mutual

/-- The most calls of `follow` in progress at one time in a call of `follow`, itself included. -/
def followDepth (pb : Problem) (free : List Pointer) (table : AliasTable) (source : Pointer) :
    Nat :=
  match table.lookup source with
  | some _ => 1
  | none =>
    if _h : source ∈ free then
      match pb.requested.lookup source with
      | none => 1
      | some target =>
        let free := free.erase source
        let walked := walk pb free table source target .root pb.document target.tokens
        1 + max (walkDepth pb free table source target .root pb.document target.tokens)
          (depthAfter walked fun (literal, table) =>
            if literal ≠ source ∧ pb.isAlias literal then followDepth pb free table literal else 0)
    else 1
termination_by (free.length, 0)
decreasing_by all_goals exact Prod.Lex.left _ _ (length_erase_lt ‹_›)

/-- The most calls of `follow` in progress at one time in a call of `walk`. -/
def walkDepth (pb : Problem) (free : List Pointer) (table : AliasTable) (source target : Pointer)
    (position : Pointer) (v : Value) : List String → Nat
  | [] => 0
  | token :: tokens =>
    if pb.isAlias position then
      if position ∈ free then
        let entered := do
          let (canonical, table) ← follow pb free table position
          let w ← enter pb source target v canonical token
          let next ← step source target canonical w token
          return (canonical, table, next)
        max (followDepth pb free table position)
          (depthAfter entered fun (canonical, table, next) =>
            walkDepth pb free table source target (canonical.child token) next tokens)
      else 0
    else
      depthAfter (step source target position v token) fun next =>
        walkDepth pb free table source target (position.child token) next tokens
termination_by tokens => (free.length, tokens.length + 1)

end

/-- The most calls of `follow` in progress at one time in a call of `followAll`. -/
def followAllDepth (pb : Problem) (free : List Pointer) (table : AliasTable) : List Pointer → Nat
  | [] => 0
  | p :: ps =>
    max (followDepth pb free table p)
      (depthAfter (follow pb free table p) fun (_, table) => followAllDepth pb free table ps)

/-- The most calls of `follow` in progress at one time while a document is resolved. -/
def resolveDepth (document : Value) : Nat :=
  depthAfter (collect .root document) fun collected =>
    let requested := sort collected
    let free := requested.map (·.1)
    followAllDepth ⟨document, requested⟩ free [] free

/-- The positions of the local references of a document. -/
def localReferences (d : Value) : List Pointer :=
  ((d.places .root).filter fun e => e.2.localReference?.isSome).map (·.1)

variable {d : Value} {n : Nat}

theorem depthAfter_le {ε α : Type} {x : Except ε α} {depth : α → Nat}
    (h : ∀ a, x = .ok a → depth a ≤ n) : depthAfter x depth ≤ n := by
  cases x with
  | ok a => exact h a rfl
  | error e => exact Nat.zero_le n

mutual

theorem followDepth_le (pb : Problem) (free : List Pointer) (table : AliasTable)
    (source : Pointer) : followDepth pb free table source ≤ free.length + 1 := by
  unfold followDepth
  cases table.lookup source with
  | some done => exact Nat.le_add_left 1 _
  | none =>
    by_cases hs : source ∈ free
    · rw [dif_pos hs]
      cases pb.requested.lookup source with
      | none => exact Nat.le_add_left 1 _
      | some target =>
        -- what is called from here has one free reference less
        have shorter : (free.erase source).length + 1 ≤ free.length := length_erase_lt hs
        dsimp only
        rw [Nat.add_comm 1]
        refine Nat.add_le_add_right (Nat.max_le.2 ⟨?_, depthAfter_le ?_⟩) 1
        · exact Nat.le_trans (walkDepth_le _ _ _ _ _ _ _ _) shorter
        · rintro ⟨literal, table⟩ -
          dsimp only
          split
          · exact Nat.le_trans (followDepth_le _ _ _ _) shorter
          · exact Nat.zero_le _
    · rw [dif_neg hs]
      exact Nat.le_add_left 1 _
termination_by (free.length, 0)
decreasing_by all_goals exact Prod.Lex.left _ _ (length_erase_lt ‹_›)

theorem walkDepth_le (pb : Problem) (free : List Pointer) (table : AliasTable)
    (source target position : Pointer) (v : Value) (tokens : List String) :
    walkDepth pb free table source target position v tokens ≤ free.length + 1 := by
  match tokens with
  | [] =>
    unfold walkDepth
    exact Nat.zero_le _
  | token :: tokens =>
    unfold walkDepth
    split
    · split
      · refine Nat.max_le.2 ⟨followDepth_le pb free table position, depthAfter_le ?_⟩
        rintro ⟨canonical, table, next⟩ -
        exact walkDepth_le pb free table source target (canonical.child token) next tokens
      · exact Nat.zero_le _
    · refine depthAfter_le fun next _ => ?_
      exact walkDepth_le pb free table source target (position.child token) next tokens
termination_by (free.length, tokens.length + 1)

end

theorem followAllDepth_le (pb : Problem) (free : List Pointer) (table : AliasTable)
    (ps : List Pointer) : followAllDepth pb free table ps ≤ free.length + 1 := by
  induction ps generalizing table with
  | nil => exact Nat.zero_le _
  | cons p ps ih =>
    refine Nat.max_le.2 ⟨followDepth_le pb free table p, depthAfter_le ?_⟩
    rintro ⟨canonical, table⟩ -
    exact ih table

/-- What is requested are the local references of the document. -/
theorem length_requested_le (hd : d.IsDocument) {table : AliasTable}
    (h : collect .root d = .ok table) : table.length ≤ (localReferences d).length := by
  have listed : table.map (·.1) ⊆ localReferences d := by
    intro q hq
    obtain ⟨⟨q, t⟩, ht, rfl⟩ := List.mem_map.1 hq
    obtain ⟨w, hw, named⟩ := ((collects_collect d .root).mem table h q t).1 ht
    obtain ⟨s, hs, -⟩ := Option.bind_eq_some_iff.1 named
    refine List.mem_map.2 ⟨(q, w), List.mem_filter.2 ⟨hw, ?_⟩, rfl⟩
    rw [hs]
    rfl
  simpa using ((nodup_collect hd h).subperm listed).length_le

theorem resolveDepth_le (hd : d.IsDocument) :
    resolveDepth d ≤ (localReferences d).length + 1 := by
  refine depthAfter_le fun table h => ?_
  refine Nat.le_trans (followAllDepth_le _ _ _ _) ?_
  rw [List.length_map, sort, List.length_mergeSort]
  exact Nat.add_le_add_right (length_requested_le hd h) 1

/-- Two references that stand for each other. -/
def mutualReferences : Value :=
  .object [("a", .object [("$ref", .string "#/b")]), ("b", .object [("$ref", .string "#/a")])]

example : (localReferences mutualReferences).length = 2 ∧ resolveDepth mutualReferences = 3 :=
  ⟨by cbv, by cbv⟩

end JsonSchema.Aliases
