import JsonSchema.Proofs.Discovery.Files
/-!
# Limits on the depth of a search

A limit keeps the files that lie no deeper than it says, so a larger limit only adds files and no
limit adds the rest (`Discovery.find_limited`). The number of directories that are entered is one
more than the limit, which for the largest number of all is no number any more: under that limit
nothing is found in any directory (`Discovery.find_largestLimit`).
-/

namespace JsonSchema

/-- How deep something lies below a directory: what is in the directory itself is at depth zero. -/
def Path.depthBelow (p q : Path) : Nat := q.components.length - (p.components.length + 1)

namespace Discovery

variable {t : FileTree} {s : Selection} {p q : Path} {place : RealPath} {f : Failure}
  {found all : Found} {limit : Option Nat} {d d' : Nat}

/-! ### Depths of visits -/

/-- A file is visited at a depth that is the number of names on the way to it. -/
theorem exists_names_of_file (named : t.Named) {followLinks : Bool} {free : List RealPath}
    {depth : Nat} {levels : Ignore.Levels} (nonempty : p.text ≠ "")
    (h : .file q d ∈ visits t followLinks free place p depth levels) :
    ∃ (name : String) (ss : List String),
      q.components = p.components ++ .name name :: ss.map .name ∧ d = depth + ss.length := by
  refine visits_induction (P := fun _ p depth q d => p.text ≠ "" →
    ∃ (name : String) (ss : List String),
      q.components = p.components ++ .name name :: ss.map .name ∧ d = depth + ss.length)
    ?_ ?_ h nonempty
  · intro place p depth name here _ nonempty
    exact ⟨name, [], Path.components_join nonempty (named.isName here), rfl⟩
  · intro place p depth name inner q d here _ ih nonempty
    have hn := named.isName here
    obtain ⟨next, ss, hq, hd⟩ := ih (Path.join_ne_empty hn)
    refine ⟨name, next :: ss, ?_, ?_⟩
    · rw [hq, Path.components_join nonempty hn, List.append_assoc]
      rfl
    · rw [hd, List.length_cons]
      omega

theorem depth_of_search (named : t.Named) {followLinks : Bool} (nonempty : p.text ≠ "")
    (h : .file q d ∈ search t followLinks place p) :
    d = p.depthBelow q + 1 ∧ q.components ≠ p.components := by
  rcases List.mem_append.1 h with h | h
  · split at h
    · cases List.mem_singleton.1 h
    · cases h
  · obtain ⟨name, ss, hq, hd⟩ := exists_names_of_file named nonempty h
    have length := congrArg List.length hq
    rw [List.length_append, List.length_cons, List.length_map] at length
    refine ⟨?_, fun same => ?_⟩
    · rw [Path.depthBelow, hd, length]
      omega
    · rw [same] at length
      omega

theorem mem_limited_some {vs : List Visit} {v : Visit} :
    v ∈ limited (some d) vs ↔ v ∈ vs ∧ v.depth ≤ reach d := by
  rw [limited, List.mem_filter, decide_eq_true_iff]

theorem reach_of_lt (h : d + 1 < depthBound) : reach d = d + 1 := Nat.mod_eq_of_lt h

theorem reach_largest (h : d + 1 = depthBound) : reach d = 0 := by rw [reach, h, Nat.mod_self]

/-! ### What is found under a limit -/

/-- What is found under a path with a limit, or with none. -/
def findWithin (t : FileTree) (s : Selection) (p : Path) (limit : Option Nat) : Except Failure Found :=
  find t { s with maxDepth := limit } p

theorem mem_ofVisits {vs : List Visit} :
    q ∈ (Found.ofVisits s vs).files ↔ (∃ d, .file q d ∈ vs) ∧ s.takes q = true := by
  rw [Found.ofVisits, Path.mem_sort, List.mem_filter, List.mem_filterMap]
  refine and_congr_left fun _ => ⟨?_, ?_⟩
  · rintro ⟨v, hv, path⟩
    cases v with
    | file p d =>
      cases path
      exact ⟨d, hv⟩
    | trouble d => cases path
  · rintro ⟨d, h⟩
    exact ⟨_, h, rfl⟩

/-- Whether a path leads to a file, to a directory or to neither does not depend on the limit. -/
theorem findWithin_cases (t : FileTree) (s : Selection) (p : Path) :
    (∃ f, ∀ limit, findWithin t s p limit = .error f) ∨
    (∀ limit, findWithin t s p limit = .ok ⟨[p].filter s.takes, 0⟩) ∨
    ∃ place, t.resolve p = .ok place ∧ ∀ limit, findWithin t s p limit =
      .ok (.ofVisits s (limited limit (search t s.followLinks place p))) := by
  cases hp : t.resolve p with
  | error f => exact .inl ⟨.system f, fun limit => by rw [findWithin, find, hp]⟩
  | ok place =>
    cases hn : t.node? place with
    | none => exact .inl ⟨.system .notFound, fun limit => by simp only [findWithin, find, hp, hn]⟩
    | some node =>
      cases node with
      | file bs => exact .inr (.inl fun limit => by simp only [findWithin, find, hp, hn]; rfl)
      | directory =>
        exact .inr (.inr ⟨place, rfl, fun limit => by simp only [findWithin, find, hp, hn]; rfl⟩)
      | link | special => exact .inl ⟨_, fun limit => by simp only [findWithin, find, hp, hn]; rfl⟩

theorem findWithin_eq_error_iff :
    findWithin t s p limit = .error f ↔ findWithin t s p none = .error f := by
  obtain ⟨e, h⟩ | h | ⟨place, -, h⟩ := findWithin_cases t s p
  · rw [h, h]
  · rw [h, h]
  · simp [h]

theorem mem_ofVisits_limited (named : t.Named) (nonempty : p.text ≠ "") (small : d + 1 < depthBound) :
    q ∈ (Found.ofVisits s (limited (some d) (search t s.followLinks place p))).files ↔
      q ∈ (Found.ofVisits s (search t s.followLinks place p)).files ∧ p.depthBelow q ≤ d := by
  simp only [mem_ofVisits, mem_limited_some, reach_of_lt small, Visit.depth]
  constructor
  · rintro ⟨⟨e, he, bound⟩, takes⟩
    have depth := (depth_of_search named nonempty he).1
    exact ⟨⟨⟨e, he⟩, takes⟩, by omega⟩
  · rintro ⟨⟨⟨e, he⟩, takes⟩, bound⟩
    have depth := (depth_of_search named nonempty he).1
    exact ⟨⟨e, he, by omega⟩, takes⟩

theorem not_mem_ofVisits_largest (named : t.Named) (nonempty : p.text ≠ "")
    (largest : d + 1 = depthBound) :
    q ∉ (Found.ofVisits s (limited (some d) (search t s.followLinks place p))).files := by
  simp only [mem_ofVisits, mem_limited_some, reach_largest largest, Visit.depth]
  rintro ⟨⟨e, he, bound⟩, -⟩
  have depth := (depth_of_search named nonempty he).1
  omega

theorem findWithin_some (named : t.Named) (h : findWithin t s p none = .ok all) (d : Nat) :
    ∃ found, findWithin t s p (some d) = .ok found ∧
      (d + 1 < depthBound → ∀ q, q ∈ found.files ↔ q ∈ all.files ∧ p.depthBelow q ≤ d) ∧
      (d + 1 = depthBound → ∀ q, q ∈ found.files ↔ q ∈ all.files ∧ q = p) := by
  obtain ⟨e, hf⟩ | hf | ⟨place, hp, hf⟩ := findWithin_cases t s p <;> rw [hf] at h ⊢ <;> cases h
  · have itself : ∀ q ∈ [p].filter s.takes, q = p := fun q hq => by
      simpa using (List.mem_filter.1 hq).1
    refine ⟨_, rfl, fun _ q => ?_, fun _ q => ?_⟩
    · refine (and_iff_left_of_imp fun hq => ?_).symm
      rw [itself q hq, Path.depthBelow]
      omega
    · exact (and_iff_left_of_imp (itself q)).symm
  · have nonempty := ne_empty_of_resolve hp
    refine ⟨_, rfl, fun small q => mem_ofVisits_limited named nonempty small, fun largest q => ?_⟩
    refine iff_of_false (not_mem_ofVisits_largest named nonempty largest) ?_
    rintro ⟨hq, rfl⟩
    obtain ⟨⟨e, he⟩, -⟩ := mem_ofVisits.1 hq
    exact (depth_of_search named nonempty he).2 rfl

/-- The files found under a limit: a limit makes no difference to whether a path can be searched, and
keeps exactly the files that lie at most that deep, so a larger one keeps all files of a smaller one.
Under the largest number only a file that is named itself is found. -/
theorem find_limited (named : t.Named) (s : Selection) (p : Path) :
    (∀ limit f, findWithin t s p limit = .error f ↔ findWithin t s p none = .error f) ∧
    ∀ all, findWithin t s p none = .ok all →
      (∀ d, ∃ found, findWithin t s p (some d) = .ok found ∧
        (d + 1 < depthBound → ∀ q, q ∈ found.files ↔ q ∈ all.files ∧ p.depthBelow q ≤ d) ∧
        (d + 1 = depthBound → ∀ q, q ∈ found.files ↔ q ∈ all.files ∧ q = p)) ∧
      ∀ d d' found found', d ≤ d' → d' + 1 < depthBound → findWithin t s p (some d) = .ok found →
        findWithin t s p (some d') = .ok found' → found.files ⊆ found'.files := by
  refine ⟨fun limit f => findWithin_eq_error_iff, fun all h => ⟨findWithin_some named h, ?_⟩⟩
  intro d d' found found' hd small hf hf' q hq
  obtain ⟨_, hg, within, -⟩ := findWithin_some named h d
  obtain ⟨_, hg', within', -⟩ := findWithin_some named h d'
  cases hf.symm.trans hg
  cases hf'.symm.trans hg'
  obtain ⟨mem, depth⟩ := (within (by omega) q).1 hq
  exact (within' small q).2 ⟨mem, Nat.le_trans depth hd⟩

/-! ### One directory -/

/-- Without a limit the file in the directory is found. -/
theorem exists_findWithin_oneFile : ∃ all, findWithin oneFile jsonFiles ⟨"d"⟩ none = .ok all ∧
    ⟨"d/x.json"⟩ ∈ all.files :=
  exists_find_oneFile resolve_directory.1 (by decide)

theorem depthBelow_oneFile : Path.depthBelow ⟨"d"⟩ ⟨"d/x.json"⟩ = 0 := by decide

/-- The limit zero keeps what is in the directory itself. -/
theorem find_limited_zero : oneFile.Named ∧
    (∃ all, findWithin oneFile jsonFiles ⟨"d"⟩ none = .ok all) ∧
    ∃ found, findWithin oneFile jsonFiles ⟨"d"⟩ (some 0) = .ok found ∧ ⟨"d/x.json"⟩ ∈ found.files := by
  have named := plain_oneFile.named
  obtain ⟨all, h, mem⟩ := exists_findWithin_oneFile
  obtain ⟨found, hf, within, -⟩ := ((find_limited named jsonFiles ⟨"d"⟩).2 all h).1 0
  exact ⟨named, ⟨all, h⟩, found, hf, (within (by decide) _).2 ⟨mem, depthBelow_oneFile.le⟩⟩

/-- The largest limit loses the file that the limit zero keeps. -/
theorem find_largestLimit : oneFile.Named ∧ ∃ all found largest,
    findWithin oneFile jsonFiles ⟨"d"⟩ none = .ok all ∧ ⟨"d/x.json"⟩ ∈ all.files ∧
    findWithin oneFile jsonFiles ⟨"d"⟩ (some 0) = .ok found ∧ ⟨"d/x.json"⟩ ∈ found.files ∧
    findWithin oneFile jsonFiles ⟨"d"⟩ (some (2 ^ 64 - 1)) = .ok largest ∧ largest.files = [] := by
  have named := plain_oneFile.named
  obtain ⟨all, h, mem⟩ := exists_findWithin_oneFile
  obtain ⟨found, hf, within, -⟩ := findWithin_some named h 0
  refine ⟨named, all, found, _, h, mem, hf, (within (by decide) _).2 ⟨mem, depthBelow_oneFile.le⟩,
    by rw [findWithin, find, resolve_directory.1]; rfl, ?_⟩
  exact List.eq_nil_iff_forall_not_mem.2 fun q =>
    not_mem_ofVisits_largest named (by decide) (by decide)

end Discovery
end JsonSchema
