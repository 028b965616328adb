import JsonSchema.Discovery
import JsonSchema.Proofs.FileTree
/-!
# What a search comes across

In a tree without links a search comes across files by their names: the path of each is that of the
directory with the names joined to it that lead there (`Discovery.exists_names_of_find`). The same holds of a
path that leads to a file by itself, with no names at all.
-/

namespace JsonSchema

namespace FileTree

variable {t : FileTree} {followLinks : Bool} {p : RealPath} {s : String}

theorem node?_of_entry_file (plain : t.Plain) (h : t.entry followLinks p s = .file) :
    ∃ bs, t.node? (p ++ [s]) = some (.file bs) := by
  unfold entry at h
  split at h
  · next bs hs => exact ⟨bs, hs⟩
  · cases h
  · next target hs => exact absurd hs (plain.node?_ne_link _ _)
  · cases h

theorem node?_of_entry_directory (plain : t.Plain) (h : t.entry followLinks p s = .directory) :
    t.node? (p ++ [s]) = some .directory := by
  unfold entry at h
  split at h
  · cases h
  · next hs => exact hs
  · next target hs => exact absurd hs (plain.node?_ne_link _ _)
  · cases h

theorem entry_ne_linked (plain : t.Plain) (q : RealPath) : t.entry followLinks p s ≠ .linked q := by
  intro h
  unfold entry at h
  split at h
  · cases h
  · cases h
  · next target hs => exact plain.node?_ne_link _ _ hs
  · cases h

end FileTree

namespace Discovery

variable {t : FileTree} {s : Selection} {path q : Path} {place : RealPath} {ss : List String}

/-- The path `q` leads to a file, by names that are added to the path of a place. -/
structure Names (t : FileTree) (path : Path) (place : RealPath) (ss : List String) (q : Path) :
    Prop where
  components : q.components = path.components ++ ss.map .name
  leads : t.resolve q = .ok (place ++ ss)
  file : ∃ bs, t.node? (place ++ ss) = some (.file bs)

theorem ne_empty_of_resolve (h : t.resolve path = .ok place) : path.text ≠ "" := by
  intro he
  rw [FileTree.resolve, if_pos he] at h
  cases h

theorem Names.below {name : String} (hp : t.resolve path = .ok place) (hn : Path.IsName name)
    (h : Names t (path.join name) (place ++ [name]) ss q) : Names t path place (name :: ss) q := by
  have nonempty := ne_empty_of_resolve hp
  refine ⟨?_, ?_, ?_⟩
  · rw [h.components, Path.components_join nonempty hn, List.append_assoc]
    rfl
  · rw [h.leads, List.append_assoc]
    rfl
  · rw [← List.singleton_append, ← List.append_assoc]
    exact h.file

theorem Names.entry {name : String} (plain : t.Plain) (hp : t.resolve path = .ok place)
    (dir : t.node? place = some .directory) (hn : Path.IsName name) {bs : Bytes}
    (file : t.node? (place ++ [name]) = some (.file bs)) :
    Names t path place [name] (path.join name) :=
  ⟨Path.components_join (ne_empty_of_resolve hp) hn, FileTree.resolve_join plain hp dir hn file,
    bs, file⟩

/-- The entry `name` of the directory at a place is the directory at another place, or leads to it. -/
def Opens (t : FileTree) (followLinks : Bool) (place : RealPath) (name : String)
    (inner : RealPath) : Prop :=
  t.entry followLinks place name = .directory ∧ inner = place ++ [name] ∨
    t.entry followLinks place name = .linked inner

/-- What holds of the files in a directory, and is handed up from a directory to the one that it is
entered from, holds of all files that a search comes across. -/
theorem visits_induction {followLinks : Bool} {P : RealPath → Path → Nat → Path → Nat → Prop}
    (file : ∀ {place path depth name}, name ∈ t.names place →
      t.entry followLinks place name = .file → P place path depth (path.join name) depth)
    (directory : ∀ {place path depth name inner q d}, name ∈ t.names place →
      Opens t followLinks place name inner → P inner (path.join name) (depth + 1) q d →
        P place path depth q d)
    {free : List RealPath} {depth d : Nat} {levels : Ignore.Levels}
    (h : .file q d ∈ visits t followLinks free place path depth levels) : P place path depth q d := by
  induction free, place, path, depth, levels using visits.induct t with
  | case1 free place path depth levels inside linked =>
    rw [visits] at h
    obtain ⟨⟨name, here⟩, -, h⟩ := List.mem_flatMap.1 h
    dsimp only at h
    split at h
    · next he =>
      split at h
      · cases h
      · cases List.mem_singleton.1 h
        exact file here he
    · next he =>
      split at h
      · cases h
      · exact directory here (.inl ⟨he, rfl⟩) (inside name here h)
    · next inner he =>
      split at h
      · next free =>
        split at h
        · cases h
        · exact directory here (.inr he) (linked name inner free h)
      · cases List.mem_singleton.1 h
    · cases List.mem_singleton.1 h
    · cases h

theorem exists_names_of_visits (plain : t.Plain) {followLinks : Bool} {free : List RealPath}
    {depth d : Nat} {levels : Ignore.Levels} (hp : t.resolve path = .ok place)
    (dir : t.node? place = some .directory)
    (h : .file q d ∈ visits t followLinks free place path depth levels) :
    ∃ ss, Names t path place ss q := by
  refine visits_induction (P := fun place path _ q _ => t.resolve path = .ok place →
    t.node? place = some .directory → ∃ ss, Names t path place ss q) ?_ ?_ h hp dir
  · intro place path depth name here entry hp dir
    obtain ⟨bs, file⟩ := FileTree.node?_of_entry_file plain entry
    exact ⟨_, .entry plain hp dir (plain.named.isName here) file⟩
  · rintro place path depth name inner q d here (⟨entry, rfl⟩ | entry) ih hp dir
    · have hn := plain.named.isName here
      have below := FileTree.node?_of_entry_directory plain entry
      obtain ⟨ss, names⟩ := ih (FileTree.resolve_join plain hp dir hn below) below
      exact ⟨name :: ss, names.below hp hn⟩
    · exact absurd entry (FileTree.entry_ne_linked plain _)

/-- A file in the directory itself is come across, unless the rules pass it over. -/
theorem file_mem_visits {followLinks : Bool} {free : List RealPath} {depth : Nat}
    {levels : Ignore.Levels} {name : String} (here : name ∈ t.names place)
    (entry : t.entry followLinks place name = .file)
    (kept : Ignore.Levels.passes levels name false = false) :
    .file (path.join name) depth ∈ visits t followLinks free place path depth levels := by
  rw [visits]
  refine List.mem_flatMap.2 ⟨⟨name, here⟩, List.mem_attach _ _, ?_⟩
  simp [entry, kept]

theorem mem_limited {limit : Option Nat} {vs : List Visit} {v : Visit} (h : v ∈ limited limit vs) :
    v ∈ vs := by
  cases limit with
  | none => exact h
  | some d => exact (List.mem_filter.1 h).1

theorem exists_names_of_search (plain : t.Plain) {followLinks : Bool} {d : Nat}
    (hp : t.resolve path = .ok place) (dir : t.node? place = some .directory)
    (h : .file q d ∈ search t followLinks place path) : ∃ ss, Names t path place ss q := by
  rcases List.mem_append.1 h with h | h
  · split at h
    · cases List.mem_singleton.1 h
    · cases h
  · exact exists_names_of_visits plain hp dir h

/-- What is found under a path has its components and the names that lead there. -/
theorem exists_names_of_find (plain : t.Plain) {found : Found} (h : find t s path = .ok found)
    (hq : q ∈ found.files) : ∃ place ss, t.resolve path = .ok place ∧ Names t path place ss q := by
  unfold find at h
  split at h
  · cases h
  · next place hp =>
    refine ⟨place, ?_⟩
    split at h
    · next bs file =>
      cases h
      obtain rfl : q = path := by simpa using (List.mem_filter.1 hq).1
      exact ⟨[], hp, by simp, by rwa [List.append_nil], bs, by rwa [List.append_nil]⟩
    · next dir =>
      cases h
      obtain ⟨v, hv, path⟩ := List.mem_filterMap.1 (List.mem_filter.1 (Path.mem_sort.1 hq)).1
      cases v with
      | trouble d => cases path
      | file p d =>
        cases path
        obtain ⟨ss, names⟩ := exists_names_of_search plain hp dir (mem_limited hv)
        exact ⟨ss, hp, names⟩
    · cases h
    · cases h

end Discovery
end JsonSchema
