import Mathlib
import JsonSchema.Proofs.Discovery.Visits
/-!
# The files under several paths

In a tree without links the files under several paths are those under each of them, in whatever order
and however often the paths are given. Repetitions are found by the components of paths, so a file is
named once if the paths under which it is found are written as continuations of one another
(`Discovery.findAll_files`), and not if it is found under a directory that is written in two ways
(`Discovery.findAll_twoSpellings`).
-/

namespace JsonSchema

/-- A path is written as another one with names added. -/
def Path.Extends (q p : Path) : Prop := ∃ ss : List String, q.components = p.components ++ ss.map .name

namespace Discovery

variable {t : FileTree} {s : Selection} {p p' q q' : Path} {paths files : List Path}
  {place place' : RealPath} {ss ss' : List String}

/-- One of some paths leads to a place. -/
def Leads (t : FileTree) (files : List Path) (place : RealPath) : Prop :=
  ∃ q ∈ files, t.resolve q = .ok place

/-- The file at a place is found under a path. -/
def Finds (t : FileTree) (s : Selection) (p : Path) (place : RealPath) : Prop :=
  ∃ found, find t s p = .ok found ∧ Leads t found.files place

/-- A path leads to a file or to a directory. -/
def Usable (t : FileTree) (p : Path) : Prop := ∃ place, t.resolve p = .ok place ∧
  (t.node? place = some .directory ∨ ∃ bs, t.node? place = some (.file bs))

/-! ### What the list is made of -/

theorem exists_find (h : Usable t p) : ∃ found, find t s p = .ok found := by
  obtain ⟨place, hp, dir | ⟨bs, file⟩⟩ := h
  · rw [find, hp]
    simp only [dir]
    exact ⟨_, rfl⟩
  · rw [find, hp]
    simp only [file]
    exact ⟨_, rfl⟩

theorem exists_findAll (h : ∀ p ∈ paths, Usable t p) : ∃ files, findAll t s paths = .ok files := by
  obtain ⟨found, hf⟩ : Succeeds (paths.mapM (find t s)) :=
    succeeds_mapM.2 fun p hp => exists_find (h p hp)
  exact ⟨_, bind_eq_ok.2 ⟨found, hf, rfl⟩⟩

theorem exists_sort_of_findAll (h : findAll t s paths = .ok files) : ∃ all,
    files = Path.dedup (Path.sort all) ∧
      ∀ q, q ∈ all ↔ ∃ p ∈ paths, ∃ found, find t s p = .ok found ∧ q ∈ found.files := by
  obtain ⟨found, hf, hfiles⟩ := bind_eq_ok.1 h
  refine ⟨_, (Except.ok.inj hfiles).symm, fun q => ?_⟩
  obtain ⟨results, sources⟩ := partners_of_forall₂ (mapM_eq_ok.1 hf)
  rw [List.mem_flatMap]
  constructor
  · rintro ⟨f, hf, hq⟩
    obtain ⟨p, hp, hpf⟩ := sources f hf
    exact ⟨p, hp, f, hpf, hq⟩
  · rintro ⟨p, hp, f, hpf, hq⟩
    obtain ⟨f', hf', hpf'⟩ := results p hp
    cases hpf.symm.trans hpf'
    exact ⟨f, hf', hq⟩

theorem pairwise_findAll (h : findAll t s paths = .ok files) : files.Pairwise Path.Lt := by
  obtain ⟨all, rfl, -⟩ := exists_sort_of_findAll h
  exact Path.pairwise_sortDedup all

theorem exists_find_of_mem (h : findAll t s paths = .ok files) (hq : q ∈ files) :
    ∃ p ∈ paths, ∃ found, find t s p = .ok found ∧ q ∈ found.files := by
  obtain ⟨all, rfl, mem⟩ := exists_sort_of_findAll h
  exact (mem q).1 (Path.mem_sort.1 (Path.mem_of_mem_dedup hq))

theorem exists_mem_of_find (h : findAll t s paths = .ok files) (hp : p ∈ paths) {found : Found}
    (hf : find t s p = .ok found) (hq : q ∈ found.files) :
    ∃ q' ∈ files, q'.components = q.components := by
  obtain ⟨all, rfl, mem⟩ := exists_sort_of_findAll h
  exact Path.exists_mem_dedup (Path.mem_sort.2 ((mem q).2 ⟨p, hp, found, hf, hq⟩))

/-! ### Where the files are -/

theorem isFile_of_mem (plain : t.Plain) (h : findAll t s paths = .ok files) (hq : q ∈ files) :
    t.isFile q = true := by
  obtain ⟨p, -, found, hf, hq⟩ := exists_find_of_mem h hq
  obtain ⟨place, ss, -, names⟩ := exists_names_of_find plain hf hq
  obtain ⟨bs, file⟩ := names.file
  have stat : t.stat q = .ok (.file bs) := by
    rw [FileTree.stat, bind_eq_ok]
    exact ⟨_, names.leads, by rw [file]⟩
  rw [FileTree.isFile, stat]

/-- What is found under a path is listed, perhaps in another spelling of the same components. -/
theorem exists_mem_of_finds (plain : t.Plain) (h : findAll t s paths = .ok files) (hp : p ∈ paths)
    (finds : Finds t s p place) : ∃ q ∈ files, t.resolve q = .ok place ∧ q.Extends p := by
  obtain ⟨found, hf, q, hq, leads⟩ := finds
  obtain ⟨start, ss, -, names⟩ := exists_names_of_find plain hf hq
  obtain ⟨q', hq', same⟩ := exists_mem_of_find h hp hf hq
  obtain ⟨p', -, found', hf', hq''⟩ := exists_find_of_mem h hq'
  obtain ⟨start', ss', -, names'⟩ := exists_names_of_find plain hf' hq''
  refine ⟨q', hq', ?_, ss, same.trans names.components⟩
  rw [names'.leads, FileTree.resolve_eq_of_components plain names'.leads leads same]

theorem leads_findAll (plain : t.Plain) (h : findAll t s paths = .ok files) :
    Leads t files place ↔ ∃ p ∈ paths, Finds t s p place := by
  constructor
  · rintro ⟨q, hq, leads⟩
    obtain ⟨p, hp, found, hf, hq⟩ := exists_find_of_mem h hq
    exact ⟨p, hp, found, hf, q, hq, leads⟩
  · rintro ⟨p, hp, finds⟩
    obtain ⟨q, hq, leads, -⟩ := exists_mem_of_finds plain h hp finds
    exact ⟨q, hq, leads⟩

/-! ### Files that are named twice -/

/-- What is found under a path that extends another one has the components that it has when it is
found under that one. -/
theorem Names.components_eq (plain : t.Plain) (hp : t.resolve p = .ok place)
    (hp' : t.resolve p' = .ok place') (h : Names t p place ss q) (h' : Names t p' place' ss' q')
    (same : t.resolve q = t.resolve q') (extend : p'.Extends p) : q.components = q'.components := by
  obtain ⟨between, hb⟩ := extend
  have below : place' = place ++ between := by
    rw [FileTree.resolve_eq_ok plain hp', hb, RealPath.locate_append, RealPath.locate_names,
      ← FileTree.resolve_eq_ok plain hp]
  rw [h.leads, h'.leads, Except.ok.injEq, below, List.append_assoc, List.append_cancel_left_eq] at same
  rw [h.components, h'.components, hb, same, List.map_append, List.append_assoc]

theorem extends_of_extends (h : q.Extends p) (h' : q.Extends p') : p.Extends p' ∨ p'.Extends p := by
  obtain ⟨ss, hc⟩ := h
  obtain ⟨ss', hc'⟩ := h'
  rcases List.append_eq_append_iff.1 (hc.symm.trans hc') with ⟨m, hp', hm⟩ | ⟨m, hp, hm⟩
  · obtain ⟨between, _, rfl, rfl, -⟩ := List.map_eq_append_iff.1 hm
    exact .inr ⟨between, hp'⟩
  · obtain ⟨between, _, rfl, rfl, -⟩ := List.map_eq_append_iff.1 hm
    exact .inl ⟨between, hp⟩

/-- Each file is named once exactly if any two paths under which the same file is found are written
one as a continuation of the other. -/
theorem nodup_findAll_iff (plain : t.Plain) (h : findAll t s paths = .ok files) :
    (files.map t.resolve).Nodup ↔ ∀ p ∈ paths, ∀ p' ∈ paths,
      (∃ place, Finds t s p place ∧ Finds t s p' place) → p.Extends p' ∨ p'.Extends p := by
  constructor
  · rintro nodup p hp p' hp' ⟨place, finds, finds'⟩
    obtain ⟨q, hq, leads, extend⟩ := exists_mem_of_finds plain h hp finds
    obtain ⟨q', hq', leads', extend'⟩ := exists_mem_of_finds plain h hp' finds'
    obtain rfl : q = q' := List.inj_on_of_nodup_map nodup hq hq' (leads.trans leads'.symm)
    exact extends_of_extends extend extend'
  · intro continued
    rw [List.Nodup, List.pairwise_map]
    refine (pairwise_findAll h).imp_of_mem fun {q q'} hq hq' before same => before.ne ?_
    obtain ⟨p, hp, found, hf, hq⟩ := exists_find_of_mem h hq
    obtain ⟨p', hp', found', hf', hq'⟩ := exists_find_of_mem h hq'
    obtain ⟨place, ss, start, names⟩ := exists_names_of_find plain hf hq
    obtain ⟨place', ss', start', names'⟩ := exists_names_of_find plain hf' hq'
    rcases continued p hp p' hp' ⟨_, ⟨found, hf, q, hq, names.leads⟩,
      found', hf', q', hq', same.symm.trans names.leads⟩ with extend | extend
    · exact (names'.components_eq plain start' start names same.symm extend).symm
    · exact names.components_eq plain start start' names' same extend

/-- The files under several paths that lead to files or directories: they are listed in order and no
path twice, they are the files under each of the paths, whatever their order and repetitions, and no
file is named twice exactly if any two of the paths under which the same file is found are written one
as a continuation of the other. -/
theorem findAll_files (plain : t.Plain) (s : Selection) (usable : ∀ p ∈ paths, Usable t p) :
    ∃ files, findAll t s paths = .ok files ∧ (∀ q ∈ files, t.isFile q = true) ∧
      files.Pairwise Path.Lt ∧
      (∀ place, Leads t files place ↔ ∃ p ∈ paths, Finds t s p place) ∧
      (∀ paths', (∀ p, p ∈ paths' ↔ p ∈ paths) → ∃ files', findAll t s paths' = .ok files' ∧
        ∀ place, Leads t files' place ↔ Leads t files place) ∧
      ((files.map t.resolve).Nodup ↔ ∀ p ∈ paths, ∀ p' ∈ paths,
        (∃ place, Finds t s p place ∧ Finds t s p' place) → p.Extends p' ∨ p'.Extends p) := by
  obtain ⟨files, h⟩ := exists_findAll (s := s) usable
  refine ⟨files, h, fun q hq => isFile_of_mem plain h hq, pairwise_findAll h,
    fun place => leads_findAll plain h, fun paths' same => ?_, nodup_findAll_iff plain h⟩
  obtain ⟨files', h'⟩ := exists_findAll (s := s) fun p hp => usable p ((same p).1 hp)
  refine ⟨files', h', fun place => ?_⟩
  rw [leads_findAll plain h', leads_findAll plain h]
  simp only [same]

/-! ### One directory -/

/-- A directory with one file. -/
def oneFile : FileTree := ⟨[(["d"], .directory), (["d", "x.json"], .file [])], []⟩

/-- The files with the extension `json`. -/
def jsonFiles : Selection := ⟨["json"].map Unicode.lowercase, none, none, none, false⟩

theorem plain_oneFile : oneFile.Plain := by
  constructor
  · simp [oneFile]
  · simp only [oneFile, List.forall_mem_cons]
    decide

theorem takes_jsonFiles (h : p.extension? = some "json") : jsonFiles.takes p = true := by
  simp [Selection.takes, jsonFiles, h]

theorem usable_directory (h : oneFile.resolve p = .ok ["d"]) : Usable oneFile p := ⟨["d"], h, .inl rfl⟩

/-- The file is found under every path of its directory, as that path continued. -/
theorem exists_find_oneFile (h : oneFile.resolve p = .ok ["d"])
    (extension : (p.join "x.json").extension? = some "json") :
    ∃ found, find oneFile jsonFiles p = .ok found ∧ p.join "x.json" ∈ found.files := by
  have levels : Ignore.Level.of oneFile ["d"] :: Ignore.Levels.above oneFile ["d"] =
      [⟨[], .none, .none, .none, false⟩, ⟨["d"], .none, .none, .none, false⟩] := by cbv
  have kept : Ignore.Levels.passes (Ignore.Level.of oneFile ["d"] ::
      Ignore.Levels.above oneFile ["d"]) "x.json" false = false := by
    rw [levels]
    cbv
  have visited : .file (p.join "x.json") 1 ∈ search oneFile false ["d"] p :=
    List.mem_append_right _ (file_mem_visits (by decide) rfl kept)
  refine ⟨_, by rw [find, h]; rfl, ?_⟩
  refine Path.mem_sort.2 (List.mem_filter.2 ⟨List.mem_filterMap.2 ⟨_, visited, rfl⟩, ?_⟩)
  exact takes_jsonFiles extension

theorem finds_oneFile (h : oneFile.resolve p = .ok ["d"])
    (extension : (p.join "x.json").extension? = some "json") :
    Finds oneFile jsonFiles p ["d", "x.json"] := by
  obtain ⟨found, hf, hq⟩ := exists_find_oneFile h extension
  exact ⟨found, hf, p.join "x.json", hq, FileTree.resolve_join plain_oneFile h rfl (by decide) rfl⟩

theorem resolve_directory : oneFile.resolve ⟨"d"⟩ = .ok ["d"] ∧ oneFile.resolve ⟨"./d"⟩ = .ok ["d"] := by
  refine ⟨?_, ?_⟩ <;> cbv

/-- The directory and the file in it, written as its continuation. -/
theorem findAll_nested : oneFile.Plain ∧ (∀ p ∈ [⟨"d/x.json"⟩, ⟨"d"⟩], Usable oneFile p) ∧
    ∃ files, findAll oneFile jsonFiles [⟨"d/x.json"⟩, ⟨"d"⟩] = .ok files ∧
      (files.map oneFile.resolve).Nodup ∧ Leads oneFile files ["d", "x.json"] := by
  have joined : Path.join ⟨"d"⟩ "x.json" = ⟨"d/x.json"⟩ := by decide
  have file : oneFile.resolve ⟨"d/x.json"⟩ = .ok ["d", "x.json"] := by
    rw [← joined]
    exact FileTree.resolve_join plain_oneFile resolve_directory.1 rfl (by decide) rfl
  have usable : ∀ p ∈ [⟨"d/x.json"⟩, ⟨"d"⟩], Usable oneFile p := by
    simp only [List.forall_mem_cons]
    exact ⟨⟨_, file, .inr ⟨_, rfl⟩⟩, usable_directory resolve_directory.1, by simp⟩
  obtain ⟨files, found, -, -, leads, -, nodup⟩ := findAll_files plain_oneFile jsonFiles usable
  have extend : Path.Extends ⟨"d/x.json"⟩ ⟨"d"⟩ := ⟨["x.json"], by decide⟩
  have itself (p : Path) : p.Extends p := ⟨[], by simp⟩
  refine ⟨plain_oneFile, usable, files, found, nodup.2 ?_, (leads _).2 ⟨⟨"d"⟩, by simp, ?_⟩⟩
  · simp only [List.forall_mem_cons]
    refine ⟨⟨fun _ => .inl (itself _), fun _ => .inl extend, by simp⟩,
      ⟨fun _ => .inr extend, fun _ => .inl (itself _), by simp⟩, by simp⟩
  · exact finds_oneFile resolve_directory.1 (by decide)

/-- The same directory, written in two ways. -/
theorem findAll_twoSpellings : oneFile.Plain ∧ (∀ p ∈ [⟨"d"⟩, ⟨"./d"⟩], Usable oneFile p) ∧
    ∃ files, findAll oneFile jsonFiles [⟨"d"⟩, ⟨"./d"⟩] = .ok files ∧
      ¬(files.map oneFile.resolve).Nodup := by
  have usable : ∀ p ∈ [⟨"d"⟩, ⟨"./d"⟩], Usable oneFile p := by
    simp only [List.forall_mem_cons]
    exact ⟨usable_directory resolve_directory.1, usable_directory resolve_directory.2, by simp⟩
  obtain ⟨files, found⟩ := exists_findAll (s := jsonFiles) usable
  have plainly : (⟨"d"⟩ : Path).components = [.name "d"] := by decide
  have dotted : (⟨"./d"⟩ : Path).components = [.here, .name "d"] := by decide
  refine ⟨plain_oneFile, usable, files, found, fun nodup => ?_⟩
  rcases (nodup_findAll_iff plain_oneFile found).1 nodup ⟨"d"⟩ (by simp) ⟨"./d"⟩ (by simp)
    ⟨_, finds_oneFile resolve_directory.1 (by decide),
      finds_oneFile resolve_directory.2 (by decide)⟩ with ⟨ss, h⟩ | ⟨ss, h⟩
  · rw [plainly, dotted] at h
    cases h
  · rw [plainly, dotted] at h
    cases h

end Discovery
end JsonSchema
