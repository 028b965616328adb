import JsonSchema.Ignore.Level
import JsonSchema.Selection
/-!
# Finding files

Directories are searched for the files that a selection takes. `visits` walks all that lies below a
directory; a limit on the depth leaves out what lies deeper, so a larger limit only adds.

A link to a directory that is already on the way to it is not entered. Entering directories through
links therefore comes to an end, and below a directory that is entered so does entering others by
their names.
-/

namespace JsonSchema

namespace FileTree

/-- What an entry of a directory is to a search. -/
inductive Entry where
  | file
  | directory
  /-- A link to the directory at `place`, which is followed. -/
  | linked (place : RealPath)
  /-- A link that is followed and leads nowhere. -/
  | broken
  /-- A link that is not followed, or something that is neither a file nor a directory. -/
  | ignored

/-- The entry `name` of the directory at `p`. -/
def entry (t : FileTree) (followLinks : Bool) (p : RealPath) (name : String) : Entry :=
  match t.node? (p ++ [name]) with
  | some (.file _) => .file
  | some .directory => .directory
  | some (.link _) =>
    if followLinks then
      match t.resolveFrom true maxLinks p [name] with
      | .error _ => .broken
      | .ok q =>
        match t.node? q with
        | some .directory => .linked q
        | some (.file _) => .file
        | some _ => .ignored
        | none => .broken
    else .ignored
  | _ => .ignored

/-- The places of the directories. -/
def directories (t : FileTree) : List RealPath :=
  [] :: t.nodes.filterMap fun e =>
    match e.2 with
    | .directory => some e.1
    | _ => none

theorem le_height {t : FileTree} {e : RealPath × FileNode} (h : e ∈ t.nodes) :
    e.1.length ≤ t.height := by
  have grows : ∀ (l : List (RealPath × FileNode)) (n : Nat),
      n ≤ l.foldl (fun n e => max n e.1.length) n := by
    intro l
    induction l with
    | nil => intro n; exact Nat.le_refl _
    | cons a l ih => intro n; exact Nat.le_trans (Nat.le_max_left _ _) (ih _)
  have bound : ∀ (l : List (RealPath × FileNode)) (n : Nat), e ∈ l →
      e.1.length ≤ l.foldl (fun n e => max n e.1.length) n := by
    intro l
    induction l with
    | nil => intro n h; cases h
    | cons a l ih =>
      intro n h
      rcases List.mem_cons.mp h with rfl | h
      · exact Nat.le_trans (Nat.le_max_right _ _) (grows l _)
      · exact ih _ h
  exact bound t.nodes 0 h

/-- A directory with entries is not as deep as the tree is high. -/
theorem length_lt_height {t : FileTree} {p : RealPath} {name : String} (h : name ∈ t.names p) :
    p.length < t.height := by
  obtain ⟨e, he, hname⟩ := List.mem_filterMap.mp h
  split at hname
  · rename_i hp
    have hne : e.1 ≠ [] := by
      intro hnil
      rw [hnil] at hname
      cases hname
    have := le_height he
    have hpos := List.length_pos_iff.mpr hne
    rw [← hp, List.length_dropLast]
    omega
  · cases hname

end FileTree

namespace Discovery

/-- What a search comes across: a file, or a link that cannot be followed. The depth is counted from
the directory that is searched; what lies in it has depth one. -/
inductive Visit where
  | file (path : Path) (depth : Nat)
  | trouble (depth : Nat)

namespace Visit

def depth : Visit → Nat
  | file _ d => d
  | trouble d => d

def path? : Visit → Option Path
  | file p _ => some p
  | trouble _ => none

end Visit

theorem erase_le (free : List RealPath) (p : RealPath) : (free.erase p).length ≤ free.length :=
  List.length_erase_le

theorem erase_lt {free : List RealPath} {p : RealPath} (h : p ∈ free) :
    (free.erase p).length < free.length := by
  have := List.length_pos_of_mem h
  rw [List.length_erase_of_mem h]
  omega

open FileTree in
/-- Everything below the directory at `place`, which is shown as `path` and has entries at `depth`.
`free` are the directories that are not on the way to this one, itself included; `levels` are the
rules that hold in it. -/
def visits (t : FileTree) (followLinks : Bool) (free : List RealPath) (place : RealPath)
    (path : Path) (depth : Nat) (levels : Ignore.Levels) : List Visit :=
  (t.names place).attach.flatMap fun ⟨name, _here⟩ =>
    let inner := path.join name
    match t.entry followLinks place name with
    | .file => if Ignore.Levels.passes levels name false then [] else [.file inner depth]
    | .directory =>
      if Ignore.Levels.passes levels name true then []
      else
        let q := place ++ [name]
        visits t followLinks (free.erase q) q inner (depth + 1)
          (Ignore.Levels.enter t levels name q)
    | .linked q =>
      if _open : q ∈ free then
        if Ignore.Levels.passes levels name true then []
        else
          visits t followLinks (free.erase q) q inner (depth + 1)
            (Ignore.Levels.enter t levels name q)
      else [.trouble depth]
    | .broken => [.trouble depth]
    | .ignored => []
termination_by (free.length, t.height - place.length)
decreasing_by
  · have h := length_lt_height _here
    rcases Nat.lt_or_eq_of_le (erase_le free (place ++ [name])) with hlt | heq
    · exact Prod.Lex.left _ _ hlt
    · rw [heq]
      refine Prod.Lex.right _ ?_
      rw [List.length_append, List.length_singleton]
      omega
  · exact Prod.Lex.left _ _ (erase_lt ‹_›)

/-- What a search of the directory at `place` comes across. Lines above it that are no rules are
trouble too. -/
def search (t : FileTree) (followLinks : Bool) (place : RealPath) (path : Path) : List Visit :=
  let above := Ignore.Levels.above t place
  (if above.any Ignore.Level.isFaulty then [.trouble 0] else []) ++
    visits t followLinks (t.directories.erase place) place path 1 (.of t place :: above)

/-- Depths are counted up to this bound. -/
def depthBound : Nat := Nat.pow 2 64

/-- The greatest depth of a visit under a limit. The limit counts the files in the directory that is
searched as depth zero. -/
def reach (limit : Nat) : Nat := (limit + 1) % depthBound

/-- The visits that a limit leaves. -/
def limited (limit : Option Nat) (vs : List Visit) : List Visit :=
  match limit with
  | none => vs
  | some d => vs.filter fun v => v.depth ≤ reach d

/-- What is found under a path: the files, and how often there was trouble. -/
structure Found where
  files : List Path
  troubles : Nat

/-- The files that a selection takes among visits. -/
def Found.ofVisits (s : Selection) (vs : List Visit) : Found where
  files := Path.sort ((vs.filterMap Visit.path?).filter s.takes)
  troubles := vs.countP fun v => v.path?.isNone

/-- What a path leads to: a file by itself, or the files in a directory. -/
def find (t : FileTree) (s : Selection) (path : Path) : Except Failure Found :=
  match t.resolve path with
  | .error f => .error (.system f)
  | .ok place =>
    match t.node? place with
    | some (.file _) => .ok ⟨[path].filter s.takes, 0⟩
    | some .directory =>
      .ok (.ofVisits s (limited s.maxDepth (search t s.followLinks place path)))
    | some _ => .error (.traversal path "not a regular file or directory")
    | none => .error (.system .notFound)

/-- The files under several paths, in order and each once. -/
def findAll (t : FileTree) (s : Selection) (paths : List Path) : Except Failure (List Path) := do
  let found ← paths.mapM (find t s)
  .ok (Path.dedup (Path.sort (found.flatMap Found.files)))

end Discovery
end JsonSchema
