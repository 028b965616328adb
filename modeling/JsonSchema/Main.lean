import Std.Time.DateTime.Timestamp
import JsonSchema.Program
import JsonSchema.Report.Instant
/-!
# Main

Copies what a call may need from the file system into a file tree, and writes the reply of the
program. Directories are copied once the settings are known, since these say which files are read.
-/

namespace JsonSchema.Main

/-- The entry at a place. -/
def entryAt (p : RealPath) : IO.FS.DirEntry := ⟨"/", "/".intercalate p⟩

/-- The names of an absolute path. -/
def namesOf (path : String) : RealPath := (Path.names path).filter (· != "")

/-- The kind of what stands at a place. -/
def kindAt (p : RealPath) : IO (Option IO.FS.FileType) := do
  try return some (← (entryAt p).path.symlinkMetadata).type
  catch _ => return none

/-- The place that a link leads to. -/
def linkedPlace (p : RealPath) : IO (Option RealPath) := do
  try return some (namesOf (← IO.FS.realPath (entryAt p).path).toString)
  catch _ => return none

def contentAt (p : RealPath) : IO Bytes := do
  try return (← IO.FS.readBinFile (entryAt p).path).toList
  catch _ => return []

def add (t : FileTree) (p : RealPath) (node : FileNode) : FileTree :=
  match t.node? p with
  | some _ => t
  | none => { t with nodes := (p, node) :: t.nodes }

/-- A target that leads nowhere. -/
def nowhere : String := "/\x00"

/-- Copies what the pieces of a path pass from the directory at `p`, and the file they end at. -/
partial def addWay (t : FileTree) (p : RealPath) : List String → IO FileTree
  | [] => return t
  | s :: rest => do
    if s = "" || s = "." then addWay t p rest
    else if s = ".." then addWay t p.dropLast rest
    else
      let q := p ++ [s]
      match ← kindAt q with
      | none => return t
      | some .dir => addWay (add t q .directory) q rest
      | some .file => return add t q (.file (← contentAt q))
      | some .other => return add t q .special
      | some .symlink =>
        match ← linkedPlace q with
        | none => return add t q (.link nowhere)
        | some r =>
          let t := add t q (.link (RealPath.path r).text)
          addWay (← addWay t [] r) r rest

def addPath (t : FileTree) (path : Path) : IO FileTree :=
  addWay t (if path.isAbsolute then [] else t.cwd) (Path.names path.text)

/-- The files with rules of a directory. -/
def ruleFiles : List (List String) := [[".ignore"], [".gitignore"], [".git", "info", "exclude"]]

def addRules (t : FileTree) (p : RealPath) : IO FileTree := ruleFiles.foldlM (addWay · p ·) t

/-- Copies what lies below a directory. Files are copied without content unless their extension is
asked for. -/
partial def addBelow (s : Settings.Files) (t : FileTree) (p : RealPath) : IO FileTree := do
  let names ← try pure ((← (entryAt p).path.readDir).toList.map (·.fileName)) catch _ => pure []
  names.foldlM (fun t name => addEntry t (p ++ [name])) (← addRules t p)
where
  addEntry (t : FileTree) (q : RealPath) : IO FileTree := do
    match ← kindAt q with
    | none => return t
    | some .dir => addBelow s (add t q .directory) q
    | some .file =>
      let wanted := (Path.extension? (RealPath.path q)).any fun e =>
        (s.extensions.map Unicode.lowercase).contains (Unicode.lowercase e)
      return add t q (.file (← if wanted then contentAt q else pure []))
    | some .other => return add t q .special
    | some .symlink =>
      match ← linkedPlace q with
      | none => return add t q (.link nowhere)
      | some r =>
        let t := add t q (.link (RealPath.path r).text)
        if !s.followLinks || (t.node? r).isSome then return t
        else
          let t ← addWay t [] r
          if (t.node? r) matches some .directory then addBelow s t r else return t

/-- Copies the directory that a path leads to, and the rules above it. -/
def addSearched (s : Settings.Files) (t : FileTree) (path : Path) : IO FileTree := do
  match t.resolve path with
  | .error _ => return t
  | .ok p =>
    if (t.node? p) matches some .directory then
      let above := (List.range p.length).map p.take
      addBelow s (← above.foldlM addRules t) p
    else return t

def environment : IO Settings.Environment := do
  let values ← Settings.variableNames.mapM fun name => do return (name, ← IO.getEnv name)
  return values.filterMap fun (name, value) => value.map (name, ·)

/-- What a call with some arguments may need. -/
def treeFor (env : Settings.Environment) (args : List String) : IO FileTree := do
  let t := FileTree.empty (namesOf (← IO.currentDir).toString)
  match CommandLine.parse args with
  | .error _ => return t
  | .ok c =>
    let t ← (c.schema :: c.paths ++ c.config.toList ++ Settings.places env).foldlM addPath t
    match Settings.forRun t env c with
    | .error _ => return t
    | .ok s => c.paths.foldlM (addSearched s.files) t

/-- The time at which the program is called. -/
def now : IO String := do
  return (Report.Instant.mk (← Std.Time.Timestamp.now).toNanosecondsSinceUnixEpoch.val.toNat).text

/-- How many files are handled at a time if nothing else is asked for. -/
def workers : Nat := 1

/-- Replies to a call. -/
def run (args : List String) : IO UInt32 := do
  let env ← environment
  let reply := Program.call (← treeFor env args) env args (← now) workers
  IO.print reply.output
  IO.eprint reply.errors
  return reply.status.toUInt32

end JsonSchema.Main

/-- Validates files against a schema. -/
def main (args : List String) : IO UInt32 := JsonSchema.Main.run args
