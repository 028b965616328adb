import JsonSchema.Path
import JsonSchema.Utf8
/-!
# File trees

A file tree holds files, directories and symbolic links, each at the list of names that leads to it
from the root. A path is resolved from the working directory, through the links it meets.
-/

namespace JsonSchema

/-- Why the file system refuses. -/
inductive SystemFault where
  | notFound
  | notDirectory
  | isDirectory
  | tooManyLinks
  /-- A file that was read as text is not UTF-8. -/
  | notText
deriving DecidableEq

def SystemFault.message : SystemFault → String
  | notFound => "No such file or directory (os error 2)"
  | notDirectory => "Not a directory (os error 20)"
  | isDirectory => "Is a directory (os error 21)"
  | tooManyLinks => "Too many levels of symbolic links (os error 40)"
  | notText => "stream did not contain valid UTF-8"

/-- The names that lead from the root to a node. -/
abbrev RealPath := List String

/-- The text of an absolute path. -/
def RealPath.path (p : RealPath) : Path := ⟨"/" ++ "/".intercalate p⟩

inductive FileNode where
  | file (content : Bytes)
  | directory
  | link (target : String)
  /-- What is neither of these, such as a device. -/
  | special

structure FileTree where
  nodes : List (RealPath × FileNode)
  cwd : RealPath

namespace FileTree

/-- What stands at a place. The root is a directory. -/
def node? (t : FileTree) (p : RealPath) : Option FileNode :=
  if p.isEmpty then some .directory else t.nodes.lookup p

/-- Adds directories down to `p`, where none stand yet. -/
def withDirectories (t : FileTree) (p : RealPath) : FileTree :=
  let ways := (List.range (p.length + 1)).map p.take
  { t with nodes := t.nodes ++ (ways.filter fun q => (t.node? q).isNone).map (·, .directory) }

/-- A tree with nothing but the way to its working directory. -/
def empty (cwd : RealPath) : FileTree := withDirectories ⟨[], cwd⟩ cwd

/-- Puts a node at the place that a path names, with the directories on the way to it. -/
def insert (t : FileTree) (path : Path) (node : FileNode) : FileTree :=
  let start := if path.isAbsolute then [] else t.cwd
  let p := start ++ (Path.names path.text).filter fun s => s != "" && s != "."
  let t := t.withDirectories p.dropLast
  match t.node? p, node with
  | some _, .directory => t
  | _, _ => { t with nodes := (t.nodes.filter fun e => e.1 != p) ++ [(p, node)] }

/-- The names in a directory. -/
def names (t : FileTree) (p : RealPath) : List String :=
  t.nodes.filterMap fun e => if e.1.dropLast = p then e.1.getLast? else none

/-- The length of the longest way from the root. -/
def height (t : FileTree) : Nat := t.nodes.foldl (fun n e => max n e.1.length) 0

/-- At most this many links may be followed to resolve a path. -/
def maxLinks : Nat := 40

/-- The place reached from the directory at `p` by the pieces of a path. A link at the end is
followed only if `followLast`. -/
def resolveFrom (t : FileTree) (followLast : Bool) (links : Nat) (p : RealPath) :
    List String → Except SystemFault RealPath
  | [] => .ok p
  | s :: rest =>
    match t.node? p with
    | none => .error .notFound
    | some .directory =>
      if s = "" || s = "." then resolveFrom t followLast links p rest
      else if s = ".." then resolveFrom t followLast links p.dropLast rest
      else
        let q := p ++ [s]
        match t.node? q with
        | none => .error .notFound
        | some (.link target) =>
          if rest.isEmpty && !followLast then .ok q
          else
            match links with
            | 0 => .error .tooManyLinks
            | n + 1 =>
              let start := if Path.isAbsolute ⟨target⟩ then [] else p
              resolveFrom t followLast n start (Path.names target ++ rest)
        | some _ => resolveFrom t followLast links q rest
    | some _ => .error .notDirectory
termination_by pieces => (links, pieces.length)

/-- The place that a path leads to, through all links. -/
def resolve (t : FileTree) (path : Path) : Except SystemFault RealPath :=
  if path.text = "" then .error .notFound
  else
    t.resolveFrom true maxLinks (if path.isAbsolute then [] else t.cwd) (Path.names path.text)

/-- What the pieces of a path lead to from the directory at `p`. -/
def nodeFrom (t : FileTree) (p : RealPath) (pieces : List String) :
    Except SystemFault FileNode := do
  let q ← t.resolveFrom true maxLinks p pieces
  match t.node? q with
  | some node => .ok node
  | none => .error .notFound

/-- What a path leads to. -/
def stat (t : FileTree) (path : Path) : Except SystemFault FileNode := do
  let p ← t.resolve path
  match t.node? p with
  | some node => .ok node
  | none => .error .notFound

def isFile (t : FileTree) (path : Path) : Bool :=
  match t.stat path with
  | .ok (.file _) => true
  | _ => false

def exists? (t : FileTree) (path : Path) : Bool := (t.stat path).toBool

/-- The bytes of the file that a path leads to. -/
def read (t : FileTree) (path : Path) : Except SystemFault Bytes := do
  match ← t.stat path with
  | .file content => .ok content
  | .directory => .error .isDirectory
  | .link _ => .error .tooManyLinks
  | .special => .error .notFound

/-- The text of the file that a path leads to. -/
def readText (t : FileTree) (path : Path) : Except SystemFault String := do
  match Utf8.decode (← t.read path) with
  | .ok cs => .ok (String.ofList cs)
  | .error _ => .error .notText

end FileTree
end JsonSchema
