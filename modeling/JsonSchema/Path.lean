import JsonSchema.Text.Pieces
/-!
# Paths

A path is kept as it was written. Two paths are compared by their components, so that a doubled
slash or a dot inside makes no difference.
-/

namespace JsonSchema

structure Path where
  text : String
deriving DecidableEq

namespace Path

inductive Component where
  | root
  | here
  | parent
  | name (s : String)
deriving DecidableEq

/-- The names of a text between slashes, empty ones included. -/
def names (text : String) : List String := (Text.splitAt '/' text.toList).map String.ofList

def isAbsolute (p : Path) : Bool := p.text.toList.head? = some '/'

/-- The component that a piece stands for, if it stands for one. -/
def component? (piece : String) : Option Component :=
  if piece = "" || piece = "." then none
  else if piece = ".." then some .parent
  else some (.name piece)

/-- The components. A dot counts only where the path begins with it. -/
def components (p : Path) : List Component :=
  let ns := names p.text
  let front :=
    if p.isAbsolute then [Component.root] else if ns.head? = some "." then [.here] else []
  front ++ ns.filterMap component?

/-- The root comes before a leading dot, that before a step up, and that before names. -/
def Component.rank : Component → Nat
  | root => 0
  | here => 1
  | parent => 2
  | name _ => 3

/-- Components in order of rank, names by code points. -/
def Component.compare : Component → Component → Ordering
  | name s, name t => Ord.compare s t
  | c, d => Ord.compare c.rank d.rank

/-- Lexicographic order by components. -/
def compareAll : List Component → List Component → Ordering
  | [], [] => .eq
  | [], _ :: _ => .lt
  | _ :: _, [] => .gt
  | c :: cs, d :: ds => (c.compare d).then (compareAll cs ds)

def le (p q : Path) : Bool := compareAll p.components q.components != .gt

/-- Whether two paths have the same components. -/
def same (p q : Path) : Bool := p.components == q.components

/-- The name that the path ends with. -/
def fileName? (p : Path) : Option String :=
  match p.components.getLast? with
  | some (.name s) => some s
  | _ => none

/-- What follows the last dot of a name, unless the name begins with that dot. -/
def extensionOf? (name : String) : Option String :=
  let cs := name.toList
  let tail := (cs.reverse.takeWhile (· ≠ '.')).reverse
  if cs.length ≤ tail.length + 1 then none else some (String.ofList tail)

def extension? (p : Path) : Option String := p.fileName?.bind extensionOf?

/-- The path of a name inside the directory at a path. -/
def join (p : Path) (name : String) : Path :=
  if p.text = "" || p.text.toList.getLast? = some '/' then ⟨p.text ++ name⟩
  else ⟨p.text ++ "/" ++ name⟩

/-- The paths in order. -/
def sort (ps : List Path) : List Path := ps.mergeSort le

/-- The first of each run of paths that are the same. -/
def dedup : List Path → List Path
  | [] => []
  | [p] => [p]
  | p :: q :: r => if p.same q then dedup (p :: r) else p :: dedup (q :: r)

end Path
end JsonSchema
