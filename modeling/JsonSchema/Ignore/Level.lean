import JsonSchema.FileTree
import JsonSchema.Ignore.Rule
/-!
# Levels of ignore rules

Each directory may have ignore files, and their rules hold for everything below it. The directory
nearest to a file has the first word. Rules of version control are heeded only inside a repository,
and those above its top are not.
-/

namespace JsonSchema.Ignore

/-- The rules of a directory, seen from one at or below it. -/
structure Level where
  /-- The names that lead from the directory of the rules to the other. -/
  below : List String
  plain : Rules
  tracked : Rules
  /-- Rules kept with a repository and not in its files. -/
  exclude : Rules
  /-- Whether the directory is the top of a repository. -/
  isTop : Bool

namespace Level

/-- The rules in the file that pieces of a path lead to. -/
def rulesAt (t : FileTree) (p : RealPath) (pieces : List String) : Rules :=
  match t.nodeFrom p pieces with
  | .ok (.file bs) => Rules.ofBytes bs
  | _ => .none

/-- The level of a directory. -/
def of (t : FileTree) (p : RealPath) : Level where
  below := []
  plain := rulesAt t p [".ignore"]
  tracked := rulesAt t p [".gitignore"]
  exclude := rulesAt t p [".git", "info", "exclude"]
  isTop := (t.nodeFrom p [".git"]).toBool

/-- Whether a line of one of the files is no rule. -/
def isFaulty (l : Level) : Bool := l.plain.faulty || l.tracked.faulty || l.exclude.faulty

/-- The path from the directory of the rules to an entry. -/
def pathTo (l : Level) (name : String) : String := "/".intercalate (l.below ++ [name])

/-- The level seen from a directory one step down. -/
def down (name : String) (l : Level) : Level := { l with below := l.below ++ [name] }

end Level

/-- The levels that hold in a directory, the nearest first. -/
abbrev Levels := List Level

namespace Levels

/-- The levels up to the top of the repository, none outside of one. -/
def inRepository : List Level → List Level
  | [] => []
  | l :: ls => if l.isTop then [l] else if ls.any Level.isTop then l :: inRepository ls else []

/-- What the nearest level that says anything says about an entry. -/
def verdictBy? (rules : Level → Rules) (ls : List Level) (name : String) (isDirectory : Bool) :
    Option Verdict :=
  ls.findSome? fun l => (rules l).verdict? (l.pathTo name) isDirectory

/-- What the rules say about an entry. -/
def verdict? (ls : List Level) (name : String) (isDirectory : Bool) : Option Verdict :=
  let repository := inRepository ls
  (verdictBy? Level.plain ls name isDirectory).or
    ((verdictBy? Level.tracked repository name isDirectory).or
      (verdictBy? Level.exclude repository name isDirectory))

def isHidden (name : String) : Bool := name.toList.head? = some '.'

/-- Whether an entry is passed over. Hidden ones are, unless a rule keeps them. -/
def passes (ls : List Level) (name : String) (isDirectory : Bool) : Bool :=
  match verdict? ls name isDirectory with
  | some .keep => false
  | some .pass => true
  | none => isHidden name

/-- The levels in the directory `p`, which is the entry `name` where the levels `ls` hold. -/
def enter (t : FileTree) (ls : List Level) (name : String) (p : RealPath) : List Level :=
  Level.of t p :: ls.map (Level.down name)

/-- The levels above the directory `p`, seen from it. -/
def above (t : FileTree) (p : RealPath) : List Level :=
  (List.range p.length).reverse.map fun n => { Level.of t (p.take n) with below := p.drop n }

end Levels
end JsonSchema.Ignore
