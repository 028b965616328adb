import JsonSchema.Extension
import JsonSchema.Failure
import JsonSchema.Glob
/-!
# Selecting files

A selection says which files are validated: those with one of the extensions that no exclude pattern
matches and, if there are include patterns, one of them does. It also says how far directories are
searched.
-/

namespace JsonSchema

structure Selection where
  extensions : List String
  /-- The include patterns, if any are given. -/
  includes : Option (List Glob)
  /-- The exclude patterns, if any are given. -/
  excludes : Option (List Glob)
  /-- How deep files may lie below the directory that is searched; those in it are at depth 0. -/
  maxDepth : Option Nat
  followLinks : Bool

namespace Selection

/-- The globs that patterns write, if there are any patterns. -/
def globs (patterns : List String) : Except Failure (Option (List Glob)) := do
  let gs ← patterns.mapM fun p =>
    match Glob.read? p with
    | .ok g => .ok g
    | .error f => .error (Failure.configuration
        s!"Invalid glob pattern '{p}': error parsing glob '{p}': {f.message}")
  if gs.isEmpty then .ok none else .ok (some gs)

/-- The selection with these extensions and patterns. -/
def make (extensions includePatterns excludePatterns : List String) (maxDepth : Option Nat)
    (followLinks : Bool) : Except Failure Selection := do
  let includes ← globs includePatterns
  let excludes ← globs excludePatterns
  .ok ⟨extensions.map Unicode.lowercase, includes, excludes, maxDepth, followLinks⟩

/-- Whether the selection takes the file at a path. -/
def takes (s : Selection) (path : Path) : Bool :=
  let matched := fun gs : List Glob => gs.any (·.isMatch path.text)
  match path.extension? with
  | none => false
  | some e =>
    s.extensions.contains (Unicode.lowercase e) &&
      !s.excludes.any matched && s.includes.all matched

end Selection
end JsonSchema
