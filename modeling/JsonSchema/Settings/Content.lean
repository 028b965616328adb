import JsonSchema.Settings
/-!
# Contents of configuration files

What a configuration file says, before it is known which settings it means. `Settings.ofContent?`
finds the settings in it: what a file leaves out keeps its default, and what it says beyond the
settings is passed over.
-/

namespace JsonSchema.Settings

/-- The language of a configuration file. -/
inductive Language where
  | json
  | toml
deriving DecidableEq

inductive Content where
  | null
  | boolean (b : Bool)
  | integer (n : Int)
  | float
  | text (s : String)
  /-- A date, a time or both. -/
  | moment
  /-- A number or a text that is well formed but stands for no value. -/
  | unusable
  | list (items : List Content)
  /-- Names, none where the name itself is unusable, with what they stand for. -/
  | table (members : List (Option String × Content))

namespace Content

mutual

/-- Whether everything in it stands for a value. -/
def isUsable : Content → Bool
  | unusable => false
  | list items => allUsable items
  | table ms => membersUsable ms
  | _ => true

def allUsable : List Content → Bool
  | [] => true
  | t :: ts => t.isUsable && allUsable ts

def membersUsable : List (Option String × Content) → Bool
  | [] => true
  | (_, t) :: ms => t.isUsable && membersUsable ms

end

def boolean? : Content → Option Bool
  | boolean b => some b
  | _ => none

/-- A natural number below a bound. -/
def natural? (bound : Nat) : Content → Option Nat
  | integer n => if 0 ≤ n ∧ n < bound then some n.toNat else none
  | _ => none

/-- A natural number below a bound, or nothing. -/
def maybeNatural? (bound : Nat) : Content → Option (Option Nat)
  | null => some none
  | t => (t.natural? bound).map some

def text? : Content → Option String
  | text s => some s
  | _ => none

def texts? : Content → Option (List String)
  | list ts => ts.mapM text?
  | _ => none

/-- Whether nothing is said beyond a name. -/
def isEmptyIn (l : Language) : Content → Bool
  | null => l == .json
  | list ts => l == .toml && ts.isEmpty
  | table ms => l == .toml && ms.isEmpty
  | _ => false

/-- A name among several, alone or with nothing said about it. -/
def choice? (l : Language) : Content → Option String
  | text s => some s
  | table [(some s, t)] => if t.isEmptyIn l then some s else none
  | _ => none

/-- What a section says about each of its settings. A list gives them in order. Names that no
setting has are passed over; a setting that is given twice spoils the section. -/
def section? (l : Language) (names : List String) : Content → Option (List (Option Content))
  | table ms =>
    let known := ms.filter fun m => m.1.any names.contains
    let others := ms.filter fun m => !m.1.any names.contains
    let once := names.all fun n => (known.filter fun m => m.1 == some n).length ≤ 1
    if once && ms.all (·.1.isSome) && (l == .json || membersUsable others) then
      some (names.map fun n => known.lookup (some n))
    else none
  | list ts =>
    if l == .json && names.length < ts.length then none
    else some ((List.range names.length).map fun i => ts[i]?)
  | moment => some (names.map fun _ => none)
  | _ => none

/-- A setting that is read if it is there. -/
def setting (read : Content → Option α) (default : α) : Option Content → Option α
  | none => some default
  | some t => read t

end Content

/-- Counts are below this bound. -/
def countBound : Nat := Nat.pow 2 64

/-- Levels of verbosity are below this bound. -/
def levelBound : Nat := Nat.pow 2 8

open Content in
def Validation.ofContent? (l : Language) (t : Content) : Option Validation := do
  let base : Validation := {}
  match ← t.section? l ["threads", "fail_fast"] with
  | [threads, failFast] =>
    some {
      threads := ← setting (maybeNatural? countBound) base.threads threads
      failFast := ← setting boolean? base.failFast failFast }
  | _ => none

open Content in
def Output.ofContent? (l : Language) (t : Content) : Option Output := do
  let base : Output := {}
  match ← t.section? l ["format", "verbose", "quiet"] with
  | [format, verbose, quiet] =>
    some {
      format := ← setting (fun t => (choice? l t).bind Report.Format.ofName?) base.format format
      verbose := ← setting (natural? levelBound) base.verbose verbose
      quiet := ← setting boolean? base.quiet quiet }
  | _ => none

open Content in
def Files.ofContent? (l : Language) (t : Content) : Option Files := do
  let base : Files := {}
  match ← t.section? l
      ["extensions", "include_patterns", "exclude_patterns", "max_depth", "follow_symlinks"] with
  | [extensions, includes, excludes, maxDepth, followLinks] =>
    some {
      extensions := ← setting texts? base.extensions extensions
      includePatterns := ← setting texts? base.includePatterns includes
      excludePatterns := ← setting texts? base.excludePatterns excludes
      maxDepth := ← setting (maybeNatural? countBound) base.maxDepth maxDepth
      followLinks := ← setting boolean? base.followLinks followLinks }
  | _ => none

open Content in
/-- The settings that a content gives, none if one of them is not what it must be. -/
def ofContent? (l : Language) (t : Content) : Option Settings := do
  let base : Settings := {}
  match ← t.section? l ["validation", "output", "files"] with
  | [validation, output, files] =>
    some {
      validation := ← setting (Validation.ofContent? l) base.validation validation
      output := ← setting (Output.ofContent? l) base.output output
      files := ← setting (Files.ofContent? l) base.files files }
  | _ => none

end JsonSchema.Settings
