import JsonSchema.Extension
import JsonSchema.Path
import JsonSchema.Report.Style
/-!
# The command line

Arguments are options, which begin with a hyphen, and paths: the schema first, then what is to be
validated. After two hyphens alone everything is a path. Arguments are read from left to right; a
value given to an option by the next argument is looked at only when the option or path after it
begins, so a mistake further on may win.
-/

namespace JsonSchema

/-- What arguments ask for. -/
structure CommandLine where
  schema : Path
  paths : List Path
  config : Option Path
  extensions : Option String
  threads : Option Nat
  verbose : Nat
  quiet : Bool
  format : Option Report.Format
  includes : List String
  excludes : List String
  maxDepth : Option Nat
  followLinks : Bool
  failFast : Bool

namespace CommandLine

/-- Why arguments do not lead to a run. -/
inductive Stop where
  | help
  | version
  | missingArgument
  | unknownArgument
  /-- A value is empty, missing or none of those allowed. -/
  | invalidValue
  | notANumber
  /-- An option is given twice, or together with one that excludes it. -/
  | conflict
  /-- A value is given to an option that takes none. -/
  | unwantedValue
deriving DecidableEq

def Stop.message : Stop → String
  | help => "help is asked for"
  | version => "the version is asked for"
  | missingArgument => "a schema and a path are required"
  | unknownArgument => "unexpected argument"
  | invalidValue => "invalid value"
  | notANumber => "a value is not a number"
  | conflict => "arguments exclude each other"
  | unwantedValue => "unexpected value"

/-- What an argument can set. -/
inductive Key where
  | schema
  | paths
  | config
  | extensions
  | threads
  | verbose
  | quiet
  | format
  | includes
  | excludes
  | maxDepth
  | followLinks
  | failFast
  | help
  | version
deriving DecidableEq

namespace Key

/-- Whether the option comes with a value. -/
def takesValue : Key → Bool
  | config | extensions | threads | format | includes | excludes | maxDepth => true
  | _ => false

def ofLetter? : Char → Option Key
  | 'c' => some config
  | 'e' => some extensions
  | 't' => some threads
  | 'v' => some verbose
  | 'q' => some quiet
  | 'f' => some format
  | 'h' => some help
  | 'V' => some version
  | _ => none

def ofName? (name : String) : Option Key :=
  match name with
  | "config" => some config
  | "extensions" => some extensions
  | "threads" => some threads
  | "verbose" => some verbose
  | "quiet" => some quiet
  | "format" => some format
  | "include" => some includes
  | "exclude" => some excludes
  | "max-depth" => some maxDepth
  | "follow-symlinks" => some followLinks
  | "fail-fast" => some failFast
  | "help" => some help
  | "version" => some version
  | _ => none

end Key

/-! ### Settings given so far -/

structure Draft where
  schema : Option Path := none
  paths : List Path := []
  config : Option Path := none
  extensions : Option String := none
  threads : Option Nat := none
  /-- How often the option to say more is given, if it is. -/
  verbose : Option Nat := none
  quiet : Bool := false
  format : Option Report.Format := none
  includes : List String := []
  excludes : List String := []
  maxDepth : Option Nat := none
  followLinks : Bool := false
  failFast : Bool := false

/-- A path, which is not empty. -/
def pathOf (value : String) : Except Stop Path :=
  if value = "" then .error .invalidValue else .ok ⟨value⟩

/-- Numbers are below this bound. -/
def wordBound : Nat := Nat.pow 2 64

def numberOf (value : String) : Except Stop Nat :=
  match Text.bounded? wordBound value.toList with
  | some n => .ok n
  | none => .error .notANumber

def formatOf (value : String) : Except Stop Report.Format :=
  match Report.Format.ofName? value with
  | some f => .ok f
  | none => .error .invalidValue

/-- An option that may be given once. -/
def once (given : Bool) : Except Stop Unit := if given then .error .conflict else .ok ()

/-- The highest count of requests to say more. -/
def maxVerbose : Nat := 255

namespace Draft

/-- Sets an option that takes a value. -/
def setValue (d : Draft) (value : String) : Key → Except Stop Draft
  | .config => do once d.config.isSome; .ok { d with config := some (← pathOf value) }
  | .extensions => do once d.extensions.isSome; .ok { d with extensions := some value }
  | .threads => do once d.threads.isSome; .ok { d with threads := some (← numberOf value) }
  | .format => do once d.format.isSome; .ok { d with format := some (← formatOf value) }
  | .includes => .ok { d with includes := d.includes ++ [value] }
  | .excludes => .ok { d with excludes := d.excludes ++ [value] }
  | .maxDepth => do once d.maxDepth.isSome; .ok { d with maxDepth := some (← numberOf value) }
  | _ => .ok d

/-- Sets an option without value. -/
def setFlag (d : Draft) : Key → Except Stop Draft
  | .verbose => .ok { d with verbose := some (min maxVerbose (d.verbose.getD 0 + 1)) }
  | .quiet => do once d.quiet; .ok { d with quiet := true }
  | .followLinks => do once d.followLinks; .ok { d with followLinks := true }
  | .failFast => do once d.failFast; .ok { d with failFast := true }
  | .help => .error .help
  | .version => .error .version
  | _ => .ok d

/-- Sets what values were given for. -/
def set (d : Draft) (key : Key) (values : List String) : Except Stop Draft :=
  match key with
  | .schema => do
    match values with
    | [v] => .ok { d with schema := some (← pathOf v) }
    | _ => .error .invalidValue
  | .paths => do .ok { d with paths := d.paths ++ (← values.mapM pathOf) }
  | key =>
    match values with
    | [v] => d.setValue v key
    | _ => .error .invalidValue

/-- What the arguments ask for, once all are read. -/
def finish (d : Draft) : Except Stop CommandLine :=
  if d.quiet && d.verbose.isSome then .error .conflict
  else
    match d.schema, d.paths with
    | some schema, p :: ps =>
      .ok {
        schema, paths := p :: ps, config := d.config, extensions := d.extensions,
        threads := d.threads, verbose := d.verbose.getD 0, quiet := d.quiet, format := d.format,
        includes := d.includes, excludes := d.excludes, maxDepth := d.maxDepth,
        followLinks := d.followLinks, failFast := d.failFast }
    | _, _ => .error .missingArgument

end Draft

/-! ### Reading -/

/-- The state between two arguments: what is set, values that are not looked at yet with what they
are for, whether two hyphens were read, and whether the schema was. -/
structure State where
  draft : Draft
  pending : Option (Key × List String)
  pathsOnly : Bool
  schemaRead : Bool

namespace State

def start : State := ⟨{}, none, false, false⟩

/-- Looks at the values that wait. -/
def settle (s : State) : Except Stop State :=
  match s.pending with
  | none => .ok s
  | some (key, values) => do .ok { s with draft := ← s.draft.set key values, pending := none }

/-- An option with the value attached to it, or one whose value may follow. -/
def option (s : State) (key : Key) (attached : Option String) : Except Stop State := do
  let s ← s.settle
  match attached with
  | some v => .ok { s with draft := ← s.draft.setValue v key }
  | none => .ok { s with pending := some (key, []) }

/-- An option without value. -/
def flag (s : State) (key : Key) : Except Stop State := do
  let s ← s.settle
  .ok { s with draft := ← s.draft.setFlag key }

/-- An option by its name, with the value after an equals sign. -/
def long (s : State) (name : String) (attached : Option String) : Except Stop State :=
  match Key.ofName? name with
  | none => .error .unknownArgument
  | some key =>
    if key.takesValue then s.option key attached
    else if attached.isSome then .error .unwantedValue
    else s.flag key

/-- Options by their letters; all that follows one that takes a value is its value. -/
def letters (s : State) : List Char → Except Stop State
  | [] => .ok s
  | c :: r =>
    match Key.ofLetter? c with
    | none => .error .unknownArgument
    | some key =>
      if key.takesValue then
        match r with
        | [] => s.option key none
        | '=' :: v => s.option key (some (String.ofList v))
        | v => s.option key (some (String.ofList v))
      else do letters (← s.flag key) r

/-- A path. -/
def path (s : State) (text : String) : Except Stop State :=
  if !s.schemaRead then do
    .ok { ← s.settle with pending := some (.schema, [text]), schemaRead := true }
  else
    match s.pending with
    | some (.paths, vs) => .ok { s with pending := some (.paths, vs ++ [text]) }
    | _ => do .ok { ← s.settle with pending := some (.paths, [text]) }

/-- An argument that is no option: the value that the last option waits for, or a path. -/
def word (s : State) (text : String) : Except Stop State :=
  match s.pending with
  | some (key, []) => .ok { s with pending := some (key, [text]) }
  | _ => s.path text

def read (s : State) (arg : String) : Except Stop State :=
  if s.pathsOnly then s.path arg
  else
    match arg.toList with
    | ['-', '-'] => .ok { s with pathsOnly := true }
    | '-' :: '-' :: r =>
      let (name, value) := Text.splitFirst '=' r
      s.long (String.ofList name) (value.map String.ofList)
    | '-' :: c :: r => s.letters (c :: r)
    | _ => s.word arg

end State

/-- What the arguments ask for. -/
def parse (args : List String) : Except Stop CommandLine := do
  let s ← args.foldlM State.read .start
  (← s.settle).draft.finish

/-- The extensions that are given, if any are. -/
def extensionList (c : CommandLine) : Option (List String) := c.extensions.map Extension.split

def verbosity (c : CommandLine) : Report.Verbosity := .ofFlags c.quiet c.verbose

end CommandLine
end JsonSchema
