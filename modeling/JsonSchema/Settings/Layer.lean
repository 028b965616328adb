import JsonSchema.CommandLine
import JsonSchema.Settings.Fault
import JsonSchema.Settings.Content
/-!
# Layers of settings

Settings come from a configuration file, over them from the environment, and over those from the
command line. Each layer replaces what it gives and leaves the rest; what results must make sense.
-/

namespace JsonSchema.Settings

/-- The second list, unless it is empty. -/
def preferList (base layer : List α) : List α := if layer.isEmpty then base else layer

/-! ### Files -/

/-- The settings of a file over others. Switches and all about the output come from the file, as it
gives them or by default. -/
def merge (base layer : Settings) : Settings where
  validation := {
    threads := layer.validation.threads.or base.validation.threads
    failFast := layer.validation.failFast }
  output := layer.output
  files := {
    extensions := preferList base.files.extensions layer.files.extensions
    includePatterns := preferList base.files.includePatterns layer.files.includePatterns
    excludePatterns := preferList base.files.excludePatterns layer.files.excludePatterns
    maxDepth := layer.files.maxDepth.or base.files.maxDepth
    followLinks := layer.files.followLinks }

/-! ### The environment -/

/-- Variables with their values. -/
abbrev Environment := List (String × String)

/-- The value of a variable without white space around it. -/
def natural? (bound : Nat) (value : String) : Option Nat :=
  Text.bounded? bound (Unicode.trim value.toList)

def boolean? (value : String) : Option Bool :=
  let cs := Unicode.trim value.toList
  if cs = ['t', 'r', 'u', 'e'] then some true
  else if cs = ['f', 'a', 'l', 's', 'e'] then some false
  else none

/-- A form of reports, in capital or small letters. -/
def format? (value : String) : Option Report.Format :=
  Report.Format.ofName? (Unicode.lowercase value)

/-- Changes settings by a variable, if it is set. -/
def override (env : Environment) (name : String) (read : String → Option α)
    (change : Settings → α → Settings) (s : Settings) : Except Fault Settings :=
  match env.lookup name with
  | none => .ok s
  | some value =>
    match read value with
    | some x => .ok (change s x)
    | none => .error (.environment name value)

/-- The settings of the environment over others. -/
def withEnvironment (env : Environment) (s : Settings) : Except Fault Settings := do
  let s ← s.override env "VALIDATE_JSON_THREADS" (natural? countBound) fun s n =>
    { s with validation.threads := some n }
  let s ← s.override env "VALIDATE_JSON_FAIL_FAST" boolean? fun s b =>
    { s with validation.failFast := b }
  let s ← s.override env "VALIDATE_JSON_VERBOSE" (natural? levelBound) fun s n =>
    { s with output.verbose := n }
  let s ← s.override env "VALIDATE_JSON_QUIET" boolean? fun s b => { s with output.quiet := b }
  let s ← s.override env "VALIDATE_JSON_FORMAT" format? fun s f => { s with output.format := f }
  let s ← s.override env "VALIDATE_JSON_EXTENSIONS" (some ∘ Extension.split) fun s es =>
    { s with files.extensions := es }
  s.override env "VALIDATE_JSON_MAX_DEPTH" (natural? countBound) fun s n =>
    { s with files.maxDepth := some n }

/-! ### The command line -/

/-- What a command line says about the output. To be quiet and to say more exclude each other: what
is asked for cancels the other. -/
def Output.withCommandLine (o : Output) (c : CommandLine) : Output :=
  let o := { o with format := c.format.getD o.format }
  let o := if 0 < c.verbose then { o with verbose := c.verbose, quiet := false } else o
  if c.quiet then { o with quiet := true, verbose := 0 } else o

/-- The settings of a command line over others. -/
def withCommandLine (s : Settings) (c : CommandLine) : Settings where
  validation := {
    threads := c.threads.or s.validation.threads
    failFast := c.failFast || s.validation.failFast }
  output := s.output.withCommandLine c
  files := {
    extensions := c.extensionList.getD s.files.extensions
    includePatterns := preferList s.files.includePatterns c.includes
    excludePatterns := preferList s.files.excludePatterns c.excludes
    maxDepth := c.maxDepth.or s.files.maxDepth
    followLinks := c.followLinks || s.files.followLinks }

/-! ### Sense -/

/-- At most this many files are validated at a time. -/
def maxThreads : Nat := 1000

/-- Whether an extension could be that of a file. -/
def isExtension (e : String) : Bool := e.toList.all fun c => c != '/' && c != '\\' && c != '.'

/-- Why a number of threads does not make sense. -/
def threadsFault? (threads : Option Nat) : Option String :=
  match threads with
  | none => none
  | some n =>
    if n = 0 then some "Number of threads must be greater than 0"
    else if maxThreads < n then some "Number of threads cannot exceed 1000"
    else none

/-- Why the level of output does not make sense. -/
def outputFault? (o : Output) : Option String :=
  if 0 < o.verbose && o.quiet then some "Cannot enable both verbose and quiet modes" else none

/-- Why a list of extensions does not make sense. -/
def extensionsFault? (es : List String) : Option String :=
  if es.isEmpty then some "At least one file extension must be specified"
  else (es.find? (!isExtension ·)).map fun e => s!"Invalid file extension: {e}"

/-- The first reason for which settings do not make sense. -/
def unfit? (s : Settings) : Option String :=
  (threadsFault? s.validation.threads).or
    ((outputFault? s.output).or (extensionsFault? s.files.extensions))

/-- Refuses settings that do not make sense. -/
def check (s : Settings) : Except Fault Unit :=
  match s.unfit? with
  | none => .ok ()
  | some reason => .error (.unfit reason)

/-! ### All layers -/

/-- The settings of a file, if there is one, of the environment and of the command line, each over
those before and the first over the default. -/
def layered (file : Option Settings) (env : Environment) (c : CommandLine) :
    Except Fault Settings := do
  let base : Settings := {}
  let s ← (file.elim base base.merge).withEnvironment env
  let s := s.withCommandLine c
  s.check
  .ok s

end JsonSchema.Settings
