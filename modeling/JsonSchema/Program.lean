import JsonSchema.Report
import JsonSchema.Runner
import JsonSchema.Settings.Load
/-!
# The program

What a call answers: the report on a run with status zero or one, or why there is none with status
two.
-/

namespace JsonSchema

/-- What a call writes, and the status it ends with. -/
structure Reply where
  status : UInt8
  output : String
  errors : String

namespace Program

def version : String := "validate-json 0.2.0\n"

def usage : String :=
  "Usage: validate-json [OPTIONS] <SCHEMA> <PATHS>...\n\n" ++
    "Options:\n" ++
    "  -c, --config <FILE>       Configuration file\n" ++
    "  -e, --extensions <LIST>   Extensions of the files to validate, with commas\n" ++
    "  -t, --threads <NUMBER>    How many files are validated at a time\n" ++
    "  -v, --verbose             Say more, or all if given twice\n" ++
    "  -q, --quiet               Report failures only\n" ++
    "  -f, --format <FORMAT>     human, json or summary\n" ++
    "      --include <PATTERN>   Validate only files that match a pattern\n" ++
    "      --exclude <PATTERN>   Leave out files that match a pattern\n" ++
    "      --max-depth <NUMBER>  How deep directories are searched\n" ++
    "      --follow-symlinks     Follow symbolic links\n" ++
    "      --fail-fast           Skip all files after the first failure\n" ++
    "  -h, --help                Print this text\n" ++
    "  -V, --version             Print the version\n"

/-- Every file is valid. -/
def statusValid : UInt8 := 0

/-- A file is invalid or cannot be read. -/
def statusInvalid : UInt8 := 1

/-- There was no run. -/
def statusUsage : UInt8 := 2

/-- The reply to arguments that ask for no run. -/
def stopped : CommandLine.Stop → Reply
  | .help => ⟨statusValid, usage, ""⟩
  | .version => ⟨statusValid, version, ""⟩
  | s => ⟨statusUsage, "", s!"error: {s.message}\n"⟩

/-- The reply when there is no run, from the messages down to the cause. -/
def failed (messages : List String) : Reply :=
  ⟨statusUsage, "", "Error: " ++ ": ".intercalate messages ++ "\n"⟩

/-- Why the arguments cannot be followed. -/
def refusal? (t : FileTree) (c : CommandLine) : Option String :=
  if !t.isFile c.schema then some s!"Schema file does not exist: {c.schema.text}"
  else
    match c.paths.find? (!t.exists? ·) with
    | some p => some s!"Path does not exist: {p.text}"
    | none =>
      if c.threads = some 0 then some "Number of threads must be greater than 0" else none

/-- The selection that settings describe. -/
def selection (s : Settings) : Except Failure Selection :=
  Selection.make s.files.extensions s.files.includePatterns s.files.excludePatterns s.files.maxDepth
    s.files.followLinks

/-- The reply with the results of a run at the time `now`. -/
def reported (s : Settings) (c : CommandLine) (now : String) (r : Results) : Reply :=
  ⟨if r.hasFailures then statusInvalid else statusValid,
    Report.render s.output.format s.verbosity now c.schema r, ""⟩

/-- Validates what a command line asks for under settings; `turns` are those that the workers take
before the rest of the files is done one by one. -/
def validate (t : FileTree) (c : CommandLine) (s : Settings) (now : String) (cores : Nat)
    (turns : List Turn := []) : Reply :=
  match selection s with
  | .error f => failed f.chain
  | .ok sel =>
    let runner := Runner.new (s.validation.threads.getD cores) s.validation.failFast
    match (runner.run t c.schema c.paths sel turns).result with
    | .error f => failed (s!"Failed to validate against {c.schema.text}" :: f.chain)
    | .ok r => reported s c now r

/-- The reply to a call with some arguments. -/
def call (t : FileTree) (env : Settings.Environment) (args : List String) (now : String)
    (cores : Nat) : Reply :=
  match CommandLine.parse args with
  | .error stop => stopped stop
  | .ok c =>
    match refusal? t c with
    | some reason => failed [reason]
    | none =>
      match Settings.forRun t env c with
      | .error f => failed ("Failed to load configuration" :: f.chain)
      | .ok s => validate t c s now cores

end Program
end JsonSchema
