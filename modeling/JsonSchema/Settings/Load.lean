import JsonSchema.Settings.Json
import JsonSchema.Settings.Layer
import JsonSchema.Settings.Toml.Reader
/-!
# Loading settings

Configuration files are found by their names and read by their extensions.
-/

namespace JsonSchema.Settings

/-- The settings that a text gives in some language. -/
def ofText? (l : Language) (text : String) : Option Settings :=
  match l with
  | .json => (Json.content? text).bind (ofContent? l)
  | .toml => (Toml.content? text).bind (ofContent? l)

/-- The settings that a TOML text gives. -/
def ofToml (text : String) : Except Fault Settings :=
  match ofText? .toml text with
  | some s => .ok s
  | none => .error .toml

/-- The settings that a JSON text gives. -/
def ofJson (text : String) : Except Fault Settings :=
  match ofText? .json text with
  | some s => .ok s
  | none => .error .json

/-- The settings that a text gives under an extension. Without one, what is not TOML is taken for
JSON. -/
def ofFile (extension : Option String) (text : String) : Except Fault Settings :=
  match extension with
  | some "toml" => ofToml text
  | some "json" => ofJson text
  | some e => .error (.unsupported e)
  | none =>
    match ofText? .toml text with
    | some s => .ok s
    | none => ofJson text

/-- Loads the settings of the file at a path. -/
def load (t : FileTree) (path : Path) : Except Fault Settings :=
  match t.readText path with
  | .error f => .error (.system f)
  | .ok text => ofFile path.extension? text

/-- The environment variables that bear on settings. -/
def variableNames : List String :=
  ["VALIDATE_JSON_THREADS", "VALIDATE_JSON_FAIL_FAST", "VALIDATE_JSON_VERBOSE",
    "VALIDATE_JSON_QUIET", "VALIDATE_JSON_FORMAT", "VALIDATE_JSON_EXTENSIONS",
    "VALIDATE_JSON_MAX_DEPTH", "XDG_CONFIG_HOME", "HOME"]

/-- The names of configuration files, those looked for first at the front. -/
def fileNames : List String :=
  ["validate-json.toml", "validate-json.json", ".validate-json.toml", ".validate-json.json"]

/-- The name of the directory for configuration files among those of the user. -/
def directoryName : String := "validate-json"

/-- Where a user keeps configuration files: in a directory that is named by an absolute path, or
else in one at home. -/
def userDirectory? (env : Environment) : Option Path :=
  let named := ((env.lookup "XDG_CONFIG_HOME").map Path.mk).filter Path.isAbsolute
  let atHome := ((env.lookup "HOME").filter (· != "")).map fun h => Path.join ⟨h⟩ ".config"
  named.or atHome

/-- Where configuration files may lie: in the working directory, or in that of the user if there is
one. -/
def places (env : Environment) : List Path :=
  fileNames.map Path.mk ++
    match userDirectory? env with
    | none => []
    | some d => fileNames.map ((d.join directoryName).join ·)

/-- Loads the first configuration file that exists. -/
def find (t : FileTree) (env : Environment) : Except Fault (Option Settings) :=
  match (places env).find? t.isFile with
  | none => .ok none
  | some path => do .ok (some (← load t path))

/-- The settings for a run with a command line. A file that it names is used, or else one that is
found. -/
def forRun (t : FileTree) (env : Environment) (c : CommandLine) : Except Fault Settings := do
  let file ←
    match c.config with
    | some path => do pure (some (← load t path))
    | none => find t env
  layered file env c

end JsonSchema.Settings
