import JsonSchema.FileTree
/-!
# Faults of settings
-/

namespace JsonSchema.Settings

/-- Why there are no settings for a run. -/
inductive Fault where
  | system (fault : SystemFault)
  /-- A file is not TOML, or its settings are not what they must be. -/
  | toml
  /-- A file is not JSON, or its settings are not what they must be. -/
  | json
  /-- The settings do not make sense. -/
  | unfit (reason : String)
  /-- An environment variable does not hold what it must. -/
  | environment (name value : String)
  /-- Files with this extension are not read. -/
  | unsupported (extension : String)

namespace Fault

def message : Fault → String
  | system fault => s!"IO error: {fault.message}"
  | toml => "TOML parsing error"
  | json => "JSON parsing error"
  | unfit reason => s!"Configuration validation error: {reason}"
  | environment name value => s!"Environment variable error: Invalid {name} value: {value}"
  | unsupported extension => s!"Unsupported configuration file format: {extension}"

/-- The messages from the fault down to what caused it. -/
def chain : Fault → List String
  | system fault => [(system fault).message, fault.message]
  | f => [f.message]

end Fault
end JsonSchema.Settings
