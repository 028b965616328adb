import JsonSchema.FileTree
import JsonSchema.Load
/-!
# Failures

What can go wrong in a run, apart from files that do not conform.
-/

namespace JsonSchema

inductive Failure where
  | system (fault : SystemFault)
  /-- The schema at a path cannot be used. -/
  | schemaLoading (path : Path) (details : String)
  /-- A file is not JSON. -/
  | instanceParsing (file : Path) (details : String)
  | configuration (details : String)
  /-- A path leads to neither a file nor a directory. -/
  | traversal (path : Path) (reason : String)

namespace Failure

def message : Failure → String
  | system fault => s!"IO error: {fault.message}"
  | schemaLoading path details => s!"Schema loading failed: {path.text} - {details}"
  | instanceParsing file details => s!"Instance parsing error: {file.text} - {details}"
  | configuration details => s!"Configuration error: {details}"
  | traversal path reason => s!"File system traversal error: {path.text} - {reason}"

/-- The messages from the failure down to what caused it. -/
def chain : Failure → List String
  | system fault => [(system fault).message, fault.message]
  | f => [f.message]

end Failure

/-- Loads a schema from a text that is said to come from `source`. -/
def Graph.loadFrom (source : Path) (text : Bytes) : Except Failure Graph :=
  match Graph.load text with
  | .ok g => .ok g
  | .error f => .error (.schemaLoading source f.message)

end JsonSchema
