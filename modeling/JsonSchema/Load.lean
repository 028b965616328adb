import JsonSchema.Graph
import JsonSchema.Text.Document
/-!
# Schemas from text
-/

namespace JsonSchema

/-- Why a text yields no graph. -/
inductive LoadFault where
  /-- The text is not JSON. -/
  | notJson (text : Bytes) (fault : Text.Fault)
  | notSchema (error : SchemaError)

def LoadFault.message : LoadFault → String
  | notJson text fault => "not valid JSON: " ++ fault.message text .memory
  | notSchema error => error.message

/-- The graph of the schema that a text holds. -/
def Graph.load (text : Bytes) : Except LoadFault Graph :=
  match Text.document text with
  | .error f => .error (.notJson text f)
  | .ok document =>
    match Graph.build document with
    | .error e => .error (.notSchema e)
    | .ok g => .ok g

end JsonSchema
