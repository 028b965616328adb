import JsonSchema.Pointer
/-!
# Errors of schema documents

Any of these refuses the whole document. Each carries the position of the sub-schema at fault.
-/

namespace JsonSchema

/-- Why a reference has no target. -/
inductive ReferenceFault where
  /-- The fragment is not a pointer. -/
  | malformed (fault : Pointer.Fault)
  /-- The references met on the way lead back to one that is still being followed. -/
  | circular
  /-- The reference leads to itself. -/
  | selfReference
  /-- The target lies among the members beside a reference. -/
  | additionalMembers
  /-- The target does not exist. -/
  | unresolvable (target : Pointer)
  /-- The token names no element of the array it is applied to. -/
  | badIndex (token : String) (target : Pointer)
  /-- The target lies below a value that has no parts, at `position`. -/
  | insideScalar (target position : Pointer)
  /-- A sub-schema stands at a position that the document does not have. -/
  | missing
deriving DecidableEq

def ReferenceFault.message : ReferenceFault → String
  | malformed fault => fault.message
  | circular => "circular reference chain"
  | selfReference => "invalid self reference"
  | additionalMembers => "referencing additional data members is invalid"
  | unresolvable target => s!"unresolvable reference '{target.display}'"
  | badIndex token target => s!"invalid array index '{token}' in '{target.display}'"
  | insideScalar target position =>
    s!"'{target.display}' steps into a scalar at '{position.display}'"
  | missing => "sub-schema position does not exist"

/-- Why the value of a keyword is refused. -/
inductive KeywordFault where
  /-- The value has none of these types. -/
  | notOfType (expected : List String)
  | negative
  | emptyArray
  | elementNotString
  | duplicateKey (key : String)
  | unknownType (name : String)
  | duplicateType (name : String)
  | notPositive
  /-- The keyword modifies another one, which is absent. -/
  | withoutBound (bound : String)
  /-- A dependency is neither a schema nor a list of names. -/
  | badDependency
deriving DecidableEq

def KeywordFault.message : KeywordFault → String
  | notOfType expected =>
    "must be of type " ++ " or ".intercalate (expected.map fun t => s!"'{t}'")
  | negative => "must be greater than or equal to zero"
  | emptyArray => "must have at least one element"
  | elementNotString => "must contain elements of type 'string'"
  | duplicateKey key => s!"contains duplicate key '{key}'"
  | unknownType name => s!"invalid primitive type '{name}'"
  | duplicateType name => s!"duplicate primitive type '{name}'"
  | notPositive => "must be strictly greater than zero"
  | withoutBound bound => s!"requires presence of \"{bound}\""
  | badDependency => "values must be of type 'object' or 'array'"

/-- Why a document is not a schema. -/
inductive SchemaError where
  /-- A schema that is not an object. -/
  | notAnObject (position : Pointer)
  | invalidKeyword (position : Pointer) (keyword : String) (fault : KeywordFault)
  /-- The text of a pattern is not a regular expression. -/
  | invalidPattern (position : Pointer) (keyword : String)
  | invalidReference (position : Pointer) (fault : ReferenceFault)
  /-- A schema that applies itself to the same value again and again. -/
  | notDescending (position : Pointer)
deriving DecidableEq

namespace SchemaError

def message : SchemaError → String
  | notAnObject p => s!"invalid JSON Schema at '{p.display}': a schema must be of type 'object'"
  | invalidKeyword p k fault =>
    s!"invalid JSON Schema at '{p.display}': \"{k}\" {fault.message}"
  | invalidPattern p k =>
    s!"invalid JSON Schema at '{p.display}': \"{k}\" must be a regular expression"
  | invalidReference p fault => s!"invalid JSON Reference at '{p.display}': {fault.message}"
  | notDescending p =>
    s!"invalid JSON Schema: sub-schema '{p.display}' applies itself to the same value " ++
      "without descending"

end SchemaError

/-- No schema was compiled for the position asked for. -/
structure LookupError where
  position : Pointer
deriving DecidableEq

def LookupError.message (e : LookupError) : String :=
  s!"invalid node position '{e.position.display}', no schema registered"

end JsonSchema
