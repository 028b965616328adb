import JsonSchema.Node
import JsonSchema.SchemaError
/-!
# Reading nodes from a document

`Node.compile` checks the keywords of one schema object, in a fixed order in which the first fault
wins, and refers to its sub-schemas by the positions at which they are written. Keywords it does not
know are ignored.
-/

namespace JsonSchema

/-- The members of a schema object at a position. -/
structure Keywords where
  position : Pointer
  members : Members

namespace Keywords

variable {α : Type}

def get? (ks : Keywords) (keyword : String) : Option Value := Members.get? ks.members keyword

def fail (ks : Keywords) (keyword : String) (fault : KeywordFault) : Except SchemaError α :=
  .error (.invalidKeyword ks.position keyword fault)

/-- The position of what a keyword holds. -/
def child (ks : Keywords) (keyword : String) : Pointer := ks.position.child keyword

/-! ### Values of a required type -/

def string? (ks : Keywords) (keyword : String) : Except SchemaError (Option String) :=
  match ks.get? keyword with
  | none => .ok none
  | some (.string s) => .ok (some s)
  | some _ => ks.fail keyword (.notOfType ["string"])

def boolean? (ks : Keywords) (keyword : String) : Except SchemaError (Option Bool) :=
  match ks.get? keyword with
  | none => .ok none
  | some (.boolean b) => .ok (some b)
  | some _ => ks.fail keyword (.notOfType ["boolean"])

def object? (ks : Keywords) (keyword : String) : Except SchemaError (Option Members) :=
  match ks.get? keyword with
  | none => .ok none
  | some (.object ms) => .ok (some ms)
  | some _ => ks.fail keyword (.notOfType ["object"])

def number? (ks : Keywords) (keyword : String) : Except SchemaError (Option Number) :=
  match ks.get? keyword with
  | none => .ok none
  | some (.number n) => .ok (some n)
  | some _ => ks.fail keyword (.notOfType ["number"])

/-- A number of things. -/
def count? (ks : Keywords) (keyword : String) : Except SchemaError (Option Nat) :=
  match ks.get? keyword with
  | none => .ok none
  | some (.number (.unsigned u)) => .ok (some u.toNat)
  | some (.number (.signed _)) => ks.fail keyword .negative
  | some _ => ks.fail keyword (.notOfType ["integer"])

/-- The distinct names in a list of values, `met` those before. -/
def names (ks : Keywords) (keyword : String) (met : List String) :
    List Value → Except SchemaError (List String)
  | [] => .ok met.reverse
  | .string s :: vs =>
    if s ∈ met then ks.fail keyword (.duplicateKey s) else names ks keyword (s :: met) vs
  | _ :: _ => ks.fail keyword .elementNotString

/-- A list of at least one name, all distinct, in sorted order. -/
def keySet (ks : Keywords) (keyword : String) : Value → Except SchemaError (List String)
  | .array [] => ks.fail keyword .emptyArray
  | .array vs => do return (← ks.names keyword [] vs).mergeSort fun a b => decide (a ≤ b)
  | _ => ks.fail keyword (.notOfType ["array"])

/-! ### Types and enumerations -/

/-- The distinct kinds in a list of names, `met` those before. -/
def kinds (ks : Keywords) (met : List Kind) : List Value → Except SchemaError (List Kind)
  | [] => .ok met.reverse
  | .string name :: vs =>
    match Kind.ofName? name with
    | none => ks.fail "type" (.unknownType name)
    | some k => if k ∈ met then ks.fail "type" (.duplicateType name) else kinds ks (k :: met) vs
  | _ :: _ => ks.fail "type" .elementNotString

def types (ks : Keywords) : Except SchemaError (Option (List Kind)) :=
  match ks.get? "type" with
  | none => .ok none
  | some (.string s) => do return some (← ks.kinds [] [.string s])
  | some (.array vs) => do return some (← ks.kinds [] vs)
  | some _ => ks.fail "type" (.notOfType ["string", "array"])

def enumeration (ks : Keywords) : Except SchemaError (Option (List Value)) :=
  match ks.get? "enum" with
  | none => .ok none
  | some (.array []) => ks.fail "enum" .emptyArray
  | some (.array vs) => .ok (some vs)
  | some _ => ks.fail "enum" (.notOfType ["array"])

/-! ### Composition -/

/-- The positions of the elements of an array at `p`. -/
def elements (p : Pointer) (vs : List Value) : List Pointer := (List.range vs.length).map p.index

/-- The branches of a keyword that holds a list of schemas. -/
def branches (ks : Keywords) (keyword : String) : Except SchemaError (List Pointer) :=
  match ks.get? keyword with
  | none => .ok []
  | some (.array []) => ks.fail keyword .emptyArray
  | some (.array vs) => .ok (elements (ks.child keyword) vs)
  | some _ => ks.fail keyword (.notOfType ["array"])

def composition (ks : Keywords) : Except SchemaError (Composition Pointer) := do
  return ⟨← ks.branches "allOf", ← ks.branches "anyOf", ← ks.branches "oneOf",
    (ks.get? "not").map fun _ => ks.child "not"⟩

/-! ### Numbers and strings -/

def multipleOf (ks : Keywords) : Except SchemaError (Option Divisor) := do
  match ← ks.number? "multipleOf" with
  | none => return none
  | some (.unsigned u) =>
    if u = 0 then ks.fail "multipleOf" .notPositive else return some (.unsigned u)
  | some (.float x) =>
    if 0 < x.units then return some (.float x) else ks.fail "multipleOf" .notPositive
  | some (.signed _) => ks.fail "multipleOf" .notPositive

/-- A limit with the keyword that may exclude the limit itself. -/
def bound (ks : Keywords) (keyword exclusive : String) : Except SchemaError (Option Bound) := do
  let limit ← ks.number? keyword
  match ← ks.boolean? exclusive, limit with
  | none, _ => return limit.map fun n => ⟨n, false⟩
  | some b, some n => return some ⟨n, b⟩
  | some _, none => ks.fail exclusive (.withoutBound keyword)

def numberRules (ks : Keywords) : Except SchemaError NumberRules := do
  return ⟨← ks.multipleOf, ← ks.bound "maximum" "exclusiveMaximum",
    ← ks.bound "minimum" "exclusiveMinimum"⟩

/-- The pattern that a text under this keyword denotes. -/
def pattern (ks : Keywords) (keyword text : String) : Except SchemaError Pattern :=
  match Pattern.compile? text with
  | some p => .ok p
  | none => .error (.invalidPattern ks.position keyword)

def stringRules (ks : Keywords) : Except SchemaError StringRules := do
  let maxLength ← ks.count? "maxLength"
  let minLength ← ks.count? "minLength"
  let pattern ← (← ks.string? "pattern").mapM (ks.pattern "pattern")
  let format ← ks.string? "format"
  return ⟨maxLength, minLength.filter (0 < ·), pattern, format.bind Format.ofName?⟩

/-! ### Arrays and objects -/

def items (ks : Keywords) : Except SchemaError (Option (Items Pointer)) :=
  match ks.get? "items" with
  | none => .ok none
  | some (.object _) => .ok (some (.uniform (ks.child "items")))
  | some (.array vs) => .ok (some (.tuple (elements (ks.child "items") vs)))
  | some _ => ks.fail "items" (.notOfType ["object", "array"])

def additional (ks : Keywords) (keyword : String) :
    Except SchemaError (Option (Additional Pointer)) :=
  match ks.get? keyword with
  | none => .ok none
  | some (.boolean true) => .ok none
  | some (.boolean false) => .ok (some .forbidden)
  | some (.object _) => .ok (some (.schema (ks.child keyword)))
  | some _ => ks.fail keyword (.notOfType ["boolean", "object"])

def arrayRules (ks : Keywords) : Except SchemaError (ArrayRules Pointer) := do
  return ⟨← ks.items, ← ks.additional "additionalItems", ← ks.count? "maxItems",
    ← ks.count? "minItems", (← ks.boolean? "uniqueItems").getD false⟩

/-- The members of a keyword that holds named schemas, with their positions. -/
def schemas (ks : Keywords) (keyword : String) : Except SchemaError (List (String × Pointer)) := do
  let ms := (← ks.object? keyword).getD []
  return ms.map fun (k, _) => (k, (ks.child keyword).child k)

def patternProperties (ks : Keywords) : Except SchemaError (List (Pattern × Pointer)) := do
  (← ks.schemas "patternProperties").mapM fun (k, p) =>
    return (← ks.pattern "patternProperties" k, p)

/-- What is required when a member is present: other members, or that a schema holds. -/
inductive Dependency where
  | keys (names : List String)
  | schema (position : Pointer)

def Dependency.names? : Dependency → Option (List String)
  | keys names => some names
  | schema _ => none

def Dependency.schema? : Dependency → Option Pointer
  | keys _ => none
  | schema p => some p

def dependency (ks : Keywords) (name : String) : Value → Except SchemaError Dependency
  | .object _ => .ok (.schema ((ks.child "dependencies").child name))
  | .array vs => do return .keys (← ks.keySet "dependencies" (.array vs))
  | _ => ks.fail "dependencies" .badDependency

def dependencies (ks : Keywords) : Except SchemaError (List (String × Dependency)) := do
  ((← ks.object? "dependencies").getD []).mapM fun (k, v) => return (k, ← ks.dependency k v)

/-- The names that have to be there. -/
def required (ks : Keywords) : Except SchemaError (List String) :=
  match ks.get? "required" with
  | none => .ok []
  | some v => ks.keySet "required" v

def objectRules (ks : Keywords) : Except SchemaError (ObjectRules Pointer) := do
  let maxProperties ← ks.count? "maxProperties"
  let minProperties ← ks.count? "minProperties"
  let required ← ks.required
  let properties ← ks.schemas "properties"
  let patterns ← ks.patternProperties
  let additional ← ks.additional "additionalProperties"
  let dependencies ← ks.dependencies
  return ⟨maxProperties, minProperties, required, properties, patterns, additional,
    dependencies.filterMap fun d => d.2.names?.map (d.1, ·),
    dependencies.filterMap fun d => d.2.schema?.map (d.1, ·)⟩

end Keywords

/-- The node of the schema `v` at position `p`. -/
def Node.compile (p : Pointer) (v : Value) : Except SchemaError (Node Pointer) :=
  match v with
  | .object ms => do
    let ks : Keywords := ⟨p, ms⟩
    let _ ← ks.string? "title"
    let _ ← ks.string? "description"
    let types ← ks.types
    let enumeration ← ks.enumeration
    let composition ← ks.composition
    let number ← ks.numberRules
    let string ← ks.stringRules
    let array ← ks.arrayRules
    let object ← ks.objectRules
    let definitions ← ks.schemas "definitions"
    return ⟨p, types, enumeration, composition, number, string, array, object,
      definitions.map (·.2)⟩
  | _ => .error (.notAnObject p)

end JsonSchema
