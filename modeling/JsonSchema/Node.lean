import JsonSchema.Format
import JsonSchema.Pattern
import JsonSchema.Value
/-!
# Nodes

A `Node` is one sub-schema in checked form. It is parametrised by the way in which it refers to
other sub-schemas: by position when it is read from a document, by number inside a graph.
`Node.subschemas` lists what it refers to, `Node.inPlace` the part of those that apply to the very
same value.
-/

namespace JsonSchema

/-- The kinds of value that `type` tells apart. An integer is a number as well. -/
inductive Kind where
  | null
  | boolean
  | integer
  | number
  | string
  | array
  | object
deriving DecidableEq

namespace Kind

def all : List Kind := [null, boolean, integer, number, string, array, object]

def name : Kind → String
  | null => "null"
  | boolean => "boolean"
  | integer => "integer"
  | number => "number"
  | string => "string"
  | array => "array"
  | object => "object"

def ofName? (s : String) : Option Kind := all.find? fun k => k.name == s

end Kind

/-- The keyword `items`: one schema for every element, or one for each position. -/
inductive Items (ρ : Type) where
  | uniform (schema : ρ)
  | tuple (schemas : List ρ)

/-- The keywords `additionalItems` and `additionalProperties`, where they restrict anything. -/
inductive Additional (ρ : Type) where
  | forbidden
  | schema (schema : ρ)

/-- Keywords that combine schemas on the same value. -/
structure Composition (ρ : Type) where
  allOf : List ρ
  anyOf : List ρ
  oneOf : List ρ
  not : Option ρ

/-- Keywords about numbers. -/
structure NumberRules where
  multipleOf : Option Divisor
  maximum : Option Bound
  minimum : Option Bound

/-- Keywords about strings; a least length of zero is left out. -/
structure StringRules where
  maxLength : Option Nat
  minLength : Option Nat
  pattern : Option Pattern
  format : Option Format

/-- Keywords about arrays. -/
structure ArrayRules (ρ : Type) where
  items : Option (Items ρ)
  additional : Option (Additional ρ)
  maxItems : Option Nat
  minItems : Option Nat
  uniqueItems : Bool

/-- Keywords about objects; names are sorted. -/
structure ObjectRules (ρ : Type) where
  maxProperties : Option Nat
  minProperties : Option Nat
  required : List String
  properties : List (String × ρ)
  patterns : List (Pattern × ρ)
  additional : Option (Additional ρ)
  propertyDependencies : List (String × List String)
  schemaDependencies : List (String × ρ)

/-- One sub-schema. -/
structure Node (ρ : Type) where
  position : Pointer
  types : Option (List Kind)
  enumeration : Option (List Value)
  composition : Composition ρ
  number : NumberRules
  string : StringRules
  array : ArrayRules ρ
  object : ObjectRules ρ
  definitions : List ρ

variable {ρ σ : Type}

/-! ### What a node refers to -/

def Items.schemas : Items ρ → List ρ
  | uniform s => [s]
  | tuple ss => ss

def Additional.schemas : Additional ρ → List ρ
  | forbidden => []
  | schema s => [s]

def Composition.schemas (c : Composition ρ) : List ρ :=
  c.allOf ++ c.anyOf ++ c.oneOf ++ c.not.toList

def ArrayRules.schemas (a : ArrayRules ρ) : List ρ :=
  a.items.toList.flatMap Items.schemas ++ a.additional.toList.flatMap Additional.schemas

def ObjectRules.schemas (o : ObjectRules ρ) : List ρ :=
  o.properties.map (·.2) ++ o.patterns.map (·.2) ++
    o.additional.toList.flatMap Additional.schemas ++
    o.schemaDependencies.map (·.2)

namespace Node

/-- Everything that the node refers to, in the order in which it is discovered. -/
def subschemas (n : Node ρ) : List ρ :=
  n.composition.schemas ++ n.array.schemas ++ n.object.schemas ++ n.definitions

/-- What the node applies to the value that it is applied to itself. -/
def inPlace (n : Node ρ) : List ρ :=
  n.composition.schemas ++ n.object.schemaDependencies.map (·.2)

/-- Whether the names of an object have to be remembered. -/
def tracksKeys (n : Node ρ) : Bool :=
  !n.object.required.isEmpty || !n.object.propertyDependencies.isEmpty ||
    !n.object.schemaDependencies.isEmpty

end Node

/-! ### Other ways to refer -/

def Items.map (f : ρ → σ) : Items ρ → Items σ
  | uniform s => .uniform (f s)
  | tuple ss => .tuple (ss.map f)

def Additional.map (f : ρ → σ) : Additional ρ → Additional σ
  | forbidden => .forbidden
  | schema s => .schema (f s)

def Composition.map (f : ρ → σ) (c : Composition ρ) : Composition σ :=
  ⟨c.allOf.map f, c.anyOf.map f, c.oneOf.map f, c.not.map f⟩

def ArrayRules.map (f : ρ → σ) (a : ArrayRules ρ) : ArrayRules σ :=
  ⟨a.items.map (Items.map f), a.additional.map (Additional.map f), a.maxItems, a.minItems,
    a.uniqueItems⟩

def ObjectRules.map (f : ρ → σ) (o : ObjectRules ρ) : ObjectRules σ :=
  ⟨o.maxProperties, o.minProperties, o.required, o.properties.map fun (k, s) => (k, f s),
    o.patterns.map fun (p, s) => (p, f s), o.additional.map (Additional.map f),
    o.propertyDependencies, o.schemaDependencies.map fun (k, s) => (k, f s)⟩

/-- The node with each reference replaced. -/
def Node.map (f : ρ → σ) (n : Node ρ) : Node σ :=
  ⟨n.position, n.types, n.enumeration, n.composition.map f, n.number, n.string, n.array.map f,
    n.object.map f, n.definitions.map f⟩

/-! ### References replaced one after another -/

section

variable {m : Type → Type} [Monad m]

def Items.mapM (f : ρ → m σ) : Items ρ → m (Items σ)
  | uniform s => return .uniform (← f s)
  | tuple ss => return .tuple (← ss.mapM f)

def Additional.mapM (f : ρ → m σ) : Additional ρ → m (Additional σ)
  | forbidden => return .forbidden
  | schema s => return .schema (← f s)

def Composition.mapM (f : ρ → m σ) (c : Composition ρ) : m (Composition σ) :=
  return ⟨← c.allOf.mapM f, ← c.anyOf.mapM f, ← c.oneOf.mapM f, ← c.not.mapM f⟩

def ArrayRules.mapM (f : ρ → m σ) (a : ArrayRules ρ) : m (ArrayRules σ) :=
  return ⟨← a.items.mapM (Items.mapM f), ← a.additional.mapM (Additional.mapM f), a.maxItems,
    a.minItems, a.uniqueItems⟩

/-- A schema under some key, its reference replaced. -/
def mapSchemaM {κ : Type} (f : ρ → m σ) (e : κ × ρ) : m (κ × σ) := return (e.1, ← f e.2)

def ObjectRules.mapM (f : ρ → m σ) (o : ObjectRules ρ) : m (ObjectRules σ) :=
  return ⟨o.maxProperties, o.minProperties, o.required, ← o.properties.mapM (mapSchemaM f),
    ← o.patterns.mapM (mapSchemaM f), ← o.additional.mapM (Additional.mapM f),
    o.propertyDependencies, ← o.schemaDependencies.mapM (mapSchemaM f)⟩

/-- The node with each reference replaced, in the order in which they are discovered. -/
def Node.mapM (f : ρ → m σ) (n : Node ρ) : m (Node σ) :=
  return ⟨n.position, n.types, n.enumeration, ← n.composition.mapM f, n.number, n.string,
    ← n.array.mapM f, ← n.object.mapM f, ← n.definitions.mapM f⟩

end

/-- The schema without keywords, which every value satisfies. -/
def Node.unconstrained (p : Pointer) : Node ρ :=
  ⟨p, none, none, ⟨[], [], [], none⟩, ⟨none, none, none⟩, ⟨none, none, none, none⟩,
    ⟨none, none, none, none, false⟩, ⟨none, none, [], [], [], none, [], []⟩, []⟩

end JsonSchema
