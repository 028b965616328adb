import JsonSchema.Node.Compile
/-!
# The language of schemas

`Value.IsSchema` is the grammar of one schema object: an object in which each keyword of `grammar` has
a value of its form, and a limit may be excluded only where there is one. `Value.Subschema` says
where such an object has other schemas, by the tokens that lead to them: those of `Value.InPlace`
apply to the same value, the others of `Value.Applied` to parts of it.
-/

namespace JsonSchema

/-- A positive number; an integer is one in its own representation. -/
def Number.IsPositive : Number → Prop
  | .float x => 0 < x.units
  | n => ∃ i, 0 < i ∧ ofInt? i = some n

namespace Value

/-! ### Forms of values -/

def IsObject (v : Value) : Prop := ∃ ms, v = .object ms

def IsArray (v : Value) : Prop := ∃ vs, v = .array vs

def IsNonempty (v : Value) : Prop := ∃ w ws, v = .array (w :: ws)

def IsText (v : Value) : Prop := ∃ s, v = .string s

def IsFlag (v : Value) : Prop := ∃ b, v = .boolean b

def IsNumber (v : Value) : Prop := ∃ n, v = .number n

def IsPositive (v : Value) : Prop := ∃ n, v = .number n ∧ n.IsPositive

/-- An integer that is not negative, in its representation. -/
def IsCount (v : Value) : Prop := ∃ i n, 0 ≤ i ∧ Number.ofInt? i = some n ∧ v = .number n

/-- One kind, or a list of distinct ones. -/
def IsTypes (v : Value) : Prop :=
  (∃ k : Kind, v = .string k.name) ∨
    ∃ ks : List Kind, v = .array (ks.map fun k => .string k.name) ∧ ks.Nodup

/-- A list of distinct names, at least one. -/
def IsKeySet (v : Value) : Prop :=
  ∃ names : List String, v = .array (names.map .string) ∧ names ≠ [] ∧ names.Nodup

def IsPattern (v : Value) : Prop := ∃ s, v = .string s ∧ (Pattern.compile? s).isSome

/-- Named schemas of which each name is a pattern. -/
def IsPatternMap (v : Value) : Prop :=
  ∃ ms, v = .object ms ∧ ∀ m ∈ ms, (Pattern.compile? m.1).isSome

def IsItems (v : Value) : Prop := v.IsObject ∨ v.IsArray

def IsAdditional (v : Value) : Prop := v.IsFlag ∨ v.IsObject

/-- For each name a schema or the names that it requires. -/
def IsDependencies (v : Value) : Prop :=
  ∃ ms, v = .object ms ∧ ∀ m ∈ ms, m.2.IsObject ∨ m.2.IsKeySet

/-! ### Schemas -/

/-- The keywords with the forms of their values. The value of `not` is a schema itself. -/
def grammar : List (String × (Value → Prop)) :=
  [("title", IsText), ("description", IsText), ("type", IsTypes), ("enum", IsNonempty),
    ("allOf", IsNonempty), ("anyOf", IsNonempty), ("oneOf", IsNonempty),
    ("multipleOf", IsPositive), ("maximum", IsNumber), ("exclusiveMaximum", IsFlag),
    ("minimum", IsNumber), ("exclusiveMinimum", IsFlag),
    ("maxLength", IsCount), ("minLength", IsCount), ("pattern", IsPattern), ("format", IsText),
    ("items", IsItems), ("additionalItems", IsAdditional), ("maxItems", IsCount),
    ("minItems", IsCount), ("uniqueItems", IsFlag),
    ("maxProperties", IsCount), ("minProperties", IsCount), ("required", IsKeySet),
    ("properties", IsObject), ("patternProperties", IsPatternMap),
    ("additionalProperties", IsAdditional), ("dependencies", IsDependencies),
    ("definitions", IsObject)]

/-- The keywords that say whether a limit is excluded, with those of the limits. -/
def limits : List (String × String) :=
  [("exclusiveMaximum", "maximum"), ("exclusiveMinimum", "minimum")]

/-- A schema object, except that the schemas in it may be anything. -/
structure IsSchema (v : Value) : Prop where
  object : v.IsObject
  keywords : ∀ e ∈ grammar, ∀ w, v.member? e.1 = some w → e.2 w
  paired : ∀ e ∈ limits, (v.member? e.1).isSome → (v.member? e.2).isSome

/-! ### The schemas in a schema -/

/-- The tokens that lead to a schema for the same value. -/
inductive InPlace (v : Value) : List String → Prop where
  | branch {kw : String} {vs : List Value} {i : Nat} (hk : kw ∈ ["allOf", "anyOf", "oneOf"])
      (h : v.member? kw = some (.array vs)) (hi : i < vs.length) : InPlace v [kw, toString i]
  | not {w : Value} (h : v.member? "not" = some w) : InPlace v ["not"]
  | dependency {ms ms' : Members} {name : String} (h : v.member? "dependencies" = some (.object ms))
      (hm : (name, .object ms') ∈ ms) : InPlace v ["dependencies", name]

/-- The tokens that lead to a schema that is applied to the value or to a part of it. -/
inductive Applied (v : Value) : List String → Prop where
  | inPlace {ts : List String} (h : v.InPlace ts) : Applied v ts
  | items {ms : Members} (h : v.member? "items" = some (.object ms)) : Applied v ["items"]
  | element {vs : List Value} {i : Nat} (h : v.member? "items" = some (.array vs))
      (hi : i < vs.length) : Applied v ["items", toString i]
  | additional {kw : String} {ms : Members} (hk : kw ∈ ["additionalItems", "additionalProperties"])
      (h : v.member? kw = some (.object ms)) : Applied v [kw]
  | named {kw name : String} {ms : Members} {w : Value}
      (hk : kw ∈ ["properties", "patternProperties"]) (h : v.member? kw = some (.object ms))
      (hm : (name, w) ∈ ms) : Applied v [kw, name]

/-- The tokens that lead to a schema, which a definition is as well. -/
inductive Subschema (v : Value) : List String → Prop where
  | applied {ts : List String} (h : v.Applied ts) : Subschema v ts
  | definition {name : String} {ms : Members} {w : Value}
      (h : v.member? "definitions" = some (.object ms)) (hm : (name, w) ∈ ms) :
      Subschema v ["definitions", name]

end Value
end JsonSchema
