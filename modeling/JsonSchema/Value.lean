import JsonSchema.Number
import JsonSchema.Pointer
/-!
# JSON values

A `Value` keeps the members of an object as a list in the order in which they came. A *document* is
a value whose members are sorted by name without repetition, which is what `Value.insert` keeps and
what reading a text produces.
-/

namespace JsonSchema

/-- A JSON value. -/
inductive Value where
  | null
  | boolean (b : Bool)
  | number (n : Number)
  | string (s : String)
  | array (items : List Value)
  | object (members : List (String × Value))
deriving Inhabited

/-- The members of an object. -/
abbrev Members := List (String × Value)

namespace Members

/-- The first member of this name. -/
def get? (ms : Members) (name : String) : Option Value := ms.lookup name

/-- Puts a member in its place among sorted ones; it takes the place of one of the same name. -/
def insert (name : String) (v : Value) : Members → Members
  | [] => [(name, v)]
  | (k, w) :: ms =>
    if name < k then (name, v) :: (k, w) :: ms
    else if name = k then (name, v) :: ms
    else (k, w) :: insert name v ms

end Members

namespace Value

/-- The array index that a reference token names: decimal digits without a sign or a leading
zero. -/
def arrayIndex? (token : String) : Option Nat :=
  if token ≠ "0" ∧ token.toList.head? = some '0' then none else Text.decimal? token.toList

/-- The array index that a token of a reference names: as `arrayIndex?`, but a plus sign may stand
in front. -/
def signedIndex? (token : String) : Option Nat :=
  match token.toList with
  | '+' :: digits => Text.decimal? digits
  | _ => arrayIndex? token

/-- The value one token further down. -/
def child? (v : Value) (token : String) : Option Value :=
  match v with
  | object ms => Members.get? ms token
  | array items => (arrayIndex? token).bind fun i => items[i]?
  | _ => none

/-- The value at the end of a list of tokens. -/
def descend? (v : Value) : List String → Option Value
  | [] => some v
  | t :: ts => (v.child? t).bind fun w => w.descend? ts

/-- The value at a position. -/
def at? (v : Value) (p : Pointer) : Option Value := v.descend? p.tokens

/-- The member of this name, if the value is an object that has one. -/
def member? (v : Value) (name : String) : Option Value :=
  match v with
  | object ms => Members.get? ms name
  | _ => none

end Value
end JsonSchema
