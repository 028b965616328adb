import JsonSchema.SchemaError
import JsonSchema.Value
/-!
# Local references

An object with a member `$ref` whose text starts with `#` is a *local reference*: it stands for the
value at the position that its fragment names. `Aliases.resolve` finds, for each local reference of
a document, the canonical position of that value, following references met on the way. References to
other documents are left alone.

Resolution ends because a reference is followed only while it is not being followed already: the
references still free to be followed shrink with every one that is entered.
-/

namespace JsonSchema

/-- The member that makes an object a reference. -/
def referenceKey : String := "$ref"

/-- Whether a value is a reference, local or not. -/
def Value.isReference (v : Value) : Bool :=
  match v.member? referenceKey with
  | some (.string _) => true
  | _ => false

/-- The fragment of a local reference. -/
def Value.localReference? (v : Value) : Option String :=
  match v.member? referenceKey with
  | some (.string s) => if s.toList.head? = some '#' then some s else none
  | _ => none

/-- Positions of local references with the positions that belong to them. -/
abbrev AliasTable := List (Pointer × Pointer)

namespace Aliases

/-- The local reference that a value at `p` itself is, with the position that it names. -/
def request (p : Pointer) (v : Value) : Except SchemaError AliasTable :=
  match v.localReference? with
  | none => .ok []
  | some s =>
    match Pointer.ofFragment s with
    | .ok target => .ok [(p, target)]
    | .error fault => .error (.invalidReference p (.malformed fault))

mutual

/-- The local references in a value at position `p` with the positions that they name, the parts of
a value before the value itself. -/
def collect (p : Pointer) : Value → Except SchemaError AliasTable
  | .array items => collectElements p 0 items
  | .object ms => do
    let inner ← collectMembers p ms
    return inner ++ (← request p (.object ms))
  | _ => .ok []

/-- The local references in the elements of an array at `p`, from index `i` on. -/
def collectElements (p : Pointer) (i : Nat) : List Value → Except SchemaError AliasTable
  | [] => .ok []
  | v :: vs => do
    let first ← collect (p.index i) v
    return first ++ (← collectElements p (i + 1) vs)

/-- The local references in the members of an object at `p`. -/
def collectMembers (p : Pointer) : List (String × Value) → Except SchemaError AliasTable
  | [] => .ok []
  | (k, v) :: ms => do
    let first ← collect (p.child k) v
    return first ++ (← collectMembers p ms)

end

/-- Resolution in a document: its value and the positions that its local references name. -/
structure Problem where
  document : Value
  requested : AliasTable

/-- Whether a local reference stands at this position. -/
def Problem.isAlias (pb : Problem) (p : Pointer) : Bool := (pb.requested.lookup p).isSome

/-- One token further down from a value that is no local reference; `source` is the reference being
followed towards `target`, and `position` the position of the value. -/
def step (source target position : Pointer) (v : Value) (token : String) :
    Except SchemaError Value :=
  let fail (fault : ReferenceFault) := .error (.invalidReference source fault)
  match v with
  | .object ms =>
    if v.isReference then fail .additionalMembers
    else match Members.get? ms token with
      | some w => .ok w
      | none => fail (.unresolvable target)
  | .array items =>
    match (Value.signedIndex? token).bind fun i => items[i]? with
    | some w => .ok w
    | none => fail (.badIndex token target)
  | _ => fail (.insideScalar target position)

/-- The value that a local reference met on the way stands for, entered with `token`: `link` is the
reference itself and `position` its canonical position. The members beside the reference are not
part of the value. -/
def enter (pb : Problem) (source target : Pointer) (link : Value) (position : Pointer)
    (token : String) : Except SchemaError Value :=
  match pb.document.at? position with
  | none => .error (.invalidReference source (.unresolvable target))
  | some v =>
    if (v.member? token).isNone ∧ (link.member? token).isSome then
      .error (.invalidReference source .additionalMembers)
    else .ok v

theorem length_erase_lt {free : List Pointer} {p : Pointer} (h : p ∈ free) :
    (free.erase p).length < free.length := by
  have := List.length_pos_of_mem h
  rw [List.length_erase_of_mem h]
  omega

mutual

/-- The canonical position of the local reference at `source`. `free` are the local references that
are not being followed, `table` holds those resolved before. -/
def follow (pb : Problem) (free : List Pointer) (table : AliasTable) (source : Pointer) :
    Except SchemaError (Pointer × AliasTable) :=
  match table.lookup source with
  | some done => .ok (done, table)
  | none =>
    if _h : source ∈ free then
      match pb.requested.lookup source with
      | none => .ok (source, table)
      | some target => do
        let (literal, table) ← walk pb (free.erase source) table source target .root pb.document
          target.tokens
        if literal = source then .error (.invalidReference source .selfReference)
        else do
          let (canonical, table) ←
            if pb.isAlias literal then follow pb (free.erase source) table literal
            else .ok (literal, table)
          if canonical = source then .error (.invalidReference source .selfReference)
          else .ok (canonical, table ++ [(source, canonical)])
    else .error (.invalidReference source .circular)
termination_by (free.length, 0)
decreasing_by all_goals exact Prod.Lex.left _ _ (length_erase_lt ‹_›)

/-- Follows the tokens from the value `v` at `position`, on behalf of the reference at `source` with
the given target. -/
def walk (pb : Problem) (free : List Pointer) (table : AliasTable) (source target : Pointer)
    (position : Pointer) (v : Value) :
    List String → Except SchemaError (Pointer × AliasTable)
  | [] => .ok (position, table)
  | token :: tokens =>
    if pb.isAlias position then
      if position ∈ free then do
        let (canonical, table) ← follow pb free table position
        let w ← enter pb source target v canonical token
        let next ← step source target canonical w token
        walk pb free table source target (canonical.child token) next tokens
      else .error (.invalidReference source .additionalMembers)
    else do
      let next ← step source target position v token
      walk pb free table source target (position.child token) next tokens
termination_by tokens => (free.length, tokens.length + 1)

end

/-- Follows each of some local references. -/
def followAll (pb : Problem) (free : List Pointer) (table : AliasTable) :
    List Pointer → Except SchemaError AliasTable
  | [] => .ok table
  | p :: ps => do
    let (_, table) ← follow pb free table p
    followAll pb free table ps

/-- Positions in the order of their written forms. -/
def sort (table : AliasTable) : AliasTable := table.mergeSort fun a b => a.1.precedes b.1

/-- The canonical position of each local reference of a document. -/
def resolve (document : Value) : Except SchemaError AliasTable := do
  let requested := sort (← collect .root document)
  let free := requested.map (·.1)
  return sort (← followAll ⟨document, requested⟩ free [] free)

/-- The position that holds the value of position `p`. -/
def canonical (table : AliasTable) (p : Pointer) : Pointer := (table.lookup p).getD p

/-- The value of position `p`, found where it is held. -/
def get? (document : Value) (table : AliasTable) (p : Pointer) : Option Value :=
  document.at? (canonical table p)

end Aliases
end JsonSchema
