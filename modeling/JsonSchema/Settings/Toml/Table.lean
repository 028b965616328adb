import JsonSchema.Settings.Content
/-!
# Tables of TOML

A document is built table by table. How a table came to be decides what may be added to it later: a
table that a header only passes through may still get a header of its own, one that dotted keys
make may be filled by further dotted keys, and one in braces is complete.
-/

namespace JsonSchema.Settings.Toml

/-- How a table came to be. -/
inductive Origin where
  /-- A header has named it. -/
  | header
  /-- A header has named a table inside it. -/
  | passage
  /-- A dotted key has named something inside it. -/
  | dotted
deriving DecidableEq

/-- What stands under a name while the document is built. -/
inductive Item where
  /-- A value that is complete, also a list or a table in braces. -/
  | value (t : Content)
  | table (origin : Origin) (members : List (String × Item))
  /-- Tables under one header in double brackets, latest first. -/
  | tables (elements : List (List (String × Item)))

abbrev Members := List (String × Item)

/-- Puts an item in the place of the one with this name, or at the end. -/
def Members.put (name : String) (i : Item) : Members → Members
  | [] => [(name, i)]
  | (k, j) :: ms => if k = name then (k, i) :: ms else (k, j) :: Members.put name i ms

mutual

def Item.content : Item → Content
  | .value t => t
  | .table _ ms => .table (Members.contents ms)
  | .tables es => .list (Members.elements es).reverse

def Members.contents : List (String × Item) → List (Option String × Content)
  | [] => []
  | (k, i) :: ms => (some k, i.content) :: Members.contents ms

def Members.elements : List (List (String × Item)) → List Content
  | [] => []
  | ms :: es => .table (Members.contents ms) :: Members.elements es

end

/-- Changes the table that a path leads to; tables on the way are made where there are none. With a
dotted key one does not reach into tables that have a header. -/
def Members.within (dotted : Bool) (change : Members → Option Members) :
    List String → Members → Option Members
  | [], ms => change ms
  | k :: ks, ms =>
    match ms.lookup k with
    | none => do
      let inner ← Members.within dotted change ks []
      some (ms.put k (.table (if dotted then .dotted else .passage) inner))
    | some (.table origin inner) =>
      if dotted && origin == .header then none
      else do some (ms.put k (.table origin (← Members.within dotted change ks inner)))
    | some (.tables (e :: es)) =>
      if dotted then none
      else do some (ms.put k (.tables ((← Members.within dotted change ks e) :: es)))
    | some _ => none

/-- Adds a value under a key. -/
def Members.addValue (key : List String) (t : Content) (ms : Members) : Option Members :=
  let add (name : String) (ms : Members) : Option Members :=
    if (ms.lookup name).isSome then none else some (ms.put name (.value t))
  match key.getLast? with
  | some name => ms.within true (add name) key.dropLast
  | none => none

/-- Adds the table that a header names. -/
def Members.addTable (key : List String) (ms : Members) : Option Members :=
  let add (name : String) (ms : Members) : Option Members :=
    match ms.lookup name with
    | none => some (ms.put name (.table .header []))
    | some (.table .passage inner) => some (ms.put name (.table .header inner))
    | some _ => none
  match key.getLast? with
  | some name => ms.within false (add name) key.dropLast
  | none => none

/-- Adds a table under a header in double brackets. -/
def Members.addElement (key : List String) (ms : Members) : Option Members :=
  let add (name : String) (ms : Members) : Option Members :=
    match ms.lookup name with
    | none => some (ms.put name (.tables [[]]))
    | some (.tables es) => some (ms.put name (.tables ([] :: es)))
    | some _ => none
  match key.getLast? with
  | some name => ms.within false (add name) key.dropLast
  | none => none

end JsonSchema.Settings.Toml
