import JsonSchema.Proofs.Alias.Requests
/-!
# What collecting local references comes across

`Aliases.met` lists the values that are looked at with the positions built on the way down to them.
Collecting asks each of them for its reference (`Aliases.collect_eq`), and they are the places of the
value in another order (`Aliases.met_perm_places`).
-/

namespace JsonSchema.Aliases

mutual

/-- The values in a value at position `p` with their positions, the parts of a value before the value
itself. -/
def met (p : Pointer) : Value → Places
  | .array items => metElements p 0 items ++ [(p, .array items)]
  | .object ms => metMembers p ms ++ [(p, .object ms)]
  | v => [(p, v)]

/-- Those in the elements of an array at `p`, from index `i` on. -/
def metElements (p : Pointer) (i : Nat) : List Value → Places
  | [] => []
  | v :: vs => met (p.index i) v ++ metElements p (i + 1) vs

/-- Those in the members of an object at `p`. -/
def metMembers (p : Pointer) : List (String × Value) → Places
  | [] => []
  | (k, v) :: ms => met (p.child k) v ++ metMembers p ms

end

/-- The local references among some places, in their order. -/
def requests : Places → Except SchemaError AliasTable
  | [] => .ok []
  | (p, v) :: l => do
    let first ← request p v
    return first ++ (← requests l)

variable {p : Pointer} {l l' : Places} {vs : List Value} {ms : Members}

theorem requests_append : requests (l ++ l') = (do
    let first ← requests l
    return first ++ (← requests l')) := by
  induction l with
  | nil => cases h : requests l' <;> simp [requests, h, bind, Except.bind, pure, Except.pure]
  | cons e l ih =>
    obtain ⟨q, w⟩ := e
    rw [List.cons_append, requests, requests, ih]
    cases request q w <;> cases requests l <;> cases requests l' <;>
      simp [bind, Except.bind, pure, Except.pure]

theorem requests_singleton (p : Pointer) (v : Value) : requests [(p, v)] = request p v := by
  cases h : request p v <;> simp [requests, h, bind, Except.bind, pure, Except.pure]

/-- A value that is no object is no reference, so it makes no difference. -/
theorem requests_concat {v : Value} (h : v.localReference? = none) :
    requests (l ++ [(p, v)]) = requests l := by
  have none : request p v = .ok [] := by rw [request, h]
  rw [requests_append, requests_singleton, none]
  cases requests l <;> simp [bind, Except.bind, pure, Except.pure]

theorem collectElements_eq (ih : ∀ v ∈ vs, ∀ p, collect p v = requests (met p v)) (i : Nat) :
    collectElements p i vs = requests (metElements p i vs) := by
  induction vs generalizing i with
  | nil => rfl
  | cons v vs ihv =>
    rw [collectElements, metElements, requests_append, ih v (by simp),
      ihv (fun w hw => ih w (by simp [hw])) (i + 1)]

theorem collectMembers_eq (ih : ∀ k v, (k, v) ∈ ms → ∀ p, collect p v = requests (met p v)) :
    collectMembers p ms = requests (metMembers p ms) := by
  induction ms with
  | nil => rfl
  | cons m ms ihm =>
    obtain ⟨k, v⟩ := m
    rw [collectMembers, metMembers, requests_append, ih k v (by simp),
      ihm fun k' w hw => ih k' w (by simp [hw])]

/-- Collecting the local references in a value asks each value that is met. -/
theorem collect_eq (p : Pointer) (v : Value) : collect p v = requests (met p v) := by
  induction v using Value.induction generalizing p with
  | array vs ih =>
    rw [met, requests_concat rfl, collect, collectElements_eq fun v hv p => ih v hv p]
  | object ms ih =>
    rw [met, requests_append, requests_singleton, collect,
      collectMembers_eq fun k v hv p => ih k v hv p]
  | _ => rfl

theorem metElements_perm (ih : ∀ v ∈ vs, ∀ p, (met p v).Perm (v.places p)) (i : Nat) :
    (metElements p i vs).Perm (Value.elementPlaces p i vs) := by
  induction vs generalizing i with
  | nil => exact .nil
  | cons v vs ihv =>
    exact (ih v (by simp) _).append (ihv (fun w hw => ih w (by simp [hw])) (i + 1))

theorem metMembers_perm (ih : ∀ k v, (k, v) ∈ ms → ∀ p, (met p v).Perm (v.places p)) :
    (metMembers p ms).Perm (Value.memberPlaces p ms) := by
  induction ms with
  | nil => exact .nil
  | cons m ms ihm =>
    obtain ⟨k, v⟩ := m
    exact (ih k v (by simp) _).append (ihm fun k' w hw => ih k' w (by simp [hw]))

/-- What is met in a value are its places. -/
theorem met_perm_places (p : Pointer) (v : Value) : (met p v).Perm (v.places p) := by
  induction v using Value.induction generalizing p with
  | array vs ih =>
    exact (List.perm_append_singleton _ _).trans ((metElements_perm ih 0).cons _)
  | object ms ih =>
    exact (List.perm_append_singleton _ _).trans ((metMembers_perm ih).cons _)
  | _ => exact .refl _

end JsonSchema.Aliases
