/-!
# Children

What a session holds for the schemas below its own: one thing for each schema that applies to the
value itself or to the part of it that is being described. `Children.toList` is all of them, and
`Children.pmap` the form of `map` on which a recursion over children can be based.
-/

namespace JsonSchema

/-- One thing for each child: for the current element, for the current member, and for each branch
of the keywords that apply to the value itself. -/
structure Children (σ : Type) where
  item : Option σ
  properties : List σ
  allOf : List σ
  anyOf : List σ
  oneOf : List σ
  not : Option σ
  dependencies : List (String × σ)

namespace Children

variable {σ τ : Type}

/-- No children. -/
def empty : Children σ := ⟨none, [], [], [], [], none, []⟩

/-- Every child. -/
def toList (c : Children σ) : List σ :=
  c.item.toList ++ c.properties ++ c.allOf ++ c.anyOf ++ c.oneOf ++ c.not.toList ++
    c.dependencies.map (·.2)

theorem mem_toList {c : Children σ} {x : σ} : x ∈ c.toList ↔ c.item = some x ∨ x ∈ c.properties ∨
    x ∈ c.allOf ∨ x ∈ c.anyOf ∨ x ∈ c.oneOf ∨ c.not = some x ∨ ∃ k, (k, x) ∈ c.dependencies := by
  simp [toList]

def map (f : σ → τ) (c : Children σ) : Children τ :=
  ⟨c.item.map f, c.properties.map f, c.allOf.map f, c.anyOf.map f, c.oneOf.map f, c.not.map f,
    c.dependencies.map fun p => (p.1, f p.2)⟩

/-- `map` with a function that is told that it is applied to a child. -/
def pmap (c : Children σ) (f : (x : σ) → x ∈ c.toList → τ) : Children τ where
  item := c.item.pmap f fun x h => by simp [mem_toList, h]
  properties := c.properties.pmap f fun x h => by simp [mem_toList, h]
  allOf := c.allOf.pmap f fun x h => by simp [mem_toList, h]
  anyOf := c.anyOf.pmap f fun x h => by simp [mem_toList, h]
  oneOf := c.oneOf.pmap f fun x h => by simp [mem_toList, h]
  not := c.not.pmap f fun x h => by simp [mem_toList, h]
  dependencies := c.dependencies.pmap (fun p h => (p.1, f p.2 h)) fun p h =>
    mem_toList.2 <| .inr <| .inr <| .inr <| .inr <| .inr <| .inr ⟨p.1, h⟩

theorem pmap_eq_map (c : Children σ) (f : σ → τ) : (c.pmap fun x _ => f x) = c.map f := by
  simp [pmap, map, List.pmap_eq_map, Option.pmap_eq_map]

end Children
end JsonSchema
