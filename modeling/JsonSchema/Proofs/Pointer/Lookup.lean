import JsonSchema.Proofs.Pointer.Grammar
import JsonSchema.Proofs.Positions
/-!
# Pointers as texts

What is done with a pointer can be done with its written form alone. `Pointer.writtenChild` goes one
token further down, `Pointer.writtenTokens` cuts the text into tokens again, and `Value.pointer?`
finds the value that a text addresses by splitting it at the slashes and replacing first each `~1`
and then each `~0`. On the written form of a pointer they agree with its tokens
(`Pointer.writtenTokens_chars`, `Value.pointer?_chars`).
-/

namespace JsonSchema

namespace Text

/-- A text with every `xy` in it replaced by `z`. -/
def replacePair (x y z : Char) : List Char → List Char
  | a :: b :: r =>
    if a = x ∧ b = y then z :: replacePair x y z r else a :: replacePair x y z (b :: r)
  | cs => cs

variable {x y z a b : Char} {r : List Char}

theorem replacePair_pair : replacePair x y z (x :: y :: r) = z :: replacePair x y z r := by
  rw [replacePair, if_pos ⟨rfl, rfl⟩]

theorem replacePair_first (h : b ≠ y) :
    replacePair x y z (a :: b :: r) = a :: replacePair x y z (b :: r) := by
  rw [replacePair, if_neg fun hab => h hab.2]

theorem replacePair_cons (h : a ≠ x) :
    replacePair x y z (a :: r) = a :: replacePair x y z r := by
  cases r with
  | nil => rfl
  | cons b r => rw [replacePair, if_neg fun hab => h hab.1]

end Text

namespace Pointer

variable {p : Pointer} {t : String}

/-- The written form one token further down. -/
def writtenChild (cs : List Char) (t : String) : List Char := cs ++ '/' :: escape t.toList

/-- The tokens of a text: what is written after its slashes. A piece with a `~` that begins no
escape is taken as it stands. -/
def writtenTokens (cs : List Char) : List String :=
  (Text.splitAt '/' cs).tail.map fun raw => String.ofList ((unescape raw).getD raw)

theorem chars_child (p : Pointer) (t : String) : (p.child t).chars = writtenChild p.chars t := by
  rw [chars, child, List.flatMap_append, List.flatMap_singleton]
  rfl

theorem chars_cons (t : String) (ts : List String) :
    chars ⟨t :: ts⟩ = '/' :: (escape t.toList ++ chars ⟨ts⟩) := List.flatMap_cons

theorem splitAt_chars_tail (p : Pointer) :
    (Text.splitAt '/' p.chars).tail = p.tokens.map fun t => escape t.toList := by
  obtain ⟨ts⟩ := p
  cases ts with
  | nil => rfl
  | cons t ts => rw [chars_cons, Text.splitAt, if_pos rfl, List.tail_cons, splitAt_chars]

theorem writtenTokens_chars (p : Pointer) : writtenTokens p.chars = p.tokens := by
  rw [writtenTokens, splitAt_chars_tail, List.map_map]
  refine List.map_congr_left (fun t _ => ?_) |>.trans (List.map_id _)
  show String.ofList ((unescape (escape t.toList)).getD _) = t
  rw [unescape_escape]
  exact String.ofList_toList

/-! ### Looking up a text -/

/-- A token with only its tildes escaped. -/
def escapeTildes (token : List Char) : List Char :=
  token.flatMap fun c => if c = '~' then ['~', '0'] else [c]

/-- The first replacement undoes the escapes of the slashes. A `1` after an escaped tilde stands
behind its `0`, so it is not taken for a part of such an escape. -/
theorem replacePair_escape (cs : List Char) :
    Text.replacePair '~' '1' '/' (escape cs) = escapeTildes cs := by
  induction cs with
  | nil => rfl
  | cons c cs ih =>
    rw [escape_cons, escapeTildes, List.flatMap_cons, ← escapeTildes, ← ih]
    by_cases tilde : c = '~'
    · subst tilde
      show Text.replacePair _ _ _ ('~' :: '0' :: escape cs) = _
      rw [Text.replacePair_first (by decide), Text.replacePair_cons (by decide)]
      rfl
    · by_cases slash : c = '/'
      · subst slash
        exact Text.replacePair_pair
      · rw [escapeChar_of_plain tilde slash, if_neg tilde]
        exact Text.replacePair_cons tilde

theorem replacePair_escapeTildes (cs : List Char) :
    Text.replacePair '~' '0' '~' (escapeTildes cs) = cs := by
  induction cs with
  | nil => rfl
  | cons c cs ih =>
    rw [escapeTildes, List.flatMap_cons, ← escapeTildes]
    by_cases tilde : c = '~'
    · subst tilde
      exact Text.replacePair_pair.trans (congrArg _ ih)
    · rw [if_neg tilde]
      exact (Text.replacePair_cons tilde).trans (congrArg _ ih)

/-- The token that a piece of a text stands for when the text is looked up. -/
def lookupToken (raw : List Char) : String :=
  String.ofList (Text.replacePair '~' '0' '~' (Text.replacePair '~' '1' '/' raw))

theorem lookupToken_escape (t : String) : lookupToken (escape t.toList) = t := by
  rw [lookupToken, replacePair_escape, replacePair_escapeTildes]
  exact String.ofList_toList

end Pointer

/-- The value that a text addresses. -/
def Value.pointer? (v : Value) : List Char → Option Value
  | [] => some v
  | c :: r =>
    if c = '/' then v.descend? ((Text.splitAt '/' r).map Pointer.lookupToken) else none

/-- The written form of a pointer addresses the value at the pointer. -/
theorem Value.pointer?_chars (v : Value) (p : Pointer) : v.pointer? p.chars = v.at? p := by
  obtain ⟨ts⟩ := p
  cases ts with
  | nil => rfl
  | cons t ts =>
    rw [Pointer.chars_cons, pointer?, if_pos rfl, Pointer.splitAt_chars, List.map_map, at?]
    refine congrArg v.descend? ((List.map_congr_left fun t _ => ?_).trans (List.map_id _))
    exact Pointer.lookupToken_escape t

end JsonSchema
