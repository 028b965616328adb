/-!
# Recognisers

A machine that takes events one by one and whose failure is final. What it makes of a list of events
is put as `Decides`: if a condition holds they take it from one state to another, and if not it
fails. Such facts about consecutive lists compose (`Decides.append`).
-/

namespace JsonSchema

/-- A machine on events whose failure is final. -/
structure Recogniser (ε σ : Type) where
  feed : σ → ε → σ
  matched : σ → Bool
  failed : ∀ {s : σ} (e : ε), matched s = false → matched (feed s e) = false

namespace Recogniser

variable {ε σ : Type} (M : Recogniser ε σ)

def run (s : σ) (es : List ε) : σ := es.foldl M.feed s

/-- The events take the machine from `s` to `t` if `P` holds, and otherwise make it fail. -/
structure Decides (s : σ) (es : List ε) (P : Prop) (t : σ) : Prop where
  pass : P → M.run s es = t
  fail : ¬P → M.matched (M.run s es) = false

variable {M} {s t u : σ} {es fs : List ε} {P Q : Prop}

theorem run_append : M.run s (es ++ fs) = M.run (M.run s es) fs := List.foldl_append

theorem matched_run_of_failed (h : M.matched s = false) (es : List ε) :
    M.matched (M.run s es) = false := by
  induction es generalizing s with
  | nil => exact h
  | cons e es ih => exact ih (M.failed e h)

namespace Decides

theorem nil (h : P) : M.Decides s [] P s := ⟨fun _ => rfl, fun hn => absurd h hn⟩

theorem congr (h : M.Decides s es P t) (hpq : P ↔ Q) : M.Decides s es Q t := by
  rwa [← propext hpq]

theorem append (h : M.Decides s es P t) (h' : P → M.Decides t fs Q u) :
    M.Decides s (es ++ fs) (P ∧ Q) u := by
  constructor
  · rintro ⟨hp, hq⟩
    rw [run_append, h.pass hp, (h' hp).pass hq]
  · intro hn
    rw [run_append]
    by_cases hp : P
    · rw [h.pass hp]
      exact (h' hp).fail fun hq => hn ⟨hp, hq⟩
    · exact matched_run_of_failed (h.fail hp) fs

theorem cons {e : ε} (h : M.Decides s [e] P t) (h' : P → M.Decides t fs Q u) :
    M.Decides s (e :: fs) (P ∧ Q) u := h.append h'

theorem matched_iff (h : M.Decides s es P t) (ht : M.matched t = true) :
    M.matched (M.run s es) = true ↔ P := by
  constructor
  · intro hm
    by_cases hp : P
    · exact hp
    · rw [h.fail hp] at hm; cases hm
  · intro hp
    rwa [h.pass hp]

end Decides

end Recogniser
end JsonSchema
