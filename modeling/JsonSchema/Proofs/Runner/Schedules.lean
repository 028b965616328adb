import JsonSchema.Runner.Batch
/-!
# Schedules of a batch

Workers take the files of a batch and finish them in any order. `Batch.Sound` holds of a batch at
every moment: a file that is done has been judged, or else it was skipped because a failure had
stopped the batch, and that failure is on record. From any moment on a single worker can complete
the batch (`Batch.isComplete_oneByOne`), and then nothing more happens to it.
-/

namespace JsonSchema

namespace Batch

variable {failFast : Bool} {judge : Nat → Outcome} {b : Batch} {n i : Nat} {o : Outcome}

/-- What holds of a batch of `n` files between any two turns. -/
structure Sound (failFast : Bool) (judge : Nat → Outcome) (n : Nat) (b : Batch) : Prop where
  size : b.slots.length = n
  judged : ∀ i o, b.slots[i]? = some (.done o) → o = judge i ∨ o = skipped ∧ b.stopped = true
  cause : b.stopped = true →
    failFast = true ∧ ∃ i, (judge i).isValid = false ∧ b.slots[i]? = some (.done (judge i))

/-! ### Turns -/

/-- A turn comes at the wrong moment, or skips a file, or takes one, or finishes one. -/
theorem step_cases (failFast : Bool) (judge : Nat → Outcome) (b : Batch) (t : Turn) :
    b.step failFast judge t = b ∨
    (∃ i, b.slots[i]? = some .waiting ∧ b.stopped = true ∧
      b.step failFast judge t = { b with slots := b.slots.set i (.done skipped) }) ∨
    (∃ i, b.slots[i]? = some .waiting ∧
      b.step failFast judge t = { b with slots := b.slots.set i .taken }) ∨
    ∃ i, b.slots[i]? = some .taken ∧ b.step failFast judge t =
      ⟨b.slots.set i (.done (judge i)), b.stopped || (failFast && !(judge i).isValid),
        b.finished ++ [i]⟩ := by
  cases t with
  | take i =>
    by_cases hi : b.slots[i]? = some .waiting
    · cases hs : b.stopped with
      | true => exact .inr (.inl ⟨i, hi, rfl, by simp [step, hi, hs]⟩)
      | false => exact .inr (.inr (.inl ⟨i, hi, by simp [step, hi, hs]⟩))
    · exact .inl (if_neg hi)
  | finish i =>
    by_cases hi : b.slots[i]? = some .taken
    · exact .inr (.inr (.inr ⟨i, hi, if_pos hi⟩))
    · exact .inl (if_neg hi)

theorem eq_or_of_getElem?_set {l : List Slot} {j : Nat} {new s : Slot}
    (h : (l.set i new)[j]? = some s) : i = j ∧ new = s ∨ l[j]? = some s := by
  by_cases hij : i = j
  · subst hij
    have inside : i < l.length := by
      have := (List.getElem?_eq_some_iff.1 h).1
      simpa using this
    rw [List.getElem?_set_self inside] at h
    exact .inl ⟨rfl, Option.some.inj h⟩
  · rw [List.getElem?_set_ne hij] at h
    exact .inr h

theorem length_step (t : Turn) : (b.step failFast judge t).slots.length = b.slots.length := by
  rcases step_cases failFast judge b t with h | ⟨i, -, -, h⟩ | ⟨i, -, h⟩ | ⟨i, -, h⟩ <;> simp [h]

theorem stopped_step (hs : b.stopped = true) (t : Turn) :
    (b.step failFast judge t).stopped = true := by
  rcases step_cases failFast judge b t with h | ⟨i, -, -, h⟩ | ⟨i, -, h⟩ | ⟨i, -, h⟩ <;>
    simp [h, hs]

/-- What is known about a file stays known. -/
theorem done_step (hd : b.slots[i]? = some (.done o)) (t : Turn) :
    (b.step failFast judge t).slots[i]? = some (.done o) := by
  have keep {j : Nat} {old : Slot} (hj : b.slots[j]? = some old) (hne : old ≠ .done o)
      (new : Slot) : (b.slots.set j new)[i]? = some (.done o) := by
    rw [List.getElem?_set_ne, hd]
    rintro rfl
    exact hne (Option.some.inj (hj.symm.trans hd))
  rcases step_cases failFast judge b t with h | ⟨j, hj, -, h⟩ | ⟨j, hj, h⟩ | ⟨j, hj, h⟩ <;> rw [h]
  · exact hd
  · exact keep hj (by rintro ⟨⟩) _
  · exact keep hj (by rintro ⟨⟩) _
  · exact keep hj (by rintro ⟨⟩) _

theorem sound_start (n : Nat) : Sound failFast judge n (start n) := by
  refine ⟨by simp [start], fun i o h => ?_, fun h => ?_⟩
  · have waiting := List.mem_of_getElem? h
    simp [start] at waiting
  · cases h

/-- A turn of any worker keeps a batch sound. -/
theorem Sound.step (h : Sound failFast judge n b) (t : Turn) :
    Sound failFast judge n (b.step failFast judge t) := by
  refine ⟨(length_step t).trans h.size, fun j o hj => ?_, fun stopped => ?_⟩
  · have before (known : b.slots[j]? = some (.done o)) :
        o = judge j ∨ o = skipped ∧ (b.step failFast judge t).stopped = true := by
      rcases h.judged j o known with rfl | ⟨rfl, hs⟩
      · exact .inl rfl
      · exact .inr ⟨rfl, stopped_step hs t⟩
    rcases step_cases failFast judge b t with e | ⟨i, -, hs, e⟩ | ⟨i, -, e⟩ | ⟨i, -, e⟩
    · rw [e] at hj
      exact before hj
    · rw [e] at hj
      rcases eq_or_of_getElem?_set hj with ⟨-, ho⟩ | known
      · cases ho
        exact .inr ⟨rfl, stopped_step hs t⟩
      · exact before known
    · rw [e] at hj
      rcases eq_or_of_getElem?_set hj with ⟨-, ho⟩ | known
      · cases ho
      · exact before known
    · rw [e] at hj
      rcases eq_or_of_getElem?_set hj with ⟨rfl, ho⟩ | known
      · cases ho
        exact .inl rfl
      · exact before known
  · have before (hs : b.stopped = true) : failFast = true ∧ ∃ i, (judge i).isValid = false ∧
        (b.step failFast judge t).slots[i]? = some (.done (judge i)) := by
      obtain ⟨hf, i, hv, hi⟩ := h.cause hs
      exact ⟨hf, i, hv, done_step hi t⟩
    rcases step_cases failFast judge b t with e | ⟨i, -, hs, -⟩ | ⟨i, -, e⟩ | ⟨i, hi, e⟩
    · exact before (by rwa [e] at stopped)
    · exact before hs
    · exact before (by rwa [e] at stopped)
    · by_cases hs : b.stopped = true
      · exact before hs
      rw [e] at stopped
      obtain ⟨hf, hv⟩ : failFast = true ∧ (judge i).isValid = false := by simpa [hs] using stopped
      have inside : i < b.slots.length := (List.getElem?_eq_some_iff.1 hi).1
      refine ⟨hf, i, hv, ?_⟩
      rw [e]
      exact List.getElem?_set_self inside

/-! ### Runs -/

theorem sound_run (h : Sound failFast judge n b) (turns : List Turn) :
    Sound failFast judge n (b.run failFast judge turns) := by
  induction turns generalizing b with
  | nil => exact h
  | cons t turns ih => exact ih (h.step t)

theorem done_run (h : b.slots[i]? = some (.done o)) (turns : List Turn) :
    (b.run failFast judge turns).slots[i]? = some (.done o) := by
  induction turns generalizing b with
  | nil => exact h
  | cons t turns ih => exact ih (done_step h t)

theorem length_run (turns : List Turn) :
    (b.run failFast judge turns).slots.length = b.slots.length := by
  induction turns generalizing b with
  | nil => rfl
  | cons t turns ih => exact ih.trans (length_step t)

theorem run_append (turns turns' : List Turn) :
    b.run failFast judge (turns ++ turns') =
      (b.run failFast judge turns).run failFast judge turns' :=
  List.foldl_append

/-- A worker that takes a file and finishes it leaves it done, whatever was done before. -/
theorem exists_done (hi : i < b.slots.length) :
    ∃ o, (b.run failFast judge [.take i, .finish i]).slots[i]? = some (.done o) := by
  cases hs : b.slots[i] with
  | done o => exact ⟨o, done_run (by rw [List.getElem?_eq_getElem hi, hs]) _⟩
  | taken => simp [run, step, hi, hs]
  | waiting => cases hb : b.stopped <;> simp [run, step, hi, hs, hb]

theorem isComplete_iff : b.isComplete = true ↔
    ∀ i, i < b.slots.length → ∃ o, b.slots[i]? = some (.done o) := by
  simp only [isComplete, List.all_eq_true]
  constructor
  · intro h i hi
    have known := h b.slots[i] (List.getElem_mem hi)
    cases hs : b.slots[i] with
    | done o => exact ⟨o, by rw [List.getElem?_eq_getElem hi, hs]⟩
    | taken => rw [hs] at known; cases known
    | waiting => rw [hs] at known; cases known
  · intro h s hs
    obtain ⟨i, hi, rfl⟩ := List.mem_iff_getElem.1 hs
    obtain ⟨o, ho⟩ := h i hi
    rw [List.getElem?_eq_getElem hi] at ho
    rw [Option.some.inj ho]
    rfl

/-- A single worker completes a batch, whatever the others have left of it. -/
theorem isComplete_oneByOne (failFast : Bool) (judge : Nat → Outcome) (b : Batch) :
    (b.run failFast judge (oneByOne b.slots.length)).isComplete = true := by
  have upTo (k : Nat) (hk : k ≤ b.slots.length) :
      ∀ i < k, ∃ o, (b.run failFast judge (oneByOne k)).slots[i]? = some (.done o) := by
    induction k with
    | zero => intro i hi; omega
    | succ k ih =>
      intro i hi
      have split : oneByOne (k + 1) = oneByOne k ++ [.take k, .finish k] := by
        simp [oneByOne, List.range_succ]
      rw [split, run_append]
      rcases Nat.lt_succ_iff_lt_or_eq.1 hi with hlt | rfl
      · obtain ⟨o, ho⟩ := ih (by omega) i hlt
        exact ⟨o, done_run ho _⟩
      · exact exists_done (by rw [length_run]; omega)
  rw [isComplete_iff, length_run]
  exact upTo _ (Nat.le_refl _)

theorem slots_eq_of_isComplete (h : b.isComplete = true) : b.slots = b.outcomes.map Slot.done := by
  obtain ⟨slots, stopped, finished⟩ := b
  simp only [isComplete] at h
  simp only [outcomes]
  induction slots with
  | nil => rfl
  | cons s slots ih =>
    simp only [List.all_cons, Bool.and_eq_true] at h
    cases s with
    | done o =>
      have rest := ih h.2
      simp only [List.filterMap_cons, Slot.outcome?, List.map_cons, List.cons.injEq, true_and]
      exact rest
    | taken => cases h.1
    | waiting => cases h.1

end Batch

end JsonSchema
