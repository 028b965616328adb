import Mathlib.Data.List.Forall2
/-!
# Computations that succeed

When a computation that may fail has a result, step by step.
-/

namespace JsonSchema

variable {ε α β : Type}

theorem bind_eq_ok {x : Except ε α} {f : α → Except ε β} {b : β} :
    (x >>= f) = .ok b ↔ ∃ a, x = .ok a ∧ f a = .ok b := by
  cases x <;> simp [bind, Except.bind]

theorem pure_eq_ok {a b : α} : (pure a : Except ε α) = .ok b ↔ a = b := by
  simp [pure, Except.pure]

theorem map_eq_ok {x : Except ε α} {f : α → β} {b : β} :
    x.map f = .ok b ↔ ∃ a, x = .ok a ∧ f a = b := by
  cases x <;> simp [Except.map]

theorem mapM_eq_ok {f : α → Except ε β} {l : List α} {r : List β} :
    l.mapM f = .ok r ↔ List.Forall₂ (fun a b => f a = .ok b) l r := by
  induction l generalizing r with
  | nil =>
    rw [List.mapM_nil, pure_eq_ok, List.forall₂_nil_left_iff, eq_comm]
  | cons a l ih =>
    simp only [List.mapM_cons, bind_eq_ok, pure_eq_ok, ih, List.forall₂_cons_left_iff]
    constructor
    · rintro ⟨b, hb, r', hr, rfl⟩
      exact ⟨b, r', hb, hr, rfl⟩
    · rintro ⟨b, r', hb, hr, rfl⟩
      exact ⟨b, hb, r', hr, rfl⟩

/-! ### Having a result -/

/-- A computation has a result. -/
def Succeeds (x : Except ε α) : Prop := ∃ a, x = .ok a

theorem exists_eq_ok {x : Except ε α} : (∃ a, x = .ok a) ↔ Succeeds x := Iff.rfl

@[simp] theorem succeeds_ok (a : α) : Succeeds (.ok a : Except ε α) := ⟨a, rfl⟩

@[simp] theorem not_succeeds_error (e : ε) : ¬Succeeds (.error e : Except ε α) := by
  rintro ⟨a, ⟨⟩⟩

theorem succeeds_pure (a : α) : Succeeds (pure a : Except ε α) := ⟨a, rfl⟩

theorem succeeds_bind {x : Except ε α} {f : α → Except ε β} :
    Succeeds (x >>= f) ↔ ∃ a, x = .ok a ∧ Succeeds (f a) := by
  simp only [Succeeds, bind_eq_ok]
  rw [exists_comm]
  simp only [exists_and_left]

theorem succeeds_mapM {f : α → Except ε β} {l : List α} :
    Succeeds (l.mapM f) ↔ ∀ a ∈ l, Succeeds (f a) := by
  induction l with
  | nil => simp [succeeds_pure]
  | cons a l ih =>
    rw [List.forall_mem_cons, List.mapM_cons]
    simp only [succeeds_bind, succeeds_pure, and_true, exists_and_right]
    exact and_congr_right fun _ => ih

/-! ### Results and errors -/

/-- The result of a computation has one property, or its error has another one. -/
def Yields (Q : α → Prop) (P : ε → Prop) : Except ε α → Prop
  | .ok a => Q a
  | .error e => P e

variable {P P' : ε → Prop} {Q Q' : α → Prop}

@[simp] theorem yields_ok {a : α} : Yields Q P (.ok a) ↔ Q a := Iff.rfl

@[simp] theorem yields_error {e : ε} : Yields Q P (.error e) ↔ P e := Iff.rfl

@[simp] theorem yields_pure {a : α} : Yields Q P (pure a) ↔ Q a := Iff.rfl

theorem Yields.bind {R : β → Prop} {x : Except ε α} {f : α → Except ε β} (hx : Yields Q P x)
    (hf : ∀ a, Q a → Yields R P (f a)) : Yields R P (x >>= f) := by
  cases x with
  | ok a => exact hf a hx
  | error e => exact hx

theorem Yields.mono {x : Except ε α} (hx : Yields Q P x) (hQ : ∀ a, Q a → Q' a)
    (hP : ∀ e, P e → P' e) : Yields Q' P' x := by
  cases x with
  | ok a => exact hQ a hx
  | error e => exact hP e hx

/-- Whatever error a computation has, it has this property. -/
abbrev FailsWith (P : ε → Prop) (x : Except ε α) : Prop := Yields (fun _ => True) P x

theorem FailsWith.bind {x : Except ε α} {f : α → Except ε β} (hx : FailsWith P x)
    (hf : ∀ a, FailsWith P (f a)) : FailsWith P (x >>= f) :=
  Yields.bind hx fun a _ => hf a

theorem FailsWith.mapM {f : α → Except ε β} (hf : ∀ a, FailsWith P (f a)) (l : List α) :
    FailsWith P (l.mapM f) := by
  induction l with
  | nil => exact trivial
  | cons a l ih =>
    rw [List.mapM_cons]
    exact (hf a).bind fun b => ih.bind fun bs => trivial

/-! ### Lists -/

/-- In lists that are related pairwise, each element has a partner. -/
theorem partners_of_forall₂ {R : α → β → Prop} {l : List α} {r : List β} (h : List.Forall₂ R l r) :
    (∀ a ∈ l, ∃ b ∈ r, R a b) ∧ ∀ b ∈ r, ∃ a ∈ l, R a b := by
  induction h with
  | nil => exact ⟨by simp, by simp⟩
  | @cons a b _ _ hab _ ih =>
    refine ⟨List.forall_mem_cons.2 ⟨⟨b, by simp, hab⟩, fun a' ha => ?_⟩,
      List.forall_mem_cons.2 ⟨⟨a, by simp, hab⟩, fun b' hb => ?_⟩⟩
    · obtain ⟨b', hb, hr⟩ := ih.1 a' ha
      exact ⟨b', List.mem_cons_of_mem _ hb, hr⟩
    · obtain ⟨a', ha, hr⟩ := ih.2 b' hb
      exact ⟨a', List.mem_cons_of_mem _ ha, hr⟩

end JsonSchema
