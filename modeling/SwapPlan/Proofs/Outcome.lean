import Mathlib
/-!
# Outcomes of computations that may fail

When a sequence of steps, a mapped result or a renamed error is a success, and of what, where a run
over a list fails first, and when two computations end alike.
-/
set_option autoImplicit false

namespace SwapPlan.Outcome

variable {ε ε' α β : Type}

theorem ok_bind (a : α) (f : α → Except ε β) : (Except.ok a >>= f) = f a := rfl

theorem bind_eq_ok {x : Except ε α} {f : α → Except ε β} {b : β} :
    (x >>= f) = .ok b ↔ ∃ a, x = .ok a ∧ f a = .ok b := by
  cases x <;> simp [bind, Except.bind]

theorem map_eq_ok {x : Except ε α} {f : α → β} {b : β} :
    x.map f = .ok b ↔ ∃ a, x = .ok a ∧ f a = b := by
  cases x <;> simp [Except.map]

theorem mapError_eq_ok {x : Except ε α} {f : ε → ε'} {a : α} :
    x.mapError f = .ok a ↔ x = .ok a := by
  cases x <;> simp [Except.mapError]

theorem pure_eq_ok {a b : α} : (pure a : Except ε α) = .ok b ↔ a = b := by
  simp [pure, Except.pure]

theorem ite_error_eq_ok {p : Prop} [Decidable p] {e : ε} {x : Except ε α} {a : α} :
    (if p then .error e else x) = .ok a ↔ ¬p ∧ x = .ok a := by
  by_cases h : p <;> simp [h]

theorem ite_else_error_eq_ok {p : Prop} [Decidable p] {e : ε} {x : Except ε α} {a : α} :
    (if p then x else .error e) = .ok a ↔ p ∧ x = .ok a := by
  by_cases h : p <;> simp [h]

theorem bind_eq_error {x : Except ε α} {f : α → Except ε β} {e : ε} :
    (x >>= f) = .error e ↔ x = .error e ∨ ∃ a, x = .ok a ∧ f a = .error e := by
  cases x <;> simp [bind, Except.bind]

theorem mapError_eq_error {x : Except ε α} {f : ε → ε'} {e : ε'} :
    x.mapError f = .error e ↔ ∃ cause, x = .error cause ∧ f cause = e := by
  cases x <;> simp [Except.mapError]

theorem mapError_bind {x : Except ε α} {f : α → Except ε β} {g : ε → ε'} :
    (x >>= f).mapError g = x.mapError g >>= fun a => (f a).mapError g := by
  cases x <;> rfl

theorem mapError_mapError {ε'' : Type} {x : Except ε α} {f : ε → ε'} {g : ε' → ε''} :
    (x.mapError f).mapError g = x.mapError (g ∘ f) := by
  cases x <;> rfl

/-- A run over a list that keeps a count of what it has passed fails with the first of the elements
that fails: those before it make a run that succeeds, and those behind it do not matter. -/
theorem run_eq_error_iff {σ γ : Type} (run : σ → List α → Except ε γ) (step : σ → α → Except ε β)
    (next : σ → α → σ) (combine : β → γ → γ) {s : σ} {xs : List α} {e : ε}
    (nil : ∀ s, ∃ y, run s [] = .ok y)
    (cons : ∀ s x xs, run s (x :: xs) =
      (step s x >>= fun y => run (next s x) xs >>= fun ys => pure (combine y ys))) :
    run s xs = .error e ↔ ∃ front x back, xs = front ++ x :: back ∧
      (∃ y, run s front = .ok y) ∧ step (front.foldl next s) x = .error e := by
  induction xs generalizing s with
  | nil =>
    obtain ⟨y, done⟩ := nil s
    simp [done]
  | cons x xs ih =>
    rw [cons, bind_eq_error]
    simp only [bind_eq_error, ih, pure, Except.pure, reduceCtorEq, and_false, exists_false, or_false]
    constructor
    · rintro (failed | ⟨y, passed, front, z, back, rfl, ⟨ys, ran⟩, failed⟩)
      · exact ⟨[], x, xs, rfl, nil s, failed⟩
      · refine ⟨x :: front, z, back, rfl, ⟨combine y ys, ?_⟩, failed⟩
        rw [cons, passed, ok_bind, ran]
        rfl
    · rintro ⟨front, z, back, split, ⟨ys, ran⟩, failed⟩
      cases front with
      | nil =>
        cases split
        exact .inl failed
      | cons first front =>
        cases split
        rw [cons, bind_eq_ok] at ran
        obtain ⟨y, passed, ran⟩ := ran
        obtain ⟨zs, ran, _⟩ := bind_eq_ok.1 ran
        exact .inr ⟨y, passed, front, z, back, rfl, ⟨zs, ran⟩, failed⟩

theorem mapM_eq_ok_iff {read : β → Except ε α} {ys : List β} {xs : List α} :
    ys.mapM read = .ok xs ↔ List.Forall₂ (fun y x => read y = .ok x) ys xs := by
  induction ys generalizing xs with
  | nil =>
    rw [List.mapM_nil, pure_eq_ok, List.forall₂_nil_left_iff, eq_comm]
  | cons y ys ih =>
    simp only [List.mapM_cons, bind_eq_ok, pure_eq_ok, ih, List.forall₂_cons_left_iff]
    constructor
    · rintro ⟨x, first, rest, others, rfl⟩
      exact ⟨x, rest, first, others, rfl⟩
    · rintro ⟨x, rest, first, others, rfl⟩
      exact ⟨x, first, rest, others, rfl⟩

theorem mapM_map_eq_ok {read : β → Except ε α} {write : α → β} {xs : List α}
    (each : ∀ x ∈ xs, read (write x) = .ok x) : (xs.map write).mapM read = .ok xs := by
  rw [mapM_eq_ok_iff, List.forall₂_map_left_iff, List.forall₂_same]
  exact each

theorem toOption_bind_eq_some {x : Except ε α} {f : α → Option β} {b : β} :
    x.toOption.bind f = some b ↔ ∃ a, x = .ok a ∧ f a = some b := by
  cases x <;> simp [Except.toOption]

/-- Two outcomes are alike if both succeed, with related results, or both fail with one error. -/
inductive Alike (R : α → β → Prop) : Except ε α → Except ε β → Prop
  | ok {a : α} {b : β} (related : R a b) : Alike R (.ok a) (.ok b)
  | error (e : ε) : Alike R (.error e) (.error e)

namespace Alike

variable {γ δ : Type} {R : α → β → Prop} {x : Except ε α} {y : Except ε β}

theorem bind {S : γ → δ → Prop} {f : α → Except ε γ} {g : β → Except ε δ} (h : Alike R x y)
    (next : ∀ a b, R a b → Alike S (f a) (g b)) : Alike S (x >>= f) (y >>= g) := by
  cases h with
  | ok related => exact next _ _ related
  | error e => exact .error e

theorem bind_self {S : β → γ → Prop} {f : α → Except ε β} {g : α → Except ε γ} (x : Except ε α)
    (next : ∀ a, Alike S (f a) (g a)) : Alike S (x >>= f) (x >>= g) := by
  cases x with
  | ok a => exact next a
  | error e => exact .error e

theorem bind_eq {f : α → Except ε γ} {g : β → Except ε γ} (h : Alike R x y)
    (next : ∀ a b, R a b → f a = g b) : (x >>= f) = (y >>= g) := by
  cases h with
  | ok related => exact next _ _ related
  | error e => rfl

end Alike

end SwapPlan.Outcome
