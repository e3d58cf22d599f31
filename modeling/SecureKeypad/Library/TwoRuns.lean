import Mathlib

/-!
# Relating Two Runs

Two runs of a computation that may fail are related when both fail with the same error, or both
succeed with related values. Steps that relate their results compose.

## Main results

- `ExceptRel.bind`: what follows related steps is related
-/

/-- Both fail alike, or succeed with related values. -/
inductive ExceptRel {ε α β : Type} (R : α → β → Prop) : Except ε α → Except ε β → Prop
  | error (failure : ε) : ExceptRel R (.error failure) (.error failure)
  | ok {a : α} {b : β} : R a b → ExceptRel R (.ok a) (.ok b)

namespace ExceptRel

variable {ε ε' α β γ δ : Type} {R : α → β → Prop}

theorem refl {R : α → α → Prop} (hR : ∀ a, R a a) (x : Except ε α) : ExceptRel R x x := by
  cases x with
  | error failure => exact .error failure
  | ok a => exact .ok (hR a)

/-- What follows related steps is related. -/
theorem bind {R' : γ → δ → Prop} {x : Except ε α} {y : Except ε β} {f : α → Except ε γ}
    {g : β → Except ε δ} (h : ExceptRel R x y) (hnext : ∀ a b, R a b → ExceptRel R' (f a) (g b)) :
    ExceptRel R' (x >>= f) (y >>= g) := by
  cases h with
  | error failure => exact .error failure
  | ok hab => exact hnext _ _ hab

/-- What follows the same step is related. -/
theorem bind_same {R' : γ → δ → Prop} {x : Except ε α} {f : α → Except ε γ} {g : α → Except ε δ}
    (hnext : ∀ a, ExceptRel R' (f a) (g a)) : ExceptRel R' (x >>= f) (x >>= g) := by
  cases x with
  | error failure => exact .error failure
  | ok a => exact hnext a

theorem mapError {x : Except ε α} {y : Except ε β} (h : ExceptRel R x y) (f : ε → ε') :
    ExceptRel R (x.mapError f) (y.mapError f) := by
  cases h with
  | error failure => exact .error (f failure)
  | ok hab => exact .ok hab

/-- An option that has to be there. -/
theorem elim {x : Option α} {y : Option β} (h : Option.Rel R x y) (failure : ε) :
    ExceptRel R (x.elim (.error failure) .ok) (y.elim (.error failure) .ok) := by
  cases h with
  | none => exact .error failure
  | some hab => exact .ok hab

end ExceptRel
