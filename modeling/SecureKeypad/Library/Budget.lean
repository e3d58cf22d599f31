import Mathlib

/-!
# Computations under a Budget

A recursive traversal that counts its visits and refuses to go on when there were too many, or
when a requirement fails. What a part of it costs at most is found from the costs of its parts, so
that a whole traversal is seen to stay within the budget.

## Main results

- `Affords.bind`: the costs of two parts add up
- `bind_eq_some`, `require_bind_eq_some`: what a computation that went through went through
- `sum_map_le`: entries with names of their own cost no more than all the names allowed
-/

/-- A computation under a budget: the visits made so far are its state, `none` is a refusal. -/
abbrev Budget (α : Type) := StateT ℕ Option α

namespace Budget

variable {α β : Type}

/-- One visit more, of at most `limit`. -/
def visit (limit : ℕ) : Budget Unit := fun used =>
  if used + 1 ≤ limit then some ((), used + 1) else none

/-- Nothing, unless the condition fails. -/
def require (condition : Prop) [Decidable condition] : Budget Unit := fun used =>
  if condition then some ((), used) else none

/-- Where the budget has room for so many visits, the computation goes through with no more than
    these, and its result is as stated. -/
def Affords (limit : ℕ) (m : Budget α) (cost : ℕ) (post : α → Prop) : Prop :=
  ∀ used, used + cost ≤ limit → ∃ a used', m used = some (a, used') ∧ used' ≤ used + cost ∧ post a

variable {limit cost cost' : ℕ} {post : α → Prop} {post' : β → Prop} {m : Budget α}

theorem Affords.pure {a : α} (h : post a) : Affords limit (pure a) 0 post :=
  fun used _ => ⟨a, used, rfl, Nat.le_add_right _ _, h⟩

theorem affords_visit : Affords limit (visit limit) 1 fun _ => True :=
  fun used hroom => ⟨(), used + 1, if_pos hroom, le_rfl, trivial⟩

theorem affords_require {condition : Prop} [Decidable condition] (h : condition) :
    Affords limit (require condition) 0 fun _ => True :=
  fun used _ => ⟨(), used, if_pos h, Nat.le_add_right _ _, trivial⟩

/-- What one part costs and what the next one costs behind it. -/
theorem Affords.bind {f : α → Budget β} (hm : Affords limit m cost post)
    (hf : ∀ a, post a → Affords limit (f a) cost' post') :
    Affords limit (m >>= f) (cost + cost') post' := by
  intro used hroom
  obtain ⟨a, used', hrun, hused, ha⟩ := hm used (by omega)
  obtain ⟨b, used'', hrun', hused', hb⟩ := hf a ha used' (by omega)
  refine ⟨b, used'', ?_, by omega, hb⟩
  show (m used).bind (fun result => f result.1 result.2) = _
  rw [hrun]
  exact hrun'

/-- A computation of two parts that goes through goes through both. -/
theorem bind_eq_some {f : α → Budget β} {used : ℕ} {result : β × ℕ}
    (h : (m >>= f) used = some result) :
    ∃ a used', m used = some (a, used') ∧ f a used' = some result := by
  obtain ⟨⟨a, used'⟩, hm, hf⟩ := Option.bind_eq_some_iff.mp h
  exact ⟨a, used', hm, hf⟩

/-- What is behind a requirement is come to when it is met. -/
theorem require_bind_eq_some {condition : Prop} [Decidable condition] {f : Unit → Budget β}
    {used : ℕ} {result : β × ℕ} (h : (require condition >>= f) used = some result) :
    condition ∧ f () used = some result := by
  obtain ⟨_, used', hrequire, hf⟩ := bind_eq_some h
  rw [require] at hrequire
  split at hrequire
  · next hcondition =>
    cases hrequire
    exact ⟨hcondition, hf⟩
  · cases hrequire

/-- A bound may be larger, a statement weaker. -/
theorem Affords.mono {post₂ : α → Prop} (h : Affords limit m cost post) (hcost : cost ≤ cost')
    (hpost : ∀ a, post a → post₂ a) : Affords limit m cost' post₂ := by
  intro used hroom
  obtain ⟨a, used', hrun, hused, ha⟩ := h used (by omega)
  exact ⟨a, used', hrun, by omega, hpost a ha⟩

/-- What names without repetition cost is at most what all allowed names cost. -/
theorem sum_map_le {κ : Type} [DecidableEq κ] {cost : κ → ℕ} {names allowed : List κ}
    (hnodup : names.Nodup) (hsub : names ⊆ allowed) :
    (names.map cost).sum ≤ (allowed.map cost).sum := by
  obtain ⟨kept, hperm, hkept⟩ := List.subperm_of_subset hnodup hsub
  calc (names.map cost).sum = (kept.map cost).sum := ((hperm.map cost).sum_eq).symm
    _ ≤ (allowed.map cost).sum := (hkept.map cost).sum_le_sum fun _ _ => Nat.zero_le _

end Budget
