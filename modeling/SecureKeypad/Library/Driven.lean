import SecureKeypad.Library.Machine

/-!
# A Machine That Drives Another

Every step of an outer machine is one step of an inner machine inside it, on an input that the outer
state decides. What is known of every run of the inner machine then holds of the part of an outer
run that the inner machine does.

## Main rules

- `Drives.run_take`: the inner state after any number of outer steps
- `Drives.outputs`: the inner answers, read off the outer ones
-/

namespace Machine

variable {σ ι ω τ κ π : Type*}

/-- The inputs an outer run gives to the inner machine. -/
def driven (outer : σ → ι → ω × σ) (give : σ → ι → κ) : σ → List ι → List κ
  | _, [] => []
  | s, i :: is => give s i :: driven outer give (outer s i).2 is

/-- From states with the invariant `P`, a step of `outer` is the step of `inner` on what it gives
    it: `view` finds the inner state and `see` the inner answer. -/
structure Drives (outer : σ → ι → ω × σ) (inner : τ → κ → π × τ) (give : σ → ι → κ)
    (view : σ → τ) (see : ω → π) (P : σ → Prop) : Prop where
  inv : ∀ s i, P s → P (outer s i).2
  answer : ∀ s i, P s → (inner (view s) (give s i)).1 = see (outer s i).1
  state : ∀ s i, P s → (inner (view s) (give s i)).2 = view (outer s i).2

theorem driven_take (outer : σ → ι → ω × σ) (give : σ → ι → κ) (s : σ) (is : List ι) (n : ℕ) :
    (driven outer give s is).take n = driven outer give s (is.take n) := by
  induction is generalizing s n with
  | nil => rw [List.take_nil, driven, List.take_nil]
  | cons i is ih =>
    cases n with
    | zero => rfl
    | succ n => rw [driven, List.take_succ_cons, List.take_succ_cons, driven, ih]

namespace Drives

variable {outer : σ → ι → ω × σ} {inner : τ → κ → π × τ} {give : σ → ι → κ} {view : σ → τ}
  {see : ω → π} {P : σ → Prop}

theorem run (h : Drives outer inner give view see P) {s : σ} (hs : P s) (is : List ι) :
    run inner (view s) (driven outer give s is) = view (run outer s is) := by
  induction is generalizing s with
  | nil => rfl
  | cons i is ih => rw [driven, run_cons, run_cons, h.state s i hs, ih (h.inv s i hs)]

/-- The inner run after `n` inputs stands where the outer one does. -/
theorem run_take (h : Drives outer inner give view see P) {s : σ} (hs : P s) (is : List ι) (n : ℕ) :
    Machine.run inner (view s) ((driven outer give s is).take n) =
      view (Machine.run outer s (is.take n)) := by
  rw [driven_take]
  exact h.run hs _

/-- The inner run answers what is seen of the outer one. -/
theorem outputs (h : Drives outer inner give view see P) {s : σ} (hs : P s) (is : List ι) :
    (trace inner (view s) (driven outer give s is)).map Prod.snd =
      (trace outer s is).map fun entry => see entry.2 := by
  induction is generalizing s with
  | nil => rfl
  | cons i is ih =>
    rw [driven, trace_cons, trace_cons, List.map_cons, List.map_cons, h.answer s i hs,
      h.state s i hs, ih (h.inv s i hs)]

end Drives

end Machine
