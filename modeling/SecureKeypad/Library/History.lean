import SecureKeypad.Library.Machine

/-!
# Invariants With a History

What a machine has answered so far, its history, often says where it stands. Here an invariant
relates the history to the state, and holds after every run and before every entry of one.

## Main rules

- `history_invariant`: a relation between history and state that every step keeps
- `history_at`: the same before the step behind an entry of a trace
-/

namespace Machine

variable {σ ι ω : Type*} (step : σ → ι → ω × σ)

theorem trace_take (s : σ) (is : List ι) (n : ℕ) :
    (trace step s is).take n = trace step s (is.take n) := by
  induction is generalizing s n with
  | nil => rw [trace_nil, List.take_nil, List.take_nil, trace_nil]
  | cons i is ih =>
    cases n with
    | zero => rfl
    | succ n => rw [trace_cons, List.take_succ_cons, List.take_succ_cons, trace_cons, ih]

variable {step} {P : List (ι × ω) → σ → Prop} {s : σ}

/-- **What every step keeps between history and state** holds after every run. -/
theorem history_invariant (hs : P [] s)
    (hstep : ∀ past s i, P past s → P (past ++ [(i, (step s i).1)]) (step s i).2) (is : List ι) :
    P (trace step s is) (run step s is) := by
  induction is using List.reverseRecOn with
  | nil => exact hs
  | append_singleton is i ih =>
    rw [trace_snoc, run_snoc]
    exact hstep _ _ _ ih

/-- An entry of a trace is the answer of a step from a state the invariant relates to the entries
    before it. -/
theorem history_at (hs : P [] s)
    (hstep : ∀ past s i, P past s → P (past ++ [(i, (step s i).1)]) (step s i).2) {is : List ι}
    {j : ℕ} {i : ι} {o : ω} (h : (trace step s is)[j]? = some (i, o)) :
    ∃ before, P ((trace step s is).take j) before ∧ before = run step s (is.take j) ∧
      o = (step before i).1 ∧ (step before i).2 = run step s (is.take (j + 1)) ∧
      (trace step s is).take (j + 1) = (trace step s is).take j ++ [(i, o)] := by
  obtain ⟨hinput, houtput⟩ := trace_getElem?_eq_some step h
  refine ⟨_, ?_, rfl, houtput, (run_take_succ step hinput).symm, ?_⟩
  · rw [trace_take]
    exact history_invariant hs hstep _
  · rw [List.take_add_one, h, Option.toList_some]

end Machine
