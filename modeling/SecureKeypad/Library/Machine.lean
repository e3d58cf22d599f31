import Mathlib

/-!
# Input/Output Machines and Their Runs

A machine is a total step function `σ → ι → ω × σ`: it reads an input, answers an output
and moves to the next state. This module fixes what a whole run of such a machine is and
gives the rules by which a property of one step becomes a property of every run.

## Main definitions

- `Machine.run`: the state after a list of inputs
- `Machine.trace`: the answered inputs of that run, in order
- `Machine.Ledger.RedeemsOnce`: the one-time contract on a list of issue/redeem events

## Main rules

- `run_invariant`: an inductive invariant holds after every run
- `run_related`: a reflexive and transitive relation between neighbouring states holds
  between any two states of a run
- `run_take_window`: what a stretch of a run keeps, it keeps from its first to its last state
- `trace_getElem?_eq_some`: the `j`-th answer is the answer of the step taken after the
  first `j` inputs
- `trace_filter_eq_of_unwinding`: an observer of some inputs sees the run on those inputs
- `redeemsOnce_of_refinement`: a machine whose store is tracked by a `pending` view honours
  the one-time contract on every run
-/

namespace Machine

universe u v w

variable {σ : Type u} {ι : Type v} {ω : Type w}

/-! ## Runs -/

/-- The state reached from `s` after the inputs, oldest first. -/
def run (step : σ → ι → ω × σ) (s : σ) (inputs : List ι) : σ :=
  inputs.foldl (fun s i => (step s i).2) s

/-- The inputs of a run, each with its answer. -/
def trace (step : σ → ι → ω × σ) : σ → List ι → List (ι × ω)
  | _, [] => []
  | s, i :: is => (i, (step s i).1) :: trace step (step s i).2 is

variable (step : σ → ι → ω × σ)

@[simp] theorem run_nil (s : σ) : run step s [] = s := rfl

@[simp] theorem run_cons (s : σ) (i : ι) (is : List ι) :
    run step s (i :: is) = run step (step s i).2 is := rfl

theorem run_append (s : σ) (is js : List ι) :
    run step s (is ++ js) = run step (run step s is) js := by
  simp only [run, List.foldl_append]

theorem run_snoc (s : σ) (is : List ι) (i : ι) :
    run step s (is ++ [i]) = (step (run step s is) i).2 := by
  rw [run_append, run_cons, run_nil]

@[simp] theorem trace_nil (s : σ) : trace step s [] = [] := rfl

@[simp] theorem trace_cons (s : σ) (i : ι) (is : List ι) :
    trace step s (i :: is) = (i, (step s i).1) :: trace step (step s i).2 is := rfl

theorem trace_append (s : σ) (is js : List ι) :
    trace step s (is ++ js) = trace step s is ++ trace step (run step s is) js := by
  induction is generalizing s with
  | nil => rfl
  | cons i is ih => simp only [List.cons_append, trace_cons, run_cons, ih]

theorem trace_snoc (s : σ) (is : List ι) (i : ι) :
    trace step s (is ++ [i]) = trace step s is ++ [(i, (step (run step s is) i).1)] := by
  rw [trace_append]
  rfl

@[simp] theorem length_trace (s : σ) (is : List ι) : (trace step s is).length = is.length := by
  induction is generalizing s with
  | nil => rfl
  | cons i is ih => simp only [trace_cons, List.length_cons, ih]

/-- The `j`-th entry of a trace is the step taken in the state after the first `j` inputs. -/
theorem trace_getElem?_eq_some {s : σ} {is : List ι} {j : ℕ} {i : ι} {o : ω}
    (h : (trace step s is)[j]? = some (i, o)) :
    is[j]? = some i ∧ o = (step (run step s (is.take j)) i).1 := by
  induction is generalizing s j with
  | nil => simp at h
  | cons i₀ is ih =>
    cases j with
    | zero =>
      simp only [trace_cons, List.getElem?_cons_zero, Option.some.injEq, Prod.mk.injEq] at h
      obtain ⟨rfl, rfl⟩ := h
      exact ⟨rfl, rfl⟩
    | succ j =>
      simp only [trace_cons, List.getElem?_cons_succ] at h
      obtain ⟨hi, ho⟩ := ih h
      exact ⟨by simpa using hi, by simpa using ho⟩

/-- One more input: the next state is the step taken in the state after the first `j`. -/
theorem run_take_succ {s : σ} {is : List ι} {j : ℕ} {i : ι} (h : is[j]? = some i) :
    run step s (is.take (j + 1)) = (step (run step s (is.take j)) i).2 := by
  rw [List.take_add_one, h, Option.toList_some, run_snoc]

/-- Every input of a run has its entry in the trace. -/
theorem trace_getElem?_of_getElem? {s : σ} {is : List ι} {j : ℕ} {i : ι} (h : is[j]? = some i) :
    (trace step s is)[j]? = some (i, (step (run step s (is.take j)) i).1) := by
  induction is generalizing s j with
  | nil => simp at h
  | cons i₀ is ih =>
    cases j with
    | zero =>
      rw [List.getElem?_cons_zero, Option.some.injEq] at h
      subst h
      rfl
    | succ j =>
      rw [List.getElem?_cons_succ] at h
      rw [trace_cons, List.getElem?_cons_succ, List.take_succ_cons, run_cons]
      exact ih h

/-! ## Invariants of whole runs -/

/-- Inductive invariants hold after every run. -/
theorem run_invariant {P : σ → Prop} (hstep : ∀ s i, P s → P (step s i).2)
    {s : σ} (h : P s) (is : List ι) : P (run step s is) := by
  induction is generalizing s with
  | nil => exact h
  | cons i is ih => exact ih (hstep s i h)

/-- A reflexive and transitive relation kept by every step (from states satisfying an
    inductive invariant) relates the first and the last state of every run. -/
theorem run_related {P : σ → Prop} {R : σ → σ → Prop} (hrefl : ∀ s, R s s)
    (htrans : ∀ {a b c}, R a b → R b c → R a c)
    (hinv : ∀ s i, P s → P (step s i).2) (hstep : ∀ s i, P s → R s (step s i).2)
    {s : σ} (h : P s) (is : List ι) : R s (run step s is) := by
  induction is generalizing s with
  | nil => exact hrefl s
  | cons i is ih => exact htrans (hstep s i h) (ih (hinv s i h))

/-- What holds after `a` inputs and is kept by each of the inputs `a, …, b - 1` holds after
    `b` inputs. -/
theorem run_take_window {P : σ → Prop} {s : σ} {is : List ι} {a b : ℕ} (hab : a ≤ b)
    (hb : b ≤ is.length) (ha : P (run step s (is.take a)))
    (hstep : ∀ n i, a ≤ n → n < b → is[n]? = some i → P (run step s (is.take n)) →
      P (step (run step s (is.take n)) i).2) :
    P (run step s (is.take b)) := by
  induction b, hab using Nat.le_induction with
  | base => exact ha
  | succ n hn ih =>
    have hlt : n < is.length := hb
    have hget : is[n]? = some is[n] := List.getElem?_eq_getElem hlt
    rw [run_take_succ step hget]
    apply hstep n _ hn (Nat.lt_succ_self n) hget
    apply ih (Nat.le_of_lt hlt)
    intro m i hm hmn
    exact hstep m i hm (Nat.lt_succ_of_lt hmn)

/-- A measure no step lowers is monotone along a run. -/
theorem run_take_mono {β : Type*} [Preorder β] {f : σ → β} (hstep : ∀ s i, f s ≤ f (step s i).2)
    (s : σ) (is : List ι) {a b : ℕ} (hab : a ≤ b) :
    f (run step s (is.take a)) ≤ f (run step s (is.take b)) := by
  have hsplit : is.take b = is.take a ++ (is.take b).drop a := by
    conv_lhs => rw [← List.take_append_drop a (is.take b), List.take_take, Nat.min_eq_left hab]
  rw [hsplit, run_append]
  exact run_related step (P := fun _ => True) (R := fun s s' => f s ≤ f s') (fun _ => le_refl _)
    le_trans (fun _ _ _ => trivial) (fun s i _ => hstep s i) trivial _

/-- An entry of a trace is the step taken in the state before it. -/
theorem exists_of_mem_trace {s : σ} {is : List ι} {p : ι × ω} (h : p ∈ trace step s is) :
    ∃ n, is[n]? = some p.1 ∧ p.2 = (step (run step s (is.take n)) p.1).1 := by
  obtain ⟨n, hn⟩ := List.mem_iff_getElem?.mp h
  exact ⟨n, trace_getElem?_eq_some step hn⟩

/-! ## Two runs

What an observer sees of a run is the answers to its own inputs. `R` relates a run, the inputs
still to come and a run that is only given the selected ones. -/

/-- **Unwinding.** If an unselected input keeps the related run where it is and a selected one is
    answered alike by both, the selected answers are those of the run on the selected inputs. -/
theorem trace_filter_eq_of_unwinding (sel : ι → Bool) {R : List ι → σ → σ → Prop}
    (hskip : ∀ i is s t, R (i :: is) s t → sel i = false → R is (step s i).2 t)
    (htake : ∀ i is s t, R (i :: is) s t → sel i = true →
      (step s i).1 = (step t i).1 ∧ R is (step s i).2 (step t i).2)
    {is : List ι} {s t : σ} (h : R is s t) :
    (trace step s is).filter (fun p => sel p.1) = trace step t (is.filter sel) := by
  induction is generalizing s t with
  | nil => rfl
  | cons i is ih =>
    rw [trace_cons]
    cases hsel : sel i with
    | false =>
      rw [List.filter_cons_of_neg (by simpa using hsel), List.filter_cons_of_neg (by simpa using hsel)]
      exact ih (hskip i is s t h hsel)
    | true =>
      obtain ⟨hanswer, hrest⟩ := htake i is s t h hsel
      rw [List.filter_cons_of_pos (by simpa using hsel), List.filter_cons_of_pos hsel, trace_cons,
        hanswer, ih hrest]

/-! ## The one-time contract

A one-time store issues a value under a handle with an expiry and later redeems it. What
such a store is for is stated on its event list alone: every redemption is paid for by an
earlier issue of the same value under the same handle, redeemed before its expiry, and no
issue pays for two redemptions. -/

namespace Ledger

variable {H : Type*} {V : Type*}

/-- An observable event of a one-time store. -/
inductive Event (H : Type*) (V : Type*) where
  /-- The value `v` was stored under the handle `h` until `expiresAt`. -/
  | issue (h : H) (v : V) (expiresAt : ℕ)
  /-- The value `v` was handed out for the handle `h` by a call reading the clock as `now`. -/
  | redeem (h : H) (v : V) (now : ℕ)
  /-- Nothing was stored or handed out. -/
  | quiet

/-- Position `j` of the event list is a redemption. -/
def IsRedeem (events : List (Event H V)) (j : ℕ) : Prop :=
  ∃ h v t, events[j]? = some (.redeem h v t)

/-- `source` names, for every redemption, the earlier issue that paid for it. -/
def PaidBy (events : List (Event H V)) (source : ℕ → ℕ) : Prop :=
  ∀ j h v t, events[j]? = some (.redeem h v t) →
    source j < j ∧ ∃ e, events[source j]? = some (.issue h v e) ∧ t < e

/-- **The one-time contract**: every redemption is paid for by an earlier, unexpired issue of
    the same value under the same handle, and no issue pays twice. -/
def RedeemsOnce (events : List (Event H V)) : Prop :=
  ∃ source : ℕ → ℕ, PaidBy events source ∧ Set.InjOn source {j | IsRedeem events j}

/-- The entries of `pending` that still have an unspent issue to their name. -/
private def Backed (events : List (Event H V)) (source : ℕ → ℕ)
    (pending : H → Option (V × ℕ)) : Prop :=
  ∀ h v e, pending h = some (v, e) →
    ∃ k, events[k]? = some (.issue h v e) ∧ ∀ j, IsRedeem events j → source j ≠ k

private theorem isRedeem_lt {events : List (Event H V)} {j : ℕ} (h : IsRedeem events j) :
    j < events.length := by
  obtain ⟨_, _, _, hj⟩ := h
  exact (List.getElem?_eq_some_iff.mp hj).1

private theorem isRedeem_snoc {events : List (Event H V)} {ev : Event H V} {j : ℕ}
    (h : IsRedeem (events ++ [ev]) j) :
    IsRedeem events j ∨ (j = events.length ∧ ∃ h v t, ev = .redeem h v t) := by
  obtain ⟨k, v, t, hj⟩ := h
  rcases Nat.lt_trichotomy j events.length with hlt | heq | hgt
  · rw [List.getElem?_append_left hlt] at hj
    exact .inl ⟨k, v, t, hj⟩
  · subst heq
    rw [List.getElem?_concat_length, Option.some.injEq] at hj
    exact .inr ⟨rfl, k, v, t, hj⟩
  · rw [List.getElem?_eq_none (by simp; omega)] at hj
    cases hj

private theorem getElem?_snoc_of_some {events : List (Event H V)} {ev x : Event H V} {k : ℕ}
    (h : events[k]? = some x) : (events ++ [ev])[k]? = some x := by
  rw [List.getElem?_append_left (List.getElem?_eq_some_iff.mp h).1]
  exact h

/-- Extending the list by an event that is not a redemption keeps the contract. -/
private theorem paidBy_snoc_of_not_redeem {events : List (Event H V)} {ev : Event H V}
    {source : ℕ → ℕ} (hev : ∀ h v t, ev ≠ .redeem h v t) (hp : PaidBy events source) :
    PaidBy (events ++ [ev]) source := by
  intro j h v t hj
  rcases isRedeem_snoc ⟨h, v, t, hj⟩ with hr | ⟨rfl, h', v', t', rfl⟩
  · rw [List.getElem?_append_left (isRedeem_lt hr)] at hj
    obtain ⟨hlt, e, hk, hte⟩ := hp j h v t hj
    exact ⟨hlt, e, getElem?_snoc_of_some hk, hte⟩
  · exact absurd rfl (hev h' v' t')

/-- Extending the list by a redemption of a backed entry keeps the contract: the new
    redemption is charged to the unspent issue. -/
private theorem paidBy_snoc_redeem {events : List (Event H V)} {source : ℕ → ℕ}
    {h : H} {v : V} {t e k : ℕ} (hp : PaidBy events source)
    (hk : events[k]? = some (.issue h v e)) (hte : t < e) :
    PaidBy (events ++ [.redeem h v t]) (Function.update source events.length k) := by
  intro j h' v' t' hj
  rcases isRedeem_snoc ⟨h', v', t', hj⟩ with hr | ⟨rfl, _⟩
  · have hlt := isRedeem_lt hr
    rw [List.getElem?_append_left hlt] at hj
    obtain ⟨hsrc, e', hk', hte'⟩ := hp j h' v' t' hj
    rw [Function.update_of_ne (Nat.ne_of_lt hlt)]
    exact ⟨hsrc, e', getElem?_snoc_of_some hk', hte'⟩
  · rw [List.getElem?_concat_length, Option.some.injEq, Event.redeem.injEq] at hj
    obtain ⟨rfl, rfl, rfl⟩ := hj
    rw [Function.update_self]
    exact ⟨(List.getElem?_eq_some_iff.mp hk).1, e, getElem?_snoc_of_some hk, hte⟩

/-- A machine refines a one-time store through `pending` when entries appear only by an
    `issue` and a `redeem` removes the unexpired entry it hands out. -/
structure Refinement (step : σ → ι → ω × σ) (observe : ι → ω → Event H V)
    (pending : σ → H → Option (V × ℕ)) (Inv : σ → Prop) : Prop where
  /-- The invariant is kept by every step. -/
  inv : ∀ s i, Inv s → Inv (step s i).2
  /-- An entry after a step was there before it or was issued by it. -/
  appears : ∀ s i h v e, Inv s → pending (step s i).2 h = some (v, e) →
    pending s h = some (v, e) ∨ observe i (step s i).1 = .issue h v e
  /-- A redemption hands out a pending entry, before its expiry. -/
  redeems : ∀ s i h v t, Inv s → observe i (step s i).1 = .redeem h v t →
    ∃ e, pending s h = some (v, e) ∧ t < e
  /-- A redemption removes the entry it hands out. -/
  removes : ∀ s i h v t, Inv s → observe i (step s i).1 = .redeem h v t →
    pending (step s i).2 h = none

/-- The events of a run. -/
def events (observe : ι → ω → Event H V) (step : σ → ι → ω × σ) (s : σ) (is : List ι) :
    List (Event H V) :=
  (trace step s is).map fun p => observe p.1 p.2

theorem events_snoc (observe : ι → ω → Event H V) (s : σ) (is : List ι) (i : ι) :
    events observe step s (is ++ [i]) =
      events observe step s is ++ [observe i (step (run step s is) i).1] := by
  simp only [events, trace_snoc, List.map_append, List.map_cons, List.map_nil]

/-- **The one-time rule**: every run of a machine that refines a one-time store, started with
    nothing pending, honours the one-time contract. -/
theorem redeemsOnce_of_refinement {step : σ → ι → ω × σ} {observe : ι → ω → Event H V}
    {pending : σ → H → Option (V × ℕ)} {Inv : σ → Prop}
    (R : Refinement step observe pending Inv) {s : σ} (hs : Inv s)
    (hempty : ∀ h, pending s h = none) (is : List ι) :
    RedeemsOnce (events observe step s is) := by
  -- The induction is on the run, newest input last; `Backed` is what carries it.
  suffices h : ∃ source, PaidBy (events observe step s is) source ∧
      Set.InjOn source {j | IsRedeem (events observe step s is) j} ∧
      Backed (events observe step s is) source (pending (run step s is)) by
    obtain ⟨source, hp, hinj, _⟩ := h
    exact ⟨source, hp, hinj⟩
  induction is using List.reverseRecOn with
  | nil =>
    refine ⟨id, ?_, ?_, ?_⟩
    · intro j h v t hj
      simp [events] at hj
    · intro j hj
      obtain ⟨h, v, t, hj⟩ := hj
      simp [events] at hj
    · intro h v e he
      rw [run_nil, hempty] at he
      cases he
  | append_singleton is i ih =>
    obtain ⟨source, hp, hinj, hback⟩ := ih
    have hinv : Inv (run step s is) := run_invariant step R.inv hs is
    rw [events_snoc, run_snoc]
    generalize hev : observe i (step (run step s is) i).1 = ev
    generalize hes : events observe step s is = es at hp hinj hback ⊢
    by_cases hred : ∃ h v t, ev = .redeem h v t
    · obtain ⟨h, v, t, rfl⟩ := hred
      obtain ⟨e, hpend, hte⟩ := R.redeems _ _ _ _ _ hinv hev
      obtain ⟨k, hk, hfresh⟩ := hback h v e hpend
      refine ⟨Function.update source es.length k, paidBy_snoc_redeem hp hk hte, ?_, ?_⟩
      · -- The charged issue was unspent, so the extended charge map stays injective.
        intro a ha b hb hab
        rcases isRedeem_snoc ha with ha' | ⟨rfl, _⟩ <;> rcases isRedeem_snoc hb with hb' | ⟨rfl, _⟩
        · rw [Function.update_of_ne (Nat.ne_of_lt (isRedeem_lt ha')),
            Function.update_of_ne (Nat.ne_of_lt (isRedeem_lt hb'))] at hab
          exact hinj ha' hb' hab
        · rw [Function.update_of_ne (Nat.ne_of_lt (isRedeem_lt ha')), Function.update_self] at hab
          exact absurd hab (hfresh a ha')
        · rw [Function.update_of_ne (Nat.ne_of_lt (isRedeem_lt hb')), Function.update_self] at hab
          exact absurd hab.symm (hfresh b hb')
        · rfl
      · intro h' v' e' hpend'
        rcases R.appears _ _ _ _ _ hinv hpend' with hold | hissue
        · -- An old entry under another handle keeps its own issue.
          have hne : h' ≠ h := by
            rintro rfl
            rw [R.removes _ _ _ _ _ hinv hev] at hpend'
            cases hpend'
          obtain ⟨k', hk', hfresh'⟩ := hback h' v' e' hold
          refine ⟨k', getElem?_snoc_of_some hk', ?_⟩
          intro j hj
          rcases isRedeem_snoc hj with hj' | ⟨rfl, _⟩
          · rw [Function.update_of_ne (Nat.ne_of_lt (isRedeem_lt hj'))]
            exact hfresh' j hj'
          · rw [Function.update_self]
            rintro rfl
            rw [hk, Option.some.injEq, Event.issue.injEq] at hk'
            exact hne hk'.1.symm
        · rw [hev] at hissue
          cases hissue
    · have hev' : ∀ h v t, ev ≠ .redeem h v t := fun h v t he => hred ⟨h, v, t, he⟩
      have hold : ∀ j, IsRedeem (es ++ [ev]) j → IsRedeem es j := by
        intro j hj
        rcases isRedeem_snoc hj with hj' | ⟨_, h, v, t, he⟩
        · exact hj'
        · exact absurd he (hev' h v t)
      refine ⟨source, paidBy_snoc_of_not_redeem hev' hp, ?_, ?_⟩
      · intro a ha b hb hab
        exact hinj (hold a ha) (hold b hb) hab
      · intro h v e hpend
        rcases R.appears _ _ _ _ _ hinv hpend with hp' | hissue
        · obtain ⟨k, hk, hfresh⟩ := hback h v e hp'
          exact ⟨k, getElem?_snoc_of_some hk, fun j hj => hfresh j (hold j hj)⟩
        · -- A fresh entry is backed by the issue just appended, which nothing can have charged.
          rw [hev] at hissue
          subst hissue
          refine ⟨es.length, List.getElem?_concat_length, ?_⟩
          intro j hj hsrc
          obtain ⟨h', v', t', hj'⟩ := hold j hj
          have hlt := (hp j h' v' t' hj').1
          have := isRedeem_lt ⟨h', v', t', hj'⟩
          omega

end Ledger

end Machine
