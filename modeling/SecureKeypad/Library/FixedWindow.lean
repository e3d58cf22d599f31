import SecureKeypad.Library.Machine

/-!
# Fixed-Window Admission

A fixed-window limiter admits at most `limit` checks of a key in each window. A window opens with
an admitted check, which leaves `limit - 1`, and lasts `length`. What such a limiter promises is
stated on its answers alone: an answer that leaves `limit - 1` opens a window.

## Main definitions

- `Answer`, `answers`: what a run shows of each check
- `WindowLaw`: windows of a key are apart, every admitted check lies in one, and each holds at
  most `limit` of them
- `Refinement`: a machine whose state shows the open window of every key

## Main results

- `window_kept`: an open window stays until its end, its count never falling
- `allowed_add_ncard`: within a window the answers count down without gaps
- `windowLaw_of_refinement`: every run of a refinement obeys the window law
-/

namespace FixedWindow

open Machine

universe u v w

variable {σ : Type u} {ι : Type v} {ω : Type w} {κ : Type*}

/-! ## Answers -/

/-- What a check shows: its key, its time, and how many attempts it left if it was admitted. -/
structure Answer (κ : Type*) where
  key : κ
  now : ℕ
  allowed : Option ℕ

/-- The answers of a run. -/
def answers (observe : ι → ω → Answer κ) (step : σ → ι → ω × σ) (s : σ) (is : List ι) :
    List (Answer κ) :=
  (trace step s is).map fun p => observe p.1 p.2

/-- The answer at position `p` opens a window of `k` at time `start`. -/
def OpensAt (limit : ℕ) (log : List (Answer κ)) (k : κ) (start p : ℕ) : Prop :=
  log[p]? = some ⟨k, start, some (limit - 1)⟩

/-- The positions of the checks admitted in the window opened at position `p`. -/
def admitted (length : ℕ) (log : List (Answer κ)) (k : κ) (start p : ℕ) : Set ℕ :=
  {q | p ≤ q ∧ ∃ t r, log[q]? = some ⟨k, t, some r⟩ ∧ t < start + length}

/-- **The window law.** -/
structure WindowLaw (limit length : ℕ) (log : List (Answer κ)) : Prop where
  /-- A window admits at most `limit` checks. -/
  bounded : ∀ k start p, OpensAt limit log k start p →
    (admitted length log k start p).encard ≤ limit
  /-- Every admitted check lies in a window. -/
  covered : ∀ q k t r, log[q]? = some ⟨k, t, some r⟩ →
    ∃ start p, OpensAt limit log k start p ∧ q ∈ admitted length log k start p
  /-- Windows of one key do not overlap. -/
  apart : ∀ k start start' p p', OpensAt limit log k start p → OpensAt limit log k start' p' →
    p < p' → start + length ≤ start'

/-- The answer under another name of its key. -/
def Answer.mapKey {κ' : Type*} (f : κ → κ') (answer : Answer κ) : Answer κ' :=
  ⟨f answer.key, answer.now, answer.allowed⟩

/-- The window law holds of a log if it holds after renaming its keys apart. -/
theorem WindowLaw.of_mapKey {κ' : Type*} {limit length : ℕ} {log : List (Answer κ)} {f : κ → κ'}
    (hinj : Set.InjOn f {k | ∃ answer ∈ log, answer.key = k})
    (h : WindowLaw limit length (log.map (Answer.mapKey f))) : WindowLaw limit length log := by
  have hmap : ∀ {q : ℕ} {k : κ} {t : ℕ} {r : Option ℕ}, log[q]? = some ⟨k, t, r⟩ →
      (log.map (Answer.mapKey f))[q]? = some ⟨f k, t, r⟩ := by
    intro q k t r hq
    rw [List.getElem?_map, hq]
    rfl
  refine ⟨?_, ?_, ?_⟩
  · intro k start p hopens
    refine le_trans (Set.encard_le_encard ?_) (h.bounded (f k) start p (hmap hopens))
    rintro q ⟨hpq, t, r, hq, ht⟩
    exact ⟨hpq, t, r, hmap hq, ht⟩
  · intro q k t r hq
    obtain ⟨start, p, hopens, hpq, t', r', hq', ht'⟩ := h.covered q (f k) t r (hmap hq)
    rw [hmap hq] at hq'
    cases hq'
    rw [OpensAt, List.getElem?_map, Option.map_eq_some_iff] at hopens
    obtain ⟨⟨k', t', r'⟩, hp, hanswer⟩ := hopens
    simp only [Answer.mapKey, Answer.mk.injEq] at hanswer
    obtain ⟨hk, rfl, rfl⟩ := hanswer
    have hkk' : k' = k := hinj ⟨_, List.mem_of_getElem? hp, rfl⟩ ⟨_, List.mem_of_getElem? hq, rfl⟩ hk
    subst hkk'
    exact ⟨t', p, hp, hpq, t, r, hq, ht'⟩
  · intro k start start' p p' hopens hopens'
    exact h.apart (f k) start start' p p' (hmap hopens) (hmap hopens')

/-! ## Refinement -/

/-- The window of a key: when it opened and how many checks it has admitted. -/
structure Window where
  startedAt : ℕ
  attempts : ℕ
deriving DecidableEq

/-- A machine whose state shows, through `window`, the last window of every key. -/
structure Refinement (limit length : ℕ) (step : σ → ι → ω × σ) (observe : ι → ω → Answer κ)
    (clock : σ → ℕ) (window : σ → κ → Option Window) (Inv : σ → Prop) : Prop where
  /-- The invariant is kept by every step. -/
  inv : ∀ s i, Inv s → Inv (step s i).2
  /-- Checks read a clock that does not go back. -/
  clock_le : ∀ s i, clock s ≤ (observe i (step s i).1).now
  /-- The state remembers the last reading. -/
  clock_eq : ∀ s i, clock (step s i).2 = (observe i (step s i).1).now
  /-- An open window is left alone by every check but an admitted one of its key. -/
  keeps : ∀ s i k w, Inv s → window s k = some w →
    (observe i (step s i).1).now < w.startedAt + length →
    ((observe i (step s i).1).key = k → (observe i (step s i).1).allowed = none) →
    window (step s i).2 k = some w
  /-- An admitted check counts in the open window, or opens one. -/
  admits : ∀ s i k t r, Inv s → observe i (step s i).1 = ⟨k, t, some r⟩ →
    (∃ w, window s k = some w ∧ t < w.startedAt + length ∧ 0 < w.attempts ∧
      w.attempts < limit ∧ r = limit - (w.attempts + 1) ∧
      window (step s i).2 k = some ⟨w.startedAt, w.attempts + 1⟩) ∨
    ((∀ w, window s k = some w → w.startedAt + length ≤ t) ∧ r = limit - 1 ∧
      window (step s i).2 k = some ⟨t, 1⟩)
  /-- A window after a step was there before it or was opened by it. -/
  appears : ∀ s i k w, Inv s → window (step s i).2 k = some w →
    (∃ w', window s k = some w' ∧ w'.startedAt = w.startedAt) ∨
    observe i (step s i).1 = ⟨k, w.startedAt, some (limit - 1)⟩

section Law

variable {limit length : ℕ} {step : σ → ι → ω × σ} {observe : ι → ω → Answer κ}
  {clock : σ → ℕ} {window : σ → κ → Option Window} {Inv : σ → Prop} {s : σ} {is : List ι}

/-- An answer is the one of the step taken after the inputs before it. -/
theorem answers_getElem? {p : ℕ} {answer : Answer κ}
    (h : (answers observe step s is)[p]? = some answer) :
    ∃ i, is[p]? = some i ∧ observe i (step (run step s (is.take p)) i).1 = answer := by
  rw [answers, List.getElem?_map, Option.map_eq_some_iff] at h
  obtain ⟨⟨i, o⟩, htrace, hanswer⟩ := h
  obtain ⟨hi, ho⟩ := trace_getElem?_eq_some step htrace
  subst ho
  exact ⟨i, hi, hanswer⟩

theorem answers_of_getElem? {p : ℕ} {i : ι} (h : is[p]? = some i) :
    (answers observe step s is)[p]? =
      some (observe i (step (run step s (is.take p)) i).1) := by
  rw [answers, List.getElem?_map, trace_getElem?_of_getElem? step h, Option.map_some]

/-- Time does not go back between two checks. -/
theorem now_le {p q : ℕ} {i j : ι} (R : Refinement limit length step observe clock window Inv)
    (hi : is[p]? = some i) (hpq : p < q) :
    (observe i (step (run step s (is.take p)) i).1).now ≤
      (observe j (step (run step s (is.take q)) j).1).now := by
  have hmono : clock (run step s (is.take (p + 1))) ≤ clock (run step s (is.take q)) :=
    run_take_mono step (f := clock) (fun s i => (R.clock_le s i).trans (R.clock_eq s i).ge) s is hpq
  rw [run_take_succ step hi, R.clock_eq] at hmono
  exact hmono.trans (R.clock_le _ j)

/-- An open window stays until its end, and its count does not fall. -/
theorem window_kept (R : Refinement limit length step observe clock window Inv) (hs : Inv s)
    {k : κ} {start n a b : ℕ} {j : ι} (hab : a ≤ b) (hj : is[b]? = some j)
    (ha : window (run step s (is.take a)) k = some ⟨start, n⟩)
    (hopen : (observe j (step (run step s (is.take b)) j).1).now < start + length) :
    ∃ m, n ≤ m ∧ window (run step s (is.take b)) k = some ⟨start, m⟩ := by
  have hb : b ≤ is.length := (List.getElem?_eq_some_iff.mp hj).1.le
  refine run_take_window step (P := fun s => ∃ m, n ≤ m ∧ window s k = some ⟨start, m⟩) hab hb
    ⟨n, le_refl n, ha⟩ ?_
  rintro c i - hcb hi ⟨m, hnm, hwindow⟩
  have hinv : Inv (run step s (is.take c)) := run_invariant step R.inv hs _
  have hnow := (now_le (s := s) (j := j) R hi hcb).trans_lt hopen
  generalize hanswer : observe i (step (run step s (is.take c)) i).1 = answer at hnow
  obtain ⟨k', t, allowed⟩ := answer
  by_cases hcount : k' = k ∧ allowed ≠ none
  · obtain ⟨rfl, hallowed⟩ := hcount
    obtain ⟨r, rfl⟩ := Option.ne_none_iff_exists'.mp hallowed
    rcases R.admits _ _ _ _ _ hinv hanswer with ⟨w, hw, -, -, -, -, hafter⟩ | ⟨hover, -, -⟩
    · rw [hwindow, Option.some.injEq] at hw
      subst hw
      exact ⟨m + 1, hnm.trans (Nat.le_succ m), hafter⟩
    · exact absurd (hover _ hwindow) (not_le.mpr hnow)
  · refine ⟨m, hnm, R.keeps _ _ _ _ hinv hwindow (by rw [hanswer]; exact hnow) ?_⟩
    rw [hanswer]
    intro hk
    exact not_not.mp fun hne => hcount ⟨hk, hne⟩

/-- An opening leaves a window with one admitted check. -/
theorem window_of_opensAt (R : Refinement limit length step observe clock window Inv) (hs : Inv s)
    {k : κ} {start p : ℕ} (h : OpensAt limit (answers observe step s is) k start p) :
    window (run step s (is.take (p + 1))) k = some ⟨start, 1⟩ := by
  obtain ⟨i, hi, hanswer⟩ := answers_getElem? h
  have hinv : Inv (run step s (is.take p)) := run_invariant step R.inv hs _
  rw [run_take_succ step hi]
  rcases R.admits _ _ _ _ _ hinv hanswer with ⟨w, -, -, hpos, hlt, hr, -⟩ | ⟨-, -, hafter⟩
  · omega
  · exact hafter

/-- A window was opened by an earlier check. -/
theorem opensAt_of_window (R : Refinement limit length step observe clock window Inv)
    (hs : Inv s) (hempty : ∀ k, window s k = none) {k : κ} {w : Window} {n : ℕ}
    (hn : n ≤ is.length) (h : window (run step s (is.take n)) k = some w) :
    ∃ p < n, OpensAt limit (answers observe step s is) k w.startedAt p := by
  induction n generalizing w with
  | zero =>
    rw [List.take_zero, run_nil, hempty] at h
    cases h
  | succ n ih =>
    have hget : is[n]? = some is[n] := List.getElem?_eq_getElem hn
    have hinv : Inv (run step s (is.take n)) := run_invariant step R.inv hs _
    rw [run_take_succ step hget] at h
    rcases R.appears _ _ _ _ hinv h with ⟨w', hw', hstart⟩ | hopens
    · obtain ⟨p, hp, hopens⟩ := ih (Nat.le_of_succ_le hn) hw'
      exact ⟨p, hp.trans (Nat.lt_succ_self n), hstart ▸ hopens⟩
    · refine ⟨n, Nat.lt_succ_self n, ?_⟩
      rw [OpensAt, answers_of_getElem? hget, hopens]

/-- After an admitted check of a window, what it left is what the window's count leaves. -/
theorem window_of_admitted (R : Refinement limit length step observe clock window Inv)
    (hs : Inv s) (hlimit : 0 < limit) {k : κ} {start p q t r : ℕ}
    (hopens : OpensAt limit (answers observe step s is) k start p) (hpq : p ≤ q)
    (hq : (answers observe step s is)[q]? = some ⟨k, t, some r⟩) (ht : t < start + length) :
    ∃ m, window (run step s (is.take (q + 1))) k = some ⟨start, m⟩ ∧ 0 < m ∧ m ≤ limit ∧
      r = limit - m := by
  rcases Nat.eq_or_lt_of_le hpq with rfl | hlt
  · rw [OpensAt, hq] at hopens
    cases hopens
    exact ⟨1, window_of_opensAt R hs hq, Nat.one_pos, hlimit, rfl⟩
  · obtain ⟨i, hi, hanswer⟩ := answers_getElem? hq
    have hinv : Inv (run step s (is.take q)) := run_invariant step R.inv hs _
    obtain ⟨m, -, hwindow⟩ := window_kept R hs hlt hi (window_of_opensAt R hs hopens)
      (by rw [hanswer]; exact ht)
    rw [run_take_succ step hi]
    rcases R.admits _ _ _ _ _ hinv hanswer with ⟨w, hw, -, -, hlt, hr, hafter⟩ | ⟨hover, -, -⟩
    · rw [hwindow, Option.some.injEq] at hw
      subst hw
      exact ⟨m + 1, hafter, Nat.succ_pos m, hlt, hr⟩
    · exact absurd (hover _ hwindow) (not_le.mpr ht)

/-- Within a window every admitted check leaves less than the ones before it. -/
theorem allowed_lt_of_admitted (R : Refinement limit length step observe clock window Inv)
    (hs : Inv s) (hlimit : 0 < limit) {k : κ} {start p q q' t t' r r' : ℕ}
    (hopens : OpensAt limit (answers observe step s is) k start p) (hpq : p ≤ q) (hqq' : q < q')
    (hq : (answers observe step s is)[q]? = some ⟨k, t, some r⟩) (ht : t < start + length)
    (hq' : (answers observe step s is)[q']? = some ⟨k, t', some r'⟩)
    (ht' : t' < start + length) : r' < r := by
  obtain ⟨m, hwindow, -, -, rfl⟩ := window_of_admitted R hs hlimit hopens hpq hq ht
  obtain ⟨i, hi, hanswer⟩ := answers_getElem? hq'
  have hinv : Inv (run step s (is.take q')) := run_invariant step R.inv hs _
  obtain ⟨m', hmm', hwindow'⟩ := window_kept R hs hqq' hi hwindow (by rw [hanswer]; exact ht')
  rcases R.admits _ _ _ _ _ hinv hanswer with ⟨w, hw, -, -, hlt, rfl, -⟩ | ⟨hover, -, -⟩
  · rw [hwindow', Option.some.injEq] at hw
    subst hw
    dsimp only at hlt ⊢
    omega
  · exact absurd (hover _ hwindow') (not_le.mpr ht')

/-- A window admits no more checks than there are values for what they leave. -/
theorem encard_admitted_le (R : Refinement limit length step observe clock window Inv)
    (hs : Inv s) (hlimit : 0 < limit) {k : κ} {start p : ℕ}
    (hopens : OpensAt limit (answers observe step s is) k start p) :
    (admitted length (answers observe step s is) k start p).encard ≤ limit := by
  let left : ℕ → ℕ := fun q => (((answers observe step s is)[q]?.bind Answer.allowed)).getD 0
  have hleft : ∀ {q t r}, (answers observe step s is)[q]? = some ⟨k, t, some r⟩ → left q = r := by
    intro q t r hq
    simp only [left, hq, Option.bind_some, Option.getD_some]
  have hmaps : Set.MapsTo left (admitted length (answers observe step s is) k start p)
      (Finset.range limit : Finset ℕ) := by
    rintro q ⟨hpq, t, r, hq, ht⟩
    obtain ⟨m, -, hpos, -, rfl⟩ := window_of_admitted R hs hlimit hopens hpq hq ht
    rw [hleft hq, Finset.mem_coe, Finset.mem_range]
    omega
  have hinj : Set.InjOn left (admitted length (answers observe step s is) k start p) := by
    rintro q ⟨hpq, t, r, hq, ht⟩ q' ⟨hpq', t', r', hq', ht'⟩ heq
    rw [hleft hq, hleft hq'] at heq
    rcases Nat.lt_trichotomy q q' with hlt | rfl | hlt
    · exact absurd heq.symm
        (allowed_lt_of_admitted R hs hlimit hopens hpq hlt hq ht hq' ht').ne
    · rfl
    · exact absurd heq
        (allowed_lt_of_admitted R hs hlimit hopens hpq' hlt hq' ht' hq ht).ne
  calc (admitted length (answers observe step s is) k start p).encard
      ≤ ((Finset.range limit : Finset ℕ) : Set ℕ).encard :=
        Set.encard_le_encard_of_injOn hmaps hinj
    _ = limit := by rw [Set.encard_coe_eq_coe_finsetCard, Finset.card_range]

/-- The count of an open window is the number of checks it has admitted. -/
theorem attempts_eq_ncard (R : Refinement limit length step observe clock window Inv)
    (hs : Inv s) (hlength : 0 < length) {k : κ} {start p b m : ℕ} {j : ι}
    (hopens : OpensAt limit (answers observe step s is) k start p) (hpb : p < b)
    (hj : is[b]? = some j)
    (hopen : (observe j (step (run step s (is.take b)) j).1).now < start + length)
    (hm : window (run step s (is.take b)) k = some ⟨start, m⟩) :
    {q ∈ admitted length (answers observe step s is) k start p | q < b}.ncard = m := by
  -- The induction is on the position; each admitted check adds itself to the set and to the count.
  have hb : b ≤ is.length := (List.getElem?_eq_some_iff.mp hj).1.le
  have hset : ∀ n, {q ∈ admitted length (answers observe step s is) k start p | q < n}.Finite :=
    fun n => (Set.finite_lt_nat n).subset fun q hq => hq.2
  suffices h : ∃ m', window (run step s (is.take b)) k = some ⟨start, m'⟩ ∧
      {q ∈ admitted length (answers observe step s is) k start p | q < b}.ncard = m' by
    obtain ⟨m', hm', hcard⟩ := h
    rw [hm, Option.some.injEq, Window.mk.injEq] at hm'
    rw [hcard, hm'.2]
  clear hm
  induction b, hpb using Nat.le_induction generalizing j with
  | base =>
    refine ⟨1, window_of_opensAt R hs hopens, ?_⟩
    have hsingle : {q ∈ admitted length (answers observe step s is) k start p | q < p + 1} =
        {p} := by
      ext q
      constructor
      · rintro ⟨⟨hpq, -⟩, hlt⟩
        exact Nat.le_antisymm (Nat.le_of_lt_succ hlt) hpq
      · rintro rfl
        exact ⟨⟨le_refl q, start, limit - 1, hopens, Nat.lt_add_of_pos_right hlength⟩,
          Nat.lt_succ_self q⟩
    rw [hsingle, Set.ncard_singleton]
  | succ n hpn ih =>
    have hlt : n < is.length := hb
    have hget : is[n]? = some is[n] := List.getElem?_eq_getElem hlt
    have hinv : Inv (run step s (is.take n)) := run_invariant step R.inv hs _
    have hnow := (now_le (s := s) (j := j) R hget (Nat.lt_succ_self n)).trans_lt hopen
    obtain ⟨m, hwindow, hcard⟩ := ih hget hnow hlt.le
    rw [run_take_succ step hget]
    generalize hanswer : observe is[n] (step (run step s (is.take n)) is[n]).1 = answer at hnow
    obtain ⟨k', t, allowed⟩ := answer
    have hlog : (answers observe step s is)[n]? = some ⟨k', t, allowed⟩ := by
      rw [answers_of_getElem? hget, hanswer]
    by_cases hcount : k' = k ∧ allowed ≠ none
    · obtain ⟨rfl, hallowed⟩ := hcount
      obtain ⟨r, rfl⟩ := Option.ne_none_iff_exists'.mp hallowed
      have hinsert : {q ∈ admitted length (answers observe step s is) k' start p | q < n + 1} =
          insert n {q ∈ admitted length (answers observe step s is) k' start p | q < n} := by
        ext q
        constructor
        · rintro ⟨hq, hlt⟩
          rcases Nat.lt_succ_iff_lt_or_eq.mp hlt with hlt' | rfl
          · exact .inr ⟨hq, hlt'⟩
          · exact .inl rfl
        · rintro (rfl | ⟨hq, hlt'⟩)
          · exact ⟨⟨(Nat.lt_of_succ_le hpn).le, t, r, hlog, hnow⟩, Nat.lt_succ_self q⟩
          · exact ⟨hq, hlt'.trans (Nat.lt_succ_self n)⟩
      rcases R.admits _ _ _ _ _ hinv hanswer with ⟨w, hw, -, -, -, -, hafter⟩ | ⟨hover, -, -⟩
      · rw [hwindow, Option.some.injEq] at hw
        subst hw
        refine ⟨m + 1, hafter, ?_⟩
        rw [hinsert, Set.ncard_insert_of_notMem (fun hmem => lt_irrefl n hmem.2) (hset n), hcard]
      · exact absurd (hover _ hwindow) (not_le.mpr hnow)
    · -- Any other answer leaves the window and the set as they are.
      refine ⟨m, R.keeps _ _ _ _ hinv hwindow (by rw [hanswer]; exact hnow) ?_, ?_⟩
      · rw [hanswer]
        intro hk
        exact not_not.mp fun hne => hcount ⟨hk, hne⟩
      · rw [← hcard]
        congr 1
        ext q
        constructor
        · rintro ⟨hq, hlt'⟩
          refine ⟨hq, lt_of_le_of_ne (Nat.le_of_lt_succ hlt') ?_⟩
          rintro rfl
          obtain ⟨-, t', r', hq', -⟩ := hq
          rw [hlog] at hq'
          cases hq'
          exact hcount ⟨rfl, by simp⟩
        · rintro ⟨hq, hlt'⟩
          exact ⟨hq, hlt'.trans (Nat.lt_succ_self n)⟩

/-- **Countdown.** What an admitted check leaves and the number of checks the window has admitted
    up to it add up to the limit. -/
theorem allowed_add_ncard (R : Refinement limit length step observe clock window Inv)
    (hs : Inv s) (hlimit : 0 < limit) (hlength : 0 < length) {k : κ} {start p q t r : ℕ}
    (hopens : OpensAt limit (answers observe step s is) k start p) (hpq : p ≤ q)
    (hq : (answers observe step s is)[q]? = some ⟨k, t, some r⟩) (ht : t < start + length) :
    r + {q' ∈ admitted length (answers observe step s is) k start p | q' ≤ q}.ncard = limit := by
  have hfinite : {q' ∈ admitted length (answers observe step s is) k start p | q' < q}.Finite :=
    (Set.finite_lt_nat q).subset fun q' hq' => hq'.2
  -- The admitted requests up to this one are those before it and itself.
  have hinsert : {q' ∈ admitted length (answers observe step s is) k start p | q' ≤ q} =
      insert q {q' ∈ admitted length (answers observe step s is) k start p | q' < q} := by
    ext q'
    constructor
    · rintro ⟨hq', hle⟩
      rcases Nat.eq_or_lt_of_le hle with rfl | hlt
      · exact .inl rfl
      · exact .inr ⟨hq', hlt⟩
    · rintro (rfl | ⟨hq', hlt⟩)
      · exact ⟨⟨hpq, t, r, hq, ht⟩, le_refl q'⟩
      · exact ⟨hq', hlt.le⟩
  rw [hinsert, Set.ncard_insert_of_notMem (fun hmem => lt_irrefl q hmem.2) hfinite]
  obtain ⟨i, hi, hanswer⟩ := answers_getElem? hq
  rcases Nat.eq_or_lt_of_le hpq with rfl | hlt
  · have hempty : {q' ∈ admitted length (answers observe step s is) k start p | q' < p} = ∅ := by
      apply Set.eq_empty_of_forall_notMem
      rintro q' ⟨⟨hle, -⟩, hlt⟩
      exact absurd hlt (not_lt.mpr hle)
    rw [OpensAt, hq] at hopens
    cases hopens
    rw [hempty, Set.ncard_empty]
    omega
  -- What the window has counted before this request is what was admitted before it.
  · have hinv : Inv (run step s (is.take q)) := run_invariant step R.inv hs _
    have hopen : (observe i (step (run step s (is.take q)) i).1).now < start + length := by
      rw [hanswer]
      exact ht
    obtain ⟨m, -, hwindow⟩ := window_kept R hs hlt hi (window_of_opensAt R hs hopens) hopen
    rw [attempts_eq_ncard R hs hlength hopens hlt hi hopen hwindow]
    rcases R.admits _ _ _ _ _ hinv hanswer with ⟨w, hw, -, -, hroom, hr, -⟩ | ⟨hover, -, -⟩
    · rw [hwindow, Option.some.injEq] at hw
      subst hw
      dsimp only at hroom hr
      omega
    · exact absurd (hover _ hwindow) (not_le.mpr ht)

/-- **Every run of a refinement obeys the window law**, started with no window. -/
theorem windowLaw_of_refinement (R : Refinement limit length step observe clock window Inv)
    (hs : Inv s) (hempty : ∀ k, window s k = none) (hlimit : 0 < limit) (hlength : 0 < length)
    (is : List ι) : WindowLaw limit length (answers observe step s is) where
  bounded _ _ _ hopens := encard_admitted_le R hs hlimit hopens
  covered := by
    intro q k t r hq
    obtain ⟨i, hi, hanswer⟩ := answers_getElem? hq
    have hinv : Inv (run step s (is.take q)) := run_invariant step R.inv hs _
    rcases R.admits _ _ _ _ _ hinv hanswer with ⟨w, hw, ht, -⟩ | ⟨-, rfl, -⟩
    · have hlen : q ≤ is.length := (List.getElem?_eq_some_iff.mp hi).1.le
      obtain ⟨p, hp, hopens⟩ := opensAt_of_window R hs hempty hlen hw
      exact ⟨w.startedAt, p, hopens, hp.le, t, r, hq, ht⟩
    · exact ⟨t, q, hq, le_refl q, t, limit - 1, hq, Nat.lt_add_of_pos_right hlength⟩
  apart := by
    intro k start start' p p' hopens hopens' hpp'
    by_contra hlt
    rw [not_le] at hlt
    -- A check inside an open window counts there; it cannot leave `limit - 1` again.
    exact absurd rfl (allowed_lt_of_admitted R hs hlimit hopens (le_refl p) hpp' hopens
      (Nat.lt_add_of_pos_right hlength) hopens' hlt).ne

end Law

end FixedWindow
