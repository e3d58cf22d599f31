import SecureKeypad.Web.PasskeyChanges

/-!
# Runs of the Passkey Presentation Controller

Every schedule of host calls, host microtasks, promise reactions and browser settlements.

## Main results

- `step_inv`, `step_clear`: what one event keeps
- `passkey_controller_runs`: one ceremony at a time, cancellation is final, and when exactly the
  state the host reads is the pending state of the operation it has started
-/

namespace SecureKeypad.Web

namespace World

/-! ## Events -/

/-- The event starts an operation. -/
def Starts (world : World) (event : Event) : Prop :=
  world.stack ≠ [] ∧ world.active = none ∧
    (event = .call .createPasskey ∨ event = .call .getPasskey)

theorem nextJob_path {world : World} (h : Inv world) (hs : world.stack = []) (start : WorkStart) :
    Path world (world.nextJob start) := by
  rw [nextJob]
  cases hq : world.queue with
  | nil => exact .refl
  | cons job queue =>
    simp only
    cases hjob : job.operation with
    | none =>
      -- A microtask of the host.
      refine .same ⟨rfl, rfl, rfl, rfl, ?_, ?_⟩
      · intro k
        rw [jobsOf, jobsOf, hq, List.filter_cons_of_neg (by simp [hjob])]
      · intro k
        rw [contsOf, contsOf, hs]
        rfl
    | some k =>
      obtain ⟨op, hop⟩ := h.exists_of_job hq hjob
      simp only [hop]
      exact runJob_path h hq hjob hop hs start

/-- **What one event does** when it starts no operation. -/
theorem step_path {world : World} (h : Inv world) {event : Event} (hno : ¬ world.Starts event) :
    Path world (world.step event).2 := by
  -- A call inside a callback starts no operation, since one is already active.
  have hstart : ∀ operation, event = .call .createPasskey ∨ event = .call .getPasskey →
      world.stack ≠ [] → world.run operation = world := by
    intro operation hevent hstack
    cases hactive : world.active with
    | none => exact absurd ⟨hstack, hactive, hevent⟩ hno
    | some k => exact run_of_active hactive operation
  cases event with
  | call call =>
    simp only [step]
    split
    · exact .refl
    · next hstack =>
      cases call with
      | createPasskey =>
        rw [hostCall, hstart _ (.inl rfl) hstack]
      | getPasskey =>
        rw [hostCall, hstart _ (.inr rfl) hstack]
      | cancel => exact cancel_path h
      | getState => exact .refl
      | subscribe => exact .same ⟨rfl, rfl, rfl, rfl, fun _ => rfl, fun _ => rfl⟩
      | unsubscribe => exact .same ⟨rfl, rfl, rfl, rfl, fun _ => rfl, fun _ => rfl⟩
  -- A job of the host belongs to no operation.
  | queueMicrotask =>
    simp only [step]
    split
    · exact .refl
    · refine .same ⟨rfl, rfl, rfl, rfl, ?_, fun _ => rfl⟩
      intro k
      rw [enqueue_jobsOf, List.filter_cons_of_neg (by simp [Job.operation]), List.filter_nil,
        List.append_nil]
  | hostReturns =>
    simp only [step]
    split
    · exact .refl
    · next stack hs =>
      refine .same ⟨rfl, rfl, rfl, rfl, fun _ => rfl, ?_⟩
      intro k
      rw [contsOf, contsOf, hs]
      rfl
    · next cont stack hs => exact resume_path h hs
  | task =>
    simp only [step]
    split
    -- A task starts on an empty stack, and adds no continuation.
    · next hidle =>
      refine .same ⟨rfl, rfl, rfl, rfl, fun _ => rfl, ?_⟩
      intro k
      rw [contsOf, contsOf, hidle.1]
      rfl
    · exact .refl
  | job start =>
    simp only [step]
    split
    · next hs => exact nextJob_path h hs start
    · exact .refl
  | browser k outcome =>
    simp only [step]
    split
    · exact settleBrowser_path h k outcome
    · exact .refl

/-- An operation has released the slot, is not cancelled and its promise is not settled. -/
def Closing (world : World) : Prop :=
  ∃ k op, world.operations k = some op ∧ op.released = true ∧ op.cancelled = false ∧
    op.promise = none

theorem step_of_starts {world : World} {event : Event} (hs : world.Starts event) :
    ∃ operation, (world.step event).2 = world.run operation := by
  obtain ⟨hstack, _, rfl | rfl⟩ := hs
  · exact ⟨.registration, by simp only [step, if_neg hstack, hostCall]⟩
  · exact ⟨.authentication, by simp only [step, if_neg hstack, hostCall]⟩

/-- **One event** keeps the invariant. -/
theorem step_inv {world : World} (h : Inv world) (event : Event) : Inv (world.step event).2 := by
  by_cases hs : world.Starts event
  · obtain ⟨operation, hrun⟩ := step_of_starts hs
    rw [hrun]
    exact run_inv h operation
  · exact h.path (step_path h hs)

theorem started_clear {world : World} (h : Inv world) (hfree : world.active = none)
    (hopen : ¬ world.Closing) (operation : PasskeyOperation) :
    Clear (world.started operation) := by
  intro k op hactive hop hcancelled
  have hk : k = world.next := by
    simp only [started, push, World.occupied, Option.some.injEq] at hactive
    exact hactive.symm
  subst hk
  have hnew : (world.started operation).operations world.next = some (.new operation) :=
    Function.update_self _ _ _
  rw [hnew, Option.some.injEq] at hop
  subst hop
  refine ⟨rfl, ?_⟩
  intro j opj hj hopj
  have hold : world.operations j = some opj := by
    rw [← hopj]
    exact (Function.update_of_ne hj _ _).symm
  -- The slot is free, so the older operation has released it.
  have hreleased : opj.released = true := by
    by_contra hno
    have hactive := (h.slot j opj hold).mpr (by simpa using hno)
    rw [hfree] at hactive
    cases hactive
  by_contra hdone
  rw [not_or, not_not] at hdone
  exact hopen ⟨j, opj, hold, hreleased, by simpa using hdone.1, hdone.2⟩

/-- **One event** keeps the state the host reads the state of the active operation, unless it
    starts an operation while another one is closing. -/
theorem step_clear {world : World} (hi : Inv world) (h : Clear world) {event : Event}
    (hopen : world.Starts event → ¬ world.Closing) : Clear (world.step event).2 := by
  by_cases hs : world.Starts event
  · obtain ⟨operation, hrun⟩ := step_of_starts hs
    rw [hrun]
    exact (started_clear hi hs.2.1 (hopen hs) operation).path (started_inv hi hs.2.1 operation)
      (run_path hi hs.2.1 operation)
  · exact h.path hi (step_path hi hs)

/-! ## Every schedule -/

/-- The browser promise of operation `k` is not settled. -/
def InFlight (world : World) (k : ℕ) : Prop :=
  ∃ op, world.operations k = some op ∧ op.ceremony = .inFlight

/-- What the host reads while an operation is open is that operation's pending state, and `cancel`
    reaches the operation. -/
def Reaches (world : World) : Prop :=
  ∀ k op, world.operations k = some op → op.cancelled = false → op.promise = none →
    world.state = ⟨.pending, some op.operation, none⟩ ∧
    ∃ op', world.cancel.operations k = some op' ∧ op'.cancelled = true

theorem Inv.inFlight_unique {world : World} (h : Inv world) {j k : ℕ}
    (hj : world.InFlight j) (hk : world.InFlight k) : j = k := by
  have hheld : ∀ i, world.InFlight i → world.active = some i := by
    intro i hi
    obtain ⟨op, hop, hflight⟩ := hi
    rw [h.slot i op hop]
    by_contra hno
    have hanswered := (h.sound hop).released (by simpa using hno)
    rw [hflight] at hanswered
    cases hanswered
  have := (hheld j hj).symm.trans (hheld k hk)
  simpa using this

theorem Inv.cancelled_final {world : World} (h : Inv world) {k : ℕ} {op : Operation}
    (hop : world.operations k = some op) (hcancelled : op.cancelled = true) :
    op.announced = false ∧ op.promise ≠ some .credential := by
  have hquiet : op.announced = false := by
    by_contra hno
    have := ((h.sound hop).announced (by simpa using hno)).2
    simp_all
  refine ⟨hquiet, ?_⟩
  intro hp
  have := (h.sound hop).credential hp
  simp_all

theorem Path.cancelled {world world' : World} (hp : Path world world') {k : ℕ} {op : Operation}
    (hop : world.operations k = some op) (hc : op.cancelled = true) :
    ∃ op', world'.operations k = some op' ∧ op'.cancelled = true := by
  induction hp with
  | refl => exact ⟨op, hop, hc⟩
  | tail _ hchange ih =>
    obtain ⟨op₁, hop₁, hc₁⟩ := ih
    cases hchange with
    | same hs => exact ⟨op₁, by rw [hs.operations, hop₁], hc₁⟩
    | moves j opj opj' hm =>
      by_cases hj : k = j
      · subst hj
        rw [hm.before, Option.some.injEq] at hop₁
        subst hop₁
        exact ⟨opj', hm.after, hm.advances.cancelled hc₁⟩
      · exact ⟨op₁, by rw [hm.operations k hj, hop₁], hc₁⟩

theorem reaches_of_clear {world : World} (hi : Inv world) (h : Clear world)
    (hopen : ¬ world.Closing) : world.Reaches := by
  intro k op hop hcancelled hpromise
  have hheld : op.released = false := by
    by_contra hno
    exact hopen ⟨k, op, hop, by simpa using hno, hcancelled, hpromise⟩
  have hactive := (hi.slot k op hop).mpr hheld
  have hstate := (h k op hactive hop hcancelled).1
  refine ⟨hstate, ?_⟩
  apply (cancel_of_pending hi hactive hop (by rw [hstate])).cancelled
    (cancelling_moves hi hactive hop).after rfl

theorem not_reaches_of_closing {world : World} (hi : Inv world) (h : world.Closing) :
    ¬ world.Reaches := by
  obtain ⟨k, op, hop, hreleased, hcancelled, hpromise⟩ := h
  intro hreaches
  obtain ⟨_, op', hop', hc⟩ := hreaches k op hop hcancelled hpromise
  have hne : world.active ≠ some k := by
    rw [ne_eq, hi.slot k op hop]
    simp [hreleased]
  rw [cancel_operations_of_ne hne, hop, Option.some.injEq] at hop'
  subst hop'
  simp_all

/-- The world after the first `n` events. -/
def after (events : List Event) (n : ℕ) : World := Machine.run step .new (events.take n)

/-- Host code calls the controller with event `n`. -/
def Calls (events : List Event) (n : ℕ) : Prop :=
  (∃ call, events[n]? = some (.call call)) ∧ (after events n).stack ≠ []

theorem after_inv (events : List Event) (n : ℕ) : Inv (after events n) :=
  Machine.run_invariant step (P := Inv) (fun _ event h => step_inv h event) inv_new _

/-- No operation is started while another one is closing. -/
def StartsApart (events : List Event) : Prop :=
  ∀ n event, events[n]? = some event → (after events n).Starts event → ¬ (after events n).Closing

theorem after_clear {events : List Event} (hstarts : StartsApart events) :
    ∀ n, n ≤ events.length → Clear (after events n) := by
  intro n hn
  refine Machine.run_take_window step (Nat.zero_le n) hn clear_new ?_
  intro m event _ _ hevent hclear
  exact step_clear (after_inv events m) hclear (hstarts m event hevent)

theorem startsApart_of_calls {events : List Event}
    (hcalls : ∀ n, Calls events n → ¬ (after events n).Closing) : StartsApart events := by
  intro n event hevent hs
  apply hcalls n
  refine ⟨?_, hs.1⟩
  rcases hs.2.2 with rfl | rfl
  · exact ⟨_, hevent⟩
  · exact ⟨_, hevent⟩

end World

/-- **The passkey controller**, for every schedule: at most one ceremony is in flight; a cancelled
    operation neither publishes success nor resolves with a credential; and every call of the host
    finds the pending state of its open operation, within reach of `cancel`, exactly if no call
    comes between an uncancelled operation's release of the slot and the settlement of its
    promise. The pending state of the operation in the slot is not overwritten if no operation is
    started in that gap. -/
theorem passkey_controller_runs (events : List Event) :
    (∀ n j k, (World.after events n).InFlight j → (World.after events n).InFlight k → j = k) ∧
    (∀ n k op, (World.after events n).operations k = some op → op.cancelled = true →
      op.announced = false ∧ op.promise ≠ some .credential) ∧
    ((∀ n, World.Calls events n → (World.after events n).Reaches) ↔
      ∀ n, World.Calls events n → ¬ (World.after events n).Closing) ∧
    (World.StartsApart events → ∀ n, n ≤ events.length → (World.after events n).Clear) := by
  refine ⟨?_, ?_, ⟨?_, ?_⟩, World.after_clear⟩
  · intro n j k hj hk
    exact (World.after_inv events n).inFlight_unique hj hk
  · intro n k op hop hc
    exact (World.after_inv events n).cancelled_final hop hc
  · intro hreaches n hcall hclosing
    exact World.not_reaches_of_closing (World.after_inv events n) hclosing (hreaches n hcall)
  · intro hcalls n hcall
    have hn : n ≤ events.length := by
      obtain ⟨⟨call, hget⟩, _⟩ := hcall
      exact (List.getElem?_eq_some_iff.mp hget).1.le
    exact World.reaches_of_clear (World.after_inv events n)
      (World.after_clear (World.startsApart_of_calls hcalls) n hn) (hcalls n hcall)

/-- A registration ends while microtasks of the host run beside it; the third of them asks for an
    authentication between the release of the slot and the publication of the success. -/
def interleaved : List Event :=
  [.task, .call .createPasskey, .hostReturns, .job .begins, .job .begins,
    -- The browser answers in a task in which the host enqueues a microtask.
    .task, .browser 0 .credential, .queueMicrotask, .hostReturns,
    .job .begins,
    .job .begins, .queueMicrotask, .hostReturns,
    .job .begins,
    .job .begins, .queueMicrotask, .hostReturns,
    -- `release` and `raceWork`, then the microtask, then `onRace`.
    .job .begins, .job .begins,
    .job .begins, .call .getPasskey, .hostReturns,
    .job .begins, .job .begins, .job .begins, .job .begins,
    .task, .call .getState]

/-- The success of the registration stands over the pending authentication, whose ceremony is in
    flight, and `cancel` does nothing. -/
theorem success_overwrites_pending :
    World.Calls interleaved 27 ∧ ¬ (World.after interleaved 27).Reaches ∧
    (World.after interleaved 27).state = ⟨.success, some .registration, none⟩ ∧
    (World.after interleaved 27).InFlight 1 := by
  have hstate : (World.after interleaved 27).state = ⟨.success, some .registration, none⟩ := by
    decide +kernel
  have hop : (World.after interleaved 27).operations 1 = some
      { Operation.new .authentication with
        attached := true, ceremony := .inFlight, adopting := true } := by
    decide +kernel
  refine ⟨⟨⟨.getState, rfl⟩, by decide +kernel⟩, ?_, hstate, ⟨_, hop, rfl⟩⟩
  intro hreaches
  have hpending := (hreaches 1 _ hop rfl rfl).1
  rw [hstate] at hpending
  cases hpending

end SecureKeypad.Web
