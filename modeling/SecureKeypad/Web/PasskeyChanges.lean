import SecureKeypad.Web.PasskeyOperation

/-!
# Changes of the Passkey Controller's World

Every step of the controller that starts no operation is a `Path` of changes, each of which moves
one operation and leaves the others alone.

## Main results

- `Inv.path`: a path keeps the invariant
- `Clear.path`: a path keeps the state the host reads the state of the operation in the slot
- `resume_path`, `cancel_path`, `runJob_path`, `settleBrowser_path`: the steps are paths
-/

namespace SecureKeypad.Web

/-! ## The invariant of a world -/

namespace World

/-- The jobs of operation `k`, in queue order. -/
def jobsOf (world : World) (k : ℕ) : List Job := world.queue.filter (·.operation = some k)

/-- The calls of operation `k` on the stack, innermost first. -/
def contsOf (world : World) (k : ℕ) : List Cont := world.stack.filterMap (Frame.contOf k)

/-- What operation `k` owns is sound; an operation that was not started owns nothing. -/
def Owned (world : World) (k : ℕ) : Prop :=
  match world.operations k with
  | none => world.jobsOf k = [] ∧ world.contsOf k = []
  | some op => Sound op (world.jobsOf k) (world.contsOf k)

/-- The invariant of every schedule. -/
structure Inv (world : World) : Prop where
  owned : ∀ k, world.Owned k
  fresh : ∀ k, world.next ≤ k → world.operations k = none
  /-- The slot belongs to the one operation that has not released it. -/
  slot : ∀ k op, world.operations k = some op → (world.active = some k ↔ op.released = false)
  holder : ∀ k, world.active = some k → (world.operations k).isSome = true

theorem inv_new : Inv .new where
  owned _ := ⟨rfl, rfl⟩
  fresh _ _ := rfl
  slot _ _ h := by cases h
  holder _ h := by cases h

/-! ## What a step does to the other operations -/

section Modify

variable (world : World) (k : ℕ) (f : Operation → Operation)

theorem modify_operations_self {op : Operation} (h : world.operations k = some op) :
    (world.modify k f).operations k = some (f op) := by
  simp only [modify, Function.update_self, h, Option.map_some]

theorem modify_operations_of_ne {j : ℕ} (h : j ≠ k) :
    (world.modify k f).operations j = world.operations j :=
  Function.update_of_ne h _ _

@[simp] theorem modify_state : (world.modify k f).state = world.state := rfl

@[simp] theorem modify_active : (world.modify k f).active = world.active := rfl

@[simp] theorem modify_next : (world.modify k f).next = world.next := rfl

@[simp] theorem modify_listeners : (world.modify k f).listeners = world.listeners := rfl

@[simp] theorem modify_jobsOf (j : ℕ) : (world.modify k f).jobsOf j = world.jobsOf j := rfl

@[simp] theorem modify_contsOf (j : ℕ) : (world.modify k f).contsOf j = world.contsOf j := rfl

end Modify

section Enqueue

variable (world : World) (jobs : List Job)

@[simp] theorem enqueue_state : (world.enqueue jobs).state = world.state := rfl

@[simp] theorem enqueue_active : (world.enqueue jobs).active = world.active := rfl

@[simp] theorem enqueue_next : (world.enqueue jobs).next = world.next := rfl

@[simp] theorem enqueue_operations : (world.enqueue jobs).operations = world.operations := rfl

@[simp] theorem enqueue_contsOf (j : ℕ) : (world.enqueue jobs).contsOf j = world.contsOf j := rfl

theorem enqueue_jobsOf (j : ℕ) :
    (world.enqueue jobs).jobsOf j =
      world.jobsOf j ++ jobs.filter (fun job => decide (job.operation = some j)) :=
  List.filter_append _ _

theorem enqueue_jobsOf_self {k : ℕ} (h : ∀ job ∈ jobs, job.operation = some k) :
    (world.enqueue jobs).jobsOf k = world.jobsOf k ++ jobs := by
  rw [enqueue_jobsOf, List.filter_eq_self.mpr fun job hjob => by simp [h job hjob]]

end Enqueue

/-- Between the two worlds only operation `k` has changed. -/
structure Touches (k : ℕ) (world world' : World) : Prop where
  operations : ∀ j, j ≠ k → world'.operations j = world.operations j
  jobs : ∀ j, j ≠ k → world'.jobsOf j = world.jobsOf j
  conts : ∀ j, j ≠ k → world'.contsOf j = world.contsOf j
  active : ∀ j, j ≠ k → (world'.active = some j ↔ world.active = some j)

namespace Touches

variable {k : ℕ} {world world' world'' : World}

theorem trans (h : Touches k world world') (h' : Touches k world' world'') :
    Touches k world world'' where
  operations j hj := (h'.operations j hj).trans (h.operations j hj)
  jobs j hj := (h'.jobs j hj).trans (h.jobs j hj)
  conts j hj := (h'.conts j hj).trans (h.conts j hj)
  active j hj := (h'.active j hj).trans (h.active j hj)

theorem modify (world : World) (k : ℕ) (f : Operation → Operation) :
    Touches k world (world.modify k f) where
  operations _ hj := modify_operations_of_ne world k f hj
  jobs _ _ := rfl
  conts _ _ := rfl
  active _ _ := Iff.rfl

theorem enqueue (world : World) {jobs : List Job} (h : ∀ job ∈ jobs, job.operation = some k) :
    Touches k world (world.enqueue jobs) where
  operations _ _ := rfl
  jobs j hj := by
    have hnone : jobs.filter (fun job => decide (job.operation = some j)) = [] := by
      rw [List.filter_eq_nil_iff]
      intro job hjob
      simp [h job hjob, Ne.symm hj]
    rw [enqueue_jobsOf, hnone, List.append_nil]
  conts _ _ := rfl
  active _ _ := Iff.rfl

/-- A job of `k` leaves the queue. -/
theorem dequeue {job : Job} {queue : List Job} (h : world.queue = job :: queue)
    (hjob : job.operation = some k) : Touches k world { world with queue } where
  operations _ _ := rfl
  jobs j hj := by
    rw [jobsOf, jobsOf, h, List.filter_cons_of_neg]
    simp [hjob, Ne.symm hj]
  conts _ _ := rfl
  active _ _ := Iff.rfl

/-- A `publish` of `k` goes to the listeners. -/
theorem push (world : World) (state : PresentationState) {cont : Cont}
    (h : cont.operation = k) :
    Touches k world { world with state, stack := .listeners cont :: world.stack } where
  operations _ _ := rfl
  jobs _ _ := rfl
  conts j hj := by
    have hnone : Frame.contOf j (.listeners cont) = none := by
      rw [Frame.contOf, if_neg (by rw [h]; exact Ne.symm hj)]
    rw [contsOf, contsOf, List.filterMap_cons_none hnone]
  active _ _ := Iff.rfl

/-- The listeners of a `publish` of `k` have returned. -/
theorem pop {cont : Cont} {stack : List Frame} (hs : world.stack = .listeners cont :: stack)
    (h : cont.operation = k) : Touches k world { world with stack } where
  operations _ _ := rfl
  jobs _ _ := rfl
  conts j hj := by
    have hnone : Frame.contOf j (.listeners cont) = none := by
      rw [Frame.contOf, if_neg (by rw [h]; exact Ne.symm hj)]
    rw [contsOf, contsOf, hs, List.filterMap_cons_none hnone]
  active _ _ := Iff.rfl

end Touches

theorem Inv.sound {world : World} (h : Inv world) {k : ℕ} {op : Operation}
    (hop : world.operations k = some op) : Sound op (world.jobsOf k) (world.contsOf k) := by
  have howned := h.owned k
  rwa [Owned, hop] at howned

/-- A change to one operation keeps the invariant if it keeps what the operation owns sound. -/
theorem Inv.touch {world world' : World} (h : Inv world) {k : ℕ} {op : Operation}
    (ht : Touches k world world') (hnext : world.next ≤ world'.next) (hk : k < world'.next)
    (hop : world'.operations k = some op)
    (hslot : world'.active = some k ↔ op.released = false)
    (hsound : Sound op (world'.jobsOf k) (world'.contsOf k)) : Inv world' where
  -- What was touched is sound by `hsound`; the rest is as it was.
  owned j := by
    by_cases hj : j = k
    · subst hj
      rw [Owned, hop]
      exact hsound
    · have howned := h.owned j
      rw [Owned] at howned ⊢
      rwa [ht.operations j hj, ht.jobs j hj, ht.conts j hj]
  fresh j hj := by
    rw [ht.operations j (by omega)]
    exact h.fresh j (by omega)
  slot j opj hopj := by
    by_cases hj : j = k
    · subst hj
      rw [hop, Option.some.injEq] at hopj
      subst hopj
      exact hslot
    · rw [ht.operations j hj] at hopj
      rw [ht.active j hj]
      exact h.slot j opj hopj
  holder j hj := by
    by_cases hjk : j = k
    · rw [hjk, hop]
      rfl
    · rw [ht.operations j hjk]
      exact h.holder j ((ht.active j hjk).mp hj)

theorem Inv.lt_next {world : World} (h : Inv world) {k : ℕ} {op : Operation}
    (hop : world.operations k = some op) : k < world.next := by
  by_contra hle
  rw [h.fresh k (by omega)] at hop
  cases hop

/-! ## Changes -/

/-- The controller and its operations are as they were. -/
structure Same (world world' : World) : Prop where
  state : world'.state = world.state
  active : world'.active = world.active
  next : world'.next = world.next
  operations : world'.operations = world.operations
  jobs : ∀ k, world'.jobsOf k = world.jobsOf k
  conts : ∀ k, world'.contsOf k = world.contsOf k

/-- Operation `k` moves from `op` to `op'`. -/
structure Moves (k : ℕ) (op op' : Operation) (world world' : World) : Prop extends
    Touches k world world' where
  before : world.operations k = some op
  after : world'.operations k = some op'
  advances : op.Advances op'
  kept : op'.operation = op.operation
  settled : op.promise ≠ none → op'.promise ≠ none
  next : world'.next = world.next
  slot : world'.active = some k ↔ op'.released = false
  sound : Sound op' (world'.jobsOf k) (world'.contsOf k)
  /-- A state is published by an operation that is being settled or cancelled. -/
  published : world'.state = world.state ∨
    (op.cancelled = false ∧ op.promise = none ∧ op.released = true) ∨
    (op'.cancelled = true ∧ op.released = false)

/-- What an event that starts no operation does, in one or two changes. -/
inductive Change (world world' : World) : Prop where
  | same (h : Same world world')
  | moves (k : ℕ) (op op' : Operation) (h : Moves k op op' world world')

/-- Several changes. -/
abbrev Path : World → World → Prop := Relation.ReflTransGen Change

theorem Path.same {world world' : World} (h : Same world world') : Path world world' :=
  .single (.same h)

theorem Path.moves {k : ℕ} {op op' : Operation} {world world' : World}
    (h : Moves k op op' world world') : Path world world' :=
  .single (.moves k op op' h)

theorem Inv.change {world world' : World} (h : Inv world) (hc : Change world world') :
    Inv world' := by
  cases hc with
  | same hs =>
    refine ⟨?_, ?_, ?_, ?_⟩
    · intro k
      have howned := h.owned k
      rw [Owned] at howned ⊢
      rwa [hs.operations, hs.jobs, hs.conts]
    · rw [hs.operations, hs.next]
      exact h.fresh
    · rw [hs.operations, hs.active]
      exact h.slot
    · rw [hs.operations, hs.active]
      exact h.holder
  | moves k op op' hm =>
    have hk := h.lt_next hm.before
    rw [← hm.next] at hk
    exact h.touch hm.toTouches hm.next.ge hk hm.after hm.slot hm.sound

theorem Inv.path {world world' : World} (h : Inv world) (hp : Path world world') : Inv world' := by
  induction hp with
  | refl => exact h
  | tail _ hc ih => exact ih.change hc

/-- The active operation is the one whose state the host reads, and no other operation has
    anything left to publish. -/
def Clear (world : World) : Prop :=
  ∀ k op, world.active = some k → world.operations k = some op → op.cancelled = false →
    world.state = ⟨.pending, some op.operation, none⟩ ∧
    ∀ j opj, j ≠ k → world.operations j = some opj → opj.cancelled = true ∨ opj.promise ≠ none

theorem clear_new : Clear .new := by
  intro k op hactive
  cases hactive

theorem Clear.change {world world' : World} (hi : Inv world) (h : Clear world)
    (hc : Change world world') : Clear world' := by
  cases hc with
  | same hs =>
    intro k op hactive hop
    rw [hs.active] at hactive
    rw [hs.operations] at hop ⊢
    rw [hs.state]
    exact h k op hactive hop
  | moves j opj opj' hm =>
    intro k op hactive hop hcancelled
    by_cases hkj : k = j
    · -- The active operation itself has moved: it has neither been cancelled nor settled.
      subst hkj
      have heq : op = opj' := Option.some.inj (hop.symm.trans hm.after)
      subst heq
      have hheld : opj.released = false := by
        by_contra hr
        have := hm.advances.released (by simpa using hr)
        have := hm.slot.mp hactive
        simp_all
      have hlive : opj.cancelled = false := by
        by_contra hc
        have := hm.advances.cancelled (by simpa using hc)
        simp_all
      obtain ⟨hstate, hothers⟩ := h k opj ((hi.slot k opj hm.before).mpr hheld) hm.before hlive
      refine ⟨?_, ?_⟩
      · rcases hm.published with hsame | ⟨_, _, hr⟩ | ⟨hc, _⟩
        · rw [hsame, hm.kept]
          exact hstate
        · simp_all
        · simp_all
      · intro i opi hne hopi
        rw [hm.operations i hne] at hopi
        exact hothers i opi hne hopi
    -- Another operation has moved, which was done before this step, and still is.
    · have hactive' := (hm.active k hkj).mp hactive
      rw [hm.operations k hkj] at hop
      obtain ⟨hstate, hothers⟩ := h k op hactive' hop hcancelled
      have hdone := hothers j opj (Ne.symm hkj) hm.before
      refine ⟨?_, ?_⟩
      · rcases hm.published with hsame | ⟨hc, hp, _⟩ | ⟨_, hr⟩
        · rw [hsame]
          exact hstate
        · -- An operation that still publishes is neither cancelled nor settled.
          rcases hdone with hcancel | hsettled
          · simp_all
          · exact absurd hp hsettled
        · -- The slot has one holder.
          have := (hi.slot j opj hm.before).mpr hr
          simp_all
      · intro i opi hne hopi
        by_cases hij : i = j
        · subst hij
          rw [hm.after, Option.some.injEq] at hopi
          subst hopi
          exact hdone.imp hm.advances.cancelled hm.settled
        · rw [hm.operations i hij] at hopi
          exact hothers i opi hne hopi

theorem Clear.path {world world' : World} (hi : Inv world) (h : Clear world)
    (hp : Path world world') : Clear world' := by
  induction hp with
  | refl => exact h
  | tail hp hc ih => exact ih.change (hi.path hp) hc

/-! ## The controller goes on behind its listeners -/

theorem contsOf_pop {world : World} {cont : Cont} {stack : List Frame}
    (hs : world.stack = .listeners cont :: stack) :
    world.contsOf cont.operation = cont :: { world with stack }.contsOf cont.operation := by
  have hsome : Frame.contOf cont.operation (.listeners cont) = some cont := if_pos rfl
  rw [contsOf, hs, List.filterMap_cons_some hsome]
  rfl

theorem Inv.exists_of_cont {world : World} (h : Inv world) {cont : Cont} {stack : List Frame}
    (hs : world.stack = .listeners cont :: stack) :
    ∃ op, world.operations cont.operation = some op := by
  have howned := h.owned cont.operation
  rw [Owned] at howned
  cases hop : world.operations cont.operation with
  | some op => exact ⟨op, rfl⟩
  | none =>
    rw [hop, contsOf_pop hs] at howned
    cases howned.2

/-- The listeners of a `publish` have returned: `run`, `cancel`, `.then` or `.catch` runs to its
    end. -/
theorem resume_moves {world : World} (h : Inv world) {cont : Cont} {stack : List Frame}
    (hs : world.stack = .listeners cont :: stack) (hend : Cont.isAborting cont = false) :
    ∃ op op', Moves cont.operation op op' world ({ world with stack }.resume cont) := by
  obtain ⟨op, hop⟩ := h.exists_of_cont hs
  have hop' : { world with stack }.operations cont.operation = some op := hop
  have hsound := h.sound hop
  rw [contsOf_pop hs] at hsound
  have hpop := Touches.pop hs rfl
  have hslot := h.slot _ _ hop
  -- By what the listeners were told; an abort is ruled out by `hend`.
  cases cont with
  | started k =>
    simp only [Cont.operation] at hop hop' hsound hpop hslot ⊢
    have hjobs : ∀ job ∈ (.work k :: if op.cancellationRejected then [.raceCancellation k] else [] :
        List Job), job.operation = some k := by
      cases op.cancellationRejected <;> simp [Job.operation]
    -- The work is queued, and the race with a cancellation that came in between.
    have hw : { world with stack }.resume (.started k) =
        ({ world with stack }.modify k ({ · with attached := true })).enqueue
          (.work k :: if op.cancellationRejected then [.raceCancellation k] else []) := by
      simp only [World.resume, hop']
    rw [hw]
    refine ⟨op, { op with attached := true },
      (hpop.trans (.modify _ _ _)).trans (.enqueue _ hjobs), hop,
      modify_operations_self _ _ _ hop', ⟨id, id, id, id, id⟩, rfl, id, rfl, hslot, ?_, .inl rfl⟩
    rw [enqueue_jobsOf_self _ _ hjobs]
    exact hsound.attach
  | aborting k => cases hend
  | cancelled k =>
    simp only [Cont.operation] at hop hop' hsound hpop hslot ⊢
    have hjobs : ∀ job ∈ (if op.attached && !op.cancellationRejected then [.raceCancellation k]
        else [] : List Job), job.operation = some k := by
      split <;> simp [Job.operation]
    have hw : { world with stack }.resume (.cancelled k) =
        ({ world with stack }.modify k ({ · with cancellationRejected := true })).enqueue
          (if op.attached && !op.cancellationRejected then [.raceCancellation k] else []) := by
      simp only [World.resume, rejectCancellation, hop']
    rw [hw]
    refine ⟨op, { op with cancellationRejected := true },
      (hpop.trans (.modify _ _ _)).trans (.enqueue _ hjobs), hop,
      modify_operations_self _ _ _ hop', ⟨id, id, id, id, id⟩, rfl, id, rfl, hslot, ?_, .inl rfl⟩
    rw [enqueue_jobsOf_self _ _ hjobs]
    exact hsound.reject
  -- Only a job is queued here; the operation itself stays as it is.
  | succeeded k =>
    have hjobs : ∀ job ∈ [Job.onResult k .credential], job.operation = some k := by
      simp [Job.operation]
    refine ⟨op, op, hpop.trans (.enqueue _ hjobs), hop, hop', .refl op, rfl, id, rfl, hslot, ?_,
      .inl rfl⟩
    rw [World.resume, Cont.operation, enqueue_jobsOf_self _ _ hjobs]
    exact hsound.succeed
  | failed k code =>
    exact ⟨op, { op with promise := some (.failed code) }, hpop.trans (.modify _ _ _), hop,
      modify_operations_self _ _ _ hop', ⟨id, id, id, id, id⟩, rfl, fun _ => by simp, rfl, hslot,
      hsound.fail, .inl rfl⟩

/-- `publish` up to its listeners. -/
def push (world : World) (state : PresentationState) (cont : Cont) : World :=
  { world with state, stack := .listeners cont :: world.stack }

theorem contsOf_push (world : World) (state : PresentationState) (cont : Cont) :
    (world.push state cont).contsOf cont.operation = cont :: world.contsOf cont.operation :=
  by
  rw [contsOf_pop (show (world.push state cont).stack = .listeners cont :: world.stack from rfl)]
  rfl

/-- With no listener the controller goes on at once. -/
theorem publish_path {world : World} {state : PresentationState} {cont : Cont}
    (h : Inv (world.push state cont)) (hend : Cont.isAborting cont = false) :
    Path (world.push state cont) (world.publish state cont) := by
  rw [publish]
  split
  · have hs : (world.push state cont).stack = .listeners cont :: world.stack := rfl
    obtain ⟨op, op', hm⟩ := resume_moves h hs hend
    exact .moves hm
  · exact .refl

/-- A `publish` of `k` after changes to `k`. -/
theorem Touches.thenPush {k : ℕ} {world world' : World} (h : Touches k world world')
    (state : PresentationState) {cont : Cont} (hc : cont.operation = k) :
    Touches k world (world'.push state cont) :=
  h.trans (.push world' state hc)

/-- `cancel` calls the listeners of the signal or of its `publish`. -/
theorem push_moves {world : World} (h : Inv world) {op : Operation} (state : PresentationState)
    (cont : Cont) (hop : world.operations cont.operation = some op) (hc : op.cancelled = true)
    (hheld : op.released = false) (hcont : ContSound op cont)
    (hplain : Cont.isStarted cont = false ∧ Cont.isTail cont = false) :
    Moves cont.operation op op world (world.push state cont) := by
  refine ⟨.push _ _ rfl, hop, hop, .refl op, rfl, id, rfl, h.slot _ _ hop, ?_,
    .inr (.inr ⟨hc, hheld⟩)⟩
  rw [contsOf_push]
  exact (h.sound hop).call hcont hheld hplain

theorem publishAborted_path {world : World} (h : Inv world) {k : ℕ} {op : Operation}
    (hop : world.operations k = some op) (hc : op.cancelled = true) (hheld : op.released = false) :
    Path world (world.publishAborted k) := by
  have hm := push_moves h ⟨.error, (world.operations k).map Operation.operation, some .aborted⟩
    (.cancelled k) hop hc hheld hc ⟨rfl, rfl⟩
  exact (Path.moves hm).trans (publish_path (h.path (.moves hm)) rfl)

theorem resume_path {world : World} (h : Inv world) {cont : Cont} {stack : List Frame}
    (hs : world.stack = .listeners cont :: stack) :
    Path world ({ world with stack }.resume cont) := by
  cases hend : Cont.isAborting cont with
  | false =>
    obtain ⟨op, op', hm⟩ := resume_moves h hs hend
    exact .moves hm
  | true =>
    -- The signal has fired; the state is published now.
    cases cont with
    | started k => cases hend
    | cancelled k => cases hend
    | succeeded k => cases hend
    | failed k code => cases hend
    | aborting k =>
      obtain ⟨op, hop⟩ := h.exists_of_cont hs
      have hsound := h.sound hop
      rw [contsOf_pop hs] at hsound
      have hm : Moves k op op world { world with stack } :=
        ⟨.pop hs rfl, hop, hop, .refl op, rfl, id, rfl, h.slot _ _ hop, hsound.afterAbort, .inl rfl⟩
      exact (Path.moves hm).trans (publishAborted_path (h.path (.moves hm)) hop
        (hsound.cont _ List.mem_cons_self) (hsound.aborting _ List.mem_cons_self rfl))

/-! ## Host calls -/

/-- The first line of `cancel` for a pending operation. -/
def cancelling (world : World) (k : ℕ) : World := world.modify k ({ · with cancelled := true })

theorem cancelling_moves {world : World} (h : Inv world) {k : ℕ} {op : Operation}
    (hactive : world.active = some k) (hop : world.operations k = some op) :
    Moves k op { op with cancelled := true } world (world.cancelling k) :=
  ⟨.modify _ _ _, hop, modify_operations_self _ _ _ hop, ⟨fun _ => rfl, id, id, id, id⟩, rfl, id,
    rfl, h.slot k op hop, (h.sound hop).cancel ((h.slot k op hop).mp hactive), .inl rfl⟩

theorem cancel_of_pending {world : World} (h : Inv world) {k : ℕ} {op : Operation}
    (hactive : world.active = some k) (hop : world.operations k = some op)
    (hphase : world.state.phase = .pending) : Path (world.cancelling k) world.cancel := by
  have hheld := (h.slot k op hop).mp hactive
  have hi := h.path (.moves (cancelling_moves h hactive hop))
  have hop' := (cancelling_moves h hactive hop).after
  rw [cancel, hactive]
  simp only [hop, hphase, ne_eq, not_true_eq_false, if_false]
  split
  · exact publishAborted_path hi hop' rfl hheld
  · exact .moves (push_moves hi world.state (.aborting k) hop' rfl hheld rfl ⟨rfl, rfl⟩)

theorem cancel_path {world : World} (h : Inv world) : Path world world.cancel := by
  cases hactive : world.active with
  | none =>
    rw [cancel, hactive]
  | some k =>
    obtain ⟨op, hop⟩ := Option.isSome_iff_exists.mp (h.holder k hactive)
    by_cases hphase : world.state.phase = .pending
    · exact (Path.moves (cancelling_moves h hactive hop)).trans
        (cancel_of_pending h hactive hop hphase)
    · rw [cancel, hactive]
      simp only [ne_eq, hphase, not_false_eq_true, if_true]
      exact .refl

theorem rejectCancellation_operations_of_ne (world : World) {j k : ℕ} (hkj : k ≠ j) :
    (world.rejectCancellation j).operations k = world.operations k := by
  rw [rejectCancellation]
  split
  · rfl
  · rw [enqueue_operations, modify_operations_of_ne _ _ _ hkj]

/-- `cancel` leaves every operation but the one in the slot alone. -/
theorem cancel_operations_of_ne {world : World} {k : ℕ} (hne : world.active ≠ some k) :
    world.cancel.operations k = world.operations k := by
  rw [cancel]
  cases hactive : world.active with
  | none => rfl
  | some j =>
    have hkj : k ≠ j := by
      rintro rfl
      exact hne hactive
    have hmodify : (world.modify j ({ · with cancelled := true })).operations k =
        world.operations k := modify_operations_of_ne _ _ _ hkj
    simp only
    split
    · rfl
    · split
      · rfl
      · split
        · simp only [publishAborted]
          split
          · rw [rejectCancellation_operations_of_ne _ hkj]
            exact hmodify
          · exact hmodify
        · exact hmodify

/-- A new operation holds the slot. -/
def occupied (world : World) (operation : PasskeyOperation) : World :=
  { world with
    active := some world.next
    next := world.next + 1
    operations := Function.update world.operations world.next (some (.new operation)) }

/-- `run` with the slot free, up to its first `publish`. -/
def started (world : World) (operation : PasskeyOperation) : World :=
  (world.occupied operation).push ⟨.pending, some operation, none⟩ (.started world.next)

theorem Touches.occupied {world : World} (hfree : world.active = none)
    (operation : PasskeyOperation) : Touches world.next world (world.occupied operation) where
  operations _ hj := Function.update_of_ne hj _ _
  jobs _ _ := rfl
  conts _ _ := rfl
  active j hj := by simp [World.occupied, hfree, Ne.symm hj]

theorem started_inv {world : World} (h : Inv world) (hfree : world.active = none)
    (operation : PasskeyOperation) : Inv (world.started operation) := by
  have hfresh := h.fresh world.next le_rfl
  have howned := h.owned world.next
  rw [Owned, hfresh] at howned
  refine h.touch ((Touches.occupied hfree operation).thenPush _ rfl) (Nat.le_succ _)
    (Nat.lt_succ_self _) (Function.update_self _ _ _) ?_ ?_
  · simp [started, push, World.occupied, Operation.new]
  · have hconts := contsOf_push (world.occupied operation) ⟨.pending, some operation, none⟩
      (.started world.next)
    simp only [Cont.operation] at hconts
    rw [started, hconts, show (world.occupied operation).contsOf world.next = [] from howned.2,
      show ((world.occupied operation).push _ _).jobsOf world.next = [] from howned.1]
    exact .new operation

theorem run_path {world : World} (h : Inv world) (hfree : world.active = none)
    (operation : PasskeyOperation) :
    Path (world.started operation) (world.run operation) := by
  rw [World.run, hfree]
  exact publish_path (started_inv h hfree operation) rfl

theorem run_of_active {world : World} {k : ℕ} (hactive : world.active = some k)
    (operation : PasskeyOperation) : world.run operation = world := by
  rw [World.run, hactive]

theorem run_inv {world : World} (h : Inv world) (operation : PasskeyOperation) :
    Inv (world.run operation) := by
  cases hactive : world.active with
  | none => exact (started_inv h hactive operation).path (run_path h hactive operation)
  | some k =>
    rw [run_of_active hactive]
    exact h

/-! ## Jobs -/

theorem jobsOf_pop {world : World} {job : Job} {queue : List Job} {k : ℕ}
    (hq : world.queue = job :: queue) (hjob : job.operation = some k) :
    world.jobsOf k = job :: { world with queue }.jobsOf k := by
  rw [jobsOf, hq, List.filter_cons_of_pos (by simp [hjob])]
  rfl

theorem Inv.exists_of_job {world : World} (h : Inv world) {job : Job} {queue : List Job} {k : ℕ}
    (hq : world.queue = job :: queue) (hjob : job.operation = some k) :
    ∃ op, world.operations k = some op := by
  have howned := h.owned k
  rw [Owned] at howned
  cases hop : world.operations k with
  | some op => exact ⟨op, rfl⟩
  | none =>
    rw [hop, jobsOf_pop hq hjob] at howned
    cases howned.1

theorem enqueue_nil (world : World) : world.enqueue [] = world := by
  rw [enqueue, List.append_nil]

/-- A job of `k` that changes the record and enqueues more of its jobs. -/
theorem Moves.ofJob {world : World} (h : Inv world) {job : Job} {queue more : List Job} {k : ℕ}
    {op op' : Operation} (hq : world.queue = job :: queue) (hjob : job.operation = some k)
    (hop : world.operations k = some op) (f : Operation → Operation) (hf : f op = op')
    (hmore : ∀ job ∈ more, job.operation = some k)
    (hadv : op.Advances op') (hkept : op'.operation = op.operation)
    (hsettled : op.promise ≠ none → op'.promise ≠ none) (hreleased : op'.released = op.released)
    (hsound : Sound op (job :: { world with queue }.jobsOf k) (world.contsOf k) →
      Sound op' ({ world with queue }.jobsOf k ++ more) (world.contsOf k)) :
    Moves k op op' world (({ world with queue }.modify k f).enqueue more) := by
  refine ⟨((Touches.dequeue hq hjob).trans (.modify _ _ _)).trans (.enqueue _ hmore), hop, ?_, hadv,
    hkept, hsettled, rfl, ?_, ?_, .inl rfl⟩
  · rw [← hf]
    exact modify_operations_self _ _ _ hop
  · rw [hreleased]
    exact h.slot k op hop
  · rw [enqueue_jobsOf_self _ _ hmore]
    apply hsound
    rw [← jobsOf_pop hq hjob]
    exact h.sound hop

/-- A job of `k` that only enqueues more of its jobs. -/
theorem Moves.ofPlainJob {world : World} (h : Inv world) {job : Job} {queue more : List Job}
    {k : ℕ} {op : Operation} (hq : world.queue = job :: queue) (hjob : job.operation = some k)
    (hop : world.operations k = some op) (hmore : ∀ job ∈ more, job.operation = some k)
    (hsound : Sound op (job :: { world with queue }.jobsOf k) (world.contsOf k) →
      Sound op ({ world with queue }.jobsOf k ++ more) (world.contsOf k)) :
    Moves k op op world ({ world with queue }.enqueue more) := by
  refine ⟨(Touches.dequeue hq hjob).trans (.enqueue _ hmore), hop, hop, .refl op, rfl, id, rfl,
    h.slot k op hop, ?_, .inl rfl⟩
  rw [enqueue_jobsOf_self _ _ hmore]
  apply hsound
  rw [← jobsOf_pop hq hjob]
  exact h.sound hop

theorem runWork_path {world : World} (h : Inv world) {queue : List Job} {k : ℕ} {op : Operation}
    (hq : world.queue = .work k :: queue) (hop : world.operations k = some op)
    (start : WorkStart) : Path world ({ world with queue }.runWork k op start) := by
  -- In every case the ceremony has begun and only `adopt` and `resume` are enqueued.
  have hgoes : ∀ ceremony : Ceremony, ceremony ≠ .notBegun → ∀ more : List Job,
      (∀ job ∈ more, job = .adopt k ∨ ∃ outcome, job = .resume k outcome) →
      Path world (({ world with queue }.modify k ({ · with ceremony })).enqueue more) := by
    intro ceremony hbegun more hmore
    have hmine : ∀ job ∈ more, job.operation = some k := by
      intro job hjob
      rcases hmore job hjob with rfl | ⟨outcome, rfl⟩ <;> rfl
    have hadv : op.Advances { op with ceremony } := by
      have hwork := h.sound hop
      rw [jobsOf_pop hq rfl] at hwork
      refine ⟨id, id, id, fun _ => hbegun, ?_⟩
      intro hanswered
      rw [hwork.notBegun_of_work.2] at hanswered
      cases hanswered
    exact .moves (.ofJob h hq rfl hop _ rfl hmine hadv rfl id rfl
      fun hsound => hsound.begin hbegun hmore)
  cases start with
  | unsupported code => exact hgoes _ (by simp) _ (by simp)
  | throws code => exact hgoes _ (by simp) _ (by simp)
  | begins =>
    rw [runWork]
    split
    · exact hgoes _ (by simp) _ (by simp)
    · exact hgoes _ (by simp) _ (by simp)
  | settles outcome =>
    rw [runWork]
    split
    · exact hgoes _ (by simp) _ (by simp)
    · exact hgoes _ (by simp) _ (by simp)

/-- The `.then` or the `.catch` behind the race goes to its `publish`. -/
theorem Moves.ofPublish {world : World} (h : Inv world) {job : Job} {queue : List Job} {k : ℕ}
    {op op' : Operation} {state : PresentationState} {cont : Cont}
    (hq : world.queue = job :: queue) (hjob : job.operation = some k)
    (hop : world.operations k = some op) {world' : World}
    (ht : Touches k { world with queue } world')
    (hfield : world'.next = world.next ∧ world'.active = world.active ∧
      world'.jobsOf k = { world with queue }.jobsOf k ∧ world'.contsOf k = world.contsOf k)
    (hop' : world'.operations k = some op') (hcont : cont.operation = k)
    (hadv : op.Advances op') (hkept : op'.operation = op.operation ∧ op'.promise = op.promise)
    (hreleased : op'.released = op.released)
    (hopen : op.cancelled = false ∧ op.promise = none ∧ op.released = true)
    (hsound : Sound op (job :: { world with queue }.jobsOf k) (world.contsOf k) →
      Sound op' ({ world with queue }.jobsOf k) (cont :: world.contsOf k)) :
    Moves k op op' world (world'.push state cont) := by
  obtain ⟨hnext, hactive, hjobs, hconts⟩ := hfield
  refine ⟨((Touches.dequeue hq hjob).trans ht).thenPush _ hcont, hop, hop', hadv, hkept.1,
    (by rw [hkept.2]; exact id), hnext, ?_, ?_, .inr (.inl hopen)⟩
  · rw [hreleased, ← h.slot k op hop, ← hactive]
    rfl
  · have hpush := contsOf_push world' state cont
    rw [hcont, hconts] at hpush
    rw [hpush, show (world'.push state cont).jobsOf k = _ from hjobs]
    apply hsound
    rw [← jobsOf_pop hq hjob]
    exact h.sound hop

/-- The next job runs. -/
theorem runJob_path {world : World} (h : Inv world) {job : Job} {queue : List Job} {k : ℕ}
    {op : Operation} (hq : world.queue = job :: queue) (hjob : job.operation = some k)
    (hop : world.operations k = some op) (hs : world.stack = []) (start : WorkStart) :
    Path world ({ world with queue }.runJob start k op job) := by
  have hsound := h.sound hop
  rw [jobsOf_pop hq hjob] at hsound
  cases job with
  | work j =>
    cases hjob
    exact runWork_path h hq hop start
  | adopt j =>
    cases hjob
    refine .moves (.ofJob h hq rfl hop _ rfl ?_ ⟨id, id, id, id, id⟩ rfl id rfl Sound.adopt)
    split <;> simp [Job.operation]
  | resume j outcome =>
    cases hjob
    refine .moves (.ofJob h hq rfl hop _ rfl ?_ ⟨id, id, id, fun _ => by simp, fun _ => rfl⟩ rfl id
      rfl (Sound.resume _))
    split <;> simp [Job.operation]
  | adopted j outcome =>
    cases hjob
    exact .moves (.ofPlainJob h hq rfl hop (by simp [Job.operation]) Sound.adopted)
  | release j =>
    cases hjob
    have hanswered : op.ceremony.isAnswered = true := hsound.job _ List.mem_cons_self
    have hconts : world.contsOf k = [] := by
      rw [contsOf, hs]
      rfl
    rw [hconts] at hsound
    have ht : Touches k { world with queue }
        ({ world with queue }.runJob start k op (.release k)) := by
      refine ⟨fun i hi => modify_operations_of_ne _ _ _ hi, fun _ _ => rfl, fun _ _ => rfl, ?_⟩
      intro i hi
      simp only [runJob]
      split
      · next hactive => simp [hactive, Ne.symm hi]
      · exact Iff.rfl
    refine .moves ⟨(Touches.dequeue hq rfl).trans ht, hop, modify_operations_self _ _ _ hop,
      ⟨id, fun _ => rfl, id, id, fun _ => hanswered⟩, rfl, id, rfl, ?_, ?_, .inl rfl⟩
    · -- The slot is free now, or it was another operation's.
      simp only [runJob, Bool.true_eq_false, iff_false]
      split
      · simp
      · assumption
    · have hleft : ({ world with queue }.runJob start k op (.release k)).contsOf k = [] := hconts
      rw [hleft]
      exact hsound.release
  | raceWork j outcome =>
    cases hjob
    have hpaved := hsound.paved
    rw [Paved, Bool.and_eq_true] at hpaved
    rw [runJob]
    split
    · rw [← enqueue_nil { world with queue }]
      refine .moves (.ofPlainJob h hq rfl hop (by simp) fun hs => ?_)
      rw [List.append_nil]
      exact hs.drop ⟨rfl, rfl⟩ hpaved.2
    · next hraced =>
      exact .moves (.ofJob h hq rfl hop _ rfl (by simp [Job.operation]) ⟨id, id, id, id, id⟩ rfl id
        rfl fun hs => hs.race ⟨rfl, rfl⟩ hpaved.2 (.inl hpaved.1) (by simpa using hraced))
  | raceCancellation j =>
    cases hjob
    have hcancelled : op.cancelled = true := hsound.job _ List.mem_cons_self
    rw [runJob]
    split
    · rw [← enqueue_nil { world with queue }]
      refine .moves (.ofPlainJob h hq rfl hop (by simp) fun hs => ?_)
      rw [List.append_nil]
      exact hs.drop ⟨rfl, rfl⟩ hsound.paved
    · next hraced =>
      exact .moves (.ofJob h hq rfl hop _ rfl (by simp [Job.operation]) ⟨id, id, id, id, id⟩ rfl id
        rfl fun hs => hs.race ⟨rfl, rfl⟩ hsound.paved (.inr ⟨hcancelled, by simp⟩)
          (by simpa using hraced))
  | onRace j outcome =>
    cases hjob
    cases outcome with
    | failed code =>
      exact .moves (.ofPlainJob h hq rfl hop (by simp [Job.operation]) Sound.onRaceFailed)
    | credential =>
      rw [runJob]
      split
      · exact .moves (.ofPlainJob h hq rfl hop (by simp [Job.operation]) Sound.onRaceFailed)
      · next hcancelled =>
        have hlive : op.cancelled = false := by simpa using hcancelled
        have hreleased : op.released = true := hsound.job _ List.mem_cons_self
        have hm : Moves k op { op with announced := true } world
            (({ world with queue }.modify k ({ · with announced := true })).push
              ⟨.success, some op.operation, none⟩ (.succeeded k)) :=
          .ofPublish h hq rfl hop (.modify _ _ _) ⟨rfl, rfl, rfl, rfl⟩
            (modify_operations_self _ _ _ hop) rfl ⟨id, id, fun _ => rfl, id, id⟩ ⟨rfl, rfl⟩ rfl
            ⟨hlive, (hsound.open_of_tail rfl).2, hreleased⟩ fun hs => hs.onRaceCredential hlive
        exact (Path.moves hm).trans (publish_path (h.path (.moves hm)) rfl)
  | onResult j outcome =>
    cases hjob
    obtain ⟨hraced, hopen⟩ := hsound.open_of_tail rfl
    cases outcome with
    | credential =>
      have hannounced : op.announced = true := hsound.job _ List.mem_cons_self
      rw [runJob, ← enqueue_nil (World.modify _ _ _)]
      refine .moves (.ofJob h hq rfl hop _ rfl (by simp) ⟨id, id, id, id, id⟩ rfl
        (fun _ => by simp) rfl fun hs => ?_)
      rw [List.append_nil]
      exact hs.onResult fun _ => hannounced
    | failed code =>
      rw [runJob]
      split
      · rw [← enqueue_nil (World.modify _ _ _)]
        refine .moves (.ofJob h hq rfl hop _ rfl (by simp) ⟨id, id, id, id, id⟩ rfl
          (fun _ => by simp) rfl fun hs => ?_)
        rw [List.append_nil]
        exact hs.onResult fun hc => by cases hc
      · next hcancelled =>
        -- A race no cancellation has settled was settled by the work, behind the release.
        have hlive : op.cancelled = false := by simpa using hcancelled
        have hreleased : op.released = true := by
          rcases hsound.raced hraced with hr | hc
          · exact hr
          · exact absurd hc hcancelled
        have hm : Moves k op op world ({ world with queue }.push
            ⟨.error, some op.operation, some code⟩ (.failed k code)) :=
          .ofPublish h hq rfl hop
            ⟨fun _ _ => rfl, fun _ _ => rfl, fun _ _ => rfl, fun _ _ => Iff.rfl⟩ ⟨rfl, rfl, rfl, rfl⟩
            hop rfl (.refl op) ⟨rfl, rfl⟩ rfl ⟨hlive, hopen, hreleased⟩ Sound.onResultFailed
        exact (Path.moves hm).trans (publish_path (h.path (.moves hm)) rfl)
  | host => cases hjob

theorem settleBrowser_path {world : World} (h : Inv world) (k : ℕ) (outcome : Settlement) :
    Path world (world.settleBrowser k outcome) := by
  rw [settleBrowser]
  cases hop : world.operations k with
  | none => exact .refl
  | some op =>
    simp only
    split
    · next hflight =>
      have hjobs : ∀ job ∈ [Job.resume k outcome], job.operation = some k := by
        simp [Job.operation]
      refine .moves ⟨(Touches.modify _ _ _).trans (.enqueue _ hjobs), hop,
        modify_operations_self _ _ _ hop, ⟨id, id, id, fun _ => by simp, ?_⟩, rfl, id, rfl,
        h.slot k op hop, ?_, .inl rfl⟩
      · intro hanswered
        rw [hflight] at hanswered
        cases hanswered
      · rw [enqueue_jobsOf_self _ _ hjobs]
        exact (h.sound hop).settleBrowser outcome hflight
    · exact .refl

end World

end SecureKeypad.Web
