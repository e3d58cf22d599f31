import SecureKeypad.Web.PasskeyController

/-!
# One Operation of the Passkey Controller

What belongs to an operation is its record, its jobs in the queue and its calls on the stack.
`Sound` says how the three fit together; one lemma for each job and each call says that it keeps
them so. Which other operations there are plays no part.
-/

namespace SecureKeypad.Web

/-! ## What belongs to one operation -/

def Cont.operation : Cont → ℕ
  | .started k => k
  | .aborting k => k
  | .cancelled k => k
  | .succeeded k => k
  | .failed k _ => k

/-- The call of operation `k` a frame returns to. -/
def Frame.contOf (k : ℕ) : Frame → Option Cont
  | .task => none
  | .listeners cont => if cont.operation = k then some cont else none

def Job.isWork : Job → Bool
  | .work _ => true
  | _ => false

def Cont.isStarted : Cont → Bool
  | .started _ => true
  | _ => false

/-- The job is behind the settled race. -/
def Job.isTail : Job → Bool
  | .onRace _ _ => true
  | .onResult _ _ => true
  | _ => false

/-- The call is behind the settled race. -/
def Cont.isTail : Cont → Bool
  | .succeeded _ => true
  | .failed _ _ => true
  | _ => false

def Cont.isAborting : Cont → Bool
  | .aborting _ => true
  | _ => false

def Ceremony.isAnswered : Ceremony → Bool
  | .answered _ => true
  | _ => false

/-- Each `raceWork` comes behind the `release` it was enqueued with. -/
def Paved : Bool → List Job → Bool
  | _, [] => true
  | _, .release _ :: jobs => Paved true jobs
  | released, .raceWork _ _ :: jobs => released && Paved released jobs
  | released, .work _ :: jobs => Paved released jobs
  | released, .adopt _ :: jobs => Paved released jobs
  | released, .resume _ _ :: jobs => Paved released jobs
  | released, .adopted _ _ :: jobs => Paved released jobs
  | released, .raceCancellation _ :: jobs => Paved released jobs
  | released, .onRace _ _ :: jobs => Paved released jobs
  | released, .onResult _ _ :: jobs => Paved released jobs
  | released, .host :: jobs => Paved released jobs

theorem paved_true (jobs : List Job) : Paved true jobs = true := by
  induction jobs with
  | nil => rfl
  | cons job jobs ih => cases job <;> simp [Paved, ih]

theorem paved_append {released : Bool} {jobs : List Job} (more : List Job)
    (h : Paved released jobs = true) (hmore : Paved released more = true) :
    Paved released (jobs ++ more) = true := by
  induction jobs generalizing released with
  | nil => exact hmore
  | cons job jobs ih =>
    cases job with
    | release k => exact paved_true _
    | raceWork k outcome =>
      rw [Paved, Bool.and_eq_true] at h
      rw [List.cons_append, Paved, Bool.and_eq_true]
      exact ⟨h.1, ih h.2 hmore⟩
    | work k => exact ih h hmore
    | adopt k => exact ih h hmore
    | resume k outcome => exact ih h hmore
    | adopted k outcome => exact ih h hmore
    | raceCancellation k => exact ih h hmore
    | onRace k outcome => exact ih h hmore
    | onResult k outcome => exact ih h hmore
    | host => exact ih h hmore

/-- What a job in the queue says about its operation. -/
def JobSound (op : Operation) : Job → Prop
  | .adopt _ => op.ceremony ≠ .notBegun
  | .resume _ _ => op.ceremony ≠ .notBegun
  | .adopted _ _ => op.ceremony.isAnswered = true
  | .release _ => op.ceremony.isAnswered = true
  | .raceCancellation _ => op.cancelled = true
  | .onRace _ .credential => op.released = true
  | .onResult _ .credential => op.announced = true
  | _ => True

/-- What a call on the stack says about its operation. -/
def ContSound (op : Operation) : Cont → Prop
  | .aborting _ => op.cancelled = true
  | .cancelled _ => op.cancelled = true
  | .succeeded _ => op.announced = true
  | _ => True

/-- Nothing an operation has come past is taken back. -/
structure Operation.Advances (op op' : Operation) : Prop where
  cancelled : op.cancelled = true → op'.cancelled = true
  released : op.released = true → op'.released = true
  announced : op.announced = true → op'.announced = true
  begun : op.ceremony ≠ .notBegun → op'.ceremony ≠ .notBegun
  answered : op.ceremony.isAnswered = true → op'.ceremony.isAnswered = true

theorem Operation.Advances.refl (op : Operation) : op.Advances op :=
  ⟨id, id, id, id, id⟩

theorem JobSound.advance {op op' : Operation} (hadv : op.Advances op') {job : Job}
    (h : JobSound op job) : JobSound op' job := by
  cases job with
  | resume k outcome => exact hadv.begun h
  | adopted k outcome => exact hadv.answered h
  | release k => exact hadv.answered h
  | raceCancellation k => exact hadv.cancelled h
  | onRace k outcome =>
    cases outcome with
    | credential => exact hadv.released h
    | failed code => trivial
  | onResult k outcome =>
    cases outcome with
    | credential => exact hadv.announced h
    | failed code => trivial
  | work k => trivial
  | adopt k => exact hadv.begun h
  | raceWork k outcome => trivial
  | host => trivial

theorem ContSound.advance {op op' : Operation} (hadv : op.Advances op') {cont : Cont}
    (h : ContSound op cont) : ContSound op' cont := by
  cases cont with
  | started k => trivial
  | aborting k => exact hadv.cancelled h
  | cancelled k => exact hadv.cancelled h
  | succeeded k => exact hadv.announced h
  | failed k code => trivial

/-- The jobs left and the jobs enqueued behind them. -/
theorem jobSound_append {op op' : Operation} {jobs more : List Job} (hadv : op.Advances op')
    (h : ∀ job ∈ jobs, JobSound op job) (hmore : ∀ job ∈ more, JobSound op' job) :
    ∀ job ∈ jobs ++ more, JobSound op' job := by
  intro job hjob
  rcases List.mem_append.mp hjob with hold | hnew
  · exact (h job hold).advance hadv
  · exact hmore job hnew

/-- The record of an operation, its jobs and its calls on the stack fit together. -/
structure Sound (op : Operation) (jobs : List Job) (conts : List Cont) : Prop where
  rejected : op.cancellationRejected = true → op.cancelled = true
  raced : op.raced = true → op.released = true ∨ op.cancelled = true
  announced : op.announced = true → op.released = true ∧ op.cancelled = false
  credential : op.promise = some .credential → op.announced = true
  released : op.released = true → op.ceremony.isAnswered = true
  settled : op.promise ≠ none → op.raced = true
  unattached : op.attached = false → op.ceremony = .notBegun
  job : ∀ job ∈ jobs, JobSound op job
  cont : ∀ cont ∈ conts, ContSound op cont
  paved : Paved op.released jobs = true
  /-- The slot is held until `cancel` returns. -/
  aborting : ∀ cont ∈ conts, Cont.isAborting cont = true → op.released = false
  /-- `run` goes on behind its first `publish` once. -/
  starts : conts.countP Cont.isStarted = if op.attached then 0 else 1
  /-- `work` is called once. -/
  works : jobs.countP Job.isWork =
    if op.attached = true ∧ op.ceremony = .notBegun then 1 else 0
  /-- The race is settled once, and so is the promise behind it. -/
  tail : jobs.countP Job.isTail + conts.countP Cont.isTail =
    if op.raced = true ∧ op.promise = none then 1 else 0

namespace Sound

variable {op : Operation} {jobs : List Job} {conts : List Cont} {k : ℕ}

theorem new (operation : PasskeyOperation) : Sound (.new operation) [] [.started k] where
  rejected h := by cases h
  raced h := by cases h
  announced h := by cases h
  credential h := by cases h
  released h := by cases h
  settled h := absurd rfl h
  unattached _ := rfl
  job := by simp
  cont := by simp [ContSound]
  paved := rfl
  aborting := by simp [Cont.isAborting]
  starts := rfl
  works := rfl
  tail := rfl

/-! ### Calls of the host and returns to the controller -/

theorem attach (h : Sound op jobs (.started k :: conts)) :
    Sound { op with attached := true }
      (jobs ++ .work k :: if op.cancellationRejected then [.raceCancellation k] else []) conts := by
  have hstarts := h.starts
  have hattached : op.attached = false := by
    cases ha : op.attached <;> simp_all [List.countP_cons, Cont.isStarted]
  have hnone : conts.countP Cont.isStarted = 0 := by
    simpa [List.countP_cons, Cont.isStarted, hattached] using hstarts
  refine { h with
    unattached := (by simp), job := ?_, cont := ?_, paved := ?_,
    aborting := (List.forall_mem_cons.mp h.aborting).2, starts := hnone, works := ?_, tail := ?_ }
  · apply jobSound_append ⟨id, id, id, id, id⟩ h.job
    intro job hjob
    rcases List.mem_cons.mp hjob with rfl | hrest
    · trivial
    · -- The cancellation was rejected by a listener of the first `publish`.
      cases hr : op.cancellationRejected <;> simp [hr] at hrest
      subst hrest
      exact h.rejected hr
  · intro cont hcont
    exact h.cont cont (List.mem_cons_of_mem _ hcont)
  · apply paved_append _ h.paved
    split <;> rfl
  · have hworks := h.works
    have hbegun := h.unattached hattached
    rw [List.countP_append]
    cases hr : op.cancellationRejected <;> simp_all [List.countP_cons, Job.isWork]
  · have htail := h.tail
    rw [List.countP_append]
    cases hr : op.cancellationRejected <;> simp_all [List.countP_cons, Job.isTail, Cont.isTail]

theorem cancel (h : Sound op jobs conts) (hreleased : op.released = false) :
    Sound { op with cancelled := true } jobs conts := by
  have hadv : op.Advances { op with cancelled := true } := ⟨fun _ => rfl, id, id, id, id⟩
  -- Success is published by an operation that has released its slot.
  have hquiet : op.announced ≠ true := by
    intro ha
    have := (h.announced ha).1
    simp_all
  exact { h with
    rejected := fun _ => rfl, raced := fun _ => .inr rfl, announced := fun ha => absurd ha hquiet,
    job := fun job hjob => (h.job job hjob).advance hadv,
    cont := fun cont hcont => (h.cont cont hcont).advance hadv }

/-- `cancel` calls the listeners of the signal or of its `publish`. -/
theorem call {cont : Cont} (h : Sound op jobs conts) (hcont : ContSound op cont)
    (hheld : op.released = false)
    (hplain : Cont.isStarted cont = false ∧ Cont.isTail cont = false) :
    Sound op jobs (cont :: conts) := by
  refine { h with
    cont := List.forall_mem_cons.mpr ⟨hcont, h.cont⟩,
    aborting := List.forall_mem_cons.mpr ⟨fun _ => hheld, h.aborting⟩, starts := ?_, tail := ?_ }
  · rw [List.countP_cons, hplain.1]
    exact h.starts
  · rw [List.countP_cons, hplain.2]
    exact h.tail

/-- The listeners of the signal have returned. -/
theorem afterAbort (h : Sound op jobs (.aborting k :: conts)) : Sound op jobs conts := by
  refine { h with
    cont := (List.forall_mem_cons.mp h.cont).2,
    aborting := (List.forall_mem_cons.mp h.aborting).2, starts := ?_, tail := ?_ }
  · simpa [List.countP_cons, Cont.isStarted] using h.starts
  · simpa [List.countP_cons, Cont.isTail] using h.tail

theorem reject (h : Sound op jobs (.cancelled k :: conts)) :
    Sound { op with cancellationRejected := true }
      (jobs ++ if op.attached && !op.cancellationRejected then [.raceCancellation k] else [])
      conts := by
  have hcancelled : op.cancelled = true := h.cont _ List.mem_cons_self
  refine { h with
    rejected := fun _ => hcancelled, job := ?_, cont := ?_, paved := ?_,
    aborting := (List.forall_mem_cons.mp h.aborting).2, starts := ?_, works := ?_, tail := ?_ }
  · apply jobSound_append ⟨id, id, id, id, id⟩ h.job
    intro job hjob
    split at hjob
    · rw [List.mem_singleton] at hjob
      subst hjob
      exact hcancelled
    · cases hjob
  · intro cont hcont
    exact h.cont cont (List.mem_cons_of_mem _ hcont)
  · apply paved_append _ h.paved
    split <;> rfl
  · simpa [List.countP_cons, Cont.isStarted] using h.starts
  · have hworks := h.works
    rw [List.countP_append]
    split <;> simpa [Job.isWork] using hworks
  · have htail := h.tail
    rw [List.countP_append]
    split <;> simpa [List.countP_cons, Job.isTail, Cont.isTail] using htail

theorem succeed (h : Sound op jobs (.succeeded k :: conts)) :
    Sound op (jobs ++ [.onResult k .credential]) conts := by
  have hannounced : op.announced = true := h.cont _ List.mem_cons_self
  refine { h with
    job := ?_, cont := ?_, paved := ?_, aborting := (List.forall_mem_cons.mp h.aborting).2,
    starts := ?_, works := ?_, tail := ?_ }
  · apply jobSound_append (.refl op) h.job
    simpa [JobSound] using hannounced
  · intro cont hcont
    exact h.cont cont (List.mem_cons_of_mem _ hcont)
  · exact paved_append _ h.paved rfl
  · simpa [List.countP_cons, Cont.isStarted] using h.starts
  · simpa [Job.isWork] using h.works
  · have htail := h.tail
    simp only [List.countP_append, List.countP_cons, List.countP_nil, Job.isTail, Cont.isTail,
      if_true] at htail ⊢
    omega

theorem fail {code : ErrorCode} (h : Sound op jobs (.failed k code :: conts)) :
    Sound { op with promise := some (.failed code) } jobs conts := by
  have htail := h.tail
  have hraced : op.raced = true ∧ op.promise = none := by
    by_contra hno
    simp [hno, Cont.isTail] at htail
  refine { h with
    credential := (by simp), settled := fun _ => hraced.1,
    job := fun job hjob => (h.job job hjob).advance ⟨id, id, id, id, id⟩,
    cont := ?_, aborting := (List.forall_mem_cons.mp h.aborting).2, starts := ?_, tail := ?_ }
  · intro cont hcont
    exact (h.cont cont (List.mem_cons_of_mem _ hcont)).advance ⟨id, id, id, id, id⟩
  · simpa [List.countP_cons, Cont.isStarted] using h.starts
  · simp only [List.countP_cons, Cont.isTail, hraced.1, hraced.2, and_self, if_true] at htail
    simp only [reduceCtorEq, and_false, if_false]
    omega

/-! ### Jobs -/

/-- A job that leaves the record as it is, apart from how far the ceremony has come, and puts only
    jobs before the race behind the queue. -/
theorem proceed {job : Job} {more : List Job} (h : Sound op (job :: jobs) conts)
    (ceremony : Ceremony) (adopting : Bool)
    (hadv : op.Advances { op with ceremony, adopting })
    (hattached : op.attached = true)
    (hwork : Job.isWork job = true ∧ ceremony ≠ .notBegun ∨
      Job.isWork job = false ∧ (ceremony = .notBegun ↔ op.ceremony = .notBegun))
    (htail : Job.isTail job = false)
    (hpaved : Paved op.released jobs = true)
    (hmore : ∀ job ∈ more, JobSound { op with ceremony, adopting } job)
    (hplain : more.countP Job.isWork = 0 ∧ more.countP Job.isTail = 0 ∧ Paved false more = true) :
    Sound { op with ceremony, adopting } (jobs ++ more) conts := by
  obtain ⟨hmwork, hmtail, hmpaved⟩ := hplain
  refine { h with
    released := fun hr => hadv.answered (h.released hr),
    unattached := (by simp [hattached]), job := ?_, cont := ?_, paved := ?_, works := ?_,
    tail := ?_ }
  · exact jobSound_append hadv (fun job hjob => h.job job (List.mem_cons_of_mem _ hjob)) hmore
  · intro cont hcont
    exact (h.cont cont hcont).advance hadv
  · apply paved_append _ hpaved
    cases hr : op.released
    · exact hmpaved
    · exact paved_true _
  · have hworks := h.works
    rw [List.countP_append, hmwork]
    rcases hwork with ⟨hjob, hbegun⟩ | ⟨hjob, hsame⟩
    · -- The one `work` job is the one that ran.
      have hfirst : op.ceremony = .notBegun := by
        by_contra hno
        simp [hno, hjob] at hworks
      simpa [hfirst, hattached, hjob, hbegun, List.countP_cons] using hworks
    · simpa [hjob, hsame, List.countP_cons] using hworks
  · have hcount := h.tail
    rw [List.countP_append, hmtail]
    simpa [htail, List.countP_cons] using hcount

/-- An operation whose function runs has come past its first `publish`. -/
theorem attached_of_begun (h : Sound op jobs conts) (hbegun : op.ceremony ≠ .notBegun) :
    op.attached = true := by
  by_contra hno
  exact hbegun (h.unattached (by simpa using hno))

theorem notBegun_of_work (h : Sound op (.work k :: jobs) conts) :
    op.attached = true ∧ op.ceremony = .notBegun := by
  have hworks := h.works
  by_contra hno
  simp [hno, Job.isWork] at hworks

theorem begin {more : List Job} {ceremony : Ceremony} (h : Sound op (.work k :: jobs) conts)
    (hbegun : ceremony ≠ .notBegun)
    (hmore : ∀ job ∈ more, job = .adopt k ∨ ∃ outcome, job = .resume k outcome) :
    Sound { op with ceremony } (jobs ++ more) conts := by
  obtain ⟨hattached, hnot⟩ := notBegun_of_work h
  have hplain : ∀ job ∈ more, Job.isWork job = false ∧ Job.isTail job = false := by
    intro job hjob
    rcases hmore job hjob with rfl | ⟨outcome, rfl⟩ <;> exact ⟨rfl, rfl⟩
  refine h.proceed ceremony op.adopting ⟨id, id, id, ?_, ?_⟩ hattached (.inl ⟨rfl, hbegun⟩) rfl
    h.paved ?_ ⟨?_, ?_, ?_⟩
  · exact fun _ => hbegun
  · intro hanswered
    rw [hnot] at hanswered
    cases hanswered
  · intro job hjob
    rcases hmore job hjob with rfl | ⟨outcome, rfl⟩ <;> exact hbegun
  · exact List.countP_eq_zero.mpr fun job hjob => by simp [(hplain job hjob).1]
  · exact List.countP_eq_zero.mpr fun job hjob => by simp [(hplain job hjob).2]
  · clear hplain
    induction more with
    | nil => rfl
    | cons job more ih =>
      rcases hmore job List.mem_cons_self with rfl | ⟨outcome, rfl⟩ <;>
        exact ih fun job hjob => hmore job (List.mem_cons_of_mem _ hjob)

theorem adopt (h : Sound op (.adopt k :: jobs) conts) :
    Sound { op with adopting := true }
      (jobs ++ match op.ceremony with
        | .answered outcome => [.adopted k outcome]
        | _ => []) conts := by
  have hbegun : op.ceremony ≠ .notBegun := h.job _ List.mem_cons_self
  refine h.proceed op.ceremony true ⟨id, id, id, id, id⟩ (h.attached_of_begun hbegun)
    (.inr ⟨rfl, Iff.rfl⟩) rfl h.paved ?_ ?_
  · intro job hjob
    split at hjob
    · next outcome hanswered =>
      rw [List.mem_singleton] at hjob
      subst hjob
      rw [JobSound, hanswered]
      rfl
    · cases hjob
  · split <;> exact ⟨rfl, rfl, rfl⟩

theorem resume {outcome : Settlement} (answer : Settlement)
    (h : Sound op (.resume k outcome :: jobs) conts) :
    Sound { op with ceremony := .answered answer }
      (jobs ++ if op.adopting then [.adopted k answer] else []) conts := by
  have hbegun : op.ceremony ≠ .notBegun := h.job _ List.mem_cons_self
  refine h.proceed (.answered answer) op.adopting ⟨id, id, id, fun _ => by simp, fun _ => rfl⟩
    (h.attached_of_begun hbegun) (.inr ⟨rfl, by simp [hbegun]⟩) rfl h.paved ?_ ?_
  · intro job hjob
    split at hjob
    · rw [List.mem_singleton] at hjob
      subst hjob
      rfl
    · cases hjob
  · split <;> exact ⟨rfl, rfl, rfl⟩

theorem settleBrowser (outcome : Settlement) (h : Sound op jobs conts)
    (hflight : op.ceremony = .inFlight) :
    Sound { op with ceremony := .settled } (jobs ++ [.resume k outcome]) conts := by
  have hadv : op.Advances { op with ceremony := .settled } := by
    refine ⟨id, id, id, fun _ => by simp, ?_⟩
    intro hanswered
    rw [hflight] at hanswered
    cases hanswered
  refine { h with
    released := fun hr => hadv.answered (h.released hr), unattached := ?_, job := ?_, cont := ?_,
    paved := paved_append _ h.paved rfl, works := ?_, tail := ?_ }
  · intro ha
    have := h.unattached ha
    simp_all
  · apply jobSound_append hadv h.job
    simp [JobSound]
  · intro cont hcont
    exact (h.cont cont hcont).advance hadv
  · simpa [Job.isWork, hflight] using h.works
  · simpa [Job.isTail] using h.tail

theorem adopted {outcome : Settlement} (h : Sound op (.adopted k outcome :: jobs) conts) :
    Sound op (jobs ++ [.release k, .raceWork k outcome]) conts := by
  have hanswered : op.ceremony.isAnswered = true := h.job _ List.mem_cons_self
  refine { h with job := ?_, paved := ?_, works := ?_, tail := ?_ }
  · apply jobSound_append (.refl op) fun job hjob => h.job job (List.mem_cons_of_mem _ hjob)
    simpa [JobSound] using hanswered
  · exact paved_append _ h.paved rfl
  · simpa [Job.isWork, List.countP_cons] using h.works
  · simpa [Job.isTail, List.countP_cons] using h.tail

/-- The slot is released while no call is on the stack. -/
theorem release (h : Sound op (.release k :: jobs) []) :
    Sound { op with released := true } jobs [] := by
  have hanswered : op.ceremony.isAnswered = true := h.job _ List.mem_cons_self
  have hadv : op.Advances { op with released := true } := ⟨id, fun _ => rfl, id, id, id⟩
  refine { h with
    raced := fun _ => .inl rfl, announced := fun ha => ⟨rfl, (h.announced ha).2⟩,
    released := fun _ => hanswered, job := ?_, cont := (by simp), paved := paved_true _,
    aborting := (by simp), works := ?_, tail := ?_ }
  · intro job hjob
    exact (h.job job (List.mem_cons_of_mem _ hjob)).advance hadv
  · simpa [Job.isWork, List.countP_cons] using h.works
  · simpa [Job.isTail, List.countP_cons] using h.tail

/-- The race is settled: by the work behind the released slot, or by the cancellation. -/
theorem race {job : Job} {outcome : Settlement} (h : Sound op (job :: jobs) conts)
    (hjob : Job.isWork job = false ∧ Job.isTail job = false)
    (hpaved : Paved op.released jobs = true)
    (hwhy : op.released = true ∨ op.cancelled = true ∧ outcome ≠ .credential)
    (hraced : op.raced = false) :
    Sound { op with raced := true } (jobs ++ [.onRace k outcome]) conts := by
  have hadv : op.Advances { op with raced := true } := ⟨id, id, id, id, id⟩
  -- A promise is settled only behind the race.
  have hopen : op.promise = none := by
    by_contra hno
    have := h.settled hno
    simp_all
  refine { h with
    raced := fun _ => hwhy.imp id And.left, settled := fun _ => rfl, job := ?_, cont := ?_,
    paved := paved_append _ hpaved (by cases hr : op.released <;> rfl), works := ?_, tail := ?_ }
  · apply jobSound_append hadv fun job hjob => h.job job (List.mem_cons_of_mem _ hjob)
    intro job hmem
    rw [List.mem_singleton] at hmem
    subst hmem
    rcases hwhy with hr | ⟨_, hne⟩
    · cases outcome with
      | credential => exact hr
      | failed code => trivial
    · cases outcome with
      | credential => exact absurd rfl hne
      | failed code => trivial
  · intro cont hcont
    exact (h.cont cont hcont).advance hadv
  · have hworks := h.works
    rw [List.countP_cons, hjob.1] at hworks
    simpa [Job.isWork] using hworks
  · have htail := h.tail
    rw [List.countP_cons, hjob.2, hraced] at htail
    simp only [Bool.false_eq_true, false_and, if_false, Nat.add_zero] at htail
    simp only [List.countP_append, List.countP_cons, List.countP_nil, Job.isTail, hopen, and_self,
      if_true]
    omega

/-- A race that is settled already leaves its later promise alone. -/
theorem drop {job : Job} (h : Sound op (job :: jobs) conts)
    (hjob : Job.isWork job = false ∧ Job.isTail job = false)
    (hpaved : Paved op.released jobs = true) : Sound op jobs conts := by
  refine { h with
    job := fun job hmem => h.job job (List.mem_cons_of_mem _ hmem), paved := hpaved, works := ?_,
    tail := ?_ }
  · simpa [List.countP_cons, hjob.1] using h.works
  · simpa [List.countP_cons, hjob.2] using h.tail

theorem onRaceCredential (h : Sound op (.onRace k .credential :: jobs) conts)
    (hcancelled : op.cancelled = false) :
    Sound { op with announced := true } jobs (.succeeded k :: conts) := by
  have hadv : op.Advances { op with announced := true } := ⟨id, id, fun _ => rfl, id, id⟩
  have hreleased : op.released = true := h.job _ List.mem_cons_self
  refine { h with
    announced := fun _ => ⟨hreleased, hcancelled⟩, credential := fun _ => rfl, job := ?_,
    cont := ?_, aborting := List.forall_mem_cons.mpr ⟨by simp [Cont.isAborting], h.aborting⟩,
    starts := ?_, works := ?_, tail := ?_ }
  · intro job hjob
    exact (h.job job (List.mem_cons_of_mem _ hjob)).advance hadv
  · intro cont hcont
    rcases List.mem_cons.mp hcont with rfl | hold
    · rfl
    · exact (h.cont cont hold).advance hadv
  · simpa [List.countP_cons, Cont.isStarted] using h.starts
  · simpa [List.countP_cons, Job.isWork] using h.works
  · have htail := h.tail
    simp only [List.countP_cons, Job.isTail, Cont.isTail, if_true] at htail ⊢
    omega

/-- The `.then` handler throws or is passed by. -/
theorem onRaceFailed {outcome : Settlement} {code : ErrorCode}
    (h : Sound op (.onRace k outcome :: jobs) conts) :
    Sound op (jobs ++ [.onResult k (.failed code)]) conts := by
  refine { h with job := ?_, paved := paved_append _ h.paved ?_, works := ?_, tail := ?_ }
  · apply jobSound_append (.refl op) fun job hjob => h.job job (List.mem_cons_of_mem _ hjob)
    simp [JobSound]
  · cases hr : op.released <;> rfl
  · simpa [List.countP_cons, Job.isWork] using h.works
  · have htail := h.tail
    simp only [List.countP_append, List.countP_cons, List.countP_nil, Job.isTail, if_true]
      at htail ⊢
    omega

/-- While a job behind the race waits, the race is settled and the promise behind it is not. -/
theorem open_of_tail {job : Job} (h : Sound op (job :: jobs) conts)
    (htail : Job.isTail job = true) : op.raced = true ∧ op.promise = none := by
  have hcount := h.tail
  by_contra hno
  simp [hno, htail] at hcount

theorem onResult {outcome result : Settlement} (h : Sound op (.onResult k outcome :: jobs) conts)
    (hresult : result = .credential → op.announced = true) :
    Sound { op with promise := some result } jobs conts := by
  obtain ⟨hraced, hopen⟩ := h.open_of_tail rfl
  refine { h with
    credential := fun hp => hresult (by simpa using hp), settled := fun _ => hraced, job := ?_,
    cont := ?_, works := ?_, tail := ?_ }
  · intro job hjob
    exact (h.job job (List.mem_cons_of_mem _ hjob)).advance ⟨id, id, id, id, id⟩
  · intro cont hcont
    exact (h.cont cont hcont).advance ⟨id, id, id, id, id⟩
  · simpa [List.countP_cons, Job.isWork] using h.works
  · have htail := h.tail
    simp only [List.countP_cons, Job.isTail, hraced, hopen, and_self, if_true] at htail
    simp only [reduceCtorEq, and_false, if_false]
    omega

theorem onResultFailed {outcome : Settlement} {code : ErrorCode}
    (h : Sound op (.onResult k outcome :: jobs) conts) :
    Sound op jobs (.failed k code :: conts) := by
  refine { h with
    job := ?_, cont := ?_,
    aborting := List.forall_mem_cons.mpr ⟨by simp [Cont.isAborting], h.aborting⟩, starts := ?_,
    works := ?_, tail := ?_ }
  · intro job hjob
    exact h.job job (List.mem_cons_of_mem _ hjob)
  · intro cont hcont
    rcases List.mem_cons.mp hcont with rfl | hold
    · trivial
    · exact h.cont cont hold
  · simpa [List.countP_cons, Cont.isStarted] using h.starts
  · simpa [List.countP_cons, Job.isWork] using h.works
  · have htail := h.tail
    simp only [List.countP_cons, Job.isTail, Cont.isTail, if_true] at htail ⊢
    omega

end Sound

end SecureKeypad.Web
