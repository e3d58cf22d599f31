import SecureKeypad.Library.Machine

/-!
# The Passkey Presentation Controller (`packages/web`)

Embeds `createPasskeyController` together with the part of the ECMAScript job queue it runs on.
Every promise reaction of an operation is a job of its own, enqueued when the promise it waits for
settles and run in order. Host code runs in tasks, in microtasks of its own, in the listeners
`publish` calls and in those of the abort signal the environment was given; while it runs, no job
does. The browser settles the promise of a ceremony in a task, or the environment does so inside
host code.

The jobs of one operation, in the order its promises settle:

- `work`: `Promise.resolve().then(() => work(signal))`
- `resume`, `adopt`, `adopted`: the `await` of the browser promise in `createPasskey` or
  `getPasskey`, and `workPromise` taking over that function's promise
- `release`: the reaction that frees the operation slot
- `raceWork`, `raceCancellation`: the two promises inside `Promise.race`
- `onRace`, `onResult`: the `.then` and the `.catch` behind the race
-/

namespace SecureKeypad.Web

/-! ## Presentation states -/

/-- `WebAuthnClientErrorCode`. -/
inductive ErrorCode where
  | insecureContext
  | unsupported
  | invalidOptions
  | invalidMode
  | noCredential
  | invalidCredential
  | credentialApiFailure
  | operationInProgress
  | aborted
  | fallbackNotAcknowledged
deriving DecidableEq, Repr

/-- `PasskeyPresentationOperation`. -/
inductive PasskeyOperation where
  | registration
  | authentication
deriving DecidableEq, Repr

/-- `PasskeyPresentationPhase`. -/
inductive PresentationPhase where
  | idle
  | pending
  | success
  | error
deriving DecidableEq, Repr

/-- `PasskeyPresentationState`. -/
structure PresentationState where
  phase : PresentationPhase
  operation : Option PasskeyOperation
  errorCode : Option ErrorCode
deriving DecidableEq, Repr

/-- What a promise of an operation settles with. -/
inductive Settlement where
  | credential
  | failed (code : ErrorCode)
deriving DecidableEq, Repr

/-! ## Operations and jobs -/

/-- Where the function behind `work` has come. -/
inductive Ceremony where
  /-- The browser has not been asked. -/
  | notBegun
  /-- The browser promise is not settled. -/
  | inFlight
  /-- The browser promise is settled and the function has not resumed yet. -/
  | settled
  /-- The function's promise is settled. -/
  | answered (outcome : Settlement)
deriving DecidableEq

/-- An `ActiveOperation` with the promises around it. -/
structure Operation where
  operation : PasskeyOperation
  cancelled : Bool
  /-- `run` has come past its first `publish`. -/
  attached : Bool
  /-- `rejectCancellation` was called. -/
  cancellationRejected : Bool
  ceremony : Ceremony
  /-- `workPromise` listens to the function's promise. -/
  adopting : Bool
  /-- The slot was released by this operation. -/
  released : Bool
  /-- The promise of the race is settled. -/
  raced : Bool
  /-- The operation published `success`. -/
  announced : Bool
  /-- The promise `run` returned. -/
  promise : Option Settlement
deriving DecidableEq

/-- A new operation. -/
def Operation.new (operation : PasskeyOperation) : Operation where
  operation := operation
  cancelled := false
  attached := false
  cancellationRejected := false
  ceremony := .notBegun
  adopting := false
  released := false
  raced := false
  announced := false
  promise := none

inductive Job where
  | work (k : ℕ)
  | adopt (k : ℕ)
  | resume (k : ℕ) (outcome : Settlement)
  | adopted (k : ℕ) (outcome : Settlement)
  | release (k : ℕ)
  | raceWork (k : ℕ) (outcome : Settlement)
  | raceCancellation (k : ℕ)
  | onRace (k : ℕ) (outcome : Settlement)
  | onResult (k : ℕ) (outcome : Settlement)
  /-- A microtask of the host. -/
  | host
deriving DecidableEq

/-- What the controller does when the listeners it has called have returned. -/
inductive Cont where
  /-- The rest of `run`. -/
  | started (k : ℕ)
  /-- The rest of `cancel` behind `abort`. -/
  | aborting (k : ℕ)
  /-- The rest of `cancel` behind its `publish`. -/
  | cancelled (k : ℕ)
  /-- The rest of the `.then` handler. -/
  | succeeded (k : ℕ)
  /-- The rest of the `.catch` handler. -/
  | failed (k : ℕ) (code : ErrorCode)
deriving DecidableEq

/-- Host code on the call stack. -/
inductive Frame where
  /-- A task or microtask of the host. -/
  | task
  /-- The listeners of a `publish`, or of the abort signal. -/
  | listeners (cont : Cont)
deriving DecidableEq

/-- The controller, its operations and the job queue. -/
structure World where
  state : PresentationState
  active : Option ℕ
  listeners : ℕ
  next : ℕ
  operations : ℕ → Option Operation
  queue : List Job
  stack : List Frame

/-- A new controller. -/
def World.new : World where
  state := ⟨.idle, none, none⟩
  active := none
  listeners := 0
  next := 0
  operations _ := none
  queue := []
  stack := []

/-! ## The controller -/

namespace World

def modify (world : World) (k : ℕ) (f : Operation → Operation) : World :=
  { world with operations := Function.update world.operations k ((world.operations k).map f) }

def enqueue (world : World) (jobs : List Job) : World := { world with queue := world.queue ++ jobs }

/-- `rejectCancellation`. -/
def rejectCancellation (world : World) (k : ℕ) : World :=
  match world.operations k with
  | none => world
  | some op =>
    (world.modify k ({ · with cancellationRejected := true })).enqueue
      (if op.attached && !op.cancellationRejected then [.raceCancellation k] else [])

/-- `cancel` behind `abort`: its `publish`, and then `rejectCancellation`. -/
def publishAborted (world : World) (k : ℕ) : World :=
  let world := { world with
    state := ⟨.error, (world.operations k).map Operation.operation, some .aborted⟩ }
  if world.listeners = 0 then world.rejectCancellation k
  else { world with stack := .listeners (.cancelled k) :: world.stack }

/-- What follows the listeners. -/
def resume (world : World) : Cont → World
  | .started k =>
    -- `Promise.race` finds the cancellation rejected if a listener has cancelled already.
    match world.operations k with
    | none => world
    | some op =>
      (world.modify k ({ · with attached := true })).enqueue
        (.work k :: if op.cancellationRejected then [.raceCancellation k] else [])
  | .aborting k => world.publishAborted k
  | .cancelled k => world.rejectCancellation k
  | .succeeded k => world.enqueue [.onResult k .credential]
  | .failed k code => world.modify k ({ · with promise := some (.failed code) })

/-- `publish`: the listeners run before the caller goes on. -/
def publish (world : World) (state : PresentationState) (cont : Cont) : World :=
  if world.listeners = 0 then { world with state }.resume cont
  else { world with state, stack := .listeners cont :: world.stack }

/-- `run`. -/
def run (world : World) (operation : PasskeyOperation) : World :=
  match world.active with
  -- A rejected promise and no other effect.
  | some _ => world
  | none =>
    { world with
      active := some world.next
      next := world.next + 1
      operations := Function.update world.operations world.next (some (.new operation)) }.publish
        ⟨.pending, some operation, none⟩ (.started world.next)

/-- `cancel`. -/
def cancel (world : World) : World :=
  match world.active with
  | none => world
  | some k =>
    if world.state.phase ≠ .pending then world
    else
      match world.operations k with
      | none => world
      | some op =>
        let world := world.modify k ({ · with cancelled := true })
        -- The signal fires once, and nobody listens to it before the environment is asked.
        if op.cancelled || op.ceremony = .notBegun then world.publishAborted k
        else { world with stack := .listeners (.aborting k) :: world.stack }

/-! ## Jobs -/

/-- How the function behind `work` begins. -/
inductive WorkStart where
  /-- `assertWebAuthnMode` throws. -/
  | unsupported (code : ErrorCode)
  /-- The options are invalid, or asking the browser throws. -/
  | throws (code : ErrorCode)
  /-- The browser is asked and its promise is pending. -/
  | begins
  /-- The browser is asked and its promise is settled already. -/
  | settles (outcome : Settlement)
deriving DecidableEq

/-- `throwIfAborted` on an outcome. -/
def throwIfAborted (op : Operation) (outcome : Settlement) : Settlement :=
  if op.cancelled then .failed .aborted else outcome

/-- The function behind `work` up to its `await`, and `workPromise` taking over its promise. -/
def runWork (world : World) (k : ℕ) (op : Operation) : WorkStart → World
  | .unsupported code =>
    (world.modify k ({ · with ceremony := .answered (.failed code) })).enqueue [.adopt k]
  | .throws code =>
    (world.modify k ({ · with
      ceremony := .answered (throwIfAborted op (.failed code)) })).enqueue [.adopt k]
  | .begins =>
    if op.cancelled then
      (world.modify k ({ · with ceremony := .answered (.failed .aborted) })).enqueue [.adopt k]
    else (world.modify k ({ · with ceremony := .inFlight })).enqueue [.adopt k]
  | .settles outcome =>
    if op.cancelled then
      (world.modify k ({ · with ceremony := .answered (.failed .aborted) })).enqueue [.adopt k]
    else
      (world.modify k ({ · with ceremony := .settled })).enqueue [.resume k outcome, .adopt k]

/-- One job of operation `k`. -/
def runJob (world : World) (start : WorkStart) (k : ℕ) (op : Operation) : Job → World
  | .work _ => world.runWork k op start
  | .adopt _ =>
    (world.modify k ({ · with adopting := true })).enqueue
      (match op.ceremony with
      | .answered outcome => [.adopted k outcome]
      | _ => [])
  | .resume _ outcome =>
    (world.modify k ({ · with ceremony := .answered (throwIfAborted op outcome) })).enqueue
      (if op.adopting then [.adopted k (throwIfAborted op outcome)] else [])
  | .adopted _ outcome => world.enqueue [.release k, .raceWork k outcome]
  | .release _ =>
    { world.modify k ({ · with released := true }) with
      active := if world.active = some k then none else world.active }
  | .raceWork _ outcome =>
    if op.raced then world
    else (world.modify k ({ · with raced := true })).enqueue [.onRace k outcome]
  | .raceCancellation _ =>
    if op.raced then world
    else (world.modify k ({ · with raced := true })).enqueue [.onRace k (.failed .aborted)]
  | .onRace _ .credential =>
    if op.cancelled then world.enqueue [.onResult k (.failed .aborted)]
    else
      (world.modify k ({ · with announced := true })).publish ⟨.success, some op.operation, none⟩
        (.succeeded k)
  | .onRace _ (.failed code) => world.enqueue [.onResult k (.failed code)]
  | .onResult _ .credential => world.modify k ({ · with promise := some .credential })
  | .onResult _ (.failed code) =>
    if op.cancelled then world.modify k ({ · with promise := some (.failed .aborted) })
    else world.publish ⟨.error, some op.operation, some code⟩ (.failed k code)
  | .host => world

end World

/-- The operation a job belongs to. -/
def Job.operation : Job → Option ℕ
  | .work k => some k
  | .adopt k => some k
  | .resume k _ => some k
  | .adopted k _ => some k
  | .release k => some k
  | .raceWork k _ => some k
  | .raceCancellation k => some k
  | .onRace k _ => some k
  | .onResult k _ => some k
  | .host => none

/-! ## Schedules -/

/-- What host code can ask of the controller. -/
inductive HostCall where
  | createPasskey
  | getPasskey
  | cancel
  | getState
  | subscribe
  | unsubscribe
deriving DecidableEq

inductive Event where
  /-- Host code calls the controller. -/
  | call (call : HostCall)
  /-- Host code enqueues a microtask of its own. -/
  | queueMicrotask
  /-- The host code on top of the stack returns. -/
  | hostReturns
  /-- A task of the host begins. -/
  | task
  /-- The next job runs. -/
  | job (start : World.WorkStart)
  /-- The browser promise of an operation settles. -/
  | browser (k : ℕ) (outcome : Settlement)
deriving DecidableEq

namespace World

def hostCall (world : World) : HostCall → World
  | .createPasskey => world.run .registration
  | .getPasskey => world.run .authentication
  | .cancel => world.cancel
  | .getState => world
  | .subscribe => { world with listeners := world.listeners + 1 }
  | .unsubscribe => { world with listeners := world.listeners - 1 }

/-- The job at the head of the queue. -/
def nextJob (world : World) (start : WorkStart) : World :=
  match world.queue with
  | [] => world
  | job :: queue =>
    let world := { world with queue }
    match job.operation with
    | none => { world with stack := [.task] }
    | some k =>
      match world.operations k with
      | none => world
      | some op => world.runJob start k op job

/-- The browser promise of operation `k` settles. -/
def settleBrowser (world : World) (k : ℕ) (outcome : Settlement) : World :=
  match world.operations k with
  | none => world
  | some op =>
    if op.ceremony = .inFlight then
      (world.modify k ({ · with ceremony := .settled })).enqueue [.resume k outcome]
    else world

/-- One event. The answer is the state the host would read. -/
def step (world : World) (event : Event) : PresentationState × World :=
  (world.state,
    match event with
    | .call call => if world.stack = [] then world else world.hostCall call
    | .queueMicrotask => if world.stack = [] then world else world.enqueue [.host]
    | .hostReturns =>
      match world.stack with
      | [] => world
      | .task :: stack => { world with stack }
      | .listeners cont :: stack => { world with stack }.resume cont
    | .task =>
      if world.stack = [] ∧ world.queue = [] then { world with stack := [.task] } else world
    | .job start => if world.stack = [] then world.nextJob start else world
    | .browser k outcome =>
      if world.stack ≠ [] ∨ world.queue = [] then world.settleBrowser k outcome else world)

end World

end SecureKeypad.Web
