import SecureKeypad.Library.BoundedQueue

/-!
# Pending Events of the Android View (`flutter/SecureKeypadFlutterPlugin.kt`)

Embeds `emit`, `onListen` and `onCancel` of `SecureKeypadFlutterPlatformView`. An event is of type
`state` or `result`; what `EventSink.success` does with it is left to the sink. The queue is a
bounded queue whose fleeting events are those of type `state`.

## Main results

- `emit_eq_push`: the iterator loop is the library's eviction
- `eraseNumbers_run`: the numbered queue of a run is the view's
- `pendingEvents_contract`: what holds of the queue and of the deliveries after every run
-/

namespace SecureKeypad.Flutter

open BoundedQueue

def maxPendingEvents : ℕ := 32

/-- An event of the channel, as the map it is sent as. -/
inductive PlatformEvent where
  | state (length : ℕ) (displayState : String)
  | result (code : String)
deriving DecidableEq

/-- `event["type"]`. -/
def PlatformEvent.type : PlatformEvent → String
  | .state _ _ => "state"
  | .result _ => "result"

/-- `event["type"] == "state"`. -/
def PlatformEvent.isState (event : PlatformEvent) : Bool := event.type == "state"

/-- The event channel of a `SecureKeypadFlutterPlatformView`. -/
structure EventChannel (Sink : Type) where
  eventSink : Option Sink
  pendingEvents : List PlatformEvent

/-- The loop of `emit` over the iterator: the events without the first of type `state`, and
    whether there was one. -/
def removeFirstState : List PlatformEvent → List PlatformEvent × Bool
  | [] => ([], false)
  | event :: rest =>
    if event.type == "state" then (rest, true)
    else
      let removed := removeFirstState rest
      (event :: removed.1, removed.2)

/-- An event of type `state` takes the place of one that waits last. -/
def dropOvertaken (pendingEvents : List PlatformEvent) (event : PlatformEvent) :
    List PlatformEvent :=
  if event.isState && pendingEvents.getLast?.any PlatformEvent.isState then
    pendingEvents.dropLast
  else pendingEvents

/-- A full queue loses its first event of type `state`, or else its oldest event. -/
def makeRoom (pendingEvents : List PlatformEvent) : List PlatformEvent :=
  if pendingEvents.length ≥ maxPendingEvents then
    let removed := removeFirstState pendingEvents
    if !removed.2 then removed.1.tail else removed.1
  else pendingEvents

namespace EventChannel

variable {Sink : Type}

def new : EventChannel Sink := ⟨none, []⟩

/-- `emit`, with what it hands to a sink. -/
def emit (channel : EventChannel Sink) (event : PlatformEvent) :
    List (Sink × PlatformEvent) × EventChannel Sink :=
  match channel.eventSink with
  | some sink => ([(sink, event)], channel)
  | none =>
    let pendingEvents := makeRoom (dropOvertaken channel.pendingEvents event)
    ([], { channel with pendingEvents := pendingEvents ++ [event] })

/-- `onListen`: the new sink is handed everything that waits, oldest first. -/
def onListen (channel : EventChannel Sink) (events : Sink) :
    List (Sink × PlatformEvent) × EventChannel Sink :=
  (channel.pendingEvents.map fun event => (events, event), ⟨some events, []⟩)

/-- `onCancel`. -/
def onCancel (channel : EventChannel Sink) : EventChannel Sink := { channel with eventSink := none }

/-- One call, with what it hands to a sink. -/
def step (channel : EventChannel Sink) :
    Call PlatformEvent Sink → List (Sink × PlatformEvent) × EventChannel Sink
  | .emit event => channel.emit event
  | .listen events => channel.onListen events
  | .cancel => ([], channel.onCancel)

/-- The deliveries of a sequence of calls, in order, and the channel they leave behind. -/
def run (calls : List (Call PlatformEvent Sink)) :
    List (Sink × PlatformEvent) × EventChannel Sink :=
  calls.foldl (fun world call => (world.1 ++ (world.2.step call).1, (world.2.step call).2))
    ([], new)

/-! ## The queue as a bounded queue -/

theorem removeFirstState_eq (events : List PlatformEvent) :
    removeFirstState events =
      (events.eraseP PlatformEvent.isState, events.any PlatformEvent.isState) := by
  induction events with
  | nil => rfl
  | cons event rest ih =>
    rw [removeFirstState, List.eraseP_cons, List.any_cons, ih, PlatformEvent.isState]
    cases event.type == "state" <;> rfl

theorem makeRoom_eq (pendingEvents : List PlatformEvent) :
    makeRoom pendingEvents = evict PlatformEvent.isState maxPendingEvents pendingEvents := by
  simp only [makeRoom, evict, removeFirstState_eq]
  cases hany : pendingEvents.any PlatformEvent.isState with
  | true => rfl
  | false =>
    have herase : pendingEvents.eraseP PlatformEvent.isState = pendingEvents := by
      apply List.eraseP_of_forall_not
      intro event hevent
      exact List.any_eq_false.mp hany event hevent
    rw [herase]
    rfl

/-- With nobody listening, `emit` pushes. -/
theorem emit_eq_push {channel : EventChannel Sink} (hsink : channel.eventSink = none)
    (event : PlatformEvent) :
    channel.emit event =
      ([], { channel with
        pendingEvents :=
          push PlatformEvent.isState maxPendingEvents channel.pendingEvents event }) := by
  simp only [emit, hsink, makeRoom_eq]
  rfl

/-! ## Numbered events -/

/-- The ledger of a run: its queue and its deliveries, each event with its number. -/
def ledger (calls : List (Call PlatformEvent Sink)) : Ledger PlatformEvent Sink :=
  Ledger.run PlatformEvent.isState maxPendingEvents calls

/-- The deliveries and the channel that a ledger is about. -/
def eraseNumbers (ledger : Ledger PlatformEvent Sink) :
    List (Sink × PlatformEvent) × EventChannel Sink :=
  (ledger.delivered.map fun d => (d.1, d.2.2), ⟨ledger.sink, ledger.waiting.map Prod.snd⟩)

theorem eraseNumbers_step (ledger : Ledger PlatformEvent Sink) (call : Call PlatformEvent Sink) :
    eraseNumbers (ledger.step PlatformEvent.isState maxPendingEvents call) =
      ((eraseNumbers ledger).1 ++ ((eraseNumbers ledger).2.step call).1,
        ((eraseNumbers ledger).2.step call).2) := by
  cases call with
  | emit event =>
    cases hsink : ledger.sink with
    | none =>
      have hchannel : (eraseNumbers ledger).2.eventSink = none := hsink
      rw [step, emit_eq_push hchannel, List.append_nil]
      simp only [Ledger.step, hsink, eraseNumbers]
      rw [← push_map Prod.snd ledger.waiting (ledger.emitted, event)]
    | some sink =>
      simp only [Ledger.step, hsink, eraseNumbers, step, emit, List.map_append]
      rfl
  | listen events =>
    simp only [Ledger.step, eraseNumbers, step, onListen, List.map_append, List.map_map]
    rfl
  | cancel => simp only [Ledger.step, eraseNumbers, step, onCancel, List.append_nil]

/-- **The numbered queue of a run is the view's.** -/
theorem eraseNumbers_run (calls : List (Call PlatformEvent Sink)) :
    eraseNumbers (ledger calls) = run calls := by
  induction calls using List.reverseRecOn with
  | nil => rfl
  | append_singleton calls call ih =>
    rw [ledger, Ledger.run_snoc, eraseNumbers_step, run, List.foldl_append, ← run, ← ih]
    rfl

/-! ## The contract -/

/-- What holds after a sequence of calls, whatever they are. -/
structure Contract (calls : List (Call PlatformEvent Sink)) : Prop where
  /-- The ledger numbers the events of the channel and its deliveries, -/
  delivered : (ledger calls).delivered.map (fun d => (d.1, d.2.2)) = (run calls).1
  waiting : (ledger calls).waiting.map Prod.snd = (run calls).2.pendingEvents
  /-- each number is the event's place among the emissions, -/
  waiting_number : ∀ e ∈ (ledger calls).waiting, (Ledger.emissions calls)[e.1]? = some e.2
  delivered_number :
    ∀ d ∈ (ledger calls).delivered, (Ledger.emissions calls)[d.2.1]? = some d.2.2
  /-- and the numbers increase from the first delivery to the last waiting event. -/
  increasing : ((ledger calls).delivered.map (·.2.1) ++
    (ledger calls).waiting.map (·.1)).Pairwise (· < ·)
  bounded : (run calls).2.pendingEvents.length ≤ 32
  separated : (run calls).2.pendingEvents.IsChain fun a b => ¬ (a.type = "state" ∧ b.type = "state")
  /-- The newest event waits last, unless it was delivered last. -/
  newest : ∀ n, (Ledger.emissions calls).length = n + 1 →
    ((ledger calls).delivered.map (·.2.1) ++ (ledger calls).waiting.map (·.1)).getLast? = some n
  /-- With a listener nothing waits, and an event goes to it at once. -/
  listening : ∀ sink, (run calls).2.eventSink = some sink → (run calls).2.pendingEvents = [] ∧
    ∀ event, run (calls ++ [.emit event]) =
      ((run calls).1 ++ [(sink, event)], (run calls).2)
  /-- Without one it joins the queue as its last, -/
  joins : (run calls).2.eventSink = none → ∀ event, ∃ survivors,
    (ledger (calls ++ [.emit event])).waiting =
      survivors ++ [((Ledger.emissions calls).length, event)] ∧
    (ledger (calls ++ [.emit event])).delivered = (ledger calls).delivered ∧
    survivors.Sublist (ledger calls).waiting ∧
    /- and of what waited, a `result` is only lost as the oldest of a queue full of them. -/
    ∀ e ∈ (ledger calls).waiting, e ∉ survivors → e.2.type ≠ "state" →
      (ledger calls).waiting.length = 32 ∧ (∀ e' ∈ (ledger calls).waiting, e'.2.type = "result") ∧
      (ledger calls).waiting.head? = some e
  /-- What waits is delivered to the next listener once, whatever is called after that. -/
  once : ∀ e ∈ (ledger calls).waiting, ∀ sink more,
    ((ledger (calls ++ .listen sink :: more)).delivered.filter fun d => d.2.1 == e.1) = [(sink, e)]
  /-- A listener that leaves takes nothing along. -/
  leaving : (ledger (calls ++ [.cancel])).delivered = (ledger calls).delivered ∧
    (ledger (calls ++ [.cancel])).waiting = (ledger calls).waiting

theorem isState_iff (event : PlatformEvent) : event.isState = true ↔ event.type = "state" :=
  beq_iff_eq

theorem type_of_not_isState {event : PlatformEvent} (h : event.isState = false) :
    event.type = "result" := by
  cases event with
  | state => cases h
  | result => rfl

theorem ledger_valid (calls : List (Call PlatformEvent Sink)) :
    (ledger calls).Valid PlatformEvent.isState maxPendingEvents (Ledger.emissions calls) :=
  Ledger.run_valid PlatformEvent.isState (by decide) calls

theorem ledger_snoc (calls : List (Call PlatformEvent Sink)) (call : Call PlatformEvent Sink) :
    ledger (calls ++ [call]) =
      (ledger calls).step PlatformEvent.isState maxPendingEvents call :=
  Ledger.run_snoc ..

theorem joins_of_waiting {calls : List (Call PlatformEvent Sink)}
    (hsink : (run calls).2.eventSink = none) (event : PlatformEvent) :
    ∃ survivors,
      (ledger (calls ++ [.emit event])).waiting =
        survivors ++ [((Ledger.emissions calls).length, event)] ∧
      (ledger (calls ++ [.emit event])).delivered = (ledger calls).delivered ∧
      survivors.Sublist (ledger calls).waiting ∧
      ∀ e ∈ (ledger calls).waiting, e ∉ survivors → e.2.type ≠ "state" →
        (ledger calls).waiting.length = 32 ∧
        (∀ e' ∈ (ledger calls).waiting, e'.2.type = "result") ∧
        (ledger calls).waiting.head? = some e := by
  have hvalid := ledger_valid calls
  rw [← eraseNumbers_run] at hsink
  obtain ⟨survivors, hsurvives, hstep⟩ :=
    Ledger.step_emit_waiting (by decide) hvalid hsink event
  rw [ledger_snoc, hstep, ← hvalid.emitted]
  refine ⟨survivors, rfl, rfl, hsurvives.sublist, ?_⟩
  intro e he hlost htype
  rcases hsurvives.dropped he hlost with hstate | ⟨hfull, hnone, hhead⟩
  · exact absurd ((isState_iff e.2).mp hstate) htype
  · exact ⟨hfull, fun e' he' => type_of_not_isState (hnone e' he'), hhead⟩

/-- **The queue keeps its contract** under every sequence of calls. -/
theorem pendingEvents_contract (calls : List (Call PlatformEvent Sink)) : Contract calls := by
  have hvalid := ledger_valid calls
  -- The ledger numbers the events of the queue; without the numbers it is the queue.
  have herase := eraseNumbers_run calls
  have hwaiting : (ledger calls).waiting.map Prod.snd = (run calls).2.pendingEvents := by
    rw [← herase]
    rfl
  constructor
  case delivered =>
    rw [← herase]
    rfl
  case waiting => exact hwaiting
  case waiting_number => exact hvalid.waits
  case delivered_number => exact hvalid.went
  case increasing => exact hvalid.increasing
  case bounded =>
    rw [← hwaiting, List.length_map]
    exact hvalid.bounded
  case separated =>
    rw [← hwaiting, List.isChain_map]
    refine hvalid.separated.imp fun a b hnot hboth => hnot ?_
    rwa [isState_iff, isState_iff]
  case newest =>
    intro n hn
    exact hvalid.newest n (hvalid.emitted.trans hn)
  case listening =>
    intro sink hsink
    have hlistens : (ledger calls).sink = some sink := by
      rw [← herase] at hsink
      exact hsink
    have hnothing : (ledger calls).waiting = [] := by
      apply hvalid.idle
      rw [hlistens]
      exact Option.some_ne_none _
    refine ⟨by rw [← hwaiting, hnothing, List.map_nil], fun event => ?_⟩
    rw [run, List.foldl_append, ← run]
    simp only [List.foldl_cons, List.foldl_nil, step, emit, hsink]
  case joins => exact fun hsink event => joins_of_waiting hsink event
  case once =>
    intro e he sink more
    exact Ledger.delivered_once PlatformEvent.isState (by decide) calls more sink he
  case leaving =>
    rw [ledger_snoc]
    exact ⟨rfl, rfl⟩

end EventChannel

end SecureKeypad.Flutter
