import SecureKeypad.Library.Machine

/-!
# Optimistic Transactions on a Watched Key

Clients share one key of a Redis server. A client watches the key, reads it by a script, decides
from the answer what to write and sends the write in a `MULTI`/`EXEC` block, which the server
executes unless the key was written since the watch. Every step of every client is one command
on the server, and a schedule may interleave the steps in any way.

What a client makes of the reply to `EXEC` is its own affair (`Client.settle`): the rules below
speak of the executed blocks, not of what the calls return.

## Main definitions

- `Client`: the read script and the closure of an optimistic transaction
- `World`, `step`: the server with its connections, and one command of one of them
- `atomically`: script and closure run on a value at once
- `commits`: the calls whose block was executed, in the order of execution

## Main results

- `Fresh.step`: a clean block was computed from the value the key has now
- `commits_serial`: the key holds what its executed blocks make of the first value, each run at
  once, in the order of their execution
-/

namespace Watch

open Machine

variable {C A V R : Type*}

/-- The server's reply to `EXEC`. -/
inductive ExecReply where
  /-- The block was executed. -/
  | values
  /-- The key was written since the watch and the block was dropped. -/
  | nil
deriving DecidableEq, Repr

/-- The transaction of a call of type `C` on a key of type `V`. -/
structure Client (C A V R : Type*) where
  /-- The read script: its answer, and what it writes if it writes. -/
  script : V → A × Option V
  /-- The closure up to its `EXEC`: return at once, or send a write. -/
  body : C → A → R ⊕ V
  /-- The closure after `EXEC`: return, or run the transaction again. -/
  settle : C → ExecReply → Option R

/-- How far a connection has come with its call. -/
inductive Phase (C V : Type*) where
  | idle
  /-- The next command is `WATCH`. -/
  | started (call : C)
  /-- The next command is the script. -/
  | watched (call : C)
  /-- The next command is the block that writes `value`. -/
  | queued (call : C) (value : V)

/-- The connection watches the key. -/
def Phase.watches : Phase C V → Bool
  | .watched _ => true
  | .queued _ _ => true
  | _ => false

/-- A connection: its phase, and whether the key was written since it was watched. -/
structure Conn (C V : Type*) where
  phase : Phase C V
  dirty : Bool

/-- The value of the key and the connections. -/
structure World (C V : Type*) where
  value : V
  conns : ℕ → Conn C V

/-- The world before any call. -/
def World.initial (value : V) : World C V := ⟨value, fun _ => ⟨.idle, false⟩⟩

/-- One connection replaced. -/
def World.set (world : World C V) (client : ℕ) (conn : Conn C V) : World C V :=
  { world with conns := Function.update world.conns client conn }

/-- A write of the key, seen by every connection that watches it. -/
def World.write (world : World C V) (value : V) : World C V where
  value := value
  conns client :=
    { world.conns client with
      dirty := (world.conns client).dirty || (world.conns client).phase.watches }

/-- What a schedule is made of. -/
inductive Event (C : Type*) where
  /-- A free connection is given a call. -/
  | call (client : ℕ) (call : C)
  /-- A connection executes its next command. -/
  | step (client : ℕ)

/-- A call that returned: its result, and the reply to its `EXEC` if it sent one. -/
structure Returned (C R : Type*) where
  client : ℕ
  call : C
  result : R
  exec : Option ExecReply

/-- What one event shows: the block it executed, and the call it ended. -/
structure Output (C R : Type*) where
  committed : Option C
  returned : Option (Returned C R)

/-- An event that nobody sees. -/
def Output.silent : Output C R := ⟨none, none⟩

/-- A block reaches the server: it is dropped if the watch is dirty. -/
def execReply (conn : Conn C V) : ExecReply := if conn.dirty then .nil else .values

/-- One event. `UNWATCH` is left to the end of the call it belongs to: it touches nothing but the
    connection's own watch. -/
def step (client : Client C A V R) (world : World C V) : Event C → Output C R × World C V
  | .call k call =>
    match (world.conns k).phase with
    | .idle => (.silent, world.set k ⟨.started call, false⟩)
    | _ => (.silent, world)
  | .step k =>
    match (world.conns k).phase with
    | .idle => (.silent, world)
    | .started call => (.silent, world.set k ⟨.watched call, false⟩)
    | .watched call =>
      let (answer, write) := client.script world.value
      let world := write.elim world world.write
      match client.body call answer with
      | .inl result => (⟨none, some ⟨k, call, result, none⟩⟩, world.set k ⟨.idle, false⟩)
      | .inr value => (.silent, world.set k ⟨.queued call value, (world.conns k).dirty⟩)
    | .queued call value =>
      let reply := execReply (world.conns k)
      let (committed, world) := match reply with
        | .values => (some call, world.write value)
        | .nil => (none, world)
      match client.settle call reply with
      | some result => (⟨committed, some ⟨k, call, result, some reply⟩⟩, world.set k ⟨.idle, false⟩)
      | none => (⟨committed, none⟩, world.set k ⟨.started call, false⟩)

/-- The script and the closure run on a value at once: what they write, if they write. -/
def atomically (client : Client C A V R) (value : V) (call : C) : Option V :=
  match client.body call (client.script value).1 with
  | .inl _ => none
  | .inr value => some value

/-- The calls whose block was executed, in order. -/
def commits (log : List (Event C × Output C R)) : List C := log.filterMap fun p => p.2.committed

@[simp] theorem World.set_value (world : World C V) (k : ℕ) (conn : Conn C V) :
    (world.set k conn).value = world.value := rfl

@[simp] theorem World.set_conns_self (world : World C V) (k : ℕ) (conn : Conn C V) :
    (world.set k conn).conns k = conn := Function.update_self _ _ _

theorem World.set_conns_of_ne (world : World C V) {k j : ℕ} (conn : Conn C V) (h : j ≠ k) :
    (world.set k conn).conns j = world.conns j := Function.update_of_ne h _ _

@[simp] theorem World.write_value (world : World C V) (value : V) :
    (world.write value).value = value := rfl

/-! ## Clean blocks -/

/-- Values the script only reads, kept by every call. -/
structure Quiet (client : Client C A V R) (P : V → Prop) : Prop where
  reads : ∀ value, P value → (client.script value).2 = none
  keeps : ∀ value call value', P value → atomically client value call = some value' → P value'

/-- Every block whose watch is clean writes what its call makes of the value the key has now. -/
structure Fresh (client : Client C A V R) (P : V → Prop) (world : World C V) : Prop where
  ok : P world.value
  fresh : ∀ k call value, (world.conns k).phase = .queued call value →
    (world.conns k).dirty = false → atomically client world.value call = some value

/-- All an event can do while the script only reads. -/
inductive Effect (client : Client C A V R) (world : World C V) :
    Output C R → World C V → Prop where
  /-- Nothing. -/
  | stay : Effect client world .silent world
  /-- A connection moves on without a block, or ends its call. -/
  | moved (k : ℕ) (conn : Conn C V) (returned : Option (Returned C R))
      (hphase : ∀ call value, conn.phase ≠ .queued call value) :
      Effect client world ⟨none, returned⟩ (world.set k conn)
  /-- A connection computes its block. -/
  | queued (k : ℕ) (call : C) (value : V) (dirty : Bool)
      (hvalue : atomically client world.value call = some value) :
      Effect client world .silent (world.set k ⟨.queued call value, dirty⟩)
  /-- A clean block is executed. -/
  | executed (k : ℕ) (call : C) (value : V) (conn : Conn C V) (returned : Option (Returned C R))
      (hqueued : (world.conns k).phase = .queued call value)
      (hclean : (world.conns k).dirty = false)
      (hphase : ∀ call value, conn.phase ≠ .queued call value) :
      Effect client world ⟨some call, returned⟩ ((world.write value).set k conn)

section Runs

variable {client : Client C A V R} {P : V → Prop} {world : World C V}

theorem step_effect (hquiet : Quiet client P) (hok : P world.value) (event : Event C) :
    Effect client world (step client world event).1 (step client world event).2 := by
  cases event with
  | call k call =>
    simp only [step]
    split
    · exact .moved k _ _ (by simp)
    · exact .stay
  | step k =>
    simp only [step]
    split
    · exact .stay
    · exact .moved k _ _ (by simp)
    · next call hphase =>
      rw [hquiet.reads _ hok]
      cases hbody : client.body call (client.script world.value).1 with
      | inl result => exact .moved k _ _ (by simp)
      | inr value => exact .queued k call value _ (by rw [atomically, hbody])
    · next call value hphase =>
      cases hdirty : (world.conns k).dirty with
      | true =>
        -- The server drops the block: the value stays, and so does every other connection.
        simp only [execReply, hdirty, if_true]
        cases client.settle call .nil with
        | some result => exact .moved k _ _ (by simp)
        | none => exact .moved k _ _ (by simp)
      | false =>
        simp only [execReply, hdirty, Bool.false_eq_true, if_false]
        cases client.settle call .values with
        | some result => exact .executed k call value _ _ hphase hdirty (by simp)
        | none => exact .executed k call value _ _ hphase hdirty (by simp)

/-- The value after an event is the one its committed call makes of the value before. -/
theorem Effect.value_eq {output : Output C R} {after : World C V}
    (heffect : Effect client world output after) (h : Fresh client P world) :
    output.committed.elim (some world.value) (atomically client world.value) =
      some after.value := by
  cases heffect with
  | stay => rfl
  | moved k conn returned hphase => rfl
  | queued k call value dirty hvalue => rfl
  | executed k call value conn returned hqueued hclean hphase =>
    exact h.fresh k call value hqueued hclean

/-- **Events keep clean blocks up to date.** An executed block leaves every other watch dirty. -/
theorem Effect.fresh {output : Output C R} {after : World C V}
    (heffect : Effect client world output after) (hquiet : Quiet client P)
    (h : Fresh client P world) : Fresh client P after := by
  have hvalue := heffect.value_eq h
  cases heffect with
  | stay => exact h
  -- No new write is queued by such a move.
  | moved k conn returned hphase =>
    refine ⟨h.ok, ?_⟩
    intro j call value hqueued hclean
    rcases eq_or_ne j k with rfl | hne
    · rw [World.set_conns_self] at hqueued
      exact absurd hqueued (hphase call value)
    · rw [World.set_conns_of_ne _ _ hne] at hqueued hclean
      exact h.fresh j call value hqueued hclean
  | queued k call value dirty hatomic =>
    refine ⟨h.ok, ?_⟩
    intro j call' value' hqueued hclean
    rcases eq_or_ne j k with rfl | hne
    · rw [World.set_conns_self] at hqueued
      cases hqueued
      exact hatomic
    · rw [World.set_conns_of_ne _ _ hne] at hqueued hclean
      exact h.fresh j call' value' hqueued hclean
  -- The write makes every other connection that watches the key dirty.
  | executed k call value conn returned hqueued hclean hphase =>
    refine ⟨hquiet.keeps _ call _ h.ok hvalue, ?_⟩
    intro j call' value' hqueued' hclean'
    rcases eq_or_ne j k with rfl | hne
    · rw [World.set_conns_self] at hqueued'
      exact absurd hqueued' (hphase call' value')
    · rw [World.set_conns_of_ne _ _ hne] at hqueued' hclean'
      have hphase' : (world.conns j).phase = .queued call' value' := hqueued'
      simp [World.write, hphase', Phase.watches] at hclean'

theorem Fresh.of_initial (value : V) (hok : P value) :
    Fresh client P (World.initial value) where
  ok := hok
  fresh := by
    intro k call value hqueued
    cases hqueued

theorem Fresh.step (h : Fresh client P world) (hquiet : Quiet client P) (event : Event C) :
    Fresh client P (Watch.step client world event).2 :=
  (step_effect hquiet h.ok event).fresh hquiet h

theorem Fresh.run (h : Fresh client P world) (hquiet : Quiet client P)
    (events : List (Event C)) : Fresh client P (Machine.run (Watch.step client) world events) :=
  run_invariant (Watch.step client) (P := Fresh client P) (fun _ event h => h.step hquiet event) h
    events

/-- **Executed blocks serialise.** The key holds what the calls whose blocks were executed make of
    its first value, each run at once, in the order of execution. -/
theorem commits_serial (hquiet : Quiet client P) (h : Fresh client P world)
    (events : List (Event C)) :
    (commits (trace (step client) world events)).foldlM (atomically client) world.value =
      some (Machine.run (step client) world events).value := by
  induction events generalizing world with
  | nil => rfl
  | cons event events ih =>
    have hvalue := (step_effect hquiet h.ok event).value_eq h
    have hrest := ih (h.step hquiet event)
    rw [trace_cons, run_cons, ← hrest]
    generalize (step client world event).1 = output at hvalue ⊢
    cases hcommitted : output.committed with
    | none =>
      rw [hcommitted] at hvalue
      simp only [commits, List.filterMap_cons, hcommitted]
      rw [Option.some.inj hvalue]
    | some call =>
      rw [hcommitted] at hvalue
      have hatomic : atomically client world.value call =
          some (step client world event).2.value := hvalue
      simp only [commits, List.filterMap_cons, hcommitted, List.foldlM_cons, hatomic]
      rfl

end Runs

/-! ## A client alone -/

/-- A call by the only client of the server: its result and the value it leaves. -/
def alone (client : Client C A V R) (value : V) (call : C) : Option R × V :=
  let (answer, write) := client.script value
  match client.body call answer with
  | .inl result => (some result, write.getD value)
  | .inr next =>
    match write with
    | none => (client.settle call .values, next)
    -- A write of the client's own script dirties its watch as well.
    | some written => (client.settle call .nil, written)

/-- The three commands of an undisturbed call. -/
theorem alone_eq_run (client : Client C A V R) (value : V) (call : C) :
    (Machine.run (step client) (World.initial value)
      [.call 0 call, .step 0, .step 0, .step 0]).value = (alone client value call).2 ∧
    ((trace (step client) (World.initial value)
      [.call 0 call, .step 0, .step 0, .step 0]).filterMap fun p =>
        p.2.returned.map Returned.result) = (alone client value call).1.toList := by
  cases hscript : client.script value with
  | mk answer write =>
    cases hbody : client.body call answer with
    | inl result =>
      cases write <;>
        simp [run_cons, step, World.initial, alone, hscript, hbody, Output.silent]
    | inr next =>
      cases write with
      | none =>
        cases hsettle : client.settle call .values <;>
          simp [run_cons, step, World.initial, alone, hscript, hbody, hsettle, Output.silent,
            execReply]
      | some written =>
        cases hsettle : client.settle call .nil <;>
          simp [run_cons, step, World.initial, World.write, World.set, alone, hscript, hbody,
            hsettle, Output.silent, execReply, Phase.watches]

end Watch
