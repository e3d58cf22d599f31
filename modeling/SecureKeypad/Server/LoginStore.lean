import SecureKeypad.Library.KeyedMap
import SecureKeypad.Library.Machine
import SecureKeypad.Auth.Protocol

/-!
# The In-Memory One-Time Login Store (`secure-auth-server`)

Embeds `InMemoryOneTimeLoginStore`: a mutex around a hash map from random 32-byte handles to
pending login states, bound or unbound, each with an expiry.

Every operation reads the clock before it takes the lock, so a run is a list of calls in lock
order whose readings are arbitrary: nothing orders the reading of one call against the next.
`OsRng` is the list of handles it yields; it panics where the list ends, which inside the
critical section poisons the mutex.

## Main results

- `step_cases`: everything one call can do to the map
- `step_refines_ledger`: the store refines the one-time ledger
- `in_memory_store_run`: the guarantees of the store over every run
-/

namespace SecureKeypad.Server

open Rust Auth

/-! ## Handles, states, errors -/

def handleBytes : ℕ := 32
def handleAttempts : ℕ := 4
def maxInMemoryEntries : ℕ := 100000
def maxStoredStateBytes : ℕ := maxServerLoginStateBytes

/-- `LoginStateHandle`. -/
structure LoginStateHandle where
  bytes : Bytes
  length_eq : bytes.length = handleBytes
deriving DecidableEq

/-- `StoreError`. -/
inductive StoreError where
  | invalidCapacity
  | invalidTtl
  | capacityReached
  | stateTooLarge
  | invalidIdentifier
  | stateTypeMismatch
  | unavailable
  | handleCollision
deriving DecidableEq

/-- What `validate_identifier` lets through. -/
def IsBoundedIdentifier (identifier : Bytes) : Prop :=
  ¬ (identifier.isEmpty ∨ identifier.length > maxIdentifierBytes)

instance (identifier : Bytes) : Decidable (IsBoundedIdentifier identifier) :=
  inferInstanceAs (Decidable (¬ _))

/-- `BoundLoginState`: a serialized state with the identifiers used during OPAQUE start. -/
structure BoundLoginState where
  state : ServerLoginStateBytes
  clientIdentifier : Bytes
  serverIdentifier : Bytes
  client_bounded : IsBoundedIdentifier clientIdentifier
  server_bounded : IsBoundedIdentifier serverIdentifier
deriving DecidableEq

/-- `BoundLoginState::new`. -/
def BoundLoginState.new (state : ServerLoginStateBytes)
    (clientIdentifier serverIdentifier : Bytes) : Except StoreError BoundLoginState :=
  if hc : IsBoundedIdentifier clientIdentifier then
    if hs : IsBoundedIdentifier serverIdentifier then
      .ok ⟨state, clientIdentifier, serverIdentifier, hc, hs⟩
    else .error .invalidIdentifier
  else .error .invalidIdentifier

/-- A bound state holds what it was built from. -/
theorem BoundLoginState.new_eq_ok {state : ServerLoginStateBytes}
    {clientIdentifier serverIdentifier : Bytes} {bound : BoundLoginState}
    (h : BoundLoginState.new state clientIdentifier serverIdentifier = .ok bound) :
    bound.state = state ∧ bound.clientIdentifier = clientIdentifier ∧
      bound.serverIdentifier = serverIdentifier := by
  unfold BoundLoginState.new at h
  split at h
  · split at h
    · cases h
      exact ⟨rfl, rfl, rfl⟩
    · cases h
  · cases h

/-- `StoredState`. -/
inductive StoredState where
  | unbound (state : ServerLoginStateBytes)
  | bound (state : BoundLoginState)
deriving DecidableEq

/-- The serialized length `insert_stored` checks. -/
def StoredState.length : StoredState → ℕ
  | .unbound state => state.bytes.length
  | .bound state => state.state.bytes.length

/-- The state `take` returns; `none` for the other kind. -/
def StoredState.asUnbound : StoredState → Option ServerLoginStateBytes
  | .unbound state => some state
  | .bound _ => none

/-- The state `take_bound` returns; `none` for the other kind. -/
def StoredState.asBound : StoredState → Option BoundLoginState
  | .unbound _ => none
  | .bound state => some state

/-- `Entry`. -/
structure Entry where
  expiresAt : ℕ
  state : StoredState
deriving DecidableEq

abbrev Entries := KeyedMap LoginStateHandle Entry

/-- `purge_expired`. -/
def purgeExpired (entries : Entries) (now : ℕ) : Entries :=
  entries.retain fun _ entry => now < entry.expiresAt

/-- Purging leaves every entry that is unexpired at the reading. -/
theorem lookup_purgeExpired {entries : Entries} {now : ℕ} {handle : LoginStateHandle}
    {entry : Entry} : (purgeExpired entries now).lookup handle = some entry ↔
      entries.lookup handle = some entry ∧ now < entry.expiresAt := by
  unfold purgeExpired
  rw [KeyedMap.lookup_retain_eq_some, decide_eq_true_eq]

/-! ## The store -/

/-- `InMemoryOneTimeLoginStore`. -/
structure InMemoryOneTimeLoginStore where
  entries : Mutex Entries
  maxEntries : ℕ
  ttl : ℕ

namespace InMemoryOneTimeLoginStore

/-- `InMemoryOneTimeLoginStore::new`, on a clock that reads `now` and ends at `instantMax`. -/
def new (instantMax now maxEntries ttl : ℕ) : Except StoreError InMemoryOneTimeLoginStore :=
  if maxEntries = 0 ∨ maxEntries > maxInMemoryEntries then .error .invalidCapacity
  else if (checkedAddInstant instantMax now ttl).isNone then .error .invalidTtl
  else .ok { entries := Mutex.new ∅, maxEntries, ttl }

/-- The map under the mutex. -/
def map (store : InMemoryOneTimeLoginStore) : Entries := store.entries.value

/-- Leave the critical section with the map `entries`. -/
def write (store : InMemoryOneTimeLoginStore) (entries : Entries) : InMemoryOneTimeLoginStore :=
  { store with entries := store.entries.store entries }

@[simp] theorem map_write (store : InMemoryOneTimeLoginStore) (entries : Entries) :
    (store.write entries).map = entries := rfl

/-- The outcome of the handle loop of `insert_stored`. -/
inductive Draw where
  | vacant (handle : LoginStateHandle)
  | exhausted
  | rngPanic

/-- The handle loop of `insert_stored`: draw until a vacant handle, `attempts` times at most. -/
def drawVacant (entries : Entries) : ℕ → List LoginStateHandle → Draw
  | 0, _ => .exhausted
  | _ + 1, [] => .rngPanic
  | attempts + 1, handle :: draws =>
    if (entries.lookup handle).isNone then .vacant handle else drawVacant entries attempts draws

theorem lookup_of_drawVacant {entries : Entries} {attempts : ℕ} {draws : List LoginStateHandle}
    {handle : LoginStateHandle} (h : drawVacant entries attempts draws = .vacant handle) :
    entries.lookup handle = none := by
  fun_induction drawVacant entries attempts draws with
  | case1 => cases h
  | case2 => cases h
  | case3 attempts handle' draws hvacant =>
    cases h
    exact Option.isNone_iff_eq_none.mp hvacant
  | case4 attempts handle' draws hoccupied ih => exact ih h

/-- `insert_stored`; `none` means that the thread panicked. -/
def insertStored (instantMax : ℕ) (store : InMemoryOneTimeLoginStore) (now : ℕ)
    (draws : List LoginStateHandle) (state : StoredState) :
    Option (Except StoreError LoginStateHandle) × InMemoryOneTimeLoginStore :=
  if state.length > maxStoredStateBytes then (some (.error .stateTooLarge), store)
  else
    match checkedAddInstant instantMax now store.ttl with
    | none => (some (.error .invalidTtl), store)
    | some expiresAt =>
      match store.entries.lock with
      | none => (some (.error .unavailable), store)
      | some entries =>
        let entries := purgeExpired entries now
        if entries.size ≥ store.maxEntries then
          (some (.error .capacityReached), store.write entries)
        else
          match drawVacant entries handleAttempts draws with
          | .vacant handle =>
            (some (.ok handle), store.write (entries.insert handle { expiresAt, state }))
          | .exhausted => (some (.error .handleCollision), store.write entries)
          | .rngPanic => (none, { store with entries := (store.entries.store entries).poison })

/-- The common body of `take` and `take_bound`, which differ in the kind of state they
    `select`. -/
def takeWith {α : Type} (select : StoredState → Option α) (store : InMemoryOneTimeLoginStore)
    (now : ℕ) (handle : LoginStateHandle) :
    Except StoreError (Option α) × InMemoryOneTimeLoginStore :=
  match store.entries.lock with
  | none => (.error .unavailable, store)
  | some entries =>
    match entries.lookup handle with
    | none => (.ok none, store)
    | some entry =>
      if entry.expiresAt ≤ now then (.ok none, store.write (entries.erase handle))
      else
        match select entry.state with
        | none => (.error .stateTypeMismatch, store)
        | some state => (.ok (some state), store.write (entries.erase handle))

/-- `take`. -/
def take (store : InMemoryOneTimeLoginStore) (now : ℕ) (handle : LoginStateHandle) :
    Except StoreError (Option ServerLoginStateBytes) × InMemoryOneTimeLoginStore :=
  store.takeWith StoredState.asUnbound now handle

/-- `take_bound`. -/
def takeBound (store : InMemoryOneTimeLoginStore) (now : ℕ) (handle : LoginStateHandle) :
    Except StoreError (Option BoundLoginState) × InMemoryOneTimeLoginStore :=
  store.takeWith StoredState.asBound now handle

/-- `len`. -/
def len (store : InMemoryOneTimeLoginStore) (now : ℕ) :
    Except StoreError ℕ × InMemoryOneTimeLoginStore :=
  match store.entries.lock with
  | none => (.error .unavailable, store)
  | some entries =>
    (.ok (purgeExpired entries now).size, store.write (purgeExpired entries now))

/-! ## What one operation does -/

/-- Every outcome of an insertion: the map is untouched; or it is purged at the reading and
    nothing is stored; or it is purged and gains one entry under a handle that was vacant. -/
theorem insertStored_cases (instantMax : ℕ) (store : InMemoryOneTimeLoginStore) (now : ℕ)
    (draws : List LoginStateHandle) (state : StoredState) :
    let after := (store.insertStored instantMax now draws state).2
    let answer := (store.insertStored instantMax now draws state).1
    after.maxEntries = store.maxEntries ∧ after.ttl = store.ttl ∧
      ((∃ e, answer = some (.error e) ∧ after.map = store.map ∧
          e ∈ [.stateTooLarge, .invalidTtl, .unavailable]) ∨
        ((answer = none ∨ answer = some (.error .capacityReached) ∨
            answer = some (.error .handleCollision)) ∧
          after.map = purgeExpired store.map now) ∨
        ∃ handle, answer = some (.ok handle) ∧
          (purgeExpired store.map now).lookup handle = none ∧
          (purgeExpired store.map now).size < store.maxEntries ∧
          after.map =
            (purgeExpired store.map now).insert handle ⟨now + store.ttl, state⟩) := by
  -- The exits in the order of the code; the purge stands behind the lock.
  unfold insertStored
  split
  · exact ⟨rfl, rfl, .inl ⟨_, rfl, rfl, by simp⟩⟩
  · cases hadd : checkedAddInstant instantMax now store.ttl with
    | none => exact ⟨rfl, rfl, .inl ⟨_, rfl, rfl, by simp⟩⟩
    | some expiresAt =>
      obtain rfl := checkedAddInstant_eq_some hadd
      cases hlock : store.entries.lock with
      | none => exact ⟨rfl, rfl, .inl ⟨_, rfl, rfl, by simp⟩⟩
      | some entries =>
        obtain rfl := Mutex.lock_eq_some hlock
        simp only
        split
        · exact ⟨rfl, rfl, .inr (.inl ⟨.inr (.inl rfl), rfl⟩)⟩
        · next hsize =>
          cases hdraw : drawVacant (purgeExpired store.entries.value now) handleAttempts draws with
          | vacant handle =>
            exact ⟨rfl, rfl, .inr (.inr ⟨handle, rfl, lookup_of_drawVacant hdraw,
              Nat.lt_of_not_le hsize, rfl⟩)⟩
          | exhausted => exact ⟨rfl, rfl, .inr (.inl ⟨.inr (.inr rfl), rfl⟩)⟩
          | rngPanic => exact ⟨rfl, rfl, .inr (.inl ⟨.inl rfl, rfl⟩)⟩

/-- Every outcome of a take: the map is untouched and nothing is returned; or an expired entry
    is dropped; or the unexpired entry under the handle is removed and its state returned. -/
theorem takeWith_cases {α : Type} (select : StoredState → Option α)
    (store : InMemoryOneTimeLoginStore) (now : ℕ) (handle : LoginStateHandle) :
    let after := (store.takeWith select now handle).2
    let answer := (store.takeWith select now handle).1
    after.maxEntries = store.maxEntries ∧ after.ttl = store.ttl ∧
      ((after.map = store.map ∧
          ((∃ e, answer = .error e) ∨ answer = .ok none ∧ store.map.lookup handle = none)) ∨
        (answer = .ok none ∧ after.map = store.map.erase handle ∧
          ∃ entry, store.map.lookup handle = some entry ∧ entry.expiresAt ≤ now) ∨
        ∃ entry state, answer = .ok (some state) ∧ store.map.lookup handle = some entry ∧
          now < entry.expiresAt ∧ select entry.state = some state ∧
          after.map = store.map.erase handle) := by
  -- The exits in the order of the code; an expired entry goes, one of another type stays.
  unfold takeWith
  cases hlock : store.entries.lock with
  | none => exact ⟨rfl, rfl, .inl ⟨rfl, .inl ⟨_, rfl⟩⟩⟩
  | some entries =>
    obtain rfl := Mutex.lock_eq_some hlock
    simp only
    cases hentry : store.entries.value.lookup handle with
    | none => exact ⟨rfl, rfl, .inl ⟨rfl, .inr ⟨rfl, hentry⟩⟩⟩
    | some entry =>
      simp only
      split
      · next hexpired => exact ⟨rfl, rfl, .inr (.inl ⟨rfl, rfl, entry, hentry, hexpired⟩)⟩
      · next hlive =>
        cases hselect : select entry.state with
        | none => exact ⟨rfl, rfl, .inl ⟨rfl, .inl ⟨_, rfl⟩⟩⟩
        | some state =>
          exact ⟨rfl, rfl, .inr (.inr ⟨entry, state, rfl, hentry, Nat.lt_of_not_le hlive,
            hselect, rfl⟩)⟩

end InMemoryOneTimeLoginStore

/-! ## Runs of calls -/

/-- One call with the clock reading it works with and what it draws from `OsRng`. -/
inductive StoreCall where
  | insert (now : ℕ) (draws : List LoginStateHandle) (state : ServerLoginStateBytes)
  | insertBound (now : ℕ) (draws : List LoginStateHandle) (state : BoundLoginState)
  | take (now : ℕ) (handle : LoginStateHandle)
  | takeBound (now : ℕ) (handle : LoginStateHandle)
  | len (now : ℕ)

/-- The clock reading of a call. -/
def StoreCall.now : StoreCall → ℕ
  | .insert now _ _ | .insertBound now _ _ | .take now _ | .takeBound now _ | .len now => now

/-- What a call returns. -/
inductive StoreAnswer where
  | inserted (result : Except StoreError LoginStateHandle)
  | taken (result : Except StoreError (Option ServerLoginStateBytes))
  | takenBound (result : Except StoreError (Option BoundLoginState))
  | counted (result : Except StoreError ℕ)
  | panicked

/-- The error a call was answered with. -/
def StoreAnswer.failure : StoreAnswer → Option StoreError
  | .inserted (.error e) | .taken (.error e) | .takenBound (.error e) | .counted (.error e) =>
    some e
  | _ => none

/-- The answer of an insertion. -/
def StoreAnswer.ofInsert : Option (Except StoreError LoginStateHandle) → StoreAnswer
  | some result => .inserted result
  | none => .panicked

/-- One call, atomic under the mutex. -/
def storeStep (instantMax : ℕ) (store : InMemoryOneTimeLoginStore) :
    StoreCall → StoreAnswer × InMemoryOneTimeLoginStore
  | .insert now draws state =>
    let (result, store) := store.insertStored instantMax now draws (.unbound state)
    (.ofInsert result, store)
  | .insertBound now draws state =>
    let (result, store) := store.insertStored instantMax now draws (.bound state)
    (.ofInsert result, store)
  | .take now handle =>
    let (result, store) := store.take now handle
    (.taken result, store)
  | .takeBound now handle =>
    let (result, store) := store.takeBound now handle
    (.takenBound result, store)
  | .len now =>
    let (result, store) := store.len now
    (.counted result, store)

open Machine.Ledger in
/-- The ledger event of an answered call: an insertion issues its state under the returned
    handle until `ttl` after its reading, a take redeems the state it returns. -/
def storeEvent (ttl : ℕ) : StoreCall → StoreAnswer → Event LoginStateHandle StoredState
  | .insert now _ state, .inserted (.ok handle) => .issue handle (.unbound state) (now + ttl)
  | .insertBound now _ state, .inserted (.ok handle) => .issue handle (.bound state) (now + ttl)
  | .take now handle, .taken (.ok (some state)) => .redeem handle (.unbound state) now
  | .takeBound now handle, .takenBound (.ok (some state)) => .redeem handle (.bound state) now
  | _, _ => .quiet

/-- The pending states, as the ledger sees them. -/
def pendingStates (store : InMemoryOneTimeLoginStore) (handle : LoginStateHandle) :
    Option (StoredState × ℕ) :=
  (store.map.lookup handle).map fun entry => (entry.state, entry.expiresAt)

theorem pendingStates_eq_some {store : InMemoryOneTimeLoginStore} {handle : LoginStateHandle}
    {state : StoredState} {expiresAt : ℕ} :
    pendingStates store handle = some (state, expiresAt) ↔
      store.map.lookup handle = some ⟨expiresAt, state⟩ := by
  unfold pendingStates
  cases store.map.lookup handle with
  | none => simp
  | some entry => cases entry; simp [and_comm]

/-- What one call may do to the map, with the event it is observed as. -/
inductive StoreEffect (store after : InMemoryOneTimeLoginStore) (now : ℕ) (answer : StoreAnswer) :
    Machine.Ledger.Event LoginStateHandle StoredState → Prop where
  /-- Nothing moved. -/
  | same (hmap : after.map = store.map) : StoreEffect store after now answer .quiet
  /-- The expired entries were dropped. -/
  | purged (hmap : after.map = purgeExpired store.map now)
      (hkind : answer.failure ≠ some .stateTypeMismatch) : StoreEffect store after now answer .quiet
  /-- One expired entry was dropped. -/
  | dropped (handle : LoginStateHandle) (hmap : after.map = store.map.erase handle)
      (hok : answer.failure = none) : StoreEffect store after now answer .quiet
  /-- A state was stored under a vacant handle. -/
  | issued (handle : LoginStateHandle) (state : StoredState)
      (hvacant : (purgeExpired store.map now).lookup handle = none)
      (hsize : (purgeExpired store.map now).size < store.maxEntries)
      (hmap : after.map = (purgeExpired store.map now).insert handle ⟨now + store.ttl, state⟩)
      (hok : answer.failure = none) :
      StoreEffect store after now answer (.issue handle state (now + store.ttl))
  /-- An unexpired state was removed and handed out. -/
  | redeemed (handle : LoginStateHandle) (entry : Entry)
      (hentry : store.map.lookup handle = some entry) (hlive : now < entry.expiresAt)
      (hmap : after.map = store.map.erase handle) (hok : answer.failure = none) :
      StoreEffect store after now answer (.redeem handle entry.state now)

private theorem storeEffect_insert {instantMax : ℕ} {store : InMemoryOneTimeLoginStore} {now : ℕ}
    {draws : List LoginStateHandle} {state : StoredState}
    (event : StoreAnswer → Machine.Ledger.Event LoginStateHandle StoredState)
    (hok : ∀ handle, event (.inserted (.ok handle)) = .issue handle state (now + store.ttl))
    (herror : ∀ e, event (.inserted (.error e)) = .quiet) (hpanic : event .panicked = .quiet) :
    let after := (store.insertStored instantMax now draws state).2
    let answer := StoreAnswer.ofInsert (store.insertStored instantMax now draws state).1
    after.maxEntries = store.maxEntries ∧ after.ttl = store.ttl ∧
      StoreEffect store after now answer (event answer) := by
  intro after answer
  obtain ⟨hmax, httl, heffect⟩ := store.insertStored_cases instantMax now draws state
  refine ⟨hmax, httl, ?_⟩
  rcases heffect with ⟨e, hanswer, hmap, _⟩ | ⟨hanswer, hmap⟩ | ⟨handle, hanswer, hvacant, hsize, hmap⟩
  · simp only [answer, hanswer, StoreAnswer.ofInsert, herror]
    exact .same hmap
  · rcases hanswer with hanswer | hanswer | hanswer <;>
      simp only [answer, hanswer, StoreAnswer.ofInsert, herror, hpanic] <;>
      exact .purged hmap (by simp [StoreAnswer.failure])
  · simp only [answer, hanswer, StoreAnswer.ofInsert, hok]
    exact .issued handle state hvacant hsize hmap rfl

private theorem storeEffect_take {α : Type} {select : StoredState → Option α}
    {store : InMemoryOneTimeLoginStore} {now : ℕ} {handle : LoginStateHandle}
    (wrap : α → StoredState) (toAnswer : Except StoreError (Option α) → StoreAnswer)
    (event : StoreAnswer → Machine.Ledger.Event LoginStateHandle StoredState)
    (hselect : ∀ stored a, select stored = some a → stored = wrap a)
    (hanswer : ∀ r, (toAnswer (.ok r)).failure = none)
    (hok : ∀ a, event (toAnswer (.ok (some a))) = .redeem handle (wrap a) now)
    (hnone : event (toAnswer (.ok none)) = .quiet)
    (herror : ∀ e, event (toAnswer (.error e)) = .quiet) :
    let after := (store.takeWith select now handle).2
    let answer := toAnswer (store.takeWith select now handle).1
    after.maxEntries = store.maxEntries ∧ after.ttl = store.ttl ∧
      StoreEffect store after now answer (event answer) := by
  intro after answer
  obtain ⟨hmax, httl, heffect⟩ := store.takeWith_cases select now handle
  refine ⟨hmax, httl, ?_⟩
  rcases heffect with ⟨hmap, ⟨e, hres⟩ | ⟨hres, _⟩⟩ | ⟨hres, hmap, _⟩ |
    ⟨entry, a, hres, hentry, hlive, hsel, hmap⟩
  · simp only [answer, hres, herror]
    exact .same hmap
  · simp only [answer, hres, hnone]
    exact .same hmap
  · simp only [answer, hres, hnone]
    exact .dropped handle hmap (hanswer _)
  · simp only [answer, hres, hok, ← hselect _ _ hsel]
    exact .redeemed handle entry hentry hlive hmap (hanswer _)

/-- Everything one call can do to the store. -/
theorem storeStep_cases (instantMax : ℕ) (store : InMemoryOneTimeLoginStore) (call : StoreCall) :
    let after := (storeStep instantMax store call).2
    let answer := (storeStep instantMax store call).1
    after.maxEntries = store.maxEntries ∧ after.ttl = store.ttl ∧
      StoreEffect store after call.now answer (storeEvent store.ttl call answer) := by
  cases call with
  | insert now draws state =>
    exact storeEffect_insert (storeEvent store.ttl (.insert now draws state))
      (fun _ => rfl) (fun _ => rfl) rfl
  | insertBound now draws state =>
    exact storeEffect_insert (storeEvent store.ttl (.insertBound now draws state))
      (fun _ => rfl) (fun _ => rfl) rfl
  | take now handle =>
    exact storeEffect_take .unbound .taken (storeEvent store.ttl (.take now handle))
      (by rintro (_ | _) a h <;> cases h; rfl) (fun _ => rfl) (fun _ => rfl) rfl (fun _ => rfl)
  | takeBound now handle =>
    exact storeEffect_take .bound .takenBound (storeEvent store.ttl (.takeBound now handle))
      (by rintro (_ | _) a h <;> cases h; rfl) (fun _ => rfl) (fun _ => rfl) rfl (fun _ => rfl)
  | len now =>
    simp only [storeStep, InMemoryOneTimeLoginStore.len]
    cases hlock : store.entries.lock with
    | none => exact ⟨rfl, rfl, .same rfl⟩
    | some entries =>
      obtain rfl := Mutex.lock_eq_some hlock
      exact ⟨rfl, rfl, .purged rfl (by simp [StoreAnswer.failure])⟩

/-! ## Guarantees over every run -/

/-- The store constructed with `maxEntries` and `ttl`, at any later time: its configuration is
    unchanged and the map is within capacity. -/
structure StoreInvariant (maxEntries ttl : ℕ) (store : InMemoryOneTimeLoginStore) : Prop where
  maxEntries_eq : store.maxEntries = maxEntries
  ttl_eq : store.ttl = ttl
  size_le : store.map.size ≤ maxEntries

theorem StoreEffect.size_le {store after : InMemoryOneTimeLoginStore} {now : ℕ}
    {answer : StoreAnswer} {event : Machine.Ledger.Event LoginStateHandle StoredState}
    (h : StoreEffect store after now answer event) (hsize : store.map.size ≤ store.maxEntries) :
    after.map.size ≤ store.maxEntries := by
  cases h with
  | same hmap => rwa [hmap]
  | purged hmap hkind =>
    rw [hmap]
    exact (KeyedMap.size_retain_le _ _).trans hsize
  | dropped handle hmap hok =>
    rw [hmap]
    exact (KeyedMap.size_erase_le _ _).trans hsize
  | issued handle state hvacant hroom hmap hok =>
    rw [hmap, KeyedMap.size_insert_of_lookup_none _ hvacant]
    exact hroom
  | redeemed handle entry hentry hlive hmap hok =>
    rw [hmap]
    exact (KeyedMap.size_erase_le _ _).trans hsize

/-- An entry present after a call was there before it, or the call issued it. -/
theorem StoreEffect.appears {store after : InMemoryOneTimeLoginStore} {now : ℕ}
    {answer : StoreAnswer} {event : Machine.Ledger.Event LoginStateHandle StoredState}
    (h : StoreEffect store after now answer event) {handle : LoginStateHandle} {entry : Entry}
    (hafter : after.map.lookup handle = some entry) :
    store.map.lookup handle = some entry ∨
      event = .issue handle entry.state entry.expiresAt := by
  cases h with
  | same hmap =>
    rw [hmap] at hafter
    exact .inl hafter
  | purged hmap hkind =>
    rw [hmap] at hafter
    exact .inl (lookup_purgeExpired.mp hafter).1
  | dropped handle' hmap hok | redeemed handle' entry' hentry hlive hmap hok =>
    rw [hmap, KeyedMap.lookup_erase_ite] at hafter
    split at hafter
    · cases hafter
    · exact .inl hafter
  | issued handle' state hvacant hroom hmap hok =>
    rw [hmap, KeyedMap.lookup_insert_ite] at hafter
    split at hafter
    · next heq =>
      cases hafter
      exact .inr (by rw [heq])
    · exact .inl (lookup_purgeExpired.mp hafter).1

/-- A call answered with an error keeps every entry unexpired at its reading. -/
theorem StoreEffect.keeps_unexpired {store after : InMemoryOneTimeLoginStore} {now : ℕ}
    {answer : StoreAnswer} {event : Machine.Ledger.Event LoginStateHandle StoredState}
    (h : StoreEffect store after now answer event) (hfail : answer.failure ≠ none)
    {handle : LoginStateHandle} {entry : Entry} (hlive : now < entry.expiresAt) :
    after.map.lookup handle = some entry ↔ store.map.lookup handle = some entry := by
  cases h with
  | same hmap => rw [hmap]
  | purged hmap hkind =>
    rw [hmap, lookup_purgeExpired]
    exact and_iff_left hlive
  | dropped handle' hmap hok | issued handle' state hvacant hroom hmap hok
  | redeemed handle' entry' hentry hlive' hmap hok => exact absurd hok hfail

/-- **The store refines the one-time ledger.** -/
theorem storeStep_refines_ledger (instantMax maxEntries ttl : ℕ) :
    Machine.Ledger.Refinement (storeStep instantMax) (storeEvent ttl) pendingStates
      (StoreInvariant maxEntries ttl) where
  -- The bounds of the store are those it was made with.
  inv := by
    rintro store call ⟨hmaxEntries, httlEq, hsize⟩
    obtain ⟨hmax, httl, heffect⟩ := storeStep_cases instantMax store call
    refine ⟨hmax.trans hmaxEntries, httl.trans httlEq, ?_⟩
    rw [← hmaxEntries]
    exact heffect.size_le (by rwa [hmaxEntries])
  appears := by
    rintro store call handle state expiresAt ⟨_, rfl, _⟩ hafter
    obtain ⟨_, _, heffect⟩ := storeStep_cases instantMax store call
    rw [pendingStates_eq_some] at hafter ⊢
    exact heffect.appears hafter
  redeems := by
    rintro store call handle state now ⟨_, rfl, _⟩ hevent
    obtain ⟨_, _, heffect⟩ := storeStep_cases instantMax store call
    rw [hevent] at heffect
    cases heffect with
    | redeemed _ entry hentry hlive hmap hok =>
      exact ⟨entry.expiresAt, pendingStates_eq_some.mpr hentry, hlive⟩
  removes := by
    rintro store call handle state now ⟨_, rfl, _⟩ hevent
    obtain ⟨_, _, heffect⟩ := storeStep_cases instantMax store call
    rw [hevent] at heffect
    cases heffect with
    | redeemed _ entry hentry hlive hmap hok =>
      unfold pendingStates
      rw [hmap, AList.lookup_erase, Option.map_none]

theorem InMemoryOneTimeLoginStore.new_eq_ok {instantMax now maxEntries ttl : ℕ}
    {store : InMemoryOneTimeLoginStore} (h : new instantMax now maxEntries ttl = .ok store) :
    store = { entries := Mutex.new ∅, maxEntries, ttl } := by
  unfold new at h
  split at h
  · cases h
  · split at h <;> cases h
    rfl

theorem StoreInvariant.of_new {instantMax now maxEntries ttl : ℕ}
    {store : InMemoryOneTimeLoginStore}
    (h : InMemoryOneTimeLoginStore.new instantMax now maxEntries ttl = .ok store) :
    StoreInvariant maxEntries ttl store := by
  obtain rfl := InMemoryOneTimeLoginStore.new_eq_ok h
  exact ⟨rfl, rfl, Nat.zero_le _⟩

/-- The state of the store after the first `j` calls of a run. -/
def storeAfter (instantMax : ℕ) (store : InMemoryOneTimeLoginStore) (calls : List StoreCall)
    (j : ℕ) : InMemoryOneTimeLoginStore :=
  Machine.run (storeStep instantMax) store (calls.take j)

/-- **The in-memory store over every run**: whatever the calls, the clock readings they work
    with and the handles drawn, (1) every state returned by `take` or `take_bound` is the state
    of its own kind that an earlier insertion put under that handle, it is returned before that
    insertion's expiry, and no insertion is returned twice; (2) a call answered
    `StateTypeMismatch` leaves the map unchanged; (3) a call answered `CapacityReached`,
    `HandleCollision` or `StateTooLarge` leaves every entry unexpired at its reading unchanged;
    (4) the map never holds more than `maxEntries` entries. -/
theorem in_memory_store_run (instantMax start maxEntries ttl : ℕ)
    (store : InMemoryOneTimeLoginStore)
    (hnew : InMemoryOneTimeLoginStore.new instantMax start maxEntries ttl = .ok store)
    (calls : List StoreCall) :
    Machine.Ledger.RedeemsOnce
        (Machine.Ledger.events (storeEvent ttl) (storeStep instantMax) store calls) ∧
      (∀ (j : ℕ) call answer,
        (Machine.trace (storeStep instantMax) store calls)[j]? = some (call, answer) →
        (answer.failure = some .stateTypeMismatch →
          (storeAfter instantMax store calls (j + 1)).map =
            (storeAfter instantMax store calls j).map) ∧
        (answer.failure = some .capacityReached ∨ answer.failure = some .handleCollision ∨
            answer.failure = some .stateTooLarge →
          ∀ handle entry, call.now < entry.expiresAt →
            ((storeAfter instantMax store calls (j + 1)).map.lookup handle = some entry ↔
              (storeAfter instantMax store calls j).map.lookup handle = some entry))) ∧
      ∀ j, (storeAfter instantMax store calls j).map.size ≤ maxEntries := by
  have hinv := StoreInvariant.of_new hnew
  have hrefines := storeStep_refines_ledger instantMax maxEntries ttl
  refine ⟨?_, ?_, ?_⟩
  · apply Machine.Ledger.redeemsOnce_of_refinement hrefines hinv
    intro handle
    obtain rfl := InMemoryOneTimeLoginStore.new_eq_ok hnew
    rfl
  · intro j call answer htrace
    obtain ⟨hcall, hanswer⟩ := Machine.trace_getElem?_eq_some _ htrace
    obtain ⟨_, _, heffect⟩ :=
      storeStep_cases instantMax (storeAfter instantMax store calls j) call
    have hafter : (storeStep instantMax (storeAfter instantMax store calls j) call).2 =
        storeAfter instantMax store calls (j + 1) := (Machine.run_take_succ _ hcall).symm
    rw [hafter] at heffect
    have hfailure : (storeStep instantMax (storeAfter instantMax store calls j) call).1 = answer :=
      hanswer.symm
    rw [hfailure] at heffect
    constructor
    · intro hmismatch
      generalize storeEvent _ call answer = event at heffect
      -- A mismatch is answered before an entry is dropped.
      cases heffect with
      | same hmap => exact hmap
      | purged hmap hkind => exact absurd hmismatch hkind
      | dropped handle hmap hok | issued handle state hvacant hroom hmap hok
      | redeemed handle entry hentry hlive hmap hok => rw [hmismatch] at hok; cases hok
    · intro hfail handle entry hlive
      refine heffect.keeps_unexpired ?_ hlive
      rcases hfail with hfail | hfail | hfail <;> rw [hfail] <;> exact Option.some_ne_none _
  · intro j
    exact (Machine.run_invariant _ hrefines.inv hinv (calls.take j)).size_le

/-- A store of one entry through a mismatched take, a refused second insertion, the take that
    consumes the state and a repeated take. -/
theorem in_memory_store_run_capacity_one :
    let handle : LoginStateHandle := ⟨List.replicate 32 7, rfl⟩
    let state : ServerLoginStateBytes := ⟨[1, 2, 3]⟩
    let store : InMemoryOneTimeLoginStore :=
      { entries := Mutex.new ∅, maxEntries := 1, ttl := 10 }
    let calls : List StoreCall := [.insert 5 [handle] state, .takeBound 6 handle,
      .insert 4 [handle] state, .take 14 handle, .take 14 handle]
    InMemoryOneTimeLoginStore.new 1000 0 1 10 = .ok store ∧
      Machine.Ledger.events (storeEvent 10) (storeStep 1000) store calls =
        [.issue handle (.unbound state) 15, .quiet, .quiet, .redeem handle (.unbound state) 14,
          .quiet] ∧
      Machine.Ledger.RedeemsOnce
        (Machine.Ledger.events (storeEvent 10) (storeStep 1000) store calls) := by
  intro handle state store calls
  exact ⟨rfl, rfl, (in_memory_store_run 1000 0 1 10 store rfl calls).1⟩

end SecureKeypad.Server
