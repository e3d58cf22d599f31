import SecureKeypad.Server.LoginStore
import SecureKeypad.Webauthn.Ceremony

/-!
# The In-Memory Ceremony Store (`secure-webauthn-example::storage`)

Embeds `InMemoryCeremonyStateStore`: a mutex around a hash map from random 32-byte handles to
pending ceremonies of both kinds. Every operation reads the clock before it takes the lock, so its
reading is an argument nothing is assumed about. `OsRng` is the list of handles it yields; it
panics where the list ends, which inside the critical section poisons the mutex.

## Main results

- `insert_cases`, `take_cases`: everything one operation can do to the map
- `redeems_of_take`, `take_miss`: when a take hands a ceremony out, and when it changes nothing
-/

namespace SecureKeypad.Webauthn

open Rust Server

/-- `CeremonyEntry`. -/
structure CeremonyEntry where
  expiresAt : ℕ
  kind : CeremonyKind
  userId : Uuid
  state : Bytes
deriving DecidableEq

abbrev CeremonyEntries := KeyedMap LoginStateHandle CeremonyEntry

/-- `InMemoryCeremonyStateStore`. -/
structure InMemoryCeremonyStateStore where
  entries : Mutex CeremonyEntries
  maxEntries : ℕ

namespace InMemoryCeremonyStateStore

/-- `InMemoryCeremonyStateStore::new`. -/
def new (maxEntries : ℕ) : Except CeremonyStoreError InMemoryCeremonyStateStore :=
  if maxEntries = 0 ∨ maxEntries > maxPendingCeremonies then .error .invalidCapacity
  else .ok { entries := Mutex.new ∅, maxEntries }

/-- The map under the mutex. -/
def map (store : InMemoryCeremonyStateStore) : CeremonyEntries := store.entries.value

/-- Leave the critical section with the map `entries`. -/
def write (store : InMemoryCeremonyStateStore) (entries : CeremonyEntries) :
    InMemoryCeremonyStateStore := { store with entries := store.entries.store entries }

@[simp] theorem map_write (store : InMemoryCeremonyStateStore) (entries : CeremonyEntries) :
    (store.write entries).map = entries := rfl

theorem new_eq_ok {maxEntries : ℕ} {store : InMemoryCeremonyStateStore}
    (h : new maxEntries = .ok store) : store.map = ∅ ∧ store.maxEntries = maxEntries := by
  unfold new at h
  split at h
  · cases h
  · cases h
    exact ⟨rfl, rfl⟩

/-- The entries that are unexpired at a reading. -/
def unexpired (entries : CeremonyEntries) (now : ℕ) : CeremonyEntries :=
  entries.retain fun _ entry => entry.expiresAt > now

/-- `fresh_handle`, with the given number of draws left. -/
def freshHandle (entries : CeremonyEntries) :
    ℕ → List LoginStateHandle → InMemoryOneTimeLoginStore.Draw
  | 0, _ => .exhausted
  | _ + 1, [] => .rngPanic
  | attempts + 1, handle :: draws =>
    if (entries.lookup handle).isNone then .vacant handle else freshHandle entries attempts draws

theorem lookup_of_freshHandle {entries : CeremonyEntries} {attempts : ℕ}
    {draws : List LoginStateHandle} {handle : LoginStateHandle}
    (h : freshHandle entries attempts draws = .vacant handle) : entries.lookup handle = none := by
  fun_induction freshHandle entries attempts draws with
  | case1 => cases h
  | case2 => cases h
  | case3 attempts handle' draws hvacant =>
    cases h
    exact Option.isNone_iff_eq_none.mp hvacant
  | case4 attempts handle' draws hoccupied ih => exact ih h

/-- `insert`, which reads the clock once to check `ttl` and once to use it; `none` means that the
    thread panicked. -/
def insert (instantMax : ℕ) (store : InMemoryCeremonyStateStore) (checked now : ℕ)
    (draws : List LoginStateHandle) (kind : CeremonyKind) (userId : Uuid) (state : Bytes)
    (ttl : ℕ) : Option (Except CeremonyStoreError LoginStateHandle) × InMemoryCeremonyStateStore :=
  match validateState state with
  | .error error => (some (.error error), store)
  | .ok () =>
    match validateCeremonyTtl instantMax checked ttl with
    | .error error => (some (.error error), store)
    | .ok () =>
      match checkedAddInstant instantMax now ttl with
      | none => (some (.error .invalidTtl), store)
      | some expiresAt =>
        match store.entries.lock with
        | none => (some (.error .unavailable), store)
        | some entries =>
          let entries := unexpired entries now
          if entries.size ≥ store.maxEntries then
            (some (.error .capacityReached), store.write entries)
          else
            match freshHandle entries 4 draws with
            | .vacant handle =>
              (some (.ok handle),
                store.write (entries.insert handle { expiresAt, kind, userId, state }))
            | .exhausted => (some (.error .handleCollision), store.write entries)
            | .rngPanic => (none, { store with entries := (store.entries.store entries).poison })

/-- `take`. -/
def take (store : InMemoryCeremonyStateStore) (now : ℕ) (kind : CeremonyKind)
    (handle : LoginStateHandle) :
    Except CeremonyStoreError (Option CeremonyState) × InMemoryCeremonyStateStore :=
  match store.entries.lock with
  | none => (.error .unavailable, store)
  | some entries =>
    match entries.lookup handle with
    | none => (.ok none, store)
    | some entry =>
      if entry.kind ≠ kind then (.ok none, store)
      else
        let store := store.write (entries.erase handle)
        if entry.expiresAt ≤ now then (.ok none, store)
        else ((CeremonyState.new entry.kind entry.userId entry.state).map some, store)

/-- Every outcome of an insertion: the map is untouched; or it loses the entries that have expired
    at the reading; or it gains one entry besides, under a handle that was vacant. -/
theorem insert_cases (instantMax : ℕ) (store : InMemoryCeremonyStateStore) (checked now : ℕ)
    (draws : List LoginStateHandle) (kind : CeremonyKind) (userId : Uuid) (state : Bytes)
    (ttl : ℕ) :
    let after := (store.insert instantMax checked now draws kind userId state ttl).2
    let answer := (store.insert instantMax checked now draws kind userId state ttl).1
    after.maxEntries = store.maxEntries ∧
      ((answer = none ∨ ∃ error, answer = some (.error error)) ∧
          (after.map = store.map ∨ after.map = unexpired store.map now) ∨
        ∃ handle, answer = some (.ok handle) ∧
          (unexpired store.map now).size < store.maxEntries ∧
          (unexpired store.map now).lookup handle = none ∧
          after.map = (unexpired store.map now).insert handle ⟨now + ttl, kind, userId, state⟩) := by
  -- The exits in the order of the code; expired entries go once the lock is held.
  unfold insert
  cases validateState state with
  | error error => exact ⟨rfl, .inl ⟨.inr ⟨error, rfl⟩, .inl rfl⟩⟩
  | ok _ =>
    simp only
    cases validateCeremonyTtl instantMax checked ttl with
    | error error => exact ⟨rfl, .inl ⟨.inr ⟨error, rfl⟩, .inl rfl⟩⟩
    | ok _ =>
      simp only
      cases hadd : checkedAddInstant instantMax now ttl with
      | none => exact ⟨rfl, .inl ⟨.inr ⟨_, rfl⟩, .inl rfl⟩⟩
      | some expiresAt =>
        obtain rfl := checkedAddInstant_eq_some hadd
        cases hlock : store.entries.lock with
        | none => exact ⟨rfl, .inl ⟨.inr ⟨_, rfl⟩, .inl rfl⟩⟩
        | some entries =>
          obtain rfl := Mutex.lock_eq_some hlock
          simp only
          split
          · exact ⟨rfl, .inl ⟨.inr ⟨_, rfl⟩, .inr rfl⟩⟩
          · next hsize =>
            cases hdraw : freshHandle (unexpired store.entries.value now) 4 draws with
            | vacant handle =>
              exact ⟨rfl, .inr ⟨handle, rfl, not_le.mp hsize, lookup_of_freshHandle hdraw, rfl⟩⟩
            | exhausted => exact ⟨rfl, .inl ⟨.inr ⟨_, rfl⟩, .inr rfl⟩⟩
            | rngPanic => exact ⟨rfl, .inl ⟨.inl rfl, .inr rfl⟩⟩

/-- Every outcome of a take: the map is untouched and nothing is returned; or the entry under the
    handle, of this kind, is removed; it is returned only if it has not expired. -/
theorem take_cases (store : InMemoryCeremonyStateStore) (now : ℕ) (kind : CeremonyKind)
    (handle : LoginStateHandle) :
    let after := (store.take now kind handle).2
    let answer := (store.take now kind handle).1
    after.maxEntries = store.maxEntries ∧
      ((after = store ∧ ∀ state, answer ≠ .ok (some state)) ∨
        ∃ entry, store.map.lookup handle = some entry ∧ entry.kind = kind ∧
          after.map = store.map.erase handle ∧
          ∀ state, answer = .ok (some state) → now < entry.expiresAt ∧ state.kind = kind ∧
            state.userId = entry.userId ∧ state.state = entry.state) := by
  -- A state of another kind stays; one of this kind is taken out, expired or not.
  unfold take
  cases hlock : store.entries.lock with
  | none => exact ⟨rfl, .inl ⟨rfl, nofun⟩⟩
  | some entries =>
    obtain rfl := Mutex.lock_eq_some hlock
    simp only
    cases hentry : store.entries.value.lookup handle with
    | none => exact ⟨rfl, .inl ⟨rfl, nofun⟩⟩
    | some entry =>
      simp only
      split
      · exact ⟨rfl, .inl ⟨rfl, nofun⟩⟩
      · next hkind =>
        rw [not_not] at hkind
        split
        · exact ⟨rfl, .inr ⟨entry, hentry, hkind, rfl, nofun⟩⟩
        · next hlive =>
          refine ⟨rfl, .inr ⟨entry, hentry, hkind, rfl, fun state hstate => ?_⟩⟩
          simp only [CeremonyState.new] at hstate
          split at hstate
          · cases hstate
          · split at hstate
            · cases hstate
              exact ⟨not_le.mp hlive, hkind, rfl, rfl⟩
            · cases hstate

/-! ## Pending ceremonies -/

/-- The ceremony under a handle with the end of its retention. -/
def pendingCeremony (store : InMemoryCeremonyStateStore) (handle : LoginStateHandle) :
    Option ((CeremonyKind × Uuid × Bytes) × ℕ) :=
  (store.map.lookup handle).map fun entry =>
    ((entry.kind, entry.userId, entry.state), entry.expiresAt)

theorem pendingCeremony_eq_some {store : InMemoryCeremonyStateStore} {handle : LoginStateHandle}
    {kind : CeremonyKind} {userId : Uuid} {state : Bytes} {e : ℕ} :
    pendingCeremony store handle = some ((kind, userId, state), e) ↔
      store.map.lookup handle = some ⟨e, kind, userId, state⟩ := by
  rw [pendingCeremony, Option.map_eq_some_iff]
  constructor
  · rintro ⟨⟨e', kind', userId', state'⟩, hentry, hpair⟩
    cases hpair
    exact hentry
  · intro hentry
    exact ⟨_, hentry, rfl⟩

/-- What is pending after an insertion was pending before or has just been stored. -/
theorem appears_of_insert (instantMax : ℕ) (store : InMemoryCeremonyStateStore) (checked now : ℕ)
    (draws : List LoginStateHandle) (kind : CeremonyKind) (userId : Uuid) (state : Bytes)
    (ttl : ℕ) {handle : LoginStateHandle} {v : CeremonyKind × Uuid × Bytes} {e : ℕ}
    (h : pendingCeremony (store.insert instantMax checked now draws kind userId state ttl).2 handle =
      some (v, e)) :
    pendingCeremony store handle = some (v, e) ∨
      (store.insert instantMax checked now draws kind userId state ttl).1 = some (.ok handle) ∧
        v = (kind, userId, state) ∧ e = now + ttl := by
  have hkept : ∀ {entry : CeremonyEntry},
      (unexpired store.map now).lookup handle = some entry →
        store.map.lookup handle = some entry :=
    fun hentry => (KeyedMap.lookup_retain_eq_some.mp hentry).1
  obtain ⟨kind', userId', state'⟩ := v
  rw [pendingCeremony_eq_some] at h
  obtain ⟨-, ⟨-, hmap | hmap⟩ | ⟨drawn, hanswer, -, -, hmap⟩⟩ :=
    insert_cases instantMax store checked now draws kind userId state ttl
  · rw [hmap] at h
    exact .inl (pendingCeremony_eq_some.mpr h)
  · rw [hmap] at h
    exact .inl (pendingCeremony_eq_some.mpr (hkept h))
  · rw [hmap, KeyedMap.lookup_insert_ite] at h
    split at h
    · next heq =>
      subst heq
      cases h
      exact .inr ⟨hanswer, rfl, rfl⟩
    · exact .inl (pendingCeremony_eq_some.mpr (hkept h))

/-- Nothing becomes pending in a take. -/
theorem appears_of_take (store : InMemoryCeremonyStateStore) (now : ℕ) (kind : CeremonyKind)
    (taken : LoginStateHandle) {handle : LoginStateHandle} {v : CeremonyKind × Uuid × Bytes} {e : ℕ}
    (h : pendingCeremony (store.take now kind taken).2 handle = some (v, e)) :
    pendingCeremony store handle = some (v, e) := by
  obtain ⟨-, ⟨hsame, -⟩ | ⟨entry, -, -, hmap, -⟩⟩ := take_cases store now kind taken
  · rwa [hsame] at h
  · obtain ⟨kind', userId', state'⟩ := v
    rw [pendingCeremony_eq_some, hmap, KeyedMap.lookup_erase_ite] at h
    split at h
    · cases h
    · exact pendingCeremony_eq_some.mpr h

/-- What a take returns was pending, unexpired at the reading, and is no longer. -/
theorem redeems_of_take {store : InMemoryCeremonyStateStore} {now : ℕ} {kind : CeremonyKind}
    {handle : LoginStateHandle} {state : CeremonyState}
    (h : (store.take now kind handle).1 = .ok (some state)) :
    state.kind = kind ∧ pendingCeremony (store.take now kind handle).2 handle = none ∧
      ∃ e, pendingCeremony store handle = some ((state.kind, state.userId, state.state), e) ∧
        now < e := by
  obtain ⟨-, ⟨-, hnone⟩ | ⟨entry, hentry, hkind, hmap, hstate⟩⟩ := take_cases store now kind handle
  · exact absurd h (hnone state)
  · obtain ⟨hlive, hkind', huser, hbytes⟩ := hstate state h
    refine ⟨hkind', ?_, entry.expiresAt, ?_, hlive⟩
    · rw [pendingCeremony, hmap, KeyedMap.lookup_erase_ite, if_pos rfl]
      rfl
    · rw [pendingCeremony_eq_some, hentry, hkind', huser, hbytes, ← hkind]

/-- A handle without a ceremony of the kind is a miss that changes nothing. -/
theorem take_miss {store : InMemoryCeremonyStateStore} {now : ℕ} {kind : CeremonyKind}
    {handle : LoginStateHandle}
    (h : ∀ entry, store.map.lookup handle = some entry → entry.kind ≠ kind) :
    store.take now kind handle =
      (if store.entries.poisoned then .error .unavailable else .ok none, store) := by
  unfold take
  cases hpoisoned : store.entries.poisoned with
  | true => simp [Mutex.lock, hpoisoned]
  | false =>
    simp only [Mutex.lock, hpoisoned, Bool.false_eq_true, if_false]
    cases hentry : store.entries.value.lookup handle with
    | none => rfl
    | some entry => exact if_pos (h entry hentry)

/-- No operation exceeds the capacity. -/
theorem size_insert_le (instantMax : ℕ) (store : InMemoryCeremonyStateStore) (checked now : ℕ)
    (draws : List LoginStateHandle) (kind : CeremonyKind) (userId : Uuid) (state : Bytes)
    (ttl : ℕ) (h : store.map.size ≤ store.maxEntries) :
    (store.insert instantMax checked now draws kind userId state ttl).2.map.size ≤
      (store.insert instantMax checked now draws kind userId state ttl).2.maxEntries := by
  have hpurged : (unexpired store.map now).size ≤ store.maxEntries :=
    (KeyedMap.size_retain_le _ _).trans h
  obtain ⟨hmax, ⟨-, hmap | hmap⟩ | ⟨handle, -, hroom, -, hmap⟩⟩ :=
    insert_cases instantMax store checked now draws kind userId state ttl
  · rw [hmap, hmax]
    exact h
  · rw [hmap, hmax]
    exact hpurged
  · rw [hmap, hmax]
    exact (KeyedMap.size_insert_le _ _ _).trans hroom

theorem size_take_le (store : InMemoryCeremonyStateStore) (now : ℕ) (kind : CeremonyKind)
    (handle : LoginStateHandle) (h : store.map.size ≤ store.maxEntries) :
    (store.take now kind handle).2.map.size ≤ (store.take now kind handle).2.maxEntries := by
  obtain ⟨hmax, ⟨hsame, -⟩ | ⟨entry, -, -, hmap, -⟩⟩ := take_cases store now kind handle
  · rw [hsame]
    exact h
  · rw [hmap, hmax]
    exact (KeyedMap.size_erase_le _ _).trans h

end InMemoryCeremonyStateStore

end SecureKeypad.Webauthn
