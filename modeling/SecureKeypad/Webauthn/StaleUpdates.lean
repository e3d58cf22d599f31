import SecureKeypad.Webauthn.PostgresCredentials
import SecureKeypad.Webauthn.RedisCredentials

/-!
# Stale Authenticator Results

A result is stale when its counter is below the stored one. The three backends repeat one test:
`update_credential` must have changed something if the result says it needs an update. This module
states what a backend does with a result (`CredentialBackend.Lawful`), shows it of the in-memory,
the Redis and the PostgreSQL store, and derives when a stale result is turned away.

## Main results

- `memory_lawful`, `redis_lawful`, `postgres_lawful`: the three backends
- `Lawful.rejects_iff`: a stale result is turned away exactly when its backup flags are the stored
  ones, or the new record is refused for its size
- `stale_updates`: the three backends, over one update and over every sequence of them
-/

namespace SecureKeypad.Webauthn

open Rust Machine

/-! ## Backends -/

/-- A credential store seen by one account. -/
structure CredentialBackend (Passkey AuthenticationResult σ : Type) where
  /-- `update_after_auth`. -/
  update : σ → AuthenticationResult → Except CredentialStoreError Bool × σ
  /-- The stored passkey of a credential id. -/
  stored : σ → Bytes → Option Passkey
  /-- What writing the updated passkey back is refused with. -/
  refusal : σ → AuthenticationResult → Option CredentialStoreError
  /-- The states the store can be in. -/
  Valid : σ → Prop

namespace CredentialBackend

variable {Passkey AuthenticationResult σ : Type} {api : WebauthnRs Passkey AuthenticationResult}
  {backend : CredentialBackend Passkey AuthenticationResult σ} {s : σ}
  {result : AuthenticationResult} {passkey updated : Passkey}

/-- Two states that store the same passkeys. -/
def Same (backend : CredentialBackend Passkey AuthenticationResult σ) (s t : σ) : Prop :=
  ∀ id, backend.stored t id = backend.stored s id

/-- What `update_after_auth` does with a result, by what `update_credential` answers. -/
structure Lawful (api : WebauthnRs Passkey AuthenticationResult)
    (backend : CredentialBackend Passkey AuthenticationResult σ) : Prop where
  valid : ∀ s result, backend.Valid s → backend.Valid (backend.update s result).2
  id_eq : ∀ s id passkey, backend.Valid s → backend.stored s id = some passkey →
    api.credId passkey = id
  absent : ∀ s result, backend.Valid s → backend.stored s (api.resultCredId result) = none →
    backend.Same s (backend.update s result).2
  same : ∀ s result passkey updated, backend.Valid s →
    backend.stored s (api.resultCredId result) = some passkey →
    api.updateCredential passkey result = some (false, updated) →
    (backend.update s result).1 =
      (if api.needsUpdate result then .error .invalidRecord else .ok false) ∧
    backend.Same s (backend.update s result).2
  refused : ∀ s result passkey updated error, backend.Valid s →
    backend.stored s (api.resultCredId result) = some passkey →
    api.updateCredential passkey result = some (true, updated) →
    backend.refusal s result = some error →
    (backend.update s result).1 = .error error ∧ backend.Same s (backend.update s result).2
  written : ∀ s result passkey updated, backend.Valid s →
    backend.stored s (api.resultCredId result) = some passkey →
    api.updateCredential passkey result = some (true, updated) →
    backend.refusal s result = none →
    (backend.update s result).1 = .ok true ∧
    backend.stored (backend.update s result).2 (api.resultCredId result) = some updated ∧
    ∀ id, id ≠ api.resultCredId result →
      backend.stored (backend.update s result).2 id = backend.stored s id

/-- A result is turned away: `InvalidRecord`, and nothing stored has changed. -/
def Rejects (backend : CredentialBackend Passkey AuthenticationResult σ) (s : σ)
    (result : AuthenticationResult) : Prop :=
  (backend.update s result).1 = .error .invalidRecord ∧
    backend.Same s (backend.update s result).2

/-- What a stale result changes is decided by the flags alone. -/
theorem update_of_stale (hdoc : api.Documented)
    (hid : api.credId passkey = api.resultCredId result)
    (hstale : api.resultCounter result < api.counter passkey) :
    ∃ updated, api.updateCredential passkey result =
      some (decide (api.backup passkey ≠ api.resultBackup result), updated) := by
  obtain ⟨changed, updated, hupdate, -, -, -, hchanged, -⟩ := hdoc.update_own passkey result hid
  refine ⟨updated, ?_⟩
  have hflag : changed = decide (api.backup passkey ≠ api.resultBackup result) := by
    rw [Bool.eq_iff_iff, hchanged, decide_eq_true_eq]
    exact or_iff_right (not_lt.mpr hstale.le)
  rw [hupdate, hflag]

/-- **When a stale result is turned away.** -/
theorem Lawful.rejects_iff (h : backend.Lawful api) (hdoc : api.Documented)
    (hvalid : backend.Valid s)
    (hstored : backend.stored s (api.resultCredId result) = some passkey)
    (hneeds : api.needsUpdate result = true)
    (hstale : api.resultCounter result < api.counter passkey) :
    backend.Rejects s result ↔
      api.backup passkey = api.resultBackup result ∨
        backend.refusal s result = some .invalidRecord := by
  obtain ⟨updated, hupdate⟩ := update_of_stale hdoc (h.id_eq s _ _ hvalid hstored) hstale
  by_cases hflags : api.backup passkey = api.resultBackup result
  · rw [decide_eq_false (not_not.mpr hflags)] at hupdate
    obtain ⟨hreply, hsame⟩ := h.same s result passkey updated hvalid hstored hupdate
    rw [hneeds, if_pos rfl] at hreply
    exact ⟨fun _ => .inl hflags, fun _ => ⟨hreply, hsame⟩⟩
  · rw [decide_eq_true hflags] at hupdate
    rw [or_iff_right hflags]
    cases hrefusal : backend.refusal s result with
    | none =>
      -- Nothing stops the write: the stale flags replace the stored ones.
      obtain ⟨hreply, -⟩ := h.written s result passkey updated hvalid hstored hupdate hrefusal
      constructor
      · intro ⟨hrejected, _⟩
        rw [hreply] at hrejected
        cases hrejected
      · intro hnone
        cases hnone
    | some error =>
      obtain ⟨hreply, hsame⟩ :=
        h.refused s result passkey updated error hvalid hstored hupdate hrefusal
      constructor
      · intro ⟨hrejected, _⟩
        rw [hreply] at hrejected
        rw [Except.error.inj hrejected]
      · intro herror
        rw [Option.some.inj herror] at hreply
        exact ⟨hreply, hsame⟩

/-- A result keeps every stored credential, its counter no lower. -/
theorem Lawful.counter_le (h : backend.Lawful api) (hdoc : api.Documented)
    (hvalid : backend.Valid s) (result : AuthenticationResult) {id : Bytes}
    (hstored : backend.stored s id = some passkey) :
    ∃ updated, backend.stored (backend.update s result).2 id = some updated ∧
      api.counter passkey ≤ api.counter updated := by
  have hkept : backend.Same s (backend.update s result).2 →
      ∃ updated, backend.stored (backend.update s result).2 id = some updated ∧
        api.counter passkey ≤ api.counter updated := by
    intro hsame
    exact ⟨passkey, (hsame id).trans hstored, le_refl _⟩
  cases hown : backend.stored s (api.resultCredId result) with
  | none => exact hkept (h.absent s result hvalid hown)
  | some own =>
    obtain ⟨changed, updated, hupdate, -, hcounter, -⟩ :=
      hdoc.update_own own result (h.id_eq s _ _ hvalid hown)
    cases changed with
    | false => exact hkept (h.same s result own updated hvalid hown hupdate).2
    | true =>
      cases hrefusal : backend.refusal s result with
      | some error => exact hkept (h.refused s result own updated error hvalid hown hupdate hrefusal).2
      | none =>
        obtain ⟨-, hwritten, hothers⟩ := h.written s result own updated hvalid hown hupdate hrefusal
        rcases eq_or_ne id (api.resultCredId result) with rfl | hne
        · rw [hown, Option.some.injEq] at hstored
          subst hstored
          exact ⟨updated, hwritten, hcounter ▸ le_max_left _ _⟩
        · exact ⟨passkey, (hothers id hne).trans hstored, le_refl _⟩

/-- The condition under which a result with a lower counter does no harm. -/
def Harmless (api : WebauthnRs Passkey AuthenticationResult)
    (backend : CredentialBackend Passkey AuthenticationResult σ) (s : σ)
    (result : AuthenticationResult) : Prop :=
  ∀ passkey, backend.stored s (api.resultCredId result) = some passkey →
    api.resultCounter result < api.counter passkey →
    api.backup passkey = api.resultBackup result ∨
      backend.refusal s result = some .invalidRecord

/-- A harmless result with a lower counter changes nothing. -/
theorem Lawful.same_of_harmless (h : backend.Lawful api) (hdoc : api.Documented)
    (hvalid : backend.Valid s)
    (hstored : backend.stored s (api.resultCredId result) = some passkey)
    (hstale : api.resultCounter result < api.counter passkey)
    (hharmless : backend.Harmless api s result) :
    backend.Same s (backend.update s result).2 := by
  obtain ⟨updated, hupdate⟩ := update_of_stale hdoc (h.id_eq s _ _ hvalid hstored) hstale
  by_cases hflags : api.backup passkey = api.resultBackup result
  · rw [decide_eq_false (not_not.mpr hflags)] at hupdate
    exact (h.same s result passkey updated hvalid hstored hupdate).2
  · rw [decide_eq_true hflags] at hupdate
    have hrefusal := (hharmless passkey hstored hstale).resolve_left hflags
    exact (h.refused s result passkey updated _ hvalid hstored hupdate hrefusal).2

/-- What a backend does with stale results. -/
structure StaleLaw (api : WebauthnRs Passkey AuthenticationResult)
    (backend : CredentialBackend Passkey AuthenticationResult σ) : Prop where
  /-- A stale result that needs an update is turned away exactly when its backup flags are the
      stored ones, or the new record is refused for its size. -/
  rejected : ∀ s result passkey, backend.Valid s →
    backend.stored s (api.resultCredId result) = some passkey →
    api.needsUpdate result = true → api.resultCounter result < api.counter passkey →
    (backend.Rejects s result ↔ api.backup passkey = api.resultBackup result ∨
      backend.refusal s result = some .invalidRecord)
  /-- Over a sequence of results of which every one is harmless when it arrives, a result with a
      lower counter changes nothing. -/
  runs : ∀ s (results : List AuthenticationResult), backend.Valid s →
    (∀ n result, results[n]? = some result →
      backend.Harmless api (run backend.update s (results.take n)) result) →
    ∀ n result passkey, results[n]? = some result →
      backend.stored (run backend.update s (results.take n)) (api.resultCredId result) =
        some passkey →
      api.resultCounter result < api.counter passkey →
      backend.Same (run backend.update s (results.take n))
        (run backend.update s (results.take (n + 1))) ∧
      (api.needsUpdate result = true →
        backend.Rejects (run backend.update s (results.take n)) result)
  /-- The counter of a credential never goes down. -/
  counters : ∀ s (results : List AuthenticationResult), backend.Valid s →
    ∀ m n id passkey, m ≤ n →
    backend.stored (run backend.update s (results.take m)) id = some passkey →
    ∃ updated, backend.stored (run backend.update s (results.take n)) id = some updated ∧
      api.counter passkey ≤ api.counter updated

theorem Lawful.valid_run (h : backend.Lawful api) (hvalid : backend.Valid s)
    (results : List AuthenticationResult) : backend.Valid (run backend.update s results) :=
  run_invariant backend.update (P := backend.Valid) (fun s result => h.valid s result) hvalid results

/-- **Every lawful backend obeys the law of stale results.** -/
theorem Lawful.staleLaw (h : backend.Lawful api) (hdoc : api.Documented) :
    backend.StaleLaw api where
  rejected s result passkey hvalid hstored hneeds hstale :=
    h.rejects_iff hdoc hvalid hstored hneeds hstale
  runs := by
    intro s results hvalid hharmless n result passkey hresult hstored hstale
    have hreached := h.valid_run hvalid (results.take n)
    have hmeets := hharmless n result hresult
    rw [run_take_succ backend.update hresult]
    refine ⟨h.same_of_harmless hdoc hreached hstored hstale hmeets, ?_⟩
    intro hneeds
    exact (h.rejects_iff hdoc hreached hstored hneeds hstale).mpr (hmeets passkey hstored hstale)
  counters := by
    intro s results hvalid m n id passkey hmn hstored
    -- By the steps between the two states, each of which keeps the counter or raises it.
    induction n, hmn using Nat.le_induction with
    | base => exact ⟨passkey, hstored, le_refl _⟩
    | succ n hmn ih =>
      obtain ⟨reached, hreached, hle⟩ := ih
      cases hresult : results[n]? with
      | none =>
        have hend : results.take (n + 1) = results.take n := by
          have hlength := List.getElem?_eq_none_iff.mp hresult
          rw [List.take_of_length_le hlength, List.take_of_length_le (hlength.trans (Nat.le_succ n))]
        rw [hend]
        exact ⟨reached, hreached, hle⟩
      | some result =>
        rw [run_take_succ backend.update hresult]
        obtain ⟨updated, hupdated, hle'⟩ :=
          h.counter_le hdoc (h.valid_run hvalid _) result hreached
        exact ⟨updated, hupdated, hle.trans hle'⟩

end CredentialBackend

section Backends

variable {Passkey AuthenticationResult : Type}

/-- What `update_credential` leaves alone. -/
theorem updated_eq_of_unchanged {api : WebauthnRs Passkey AuthenticationResult}
    (hdoc : api.Documented) {passkey updated : Passkey} {result : AuthenticationResult}
    (hid : api.credId passkey = api.resultCredId result)
    (hupdate : api.updateCredential passkey result = some (false, updated)) :
    updated = passkey := by
  obtain ⟨changed, updated', hupdate', -, -, -, -, hsame⟩ := hdoc.update_own passkey result hid
  rw [hupdate] at hupdate'
  cases hupdate'
  exact hsame rfl

/-! ## The in-memory store -/

/-- `InMemoryCredentialStore`, seen by one account. -/
def memoryBackend (api : WebauthnRs Passkey AuthenticationResult) (userId : Uuid) :
    CredentialBackend Passkey AuthenticationResult (InMemoryCredentialStore Passkey) where
  update store result := store.updateAfterAuth api userId result
  stored store id := (store.credentials.value.lookup userId).bind (credentialWith api id)
  refusal _ _ := none
  Valid store := store.credentials.poisoned = false

section Memory

variable {api : WebauthnRs Passkey AuthenticationResult} {userId : Uuid}
  {store : InMemoryCredentialStore Passkey} {result : AuthenticationResult}
  {passkey updated : Passkey} {changed : Bool} {account account' : List Passkey}

theorem memory_lock (h : store.credentials.poisoned = false) :
    store.credentials.lock = some store.credentials.value := by
  rw [Mutex.lock, h]
  rfl

theorem memory_stored_write (id : Bytes) :
    (memoryBackend api userId).stored (store.write userId account) id =
      credentialWith api id account := by
  show ((store.credentials.value.insert userId account).lookup userId).bind _ = _
  rw [AList.lookup_insert]
  rfl

/-- An update that finds its credential. -/
theorem memory_update_present (hdoc : api.Documented) (h : store.credentials.poisoned = false)
    (hstored : (memoryBackend api userId).stored store (api.resultCredId result) = some passkey)
    (hupdate : api.updateCredential passkey result = some (changed, updated)) :
    ∃ account account', store.credentials.value.lookup userId = some account ∧
      credentialWith api (api.resultCredId result) account' = some updated ∧
      (∀ id, id ≠ api.resultCredId result →
        credentialWith api id account' = credentialWith api id account) ∧
      (updated = passkey → account' = account) ∧
      store.updateAfterAuth api userId result =
        (if api.needsUpdate result && !changed then .error .invalidRecord else .ok changed,
          store.write userId account') := by
  obtain ⟨account, hlookup, hfound⟩ := Option.bind_eq_some_iff.mp hstored
  obtain ⟨account', hfind, hnew, hothers, hsame⟩ := findUpdate_of_present hdoc hfound hupdate
  refine ⟨account, account', hlookup, hnew, hothers, hsame, ?_⟩
  simp only [InMemoryCredentialStore.updateAfterAuth, memory_lock h, hlookup, hfind]
  split <;> rfl

theorem memory_lawful (hdoc : api.Documented) : (memoryBackend api userId).Lawful api where
  valid := by
    intro store result hvalid
    have hvalid' : store.credentials.poisoned = false := hvalid
    show (store.updateAfterAuth api userId result).2.credentials.poisoned = false
    unfold InMemoryCredentialStore.updateAfterAuth
    rw [memory_lock hvalid']
    dsimp only
    split
    · exact hvalid'
    · split
      · exact hvalid'
      · split <;> exact hvalid'
  id_eq := by
    intro store id passkey _ hstored
    obtain ⟨account, -, hfound⟩ := Option.bind_eq_some_iff.mp hstored
    exact credId_of_credentialWith hfound
  absent := by
    intro store result hvalid hstored id
    -- Without such a credential nothing is written.
    have hsame : (store.updateAfterAuth api userId result).2 = store := by
      cases hlookup : store.credentials.value.lookup userId with
      | none => simp only [InMemoryCredentialStore.updateAfterAuth, memory_lock hvalid, hlookup]
      | some account =>
        have habsent : credentialWith api (api.resultCredId result) account = none := by
          simpa only [memoryBackend, hlookup, Option.bind_some] using hstored
        simp only [InMemoryCredentialStore.updateAfterAuth, memory_lock hvalid, hlookup,
          findUpdate_of_absent hdoc habsent]
    show (memoryBackend api userId).stored (store.updateAfterAuth api userId result).2 id = _
    rw [hsame]
  same := by
    intro store result passkey updated hvalid hstored hupdate
    obtain ⟨account, account', hlookup, -, -, hsame, hcall⟩ :=
      memory_update_present hdoc hvalid hstored hupdate
    obtain ⟨_, -, hfound⟩ := Option.bind_eq_some_iff.mp hstored
    -- The library leaves a credential it does not change as it was.
    have hunchanged := hsame (updated_eq_of_unchanged hdoc (credId_of_credentialWith hfound) hupdate)
    simp only [memoryBackend] at hcall ⊢
    rw [hcall]
    refine ⟨by simp, ?_⟩
    intro id
    rw [hunchanged]
    show (memoryBackend api userId).stored (store.write userId account) id =
      (store.credentials.value.lookup userId).bind (credentialWith api id)
    rw [memory_stored_write, hlookup]
    rfl
  refused := by
    intro store result passkey updated error _ _ _ hrefusal
    -- The store has no refusal of its own.
    cases hrefusal
  written := by
    intro store result passkey updated hvalid hstored hupdate _
    obtain ⟨account, account', hlookup, hnew, hothers, -, hcall⟩ :=
      memory_update_present hdoc hvalid hstored hupdate
    have hcall' : (memoryBackend api userId).update store result =
        (if api.needsUpdate result && !true then .error .invalidRecord else .ok true,
          store.write userId account') := hcall
    rw [hcall']
    refine ⟨by simp, (memory_stored_write _).trans hnew, ?_⟩
    intro id hne
    rw [memory_stored_write, hothers id hne]
    show _ = (store.credentials.value.lookup userId).bind (credentialWith api id)
    rw [hlookup]
    rfl

end Memory

/-! ## The Redis store -/

section Redis

variable (json : CredentialJson Passkey) (api : WebauthnRs Passkey AuthenticationResult)

/-- `RedisWebAuthnStore::update_after_auth` by the only client of the key. -/
def redisUpdateAfterAuth (value : Option CredentialValue) (result : AuthenticationResult) :
    Except CredentialStoreError Bool × Option CredentialValue :=
  let (reply, value) := Watch.alone (credentialClient json api) value (.updateAfterAuth result)
  match reply with
  | some (.ok (.updated changed)) => (.ok changed, value)
  | some (.error error) => (.error error, value)
  | _ => (.error .unavailable, value)

/-- The key of one account. -/
def redisBackend :
    CredentialBackend Passkey AuthenticationResult (Option CredentialValue) where
  update := redisUpdateAfterAuth json api
  stored value id :=
    match redisLoad json value with
    | .ok credentials => credentialWith api id credentials
    | .error _ => none
  refusal value result :=
    match redisLoad json value with
    | .ok credentials =>
      match updateMatching api result credentials with
      | some (true, account) =>
        match encodeCredentials json account with
        | .error error => some error
        | .ok _ => none
      | _ => none
    | .error _ => none
  Valid value := ∃ credentials, HoldsRecord json api value credentials

variable {json} {api} {value : Option CredentialValue} {result : AuthenticationResult}
  {credentials account : List Passkey} {passkey updated : Passkey} {changed : Bool}

/-- `update_after_auth` on a record, from what its closure answers. -/
theorem redisUpdateAfterAuth_eq (h : HoldsRecord json api value credentials)
    (hdoc : api.Documented) (hjson : json.RoundTrips) :
    redisUpdateAfterAuth json api value result =
      match updateMatching api result credentials with
      | none => (.error .invalidRecord, value)
      | some (changed, account) =>
        if api.needsUpdate result && !changed then (.error .invalidRecord, value)
        else if !changed then (.ok false, value)
        else
          match encodeCredentials json account with
          | .error error => (.error error, value)
          | .ok encoded => (.ok true, some (.string encoded)) := by
  have hloads : getBoundedCredentials
      (boundedCredentialGetScript maxCredentialRecordBytes value).1 >>= decodeCredentials json =
        .ok credentials := h.loads
  have hreads : (boundedCredentialGetScript maxCredentialRecordBytes value).2 = none :=
    (credentialClient_quiet hdoc hjson).reads value ⟨credentials, h⟩
  simp only [redisUpdateAfterAuth, Watch.alone, credentialClient, closureBody, hloads, hreads,
    closure]
  cases updateMatching api result credentials with
  | none => rfl
  | some found =>
    obtain ⟨changed, account⟩ := found
    cases changed with
    | false => cases api.needsUpdate result <;> rfl
    | true =>
      simp only [Bool.not_true, Bool.and_false, Bool.false_eq_true, if_false]
      cases encodeCredentials json account with
      | error error => rfl
      | ok encoded => rfl

theorem redis_stored (h : HoldsRecord json api value credentials) (id : Bytes) :
    (redisBackend json api).stored value id = credentialWith api id credentials := by
  simp only [redisBackend, h.loads]

/-- The record after an update that wrote. -/
theorem redis_written (hdoc : api.Documented) (hjson : json.RoundTrips)
    (h : HoldsRecord json api value credentials)
    (hupdate : updateMatching api result credentials = some (true, account)) {encoded : Bytes}
    (hencode : encodeCredentials json account = .ok encoded) :
    HoldsRecord json api (some (.string encoded)) account := by
  rw [updateMatching_eq_findUpdate hdoc] at hupdate
  have hids := findUpdate_ids hdoc hupdate
  have hlength : account.length = credentials.length := by
    simpa using congrArg List.length hids
  exact holdsRecord_of_encode hjson hencode (hids ▸ h.nodup) (hlength ▸ h.length_le)

theorem redis_lawful (hdoc : api.Documented) (hjson : json.RoundTrips) :
    (redisBackend json api).Lawful api where
  valid := by
    intro value result ⟨credentials, h⟩
    show ∃ account, HoldsRecord json api (redisUpdateAfterAuth json api value result).2 account
    rw [redisUpdateAfterAuth_eq h hdoc hjson]
    -- The value is written only if the update changes a credential and the account fits.
    cases hupdate : updateMatching api result credentials with
    | none => exact ⟨credentials, h⟩
    | some found =>
      obtain ⟨changed, account⟩ := found
      dsimp only
      split
      · exact ⟨credentials, h⟩
      · split
        · exact ⟨credentials, h⟩
        · next hchanged =>
          cases hencode : encodeCredentials json account with
          | error error => exact ⟨credentials, h⟩
          | ok encoded =>
            rw [Bool.not_eq_true, Bool.not_eq_false'] at hchanged
            exact ⟨account, redis_written hdoc hjson h (hchanged ▸ hupdate) hencode⟩
  id_eq := by
    intro value id passkey ⟨credentials, h⟩ hstored
    rw [redis_stored h] at hstored
    exact credId_of_credentialWith hstored
  absent := by
    intro value result ⟨credentials, h⟩ hstored id
    rw [redis_stored h] at hstored
    show (redisBackend json api).stored (redisUpdateAfterAuth json api value result).2 id = _
    rw [redisUpdateAfterAuth_eq h hdoc hjson, updateMatching_eq_findUpdate hdoc,
      findUpdate_of_absent hdoc hstored]
  same := by
    intro value result passkey updated ⟨credentials, h⟩ hstored hupdate
    rw [redis_stored h] at hstored
    obtain ⟨account, hfind, -⟩ := findUpdate_of_present hdoc hstored hupdate
    have hcall : (redisBackend json api).update value result =
        (if api.needsUpdate result then .error .invalidRecord else .ok false, value) := by
      show redisUpdateAfterAuth json api value result = _
      rw [redisUpdateAfterAuth_eq h hdoc hjson, updateMatching_eq_findUpdate hdoc, hfind]
      cases api.needsUpdate result <;> rfl
    rw [hcall]
    exact ⟨rfl, fun id => rfl⟩
  refused := by
    intro value result passkey updated error ⟨credentials, h⟩ hstored hupdate hrefusal
    rw [redis_stored h] at hstored
    obtain ⟨account, hfind, -⟩ := findUpdate_of_present hdoc hstored hupdate
    simp only [redisBackend, h.loads, updateMatching_eq_findUpdate hdoc, hfind] at hrefusal
    -- A refusal can only come from the size of the account.
    have hencode : encodeCredentials json account = .error error := by
      split at hrefusal
      · next hencode =>
        cases hrefusal
        exact hencode
      · cases hrefusal
    have hcall : (redisBackend json api).update value result = (.error error, value) := by
      show redisUpdateAfterAuth json api value result = _
      rw [redisUpdateAfterAuth_eq h hdoc hjson, updateMatching_eq_findUpdate hdoc, hfind]
      simp [hencode]
    rw [hcall]
    exact ⟨rfl, fun id => rfl⟩
  written := by
    intro value result passkey updated ⟨credentials, h⟩ hstored hupdate hrefusal
    rw [redis_stored h] at hstored
    obtain ⟨account, hfind, hnew, hothers, -⟩ := findUpdate_of_present hdoc hstored hupdate
    have hmatching : updateMatching api result credentials = some (true, account) := by
      rw [updateMatching_eq_findUpdate hdoc, hfind]
    simp only [redisBackend, h.loads, hmatching] at hrefusal
    -- An account that does not fit would have been a refusal.
    cases hencode : encodeCredentials json account with
    | error error =>
      rw [hencode] at hrefusal
      cases hrefusal
    | ok encoded =>
      have hafter := redis_written hdoc hjson h hmatching hencode
      have hcall : (redisBackend json api).update value result =
          (.ok true, some (.string encoded)) := by
        show redisUpdateAfterAuth json api value result = _
        rw [redisUpdateAfterAuth_eq h hdoc hjson, hmatching]
        simp [hencode]
      rw [hcall]
      refine ⟨rfl, (redis_stored hafter _).trans hnew, ?_⟩
      intro id hne
      rw [redis_stored hafter, redis_stored h, hothers id hne]

end Redis

/-! ## The PostgreSQL store -/

section Postgres

variable {Json : Type} (json : PasskeyJson Passkey Json)
  (api : WebauthnRs Passkey AuthenticationResult) (account : PostgresAccount)

/-- The rows of one account. -/
def postgresBackend :
    CredentialBackend Passkey AuthenticationResult (CredentialTable Json) where
  update := postgresUpdateAfterAuth json api account
  stored table id := (table.lookup (account.key id)).bind (readPasskey json)
  refusal table result :=
    (table.lookup (account.key (api.resultCredId result))).bind fun row =>
      (readPasskey json row).bind fun passkey =>
        match api.updateCredential passkey result with
        | some (true, updated) =>
          passkeyRefusal json (account.key (api.resultCredId result)) row updated
        | _ => none
  Valid table := ∀ id row passkey, table.lookup (account.key id) = some row →
    readPasskey json row = some passkey → api.credId passkey = id

variable {json} {api} {account} {table : CredentialTable Json} {result : AuthenticationResult}
  {passkey updated : Passkey} {changed : Bool}

/-- A row that was written is read back. -/
theorem readPasskey_of_written (hjson : json.RoundTrips) {pk : String × Uuid × Bytes}
    {value : Json} {revision : ℤ} (hencode : encodePasskey json updated = .ok value)
    (hcheck : credentialRowOk json pk ⟨value, revision⟩ = true) :
    readPasskey json ⟨value, revision⟩ = some updated := by
  have hvalue : json.toValue updated = some value := by
    unfold encodePasskey at hencode
    split at hencode
    · cases hencode
    · next stored hstored =>
      split at hencode
      · cases hencode
      · split at hencode
        · cases hencode
        · cases hencode
          exact hstored
  have hlength : json.textLength value ≤ maxCredentialRecordBytes := by
    simp only [credentialRowOk, Bool.and_eq_true, decide_eq_true_eq] at hcheck
    exact hcheck.1.2.2
  rw [readPasskey, credentialUpdateLoad, if_pos hlength, Option.bind_some]
  exact hjson _ _ hvalue

/-- An update whose credential cannot be read changes nothing. -/
theorem postgres_update_absent
    (h : (postgresBackend json api account).stored table (api.resultCredId result) = none) :
    (postgresUpdateAfterAuth json api account table result).2 = table := by
  cases hrow : table.lookup (account.key (api.resultCredId result)) with
  | none => simp only [postgresUpdateAfterAuth, updateTransaction, hrow, Sql.TxEnd.settle]
  | some row =>
    have hread : (credentialUpdateLoad json row).1.bind json.fromValue = none := by
      simpa only [postgresBackend, hrow, Option.bind_some, readPasskey] using h
    simp only [postgresUpdateAfterAuth, updateTransaction, hrow, hread, Sql.TxEnd.settle]

theorem postgres_lawful (hdoc : api.Documented) (hjson : json.RoundTrips) :
    (postgresBackend json api account).Lawful api where
  valid := by
    intro table result hvalid
    show (postgresBackend json api account).Valid
      (postgresUpdateAfterAuth json api account table result).2
    cases hstored : (postgresBackend json api account).stored table (api.resultCredId result) with
    | none =>
      rw [postgres_update_absent hstored]
      exact hvalid
    | some passkey =>
      obtain ⟨row, hrow, hread⟩ := Option.bind_eq_some_iff.mp hstored
      have hid := hvalid _ row passkey hrow hread
      obtain ⟨changed, updated, hupdate, hkept, -⟩ := hdoc.update_own passkey result hid
      obtain ⟨hsame, hrefused, hwritten⟩ := postgresUpdateAfterAuth_eq hrow hread hupdate
      -- The row is written only if the credential has changed and the row can hold it.
      cases changed with
      | false =>
        rw [hsame rfl]
        exact hvalid
      | true =>
        cases hrefusal : passkeyRefusal json (account.key (api.resultCredId result)) row updated with
        | some error =>
          rw [hrefused rfl error hrefusal]
          exact hvalid
        | none =>
          obtain ⟨value, hencode, hcheck, hcall⟩ := hwritten rfl hrefusal
          rw [hcall]
          intro id stored found hlookup hfound
          -- What is read back is the credential that was written, under the id it had.
          rw [KeyedMap.lookup_insert_ite] at hlookup
          split at hlookup
          · next hkey =>
            cases hlookup
            rw [readPasskey_of_written hjson hencode hcheck] at hfound
            cases hfound
            have hids : id = api.resultCredId result := congrArg (fun pk => pk.2.2) hkey
            rw [hkept, hid, hids]
          · exact hvalid id stored found hlookup hfound
  id_eq := by
    intro table id passkey hvalid hstored
    obtain ⟨row, hrow, hread⟩ := Option.bind_eq_some_iff.mp hstored
    exact hvalid id row passkey hrow hread
  absent := by
    intro table result _ hstored id
    show (postgresBackend json api account).stored
      (postgresUpdateAfterAuth json api account table result).2 id = _
    rw [postgres_update_absent hstored]
  same := by
    intro table result passkey updated _ hstored hupdate
    obtain ⟨row, hrow, hread⟩ := Option.bind_eq_some_iff.mp hstored
    obtain ⟨hsame, -⟩ := postgresUpdateAfterAuth_eq hrow hread hupdate
    have hcall : (postgresBackend json api account).update table result = _ := hsame rfl
    rw [hcall]
    exact ⟨rfl, fun id => rfl⟩
  refused := by
    intro table result passkey updated error _ hstored hupdate hrefusal
    obtain ⟨row, hrow, hread⟩ := Option.bind_eq_some_iff.mp hstored
    obtain ⟨-, hrefused, -⟩ := postgresUpdateAfterAuth_eq hrow hread hupdate
    simp only [postgresBackend, hrow, hread, hupdate, Option.bind_some] at hrefusal
    have hcall : (postgresBackend json api account).update table result = _ :=
      hrefused rfl error hrefusal
    rw [hcall]
    exact ⟨rfl, fun id => rfl⟩
  written := by
    intro table result passkey updated _ hstored hupdate hrefusal
    obtain ⟨row, hrow, hread⟩ := Option.bind_eq_some_iff.mp hstored
    obtain ⟨-, -, hwritten⟩ := postgresUpdateAfterAuth_eq hrow hread hupdate
    simp only [postgresBackend, hrow, hread, hupdate, Option.bind_some] at hrefusal
    obtain ⟨value, hencode, hcheck, hwrite⟩ := hwritten rfl hrefusal
    have hcall : (postgresBackend json api account).update table result = _ := hwrite
    rw [hcall]
    refine ⟨rfl, ?_, ?_⟩
    · show ((table.insert (account.key (api.resultCredId result)) _).lookup
        (account.key (api.resultCredId result))).bind (readPasskey json) = some updated
      -- The written row reads back as the updated credential.
      rw [AList.lookup_insert, Option.bind_some]
      exact readPasskey_of_written hjson hencode hcheck
    · intro id hne
      -- Another id has another key.
      have hkey : account.key id ≠ account.key (api.resultCredId result) := fun hkey =>
        hne (congrArg (fun pk => pk.2.2) hkey)
      show ((table.insert (account.key (api.resultCredId result)) _).lookup
        (account.key id)).bind (readPasskey json) = _
      rw [AList.lookup_insert_ne hkey]
      rfl

end Postgres

/-! ## The law -/

/-- **Stale results in the three stores.** -/
theorem stale_updates {Json : Type} {api : WebauthnRs Passkey AuthenticationResult}
    (hdoc : api.Documented) {records : CredentialJson Passkey} (hrecords : records.RoundTrips)
    {rows : PasskeyJson Passkey Json} (hrows : rows.RoundTrips) (userId : Uuid)
    (account : PostgresAccount) :
    (memoryBackend api userId).StaleLaw api ∧ (redisBackend records api).StaleLaw api ∧
      (postgresBackend rows api account).StaleLaw api :=
  ⟨(memory_lawful hdoc).staleLaw hdoc, (redis_lawful hdoc hrecords).staleLaw hdoc,
    (postgres_lawful hdoc hrows).staleLaw hdoc⟩

end Backends

/-! ### A result from before the backup -/

/-- An assertion that was made at counter 5, before the passkey was backed up. -/
def earlierResult : ResultFields := ⟨[0x01], 5, ⟨true, false⟩, true⟩

/-- The same assertion with the flags the store has by now. -/
def earlierCounter : ResultFields := ⟨[0x01], 5, ⟨true, true⟩, true⟩

/-- An account with the passkey that is at counter 7 and backed up. -/
def usedStore : InMemoryCredentialStore PasskeyFields :=
  ⟨.new ((∅ : KeyedMap Uuid (List PasskeyFields)).insert 7 [usedPasskey])⟩

/-- `serde_json::to_value` on that passkey, as text; PostgreSQL prints a blank after every colon
    and comma. -/
def sampleRows : PasskeyJson PasskeyFields String where
  toValue passkey :=
    if passkey = usedPasskey then some (passkeyText "AQ" "7" "true" "true") else none
  fromValue value :=
    if value = passkeyText "AQ" "7" "true" "true" then some usedPasskey else none
  vecLength value := some (asBytes value).length
  textLength value := (asBytes value).length + (asBytes value).countP fun byte =>
    byte = 0x3A || byte = 0x2C

theorem sampleRows_roundTrips : sampleRows.RoundTrips := by
  intro passkey value h
  simp only [sampleRows] at h ⊢
  split at h
  · next heq =>
    cases h
    rw [if_pos rfl, heq]
  · cases h

/-- The row of the account's passkey. -/
def usedTable : CredentialTable String :=
  (∅ : CredentialTable String).insert ("prod", 7, [0x01])
    ⟨passkeyText "AQ" "7" "true" "true", 2⟩

/-- The lower counter alone is turned away by every store. -/
theorem stale_updates_lower_counter :
    (memoryBackend fieldsApi 7).Rejects usedStore earlierCounter ∧
    (redisBackend sampleJson fieldsApi).Rejects
      ((sampleJson.toVec [usedPasskey]).map .string) earlierCounter ∧
    (postgresBackend sampleRows fieldsApi ⟨"prod", 7⟩).Rejects usedTable earlierCounter := by
  obtain ⟨hmemory, hredis, hpostgres⟩ := stale_updates fieldsApi_documented sampleJson_roundTrips
    sampleRows_roundTrips 7 ⟨"prod", 7⟩
  refine ⟨?_, ?_, ?_⟩
  · exact (hmemory.rejected usedStore earlierCounter usedPasskey rfl (by decide +kernel) rfl
      (by decide)).mpr (.inl rfl)
  · refine (hredis.rejected _ earlierCounter usedPasskey ⟨[usedPasskey], ?_⟩ (by decide +kernel)
      rfl (by decide)).mpr (.inl rfl)
    exact ⟨by decide +kernel, by decide +kernel, by decide, by decide⟩
  · refine (hpostgres.rejected usedTable earlierCounter usedPasskey ?_ (by decide +kernel) rfl
      (by decide)).mpr (.inl rfl)
    intro id row passkey hrow hread
    rw [usedTable, KeyedMap.lookup_insert_ite] at hrow
    split at hrow
    · next hkey =>
      cases hrow
      have hid : id = [0x01] := congrArg (fun pk => pk.2.2) hkey
      have hpasskey : readPasskey sampleRows ⟨passkeyText "AQ" "7" "true" "true", 2⟩ =
          some usedPasskey := by decide +kernel
      rw [hpasskey] at hread
      cases hread
      exact hid.symm
    · cases hrow

/-- The result from before the backup is accepted, and takes the backup state back. -/
theorem stale_result_takes_backup_back :
    fieldsApi.Documented ∧ (memoryBackend fieldsApi 7).Valid usedStore ∧
    (memoryBackend fieldsApi 7).stored usedStore earlierResult.credId = some usedPasskey ∧
    earlierResult.needsUpdate = true ∧ earlierResult.counter < usedPasskey.counter ∧
    ((memoryBackend fieldsApi 7).update usedStore earlierResult).1 = .ok true ∧
    (memoryBackend fieldsApi 7).stored
      ((memoryBackend fieldsApi 7).update usedStore earlierResult).2 earlierResult.credId =
        some ⟨[0x01], 7, ⟨true, false⟩⟩ ∧
    ¬ (memoryBackend fieldsApi 7).Rejects usedStore earlierResult := by
  have hreply : ((memoryBackend fieldsApi 7).update usedStore earlierResult).1 = .ok true := by
    decide +kernel
  refine ⟨fieldsApi_documented, rfl, by decide +kernel, rfl, by decide, hreply, by decide +kernel,
    ?_⟩
  intro ⟨hrejected, _⟩
  rw [hreply] at hrejected
  cases hrejected

end SecureKeypad.Webauthn
