import SecureKeypad.Library.Watch
import SecureKeypad.Webauthn.CredentialStore

/-!
# Redis WebAuthn Credentials (`secure-webauthn-example::storage_redis`)

Embeds the credential half of `RedisWebAuthnStore`: the bounded read script, the JSON record of an
account and the two optimistic transactions `insert` and `update_after_auth`, as clients of one
watched key. `redis::transaction` watches the key, runs the closure and returns what the closure
answers; a pipeline asked for `()` converts every reply to `EXEC` that is not an error, a dropped
block's nil included. JSON comes from `serde_json` and is a parameter.

## Main results

- `atomically_credentialClient`: a closure run at once is the operation of the in-memory store
- `exec_of_applied`, `result_of_executed`: which calls report that they were applied
- `redis_no_lost_update`: over every schedule, calls that report success are the calls that were
  applied exactly when no block is sent on a dirty watch
-/

namespace SecureKeypad.Webauthn

open Rust Machine

/-! ## Records -/

/-- `serde_json::to_vec` and `from_slice` on the credentials of an account. -/
structure CredentialJson (Passkey : Type) where
  toVec : List Passkey → Option Bytes
  fromSlice : Bytes → Option (List Passkey)

/-- What is written can be read back. -/
def CredentialJson.RoundTrips {Passkey : Type} (json : CredentialJson Passkey) : Prop :=
  ∀ credentials encoded, json.toVec credentials = some encoded →
    json.fromSlice encoded = some credentials

/-- The value of the credential key: a string, or a value of another type. -/
inductive CredentialValue where
  | string (value : Bytes)
  | other
deriving DecidableEq

/-- `BOUNDED_CREDENTIAL_GET_SCRIPT`: the status and the value, and what the script writes. -/
def boundedCredentialGetScript (maxBytes : ℕ) :
    Option CredentialValue → (ℤ × Option Bytes) × Option (Option CredentialValue)
  | some .other => ((-1, none), some none)
  | none => ((1, none), none)
  | some (.string value) =>
    if value.length > maxBytes then ((0, none), none) else ((2, some value), none)

/-- `get_bounded_credentials` on the script's answer. -/
def getBoundedCredentials : ℤ × Option Bytes → Except CredentialStoreError (Option Bytes)
  | (status, value) =>
    if status = 1 then .ok none
    else if status = 2 then
      match value with
      | some value => .ok (some value)
      | none => .error .invalidRecord
    else .error .invalidRecord

section Codec

variable {Passkey AuthenticationResult : Type} (json : CredentialJson Passkey)
  (api : WebauthnRs Passkey AuthenticationResult)

/-- `decode_credentials`. -/
def decodeCredentials : Option Bytes → Except CredentialStoreError (List Passkey)
  | none => .ok []
  | some encoded =>
    if encoded.length > maxCredentialRecordBytes then .error .invalidRecord
    else
      match json.fromSlice encoded with
      | none => .error .invalidRecord
      | some credentials =>
        if credentials.length > maxCredentialsPerUser then .error .invalidRecord
        else .ok credentials

/-- `encode_credentials`. -/
def encodeCredentials (credentials : List Passkey) : Except CredentialStoreError Bytes :=
  match json.toVec credentials with
  | none => .error .invalidRecord
  | some encoded =>
    if encoded.length > maxCredentialRecordBytes then .error .invalidRecord else .ok encoded

/-! ## The transactions -/

/-- A call of the store on one account. -/
inductive CredentialCall (Passkey AuthenticationResult : Type) where
  | insert (passkey : Passkey)
  | updateAfterAuth (result : AuthenticationResult)
deriving DecidableEq

/-- The success values of the two operations: `()` and whether the record changed. -/
inductive StoreReply where
  | inserted
  | updated (changed : Bool)
deriving DecidableEq, Repr

/-- The search of `update_after_auth` by credential id. -/
def updateMatching (result : AuthenticationResult) : List Passkey → Option (Bool × List Passkey)
  | [] => none
  | credential :: rest =>
    if api.credId credential = api.resultCredId result then
      (api.updateCredential credential result).map fun p => (p.1, p.2 :: rest)
    else (updateMatching result rest).map fun p => (p.1, credential :: p.2)

/-- What a closure makes of the decoded credentials: return, or write new ones. -/
def closure (call : CredentialCall Passkey AuthenticationResult) (credentials : List Passkey) :
    Except CredentialStoreError StoreReply ⊕ List Passkey :=
  match call with
  | .insert passkey =>
    if credentials.any fun existing => api.passkeyEq existing passkey then .inl (.error .duplicate)
    else if credentials.length ≥ maxCredentialsPerUser then .inl (.error .capacityReached)
    else .inr (credentials ++ [passkey])
  | .updateAfterAuth result =>
    match updateMatching api result credentials with
    | none => .inl (.error .invalidRecord)
    | some (changed, credentials) =>
      if api.needsUpdate result && !changed then .inl (.error .invalidRecord)
      else if !changed then .inl (.ok (.updated false))
      else .inr credentials

/-- The closure from the script's answer to its `EXEC`. -/
def closureBody (call : CredentialCall Passkey AuthenticationResult)
    (answer : ℤ × Option Bytes) :
    Except CredentialStoreError StoreReply ⊕ Option CredentialValue :=
  match getBoundedCredentials answer >>= decodeCredentials json with
  | .error error => .inl (.error error)
  | .ok credentials =>
    match closure api call credentials with
    | .inl result => .inl result
    | .inr credentials =>
      match encodeCredentials json credentials with
      | .error error => .inl (.error error)
      | .ok encoded => .inr (some (.string encoded))

/-- `redis::Pipeline::query` asked for `()`: no reply to `EXEC` fails to convert. -/
def queryUnit : Watch.ExecReply → Option Unit
  | .values => some ()
  | .nil => some ()

/-- `.map(|()| Some(Ok(…)))` on the converted reply. -/
def closureSettle (call : CredentialCall Passkey AuthenticationResult)
    (reply : Watch.ExecReply) : Option (Except CredentialStoreError StoreReply) :=
  (queryUnit reply).map fun () =>
    match call with
    | .insert _ => .ok .inserted
    | .updateAfterAuth _ => .ok (.updated true)

/-- `RedisWebAuthnStore::insert` and `update_after_auth` as clients of the account's key. -/
def credentialClient :
    Watch.Client (CredentialCall Passkey AuthenticationResult) (ℤ × Option Bytes)
      (Option CredentialValue) (Except CredentialStoreError StoreReply) where
  script := boundedCredentialGetScript maxCredentialRecordBytes
  body := closureBody json api
  settle := closureSettle

/-- `RedisWebAuthnStore::load` on the value of the account's key. -/
def redisLoad (value : Option CredentialValue) : Except CredentialStoreError (List Passkey) :=
  getBoundedCredentials (boundedCredentialGetScript maxCredentialRecordBytes value).1 >>=
    decodeCredentials json

/-- One call on the sequential store. -/
def sequentialStep (userId : Uuid) (store : InMemoryCredentialStore Passkey)
    (call : CredentialCall Passkey AuthenticationResult) :
    Except CredentialStoreError StoreReply × InMemoryCredentialStore Passkey :=
  match call with
  | .insert passkey =>
    let (result, store) := store.insert api userId passkey
    (result.map fun () => .inserted, store)
  | .updateAfterAuth result =>
    let (result, store) := store.updateAfterAuth api userId result
    (result.map .updated, store)

end Codec

/-! ## What a call run at once does -/

section Atomic

variable {Passkey AuthenticationResult : Type} {json : CredentialJson Passkey}
  {api : WebauthnRs Passkey AuthenticationResult}
  {call : CredentialCall Passkey AuthenticationResult} {credentials account : List Passkey}
  {value value' : Option CredentialValue}

/-- The search by id and the loop of the in-memory store update the same credential. -/
theorem updateMatching_eq_findUpdate (hdoc : api.Documented) (result : AuthenticationResult)
    (credentials : List Passkey) :
    updateMatching api result credentials = findUpdate api result credentials := by
  induction credentials with
  | nil => rfl
  | cons credential rest ih =>
    unfold updateMatching findUpdate
    by_cases hid : api.credId credential = api.resultCredId result
    · obtain ⟨changed, updated, hupdate, -⟩ := hdoc.update_own credential result hid
      rw [if_pos hid, hupdate]
      rfl
    · rw [if_neg hid, hdoc.update_other credential result hid, ih]

/-- A key that holds the record of an account. -/
structure HoldsRecord (json : CredentialJson Passkey)
    (api : WebauthnRs Passkey AuthenticationResult) (value : Option CredentialValue)
    (credentials : List Passkey) : Prop where
  loads : redisLoad json value = .ok credentials
  typed : value ≠ some .other
  nodup : (credentials.map api.credId).Nodup
  length_le : credentials.length ≤ maxCredentialsPerUser

/-- A sequential store that holds the same account. -/
structure HoldsAccount (store : InMemoryCredentialStore Passkey) (userId : Uuid)
    (credentials : List Passkey) : Prop where
  unpoisoned : store.credentials.poisoned = false
  account : (store.credentials.value.lookup userId).getD [] = credentials

/-- What a closure writes is what the operation makes of the account, at least one credential. -/
theorem closure_eq_inr (hdoc : api.Documented)
    (h : closure api call credentials = .inr account) :
    (∃ passkey, call = .insert passkey ∧ accountInsert api credentials passkey = .ok account) ∨
    (∃ result, call = .updateAfterAuth result ∧
      findUpdate api result credentials = some (true, account)) := by
  cases call with
  | insert passkey =>
    refine .inl ⟨passkey, rfl, ?_⟩
    simp only [closure] at h
    unfold accountInsert
    split at h
    · cases h
    · next hnew =>
      rw [if_neg hnew]
      split at h
      · cases h
      · next hroom =>
        rw [if_neg hroom]
        exact congrArg _ (Sum.inr.inj h)
  | updateAfterAuth result =>
    refine .inr ⟨result, rfl, ?_⟩
    simp only [closure, updateMatching_eq_findUpdate hdoc] at h
    split at h
    · cases h
    · next changed updated hfind =>
      split at h
      · cases h
      -- An update that changes nothing writes nothing.
      · cases changed with
        | false => cases h
        | true =>
          rw [hfind]
          exact congrArg (fun account => some (true, account)) (Sum.inr.inj h)

/-- The credentials a closure writes fit an account. -/
theorem closure_account (hdoc : api.Documented)
    (h : closure api call credentials = .inr account)
    (hnodup : (credentials.map api.credId).Nodup)
    (hlength : credentials.length ≤ maxCredentialsPerUser) :
    (account.map api.credId).Nodup ∧ account.length ≤ maxCredentialsPerUser ∧
      (∀ id ∈ credentials.map api.credId, id ∈ account.map api.credId) ∧
      (∀ passkey, call = .insert passkey → api.credId passkey ∈ account.map api.credId) := by
  rcases closure_eq_inr hdoc h with ⟨passkey, rfl, hinsert⟩ | ⟨result, rfl, hupdate⟩
  · obtain ⟨rfl, hroom, hnew⟩ := accountInsert_ids hdoc hinsert
    refine ⟨?_, ?_, ?_, ?_⟩
    · rw [List.map_append, List.nodup_append]
      refine ⟨hnodup, by simp, ?_⟩
      intro a ha b hb hab
      rw [List.map_singleton, List.mem_singleton] at hb
      exact hnew (hb ▸ hab ▸ ha)
    · simpa using hroom
    · intro id hid
      simp only [List.map_append, List.mem_append]
      exact .inl hid
    · intro other hother
      cases hother
      simp
  -- An update keeps the ids of the account as they are.
  · have hids := findUpdate_ids hdoc hupdate
    have hlen : account.length = credentials.length := by
      simpa using congrArg List.length hids
    refine ⟨hids ▸ hnodup, hlen ▸ hlength, ?_, ?_⟩
    · intro id hid
      rw [hids]
      exact hid
    · intro passkey hcall
      cases hcall

/-- A record that was written is the record of its credentials. -/
theorem holdsRecord_of_encode (hjson : json.RoundTrips) {encoded : Bytes}
    (hencode : encodeCredentials json account = .ok encoded)
    (hnodup : (account.map api.credId).Nodup)
    (hlength : account.length ≤ maxCredentialsPerUser) :
    HoldsRecord json api (some (.string encoded)) account := by
  unfold encodeCredentials at hencode
  split at hencode
  · cases hencode
  · next bytes hvec =>
    split at hencode
    · cases hencode
    · next hlong =>
      cases hencode
      refine ⟨?_, by simp, hnodup, hlength⟩
      simp only [redisLoad, boundedCredentialGetScript, if_neg hlong, getBoundedCredentials]
      show decodeCredentials json (some encoded) = .ok account
      simp [decodeCredentials, hlong, hjson _ _ hvec, hlength]

/-- **A transaction run at once.** It writes the record of what its closure makes of the
    account. -/
theorem atomically_credentialClient (hdoc : api.Documented) (hjson : json.RoundTrips)
    (h : HoldsRecord json api value credentials)
    (hwrites : Watch.atomically (credentialClient json api) value call = some value') :
    ∃ account, closure api call credentials = .inr account ∧
      HoldsRecord json api value' account := by
  have hloads : getBoundedCredentials
      (boundedCredentialGetScript maxCredentialRecordBytes value).1 >>= decodeCredentials json =
        .ok credentials := h.loads
  simp only [Watch.atomically, credentialClient, closureBody, hloads] at hwrites
  cases hclosure : closure api call credentials with
  | inl result =>
    rw [hclosure] at hwrites
    cases hwrites
  | inr account =>
    obtain ⟨hnodup, hlength, -, -⟩ := closure_account hdoc hclosure h.nodup h.length_le
    simp only [hclosure] at hwrites
    cases hencode : encodeCredentials json account with
    | error error =>
      rw [hencode] at hwrites
      cases hwrites
    | ok encoded =>
      rw [hencode] at hwrites
      cases hwrites
      exact ⟨account, rfl, holdsRecord_of_encode hjson hencode hnodup hlength⟩

/-- The script only reads a key that holds a record, and calls keep it so. -/
theorem credentialClient_quiet (hdoc : api.Documented) (hjson : json.RoundTrips) :
    Watch.Quiet (credentialClient json api)
      (fun value => ∃ credentials, HoldsRecord json api value credentials) where
  reads := by
    intro value ⟨credentials, h⟩
    cases value with
    | none => rfl
    | some stored =>
      cases stored with
      | other => exact absurd rfl h.typed
      | string bytes =>
        simp only [credentialClient, boundedCredentialGetScript]
        split <;> rfl
  keeps := by
    intro value call value' ⟨credentials, h⟩ hwrites
    obtain ⟨account, -, haccount⟩ := atomically_credentialClient hdoc hjson h hwrites
    exact ⟨account, haccount⟩

/-! ## The sequential store -/

/-- The results that report a change: `Ok(())` and `Ok(true)`. -/
def reportsSuccess : Except CredentialStoreError StoreReply → Bool
  | .ok .inserted => true
  | .ok (.updated changed) => changed
  | .error _ => false

/-- The sequential store does what the closure does, and reports it. -/
theorem sequentialStep_of_closure (hdoc : api.Documented) {userId : Uuid}
    {store : InMemoryCredentialStore Passkey} (h : HoldsAccount store userId credentials)
    (hclosure : closure api call credentials = .inr account) :
    reportsSuccess (sequentialStep api userId store call).1 = true ∧
      HoldsAccount (sequentialStep api userId store call).2 userId account := by
  have hlock : store.credentials.lock = some store.credentials.value := by
    rw [Mutex.lock, h.unpoisoned]
    rfl
  rcases closure_eq_inr hdoc hclosure with ⟨passkey, rfl, hinsert⟩ | ⟨result, rfl, hupdate⟩
  · simp only [sequentialStep, InMemoryCredentialStore.insert, hlock, h.account, hinsert]
    refine ⟨rfl, h.unpoisoned, ?_⟩
    rw [InMemoryCredentialStore.write, Mutex.store_value, AList.lookup_insert, Option.getD_some]
  · -- An empty account takes no update, so the account is there.
    have hlookup : store.credentials.value.lookup userId = some credentials := by
      cases hentry : store.credentials.value.lookup userId with
      | none =>
        have hempty := h.account
        rw [hentry, Option.getD_none] at hempty
        rw [← hempty] at hupdate
        cases hupdate
      | some stored =>
        have haccount := h.account
        rw [hentry, Option.getD_some] at haccount
        rw [haccount]
    simp only [sequentialStep, InMemoryCredentialStore.updateAfterAuth, hlock, hlookup, hupdate,
      Bool.not_true, Bool.and_false, Bool.false_eq_true, if_false]
    refine ⟨rfl, h.unpoisoned, ?_⟩
    rw [InMemoryCredentialStore.write, Mutex.store_value, AList.lookup_insert, Option.getD_some]

/-- Calls run at once, one after another, are the same calls on the sequential store. -/
theorem serial_sequential (hdoc : api.Documented) (hjson : json.RoundTrips) {userId : Uuid}
    {store : InMemoryCredentialStore Passkey} (h : HoldsRecord json api value credentials)
    (hstore : HoldsAccount store userId credentials)
    {calls : List (CredentialCall Passkey AuthenticationResult)}
    (hcalls : calls.foldlM (Watch.atomically (credentialClient json api)) value = some value') :
    ∃ account, HoldsRecord json api value' account ∧
      HoldsAccount (run (sequentialStep api userId) store calls) userId account ∧
      (∀ p ∈ trace (sequentialStep api userId) store calls, reportsSuccess p.2 = true) ∧
      (∀ id ∈ credentials.map api.credId, id ∈ account.map api.credId) ∧
      (∀ passkey, .insert passkey ∈ calls → api.credId passkey ∈ account.map api.credId) := by
  induction calls generalizing value credentials store with
  | nil =>
    cases hcalls
    refine ⟨credentials, h, hstore, ?_, fun _ => id, ?_⟩
    · intro p hp
      cases hp
    · intro passkey hpasskey
      cases hpasskey
  | cons call calls ih =>
    rw [List.foldlM_cons] at hcalls
    -- One call, and the rest from the value and the store that it leaves.
    obtain ⟨next, hnext, hrest⟩ := Option.bind_eq_some_iff.mp hcalls
    obtain ⟨account, hclosure, hrecord⟩ := atomically_credentialClient hdoc hjson h hnext
    obtain ⟨hreports, haccount⟩ := sequentialStep_of_closure hdoc hstore hclosure
    obtain ⟨-, -, hkept, hinserted⟩ := closure_account hdoc hclosure h.nodup h.length_le
    obtain ⟨final, hfinal, hholds, htrace, hids, hinserts⟩ := ih hrecord haccount hrest
    refine ⟨final, hfinal, hholds, ?_, ?_, ?_⟩
    · intro p hp
      rw [trace_cons, List.mem_cons] at hp
      rcases hp with rfl | hp
      · exact hreports
      · exact htrace p hp
    · intro id hid
      exact hids id (hkept id hid)
    · intro passkey hpasskey
      rcases List.mem_cons.mp hpasskey with heq | hmem
      · exact hids _ (hinserted passkey heq.symm)
      · exact hinserts passkey hmem

end Atomic

/-! ## Schedules -/

section Schedules

variable {Passkey AuthenticationResult : Type} (json : CredentialJson Passkey)
  (api : WebauthnRs Passkey AuthenticationResult)

/-- The world of one account's key. -/
abbrev CredentialWorld (Passkey AuthenticationResult : Type) :=
  Watch.World (CredentialCall Passkey AuthenticationResult) (Option CredentialValue)

/-- The calls that returned `Ok(())` or `Ok(true)`, in the order of their `EXEC`s. -/
def succeeded (log : List (Watch.Event (CredentialCall Passkey AuthenticationResult) ×
    Watch.Output (CredentialCall Passkey AuthenticationResult)
      (Except CredentialStoreError StoreReply))) :
    List (CredentialCall Passkey AuthenticationResult) :=
  log.filterMap fun p => p.2.returned.bind fun returned =>
    if reportsSuccess returned.result then some returned.call else none

/-- What a schedule shows, from an account whose key holds `start`. -/
def credentialLog (start : Option CredentialValue)
    (events : List (Watch.Event (CredentialCall Passkey AuthenticationResult))) :=
  trace (Watch.step (credentialClient json api)) (Watch.World.initial start) events

/-- The value of the key after a schedule. -/
def credentialAfter (start : Option CredentialValue)
    (events : List (Watch.Event (CredentialCall Passkey AuthenticationResult))) :
    Option CredentialValue :=
  (run (Watch.step (credentialClient json api)) (Watch.World.initial start) events).value

/-- No update is lost: what the clients may rely on after a schedule. -/
structure NoLostUpdate (userId : Uuid) (store : InMemoryCredentialStore Passkey)
    (start : Option CredentialValue)
    (events : List (Watch.Event (CredentialCall Passkey AuthenticationResult))) : Prop where
  /-- A call that reports success had its block executed. -/
  applied : ∀ p ∈ credentialLog json api start events, ∀ returned, p.2.returned = some returned →
    reportsSuccess returned.result = true → returned.exec = some .values
  /-- Those calls succeed on the sequential store as well, in the same order. -/
  succeeds : ∀ p ∈ trace (sequentialStep api userId) store
    (succeeded (credentialLog json api start events)), reportsSuccess p.2 = true
  /-- The record is the one they leave there. -/
  record : redisLoad json (credentialAfter json api start events) =
    (run (sequentialStep api userId) store
      (succeeded (credentialLog json api start events))).load userId
  /-- Every inserted passkey is present, ids are unique, and there are at most 64 credentials. -/
  account : ∃ credentials, redisLoad json (credentialAfter json api start events) =
      .ok credentials ∧
    (∀ passkey, .insert passkey ∈ succeeded (credentialLog json api start events) →
      api.credId passkey ∈ credentials.map api.credId) ∧
    (credentials.map api.credId).Nodup ∧ credentials.length ≤ maxCredentialsPerUser

/-- The event sends a block although the key was written since its connection watched it. -/
def dirtyExec (world : CredentialWorld Passkey AuthenticationResult) :
    Watch.Event (CredentialCall Passkey AuthenticationResult) → Bool
  | .call _ _ => false
  | .step k =>
    match (world.conns k).phase with
    | .queued _ _ => (world.conns k).dirty
    | _ => false

variable {json} {api}

/-- A closure that returns before its `EXEC` reports no success. -/
theorem reportsSuccess_of_closureBody {call : CredentialCall Passkey AuthenticationResult}
    {answer : ℤ × Option Bytes} {result : Except CredentialStoreError StoreReply}
    (h : closureBody json api call answer = .inl result) : reportsSuccess result = false := by
  unfold closureBody at h
  split at h
  · cases h
    rfl
  · next credentials hdecoded =>
    split at h
    · next early hclosure =>
      cases h
      -- A closure ends early with an error, or with an update that changes nothing.
      cases call with
      | insert passkey =>
        simp only [closure] at hclosure
        split at hclosure
        · cases hclosure
          rfl
        · split at hclosure <;> cases hclosure
          rfl
      | updateAfterAuth authentication =>
        simp only [closure] at hclosure
        split at hclosure
        · cases hclosure
          rfl
        · split at hclosure
          · cases hclosure
            rfl
          · split at hclosure <;> cases hclosure
            rfl
    · split at h <;> cases h
      rfl

/-- After its `EXEC` a call reports success, whatever the reply was. -/
theorem closureSettle_eq (call : CredentialCall Passkey AuthenticationResult)
    (reply : Watch.ExecReply) :
    ∃ result, closureSettle call reply = some result ∧ reportsSuccess result = true := by
  cases reply <;> cases call <;> exact ⟨_, rfl, rfl⟩

/-- An event that sends no block on a dirty watch ends the call it commits, and reports success
    for no other. -/
theorem output_of_clean {world : CredentialWorld Passkey AuthenticationResult}
    {event : Watch.Event (CredentialCall Passkey AuthenticationResult)}
    (hclean : dirtyExec world event = false) :
    ((Watch.step (credentialClient json api) world event).1.returned.bind fun returned =>
      if reportsSuccess returned.result then some returned.call else none) =
        (Watch.step (credentialClient json api) world event).1.committed ∧
    ∀ returned, (Watch.step (credentialClient json api) world event).1.returned = some returned →
      reportsSuccess returned.result = true → returned.exec = some .values := by
  cases event with
  | call k call =>
    simp only [Watch.step]
    split
    · exact ⟨rfl, fun returned h => by cases h⟩
    · exact ⟨rfl, fun returned h => by cases h⟩
  | step k =>
    simp only [Watch.step]
    split
    · exact ⟨rfl, fun returned h => by cases h⟩
    · exact ⟨rfl, fun returned h => by cases h⟩
    -- The closure is run: it either ends without a write or goes on to the EXEC.
    · next call hphase =>
      cases hbody : (credentialClient json api).body call
          ((credentialClient json api).script world.value).1 with
      | inl result =>
        have hreports : reportsSuccess result = false := reportsSuccess_of_closureBody hbody
        refine ⟨by simp [hreports], ?_⟩
        intro returned hreturned hsuccess
        cases hreturned
        rw [hreports] at hsuccess
        cases hsuccess
      | inr value => exact ⟨rfl, fun returned h => by cases h⟩
    -- The EXEC of a connection that is not dirty writes and answers values.
    · next call value hphase =>
      have hwatch : (world.conns k).dirty = false := by
        simpa only [dirtyExec, hphase] using hclean
      obtain ⟨result, hsettle, hreports⟩ := closureSettle_eq call .values
      have hsettle' : (credentialClient json api).settle call .values = some result := hsettle
      simp only [Watch.execReply, hwatch, Bool.false_eq_true, if_false, hsettle']
      refine ⟨by simp [hreports], ?_⟩
      intro returned hreturned _
      cases hreturned
      rfl

/-- A block sent on a dirty watch is dropped, and its call reports success. -/
theorem output_of_dirty {world : CredentialWorld Passkey AuthenticationResult}
    {event : Watch.Event (CredentialCall Passkey AuthenticationResult)}
    (hdirty : dirtyExec world event = true) :
    ∃ returned, (Watch.step (credentialClient json api) world event).1.returned = some returned ∧
      reportsSuccess returned.result = true ∧ returned.exec = some .nil := by
  unfold dirtyExec at hdirty
  split at hdirty
  · cases hdirty
  · next k =>
    split at hdirty
    · next call value hphase =>
      obtain ⟨result, hsettle, hreports⟩ := closureSettle_eq call .nil
      have hsettle' : (credentialClient json api).settle call .nil = some result := hsettle
      refine ⟨⟨k, call, result, some .nil⟩, ?_, hreports, rfl⟩
      simp only [Watch.step, hphase, Watch.execReply, hdirty, if_true, hsettle']
    · cases hdirty

/-- Along a schedule without dirty blocks no update is lost. -/
theorem noLostUpdate_of_clean (hdoc : api.Documented) (hjson : json.RoundTrips) {userId : Uuid}
    {store : InMemoryCredentialStore Passkey} {start : Option CredentialValue}
    {credentials : List Passkey} (hstart : HoldsRecord json api start credentials)
    (hstore : HoldsAccount store userId credentials)
    {events : List (Watch.Event (CredentialCall Passkey AuthenticationResult))}
    (hclean : ∀ n event, events[n]? = some event →
      dirtyExec (run (Watch.step (credentialClient json api)) (Watch.World.initial start)
        (events.take n)) event = false) :
    NoLostUpdate json api userId store start events := by
  have hquiet := credentialClient_quiet hdoc hjson
  -- The calls that report success are the calls whose blocks were executed.
  have hcalls : succeeded (credentialLog json api start events) =
      Watch.commits (credentialLog json api start events) := by
    apply List.filterMap_congr
    intro p hp
    obtain ⟨n, hevent, houtput⟩ := exists_of_mem_trace _ hp
    rw [houtput]
    exact (output_of_clean (hclean n p.1 hevent)).1
  have hserial : (Watch.commits (credentialLog json api start events)).foldlM
      (Watch.atomically (credentialClient json api)) start =
        some (credentialAfter json api start events) :=
    Watch.commits_serial hquiet (Watch.Fresh.of_initial start ⟨credentials, hstart⟩) events
  obtain ⟨account, hrecord, haccount, htrace, -, hinserts⟩ :=
    serial_sequential hdoc hjson hstart hstore hserial
  rw [← hcalls] at haccount htrace hinserts
  refine ⟨?_, htrace, ?_, account, hrecord.loads, hinserts, hrecord.nodup, hrecord.length_le⟩
  · intro p hp returned hreturned hsuccess
    obtain ⟨n, hevent, houtput⟩ := exists_of_mem_trace _ hp
    rw [houtput] at hreturned
    exact (output_of_clean (hclean n p.1 hevent)).2 returned hreturned hsuccess
  · rw [hrecord.loads, InMemoryCredentialStore.load, Mutex.lock, haccount.unpoisoned,
      ← haccount.account]
    rfl

/-- **Lost updates of the Redis credential store.** Over every schedule of the Redis steps of
    concurrent calls, no update is lost exactly when no call sends its block on a dirty watch:
    the reply that says so is converted to `()` and reported as success. -/
theorem redis_no_lost_update (hdoc : api.Documented) (hjson : json.RoundTrips) {userId : Uuid}
    {store : InMemoryCredentialStore Passkey} {start : Option CredentialValue}
    {credentials : List Passkey} (hstart : HoldsRecord json api start credentials)
    (hstore : HoldsAccount store userId credentials)
    (events : List (Watch.Event (CredentialCall Passkey AuthenticationResult))) :
    (∀ n, NoLostUpdate json api userId store start (events.take n)) ↔
      ∀ n event, events[n]? = some event →
        dirtyExec (run (Watch.step (credentialClient json api)) (Watch.World.initial start)
          (events.take n)) event = false := by
  constructor
  · intro h n event hevent
    by_contra hne
    -- A reply that is nil and reports success writes nothing that a serial run would.
    have hdirty := eq_true_of_ne_false hne
    obtain ⟨returned, hreturned, hsuccess, hnil⟩ :
        ∃ returned, (Watch.step (credentialClient json api)
          (run (Watch.step (credentialClient json api)) (Watch.World.initial start)
            (events.take n)) event).1.returned = some returned ∧
          reportsSuccess returned.result = true ∧ returned.exec = some .nil :=
      output_of_dirty hdirty
    have hmem : (event, (Watch.step (credentialClient json api)
        (run (Watch.step (credentialClient json api)) (Watch.World.initial start)
          (events.take n)) event).1) ∈ credentialLog json api start (events.take (n + 1)) := by
      apply List.mem_iff_getElem?.mpr
      refine ⟨n, ?_⟩
      have hn : (events.take (n + 1))[n]? = some event := by
        rw [List.getElem?_take_of_lt (Nat.lt_succ_self n)]
        exact hevent
      have htake : (events.take (n + 1)).take n = events.take n := by
        rw [List.take_take, Nat.min_eq_left (Nat.le_succ n)]
      have hentry := trace_getElem?_of_getElem? (Watch.step (credentialClient json api))
        (s := Watch.World.initial start) hn
      rw [htake] at hentry
      exact hentry
    -- Such a call has no value to have applied.
    have hvalues := (h (n + 1)).applied _ hmem returned hreturned hsuccess
    rw [hnil] at hvalues
    cases hvalues
  · intro h n
    -- A shorter run is clean because the longer one is.
    apply noLostUpdate_of_clean hdoc hjson hstart hstore
    intro m event hevent
    have hm : m < n := by
      have := (List.getElem?_eq_some_iff.mp hevent).1
      rw [List.length_take] at this
      omega
    rw [List.getElem?_take_of_lt hm] at hevent
    rw [List.take_take, Nat.min_eq_left hm.le]
    exact h m event hevent

end Schedules

/-! ### Two registrations at once -/

/-- New passkeys with the ids `AQ` and `Ag`, and one that was used seven times and backed up. -/
def firstPasskey : PasskeyFields := ⟨[0x01], 0, ⟨false, false⟩⟩
def secondPasskey : PasskeyFields := ⟨[0x02], 0, ⟨false, false⟩⟩
def usedPasskey : PasskeyFields := ⟨[0x01], 7, ⟨true, true⟩⟩

/-- `serde_json` on a passkey of the given id, counter and backup flags. -/
def passkeyText (credId counter eligible state : String) : String :=
  "\x7b\"cred\":\x7b\"cred_id\":\"" ++ credId ++
  "\",\"cred\":\x7b\"type_\":\"ES256\",\"key\":\x7b\"EC_EC2\":\x7b\"curve\":\"SECP256R1\"," ++
  "\"x\":\"axfR8uEsQkf4vOblY6RA8ncDfYEt6zOg9KE5RdiYwpY\"," ++
  "\"y\":\"T-NC4v4af5uO5-tKfA-eFivOM1drMV7Oy7ZAaDe_UfU\"\x7d\x7d\x7d," ++
  "\"counter\":" ++ counter ++ ",\"transports\":null,\"user_verified\":true," ++
  "\"backup_eligible\":" ++ eligible ++ ",\"backup_state\":" ++ state ++
  ",\"registration_policy\":\"required\",\"extensions\":\x7b" ++
  "\"cred_protect\":\"NotRequested\",\"hmac_create_secret\":\"NotRequested\"," ++
  "\"appid\":\"NotRequested\",\"cred_props\":\"Ignored\"\x7d,\"attestation\":\x7b" ++
  "\"data\":\"None\",\"metadata\":\"None\"\x7d,\"attestation_format\":\"none\"\x7d\x7d"

/-- The records of these passkeys. -/
def sampleRecords : List (List PasskeyFields × Bytes) :=
  let first := passkeyText "AQ" "0" "false" "false"
  let second := passkeyText "Ag" "0" "false" "false"
  let used := passkeyText "AQ" "7" "true" "true"
  [([firstPasskey], asBytes ("[" ++ first ++ "]")),
    ([secondPasskey], asBytes ("[" ++ second ++ "]")),
    ([firstPasskey, secondPasskey], asBytes ("[" ++ first ++ "," ++ second ++ "]")),
    ([usedPasskey], asBytes ("[" ++ used ++ "]"))]

/-- `serde_json` on these records. -/
def sampleJson : CredentialJson PasskeyFields where
  toVec credentials := (sampleRecords.find? fun p => p.1 = credentials).map Prod.snd
  fromSlice encoded := (sampleRecords.find? fun p => p.2 = encoded).map Prod.fst

theorem sampleJson_roundTrips : sampleJson.RoundTrips := by
  have hread : ∀ p ∈ sampleRecords, sampleJson.fromSlice p.2 = some p.1 := by decide +kernel
  intro credentials encoded h
  obtain ⟨p, hfind, rfl⟩ := Option.map_eq_some_iff.mp h
  have hp : p.1 = credentials := by simpa using List.find?_some hfind
  rw [← hp]
  exact hread p (List.mem_of_find?_eq_some hfind)

theorem holdsRecord_none : HoldsRecord sampleJson fieldsApi none [] :=
  ⟨rfl, by decide, by decide, by decide⟩

/-- One registration after the other. -/
def oneAfterTheOther : List (Watch.Event (CredentialCall PasskeyFields ResultFields)) :=
  [.call 0 (.insert firstPasskey), .call 1 (.insert secondPasskey), .step 0, .step 0, .step 0,
    .step 1, .step 1, .step 1]

/-- The second registration watches and reads before the first one's `EXEC`. -/
def bothAtOnce : List (Watch.Event (CredentialCall PasskeyFields ResultFields)) :=
  [.call 0 (.insert firstPasskey), .call 1 (.insert secondPasskey), .step 0, .step 1, .step 0,
    .step 1, .step 0, .step 1]

theorem redis_no_lost_update_one_after_the_other :
    redisLoad sampleJson (credentialAfter sampleJson fieldsApi none oneAfterTheOther) =
      .ok [firstPasskey, secondPasskey] ∧
    ∀ n, NoLostUpdate sampleJson fieldsApi 7 .new none (oneAfterTheOther.take n) := by
  refine ⟨by decide +kernel, ?_⟩
  refine (redis_no_lost_update fieldsApi_documented sampleJson_roundTrips holdsRecord_none
    ⟨rfl, rfl⟩ oneAfterTheOther).mpr ?_
  have hclean : ∀ n < 8, ∀ event ∈ oneAfterTheOther[n]?,
      dirtyExec (run (Watch.step (credentialClient sampleJson fieldsApi))
        (Watch.World.initial none) (oneAfterTheOther.take n)) event = false := by
    decide +kernel
  intro n event hevent
  exact hclean n (List.getElem?_eq_some_iff.mp hevent).1 event hevent

/-- The second registration is told `Ok(())`, and its passkey is not there. -/
theorem redis_lost_registration :
    fieldsApi.Documented ∧ sampleJson.RoundTrips ∧ HoldsRecord sampleJson fieldsApi none [] ∧
    HoldsAccount (InMemoryCredentialStore.new : InMemoryCredentialStore PasskeyFields) 7 [] ∧
    succeeded (credentialLog sampleJson fieldsApi none bothAtOnce) =
      [.insert firstPasskey, .insert secondPasskey] ∧
    redisLoad sampleJson (credentialAfter sampleJson fieldsApi none bothAtOnce) =
      .ok [firstPasskey] ∧
    ¬ NoLostUpdate sampleJson fieldsApi 7 .new none bothAtOnce := by
  have hsucceeded : succeeded (credentialLog sampleJson fieldsApi none bothAtOnce) =
      [.insert firstPasskey, .insert secondPasskey] := by decide +kernel
  have hload : redisLoad sampleJson (credentialAfter sampleJson fieldsApi none bothAtOnce) =
      .ok [firstPasskey] := by decide +kernel
  refine ⟨fieldsApi_documented, sampleJson_roundTrips, holdsRecord_none, ⟨rfl, rfl⟩, hsucceeded,
    hload, ?_⟩
  intro h
  obtain ⟨credentials, hcredentials, hpresent, -⟩ := h.account
  rw [hload] at hcredentials
  have hmem := hpresent secondPasskey (by
    rw [hsucceeded]
    exact List.mem_cons_of_mem _ List.mem_cons_self)
  rw [← Except.ok.inj hcredentials] at hmem
  exact absurd hmem (by decide)

end SecureKeypad.Webauthn
