import SecureKeypad.Library.KeyedMap
import SecureKeypad.Library.Rust

/-!
# WebAuthn Credential Stores (`secure-webauthn-example::storage`)

The credential contract shared by the backends and its process-local implementation,
`InMemoryCredentialStore`. Passkeys and authentication results belong to the `webauthn-rs` crate:
`WebauthnRs` names the functions the stores call and `WebauthnRs.Documented` what the crate says
about them.

## Main results

- `findUpdate_eq`: the loop of the in-memory store and the `find` of the others pick the same
  credential
- `accountInsert_ids`, `findUpdate_ids`: what the operations do to the credential ids
-/

namespace SecureKeypad.Webauthn

open Rust

def maxCredentialsPerUser : ℕ := 64
def maxCredentialRecordBytes : ℕ := 256 * 1024

/-- `CredentialStoreError`. -/
inductive CredentialStoreError where
  | unavailable
  | capacityReached
  | duplicate
  | invalidRecord
deriving DecidableEq, Repr

abbrev Uuid := BitVec 128

/-! ## Passkeys -/

/-- The backup flags of a credential. -/
structure BackupFlags where
  eligible : Bool
  state : Bool
deriving DecidableEq, Repr

/-- The functions of `webauthn-rs` the stores use. -/
structure WebauthnRs (Passkey AuthenticationResult : Type) where
  /-- `Passkey::cred_id`. -/
  credId : Passkey → Bytes
  /-- The counter inside a passkey. -/
  counter : Passkey → ℕ
  /-- The backup flags inside a passkey. -/
  backup : Passkey → BackupFlags
  /-- `==` on passkeys. -/
  passkeyEq : Passkey → Passkey → Bool
  /-- `AuthenticationResult::cred_id`. -/
  resultCredId : AuthenticationResult → Bytes
  /-- `AuthenticationResult::counter`. -/
  resultCounter : AuthenticationResult → ℕ
  /-- `AuthenticationResult::backup_eligible` and `backup_state`. -/
  resultBackup : AuthenticationResult → BackupFlags
  /-- `AuthenticationResult::needs_update`. -/
  needsUpdate : AuthenticationResult → Bool
  /-- `Passkey::update_credential`: whether anything changed, and the passkey after it. -/
  updateCredential : Passkey → AuthenticationResult → Option (Bool × Passkey)

/-- What the crate documents: passkeys are compared by their id; `update_credential` is for the
    credential of the result, raises the counter only to a greater one, overwrites flags that
    differ and answers whether anything changed. -/
structure WebauthnRs.Documented {Passkey AuthenticationResult : Type}
    (api : WebauthnRs Passkey AuthenticationResult) : Prop where
  eq_iff : ∀ passkey other, api.passkeyEq passkey other = true ↔
    api.credId passkey = api.credId other
  update_other : ∀ passkey result, api.credId passkey ≠ api.resultCredId result →
    api.updateCredential passkey result = none
  update_own : ∀ passkey result, api.credId passkey = api.resultCredId result →
    ∃ changed updated, api.updateCredential passkey result = some (changed, updated) ∧
      api.credId updated = api.credId passkey ∧
      api.counter updated = max (api.counter passkey) (api.resultCounter result) ∧
      api.backup updated = api.resultBackup result ∧
      (changed = true ↔ api.counter passkey < api.resultCounter result ∨
        api.backup passkey ≠ api.resultBackup result) ∧
      (changed = false → updated = passkey)

/-- A passkey, down to the fields `update_credential` looks at. -/
structure PasskeyFields where
  credId : Bytes
  counter : ℕ
  backup : BackupFlags
deriving DecidableEq

/-- An authentication result, down to the same fields. -/
structure ResultFields where
  credId : Bytes
  counter : ℕ
  backup : BackupFlags
  needsUpdate : Bool
deriving DecidableEq

/-- `webauthn-rs` on these fields. -/
def fieldsApi : WebauthnRs PasskeyFields ResultFields where
  credId := PasskeyFields.credId
  counter := PasskeyFields.counter
  backup := PasskeyFields.backup
  passkeyEq passkey other := passkey.credId = other.credId
  resultCredId := ResultFields.credId
  resultCounter := ResultFields.counter
  resultBackup := ResultFields.backup
  needsUpdate := ResultFields.needsUpdate
  updateCredential passkey result :=
    if passkey.credId = result.credId then
      some (decide (result.counter > passkey.counter) || decide (result.backup ≠ passkey.backup),
        ⟨passkey.credId, max passkey.counter result.counter, result.backup⟩)
    else none

theorem fieldsApi_documented : fieldsApi.Documented where
  eq_iff passkey other := by simp [fieldsApi]
  update_other passkey result hid := if_neg hid
  update_own passkey result hid := by
    refine ⟨decide (result.counter > passkey.counter) || decide (result.backup ≠ passkey.backup),
      ⟨passkey.credId, max passkey.counter result.counter, result.backup⟩, if_pos hid, rfl, rfl,
      rfl, ?_, ?_⟩
    · rw [Bool.or_eq_true, decide_eq_true_eq, decide_eq_true_eq]
      exact or_congr Iff.rfl ne_comm
    · intro hsame
      obtain ⟨hcounter, hbackup⟩ := Bool.or_eq_false_iff.mp hsame
      have hmax := max_eq_left (not_lt.mp (of_decide_eq_false hcounter))
      rw [hmax, not_not.mp (of_decide_eq_false hbackup)]

/-! ## The in-memory store -/

/-- `InMemoryCredentialStore`. -/
structure InMemoryCredentialStore (Passkey : Type) where
  credentials : Mutex (KeyedMap Uuid (List Passkey))

section Store

variable {Passkey AuthenticationResult : Type} (api : WebauthnRs Passkey AuthenticationResult)

/-- `insert` on the credentials of one account. -/
def accountInsert (credentials : List Passkey) (passkey : Passkey) :
    Except CredentialStoreError (List Passkey) :=
  if credentials.any fun existing => api.passkeyEq existing passkey then .error .duplicate
  else if credentials.length ≥ maxCredentialsPerUser then .error .capacityReached
  else .ok (credentials ++ [passkey])

/-- The loop of `update_after_auth`: the first credential that takes the result, and the
    credentials after it. -/
def findUpdate (result : AuthenticationResult) :
    List Passkey → Option (Bool × List Passkey)
  | [] => none
  | credential :: rest =>
    match api.updateCredential credential result with
    | some (changed, updated) => some (changed, updated :: rest)
    | none => (findUpdate result rest).map fun p => (p.1, credential :: p.2)

namespace InMemoryCredentialStore

/-- `InMemoryCredentialStore::new`. -/
def new : InMemoryCredentialStore Passkey := ⟨.new ∅⟩

/-- `load`. -/
def load (store : InMemoryCredentialStore Passkey) (userId : Uuid) :
    Except CredentialStoreError (List Passkey) :=
  match store.credentials.lock with
  | none => .error .unavailable
  | some credentials => .ok ((credentials.lookup userId).getD [])

/-- Write the credentials back at the end of the critical section. -/
def write (store : InMemoryCredentialStore Passkey) (userId : Uuid) (account : List Passkey) :
    InMemoryCredentialStore Passkey :=
  ⟨store.credentials.store (store.credentials.value.insert userId account)⟩

/-- `insert`. -/
def insert (store : InMemoryCredentialStore Passkey) (userId : Uuid) (passkey : Passkey) :
    Except CredentialStoreError Unit × InMemoryCredentialStore Passkey :=
  match store.credentials.lock with
  | none => (.error .unavailable, store)
  | some credentials =>
    -- `entry(user_id).or_default()` leaves an empty account behind even when the insert fails.
    let account := (credentials.lookup userId).getD []
    match accountInsert api account passkey with
    | .error error => (.error error, store.write userId account)
    | .ok account => (.ok (), store.write userId account)

/-- `update_after_auth`. -/
def updateAfterAuth (store : InMemoryCredentialStore Passkey) (userId : Uuid)
    (result : AuthenticationResult) :
    Except CredentialStoreError Bool × InMemoryCredentialStore Passkey :=
  match store.credentials.lock with
  | none => (.error .unavailable, store)
  | some credentials =>
    match credentials.lookup userId with
    | none => (.error .invalidRecord, store)
    | some account =>
      match findUpdate api result account with
      | none => (.error .invalidRecord, store)
      | some (changed, account) =>
        -- The loop updates in place: what it changed stays on every path.
        if api.needsUpdate result && !changed then
          (.error .invalidRecord, store.write userId account)
        else (.ok changed, store.write userId account)

end InMemoryCredentialStore

end Store

/-! ## Credential ids -/

section Ids

variable {Passkey AuthenticationResult : Type} {api : WebauthnRs Passkey AuthenticationResult}
  {credentials account : List Passkey}

/-- What an insert adds to the ids of an account. -/
theorem accountInsert_ids (hdoc : api.Documented) {passkey : Passkey}
    (h : accountInsert api credentials passkey = .ok account) :
    account = credentials ++ [passkey] ∧ credentials.length < maxCredentialsPerUser ∧
      api.credId passkey ∉ credentials.map api.credId := by
  unfold accountInsert at h
  split at h
  · cases h
  · next hnew =>
    split at h
    · cases h
    · next hroom =>
      refine ⟨(Except.ok.inj h).symm, not_le.mp hroom, ?_⟩
      intro hmem
      obtain ⟨existing, hexisting, hid⟩ := List.mem_map.mp hmem
      exact hnew (List.any_eq_true.mpr ⟨existing, hexisting, (hdoc.eq_iff _ _).mpr hid⟩)

/-- The loop updates the first credential with the result's id, and no other. -/
theorem findUpdate_eq_some (hdoc : api.Documented) {result : AuthenticationResult}
    {changed : Bool} (h : findUpdate api result credentials = some (changed, account)) :
    ∃ before credential after updated, credentials = before ++ credential :: after ∧
      account = before ++ updated :: after ∧
      (∀ other ∈ before, api.credId other ≠ api.resultCredId result) ∧
      api.credId credential = api.resultCredId result ∧
      api.updateCredential credential result = some (changed, updated) := by
  induction credentials generalizing account with
  | nil => cases h
  | cons credential rest ih =>
    unfold findUpdate at h
    by_cases hid : api.credId credential = api.resultCredId result
    · obtain ⟨changed', updated, hupdate, -⟩ := hdoc.update_own credential result hid
      rw [hupdate] at h
      cases h
      exact ⟨[], credential, rest, updated, rfl, rfl, by simp, hid, hupdate⟩
    · rw [hdoc.update_other credential result hid] at h
      obtain ⟨⟨changed', rest'⟩, hrest, hpair⟩ := Option.map_eq_some_iff.mp h
      cases hpair
      obtain ⟨before, found, after, updated, rfl, rfl, hbefore, hfound, hupdate⟩ := ih hrest
      refine ⟨credential :: before, found, after, updated, rfl, rfl, ?_, hfound, hupdate⟩
      intro other hother
      rcases List.mem_cons.mp hother with rfl | hother
      · exact hid
      · exact hbefore other hother

/-- The loop keeps the ids in their order. -/
theorem findUpdate_ids (hdoc : api.Documented) {result : AuthenticationResult} {changed : Bool}
    (h : findUpdate api result credentials = some (changed, account)) :
    account.map api.credId = credentials.map api.credId := by
  obtain ⟨before, credential, after, updated, rfl, rfl, -, hid, hupdate⟩ :=
    findUpdate_eq_some hdoc h
  obtain ⟨changed', updated', hupdate', hid', -⟩ := hdoc.update_own credential result hid
  rw [hupdate] at hupdate'
  cases hupdate'
  simp [hid']

/-- The credential of an account with the given id. -/
def credentialWith (api : WebauthnRs Passkey AuthenticationResult) (id : Bytes)
    (credentials : List Passkey) : Option Passkey :=
  credentials.find? fun credential => api.credId credential = id

theorem credId_of_credentialWith {id : Bytes} {passkey : Passkey}
    (h : credentialWith api id credentials = some passkey) : api.credId passkey = id := by
  simpa using List.find?_some h

/-- The loop finds nothing exactly when no credential has the result's id. -/
theorem findUpdate_of_absent (hdoc : api.Documented) {result : AuthenticationResult}
    (h : credentialWith api (api.resultCredId result) credentials = none) :
    findUpdate api result credentials = none := by
  induction credentials with
  | nil => rfl
  | cons credential rest ih =>
    have hid : api.credId credential ≠ api.resultCredId result := by
      simpa using (List.find?_eq_none.mp h) credential List.mem_cons_self
    have hrest : credentialWith api (api.resultCredId result) rest = none := by
      rw [credentialWith, List.find?_cons_of_neg (by simpa using hid)] at h
      exact h
    rw [findUpdate, hdoc.update_other credential result hid, ih hrest]
    rfl

/-- The loop replaces the credential of the result's id by its update. -/
theorem findUpdate_of_present (hdoc : api.Documented) {result : AuthenticationResult}
    {passkey updated : Passkey} {changed : Bool}
    (h : credentialWith api (api.resultCredId result) credentials = some passkey)
    (hupdate : api.updateCredential passkey result = some (changed, updated)) :
    ∃ account, findUpdate api result credentials = some (changed, account) ∧
      credentialWith api (api.resultCredId result) account = some updated ∧
      (∀ id, id ≠ api.resultCredId result →
        credentialWith api id account = credentialWith api id credentials) ∧
      (updated = passkey → account = credentials) := by
  induction credentials with
  | nil => cases h
  | cons credential rest ih =>
    -- The first credential of the id is the one updated; those before it decline.
    by_cases hid : api.credId credential = api.resultCredId result
    · rw [credentialWith, List.find?_cons_of_pos (by simpa using hid), Option.some.injEq] at h
      subst h
      obtain ⟨_, _, hupdate', hkept, -⟩ := hdoc.update_own credential result hid
      rw [hupdate] at hupdate'
      cases hupdate'
      have hnew : api.credId updated = api.resultCredId result := hkept.trans hid
      refine ⟨updated :: rest, by rw [findUpdate, hupdate], ?_, ?_, ?_⟩
      · rw [credentialWith, List.find?_cons_of_pos (by simpa using hnew)]
      · intro id hne
        rw [credentialWith, credentialWith, List.find?_cons_of_neg (by simpa [hnew] using hne.symm),
          List.find?_cons_of_neg (by simpa [hid] using hne.symm)]
      · intro hsame
        rw [hsame]
    · rw [credentialWith, List.find?_cons_of_neg (by simpa using hid)] at h
      obtain ⟨account, hfind, hfound, hothers, hsame⟩ := ih h
      refine ⟨credential :: account, ?_, ?_, ?_, ?_⟩
      · rw [findUpdate, hdoc.update_other credential result hid, hfind]
        rfl
      · rw [credentialWith, List.find?_cons_of_neg (by simpa using hid)]
        exact hfound
      · intro id hne
        have hrest := hothers id hne
        unfold credentialWith at hrest ⊢
        rw [List.find?_cons, List.find?_cons, hrest]
      · intro heq
        rw [hsame heq]

end Ids

end SecureKeypad.Webauthn
