import SecureKeypad.Library.ReadCommitted
import SecureKeypad.Webauthn.Ceremony
import SecureKeypad.Webauthn.PostgresCredentials

/-!
# Concurrent PostgreSQL Credentials (`secure-webauthn-example::storage_postgres`)

Embeds the transactions of `PostgresWebAuthnStore::insert` and `update_after_auth` statement by
statement, so that those of different clients interleave: an insert holds the advisory lock of its
account, an update the lock of its row. A statement or a commit that fails, and a connection that
breaks, are a step of their own, with the transaction rolled back.

An error keeps its cause, so that the branch behind an `UPDATE` that misses its row can be shown
never to run.

## Main results

- `credentialOutline`: what holds at each point of a transaction
- `credentialStep_effect`: all one step can do to the rows
- `postgres_credential_store_run`: no lost insert, no lost update, in every interleaving
-/

namespace SecureKeypad.Webauthn

open Rust Server ReadCommitted Machine

/-! ## The calls -/

/-- The name of the advisory lock of an account. -/
def PostgresAccount.accountKey (account : PostgresAccount) : String :=
  account.storageNamespace ++ ":" ++ uuidText account.userId

/-- A call of a store. -/
inductive PostgresCredentialCall (Passkey AuthenticationResult : Type) where
  | insert (account : PostgresAccount) (passkey : Passkey)
  | updateAfterAuth (account : PostgresAccount) (result : AuthenticationResult)

/-- Why a call fails. -/
inductive CredentialFailure where
  | store (error : CredentialStoreError)
  /-- The `UPDATE` did not change one row. -/
  | updateCount
deriving DecidableEq

/-- The error the call returns. -/
def CredentialFailure.toError : CredentialFailure → CredentialStoreError
  | .store error => error
  | .updateCount => .invalidRecord

/-- What a call answers. -/
inductive CredentialAnswer where
  | inserted
  | updated (changed : Bool)
  | failed (failure : CredentialFailure)
deriving DecidableEq

section Programs

variable {Passkey AuthenticationResult Json : Type} (json : PasskeyJson Passkey Json)
  (api : WebauthnRs Passkey AuthenticationResult)

/-- A transaction on the credentials. -/
abbrev CredentialTx (Json : Type) :=
  Tx (String × Uuid × Bytes) (CredentialRow Json) String CredentialAnswer

/-- A call that returns an error. -/
def refuse (error : CredentialStoreError) : CredentialTx Json :=
  .rollback (.failed (.store error))

/-- The `INSERT` of `insert` and its commit; `revision` has the default 0. -/
def insertWrite (pk : String × Uuid × Bytes) (encoded : Json) : CredentialTx Json :=
  .insertNew pk (fun _ => ⟨encoded, 0⟩) fun inserted =>
    if inserted then .commit .inserted else refuse .duplicate

/-- `insert` on an account with `count` credentials. -/
def insertCounted (account : PostgresAccount) (passkey : Passkey) (count : ℕ) :
    CredentialTx Json :=
  if count ≥ maxCredentialsPerUser then refuse .capacityReached
  else
    match encodePasskey json passkey with
    | .error error => refuse error
    | .ok encoded =>
      insertWrite (account.key (api.credId passkey)) encoded

/-- `insert` of a credential that is not there. -/
def insertFresh (account : PostgresAccount) (passkey : Passkey) : CredentialTx Json :=
  .countWhere (fun _ key _ => key.1 = account.storageNamespace && key.2.1 = account.userId)
    (insertCounted json api account passkey)

/-- `insert` under the advisory lock. -/
def insertLocked (account : PostgresAccount) (passkey : Passkey) : CredentialTx Json :=
  .selectRow (account.key (api.credId passkey)) fun duplicate =>
    if duplicate.isSome then refuse .duplicate else insertFresh json api account passkey

/-- `PostgresWebAuthnStore::insert`. -/
def insertTx (account : PostgresAccount) (passkey : Passkey) : CredentialTx Json :=
  if (api.credId passkey).isEmpty then refuse .invalidRecord
  else .advisoryLock account.accountKey (insertLocked json api account passkey)

/-- The `UPDATE` of `update_after_auth` and its commit. A revision past `BIGINT` fails. -/
def updateWrite (pk : String × Uuid × Bytes) (value : Json) (revision : ℤ) : CredentialTx Json :=
  .updateRow pk (fun row => row.revision = revision)
    (fun row => if row.revision + 1 > 2 ^ 63 - 1 then none else some ⟨value, row.revision + 1⟩)
    fun count => if count ≠ 1 then .rollback (.failed .updateCount) else .commit (.updated true)

/-- `update_after_auth` behind its `SELECT … FOR UPDATE`. -/
def updateSelected (account : PostgresAccount) (result : AuthenticationResult)
    (selected : Option (CredentialRow Json)) : CredentialTx Json :=
  match selected with
  | none => refuse .invalidRecord
  | some row =>
    let (encoded, revision) := credentialUpdateLoad json row
    match encoded.bind json.fromValue with
    | none => refuse .invalidRecord
    | some credential =>
      match api.updateCredential credential result with
      | none => refuse .invalidRecord
      | some (changed, updated) =>
        if api.needsUpdate result && !changed then refuse .invalidRecord
        else if !changed then .commit (.updated false)
        else
          match encodePasskey json updated with
          | .error error => refuse error
          | .ok value =>
            updateWrite (account.key (api.resultCredId result)) value revision

/-- `PostgresWebAuthnStore::update_after_auth`. -/
def updateTx (account : PostgresAccount) (result : AuthenticationResult) : CredentialTx Json :=
  .selectForUpdate (account.key (api.resultCredId result)) (updateSelected json api account result)

/-- The transaction of a call. -/
def PostgresCredentialCall.tx : PostgresCredentialCall Passkey AuthenticationResult → CredentialTx Json
  | .insert account passkey => insertTx json api account passkey
  | .updateAfterAuth account result => updateTx json api account result

end Programs

/-! ## What holds during a transaction -/

section Assertions

variable {Passkey AuthenticationResult Json : Type} (json : PasskeyJson Passkey Json)
  (api : WebauthnRs Passkey AuthenticationResult)

/-- The number of credentials of an account. -/
def credentialCount (account : PostgresAccount) (table : CredentialTable Json) : ℕ :=
  Sql.countWhere
    (fun key _ => key.1 = account.storageNamespace && key.2.1 = account.userId) table

/-- `value` is the row's passkey after `update_credential` has changed it. -/
def IsUpdate (result : AuthenticationResult) (row : CredentialRow Json) (value : Json) : Prop :=
  ∃ credential updated, readPasskey json row = some credential ∧
    api.updateCredential credential result = some (true, updated) ∧
    encodePasskey json updated = .ok value

/-- A running transaction. -/
abbrev CredentialSession (Passkey AuthenticationResult Json : Type) :=
  Session (String × Uuid × Bytes) (CredentialRow Json) String CredentialAnswer
    (PostgresCredentialCall Passkey AuthenticationResult)

/-- What holds at each point of a transaction. -/
inductive CredentialAt (table : CredentialTable Json)
    (s : CredentialSession Passkey AuthenticationResult Json) : Prop
  | refused (error : CredentialStoreError) (hcode : s.code = refuse error)
  | insertStart (account : PostgresAccount) (passkey : Passkey)
      (hcall : s.call = .insert account passkey)
      (hcode : s.code = .advisoryLock account.accountKey (insertLocked json api account passkey))
      (hwork : s.work = [])
  | insertLocked (account : PostgresAccount) (passkey : Passkey)
      (hcall : s.call = .insert account passkey)
      (hcode : s.code = insertLocked json api account passkey)
      (hlock : account.accountKey ∈ s.locks) (hwork : s.work = [])
  | insertFresh (account : PostgresAccount) (passkey : Passkey)
      (hcall : s.call = .insert account passkey)
      (hcode : s.code = insertFresh json api account passkey)
      (hlock : account.accountKey ∈ s.locks) (hwork : s.work = [])
      (habsent : table.lookup (account.key (api.credId passkey)) = none)
  /-- There is room for the credential. -/
  | insertReady (account : PostgresAccount) (passkey : Passkey) (value : Json)
      (hcall : s.call = .insert account passkey)
      (hcode : s.code = insertWrite (account.key (api.credId passkey)) value)
      (hlock : account.accountKey ∈ s.locks) (hwork : s.work = [])
      (hencode : encodePasskey json passkey = .ok value)
      (habsent : table.lookup (account.key (api.credId passkey)) = none)
      (hroom : credentialCount account table < maxCredentialsPerUser)
  | inserted (account : PostgresAccount) (passkey : Passkey) (value : Json)
      (hcall : s.call = .insert account passkey) (hcode : s.code = .commit .inserted)
      (hlock : account.accountKey ∈ s.locks)
      (hwork : s.work = [(account.key (api.credId passkey), some ⟨value, 0⟩)])
      (hencode : encodePasskey json passkey = .ok value)
      (habsent : table.lookup (account.key (api.credId passkey)) = none)
      (hroom : credentialCount account table < maxCredentialsPerUser)
  | updateStart (account : PostgresAccount) (result : AuthenticationResult)
      (hcall : s.call = .updateAfterAuth account result)
      (hcode : s.code = updateTx json api account result) (hwork : s.work = [])
  | unchanged (account : PostgresAccount) (result : AuthenticationResult)
      (hcall : s.call = .updateAfterAuth account result)
      (hcode : s.code = .commit (.updated false)) (hwork : s.work = [])
  /-- The row it has read is locked, and so still the committed one. -/
  | updateReady (account : PostgresAccount) (result : AuthenticationResult)
      (row : CredentialRow Json) (value : Json)
      (hcall : s.call = .updateAfterAuth account result)
      (hcode : s.code = updateWrite (account.key (api.resultCredId result)) value row.revision)
      (hwork : s.work = []) (hrow : account.key (api.resultCredId result) ∈ s.rows)
      (hlookup : table.lookup (account.key (api.resultCredId result)) = some row)
      (hupdate : IsUpdate json api result row value)
  | updated (account : PostgresAccount) (result : AuthenticationResult)
      (row : CredentialRow Json) (value : Json)
      (hcall : s.call = .updateAfterAuth account result)
      (hcode : s.code = .commit (.updated true))
      (hwork : s.work =
        [(account.key (api.resultCredId result), some ⟨value, row.revision + 1⟩)])
      (hrow : account.key (api.resultCredId result) ∈ s.rows)
      (hlookup : table.lookup (account.key (api.resultCredId result)) = some row)
      (hupdate : IsUpdate json api result row value)

variable {json} {api} {table table' : CredentialTable Json}
  {s s' : CredentialSession Passkey AuthenticationResult Json} {account : PostgresAccount}

/-- An account whose credentials were all there before has no more of them. -/
theorem credentialCount_le
    (h : ∀ id row, table'.lookup (account.key id) = some row →
      ∃ row', table.lookup (account.key id) = some row') :
    credentialCount account table' ≤ credentialCount account table := by
  apply KeyedMap.size_le_of_lookup
  rintro ⟨storageNamespace, userId, id⟩ row hrow
  obtain ⟨hlookup, haccount⟩ := KeyedMap.lookup_retain_eq_some.mp hrow
  have hkey := haccount
  simp only [Bool.and_eq_true, decide_eq_true_eq] at haccount
  obtain ⟨rfl, rfl⟩ := haccount
  obtain ⟨row', hrow'⟩ := h id row hlookup
  exact ⟨row', KeyedMap.lookup_retain_eq_some.mpr ⟨hrow', hkey⟩⟩

theorem view_of_work_nil (h : s.work = []) : s.view table = table := by
  rw [Session.view, h, overlay_nil]

theorem view_of_work_one {w : (String × Uuid × Bytes) × Option (CredentialRow Json)}
    (h : s.work = [w]) (key : String × Uuid × Bytes) :
    (s.view table).lookup key = if key = w.1 then w.2 else table.lookup key := by
  rw [Session.view, h, overlay, List.foldl_cons, List.foldl_nil, lookup_write]

theorem key_inj {account' : PostgresAccount} {id id' : Bytes}
    (h : account.key id = account'.key id') : account = account' ∧ id = id' := by
  cases account
  cases account'
  cases h
  exact ⟨rfl, rfl⟩

/-- The commit of a transaction adds no credential to an account whose lock it does not hold. -/
theorem CredentialAt.not_new (hother : CredentialAt json api table s') {a : CredentialAnswer}
    (hcommit : s'.code = .commit a) (hlock : account.accountKey ∉ s'.locks) (id : Bytes)
    (row : CredentialRow Json) (hrow : (s'.view table).lookup (account.key id) = some row) :
    ∃ row', table.lookup (account.key id) = some row' := by
  -- Only a registration writes a row that is new, and it holds the lock of the account.
  cases hother with
  | inserted account' passkey value hcall hcode hheld hwork hencode habsent hroom =>
    rw [view_of_work_one hwork] at hrow
    split at hrow
    · next heq =>
      obtain ⟨rfl, -⟩ := key_inj heq
      exact absurd hheld hlock
    · exact ⟨row, hrow⟩
  | unchanged account' result hcall hcode hwork =>
    rw [view_of_work_nil hwork] at hrow
    exact ⟨row, hrow⟩
  -- An update writes over a row that it has read.
  | updated account' result row' value hcall hcode hwork hlocked hlookup hupdate =>
    rw [view_of_work_one hwork] at hrow
    split at hrow
    · next heq =>
      rw [heq]
      exact ⟨row', hlookup⟩
    · exact ⟨row, hrow⟩
  | refused error hcode =>
    rw [hcode] at hcommit
    cases hcommit
  | insertStart account' passkey hcall hcode hwork =>
    rw [hcode] at hcommit
    cases hcommit
  | insertLocked account' passkey hcall hcode hheld hwork =>
    rw [hcode] at hcommit
    cases hcommit
  | insertFresh account' passkey hcall hcode hheld hwork habsent =>
    rw [hcode] at hcommit
    cases hcommit
  | insertReady account' passkey value hcall hcode hheld hwork hencode habsent hroom =>
    rw [hcode] at hcommit
    cases hcommit
  | updateStart account' result hcall hcode hwork =>
    rw [hcode] at hcommit
    cases hcommit
  | updateReady account' result row' value hcall hcode hwork hlocked hlookup hupdate =>
    rw [hcode] at hcommit
    cases hcommit

/-- **What another transaction commits keeps the assertions.** -/
theorem CredentialAt.other (hself : CredentialAt json api table s)
    (hother : CredentialAt json api table s') {a : CredentialAnswer}
    (hcommit : s'.code = .commit a) (hrows : ∀ k ∈ s.rows, k ∉ s'.rows)
    (hlocks : ∀ l ∈ s.locks, l ∉ s'.locks) (hwrites : ∀ w ∈ s'.work, w.1 ∈ s'.rows) :
    CredentialAt json api (s'.view table) s := by
  -- Behind its lock an insert sees no new credential of its account.
  have hnew : ∀ account : PostgresAccount, account.accountKey ∈ s.locks → ∀ id row,
      (s'.view table).lookup (account.key id) = some row →
      ∃ row', table.lookup (account.key id) = some row' :=
    fun account hheld => hother.not_new hcommit (hlocks _ hheld)
  have habsent' : ∀ account : PostgresAccount, account.accountKey ∈ s.locks → ∀ id,
      table.lookup (account.key id) = none → (s'.view table).lookup (account.key id) = none := by
    intro account hheld id hnone
    by_contra hsome
    obtain ⟨row, hrow⟩ := Option.ne_none_iff_exists'.mp hsome
    obtain ⟨row', hrow'⟩ := hnew account hheld id row hrow
    rw [hnone] at hrow'
    cases hrow'
  cases hself with
  | refused error hcode => exact .refused error hcode
  | insertStart account passkey hcall hcode hwork =>
    exact .insertStart account passkey hcall hcode hwork
  | insertLocked account passkey hcall hcode hlock hwork =>
    exact .insertLocked account passkey hcall hcode hlock hwork
  | insertFresh account passkey hcall hcode hlock hwork habsent =>
    exact .insertFresh account passkey hcall hcode hlock hwork
      (habsent' account hlock _ habsent)
  | insertReady account passkey value hcall hcode hlock hwork hencode habsent hroom =>
    exact .insertReady account passkey value hcall hcode hlock hwork hencode
      (habsent' account hlock _ habsent)
      (lt_of_le_of_lt (credentialCount_le (hnew account hlock)) hroom)
  | inserted account passkey value hcall hcode hlock hwork hencode habsent hroom =>
    exact .inserted account passkey value hcall hcode hlock hwork hencode
      (habsent' account hlock _ habsent)
      (lt_of_le_of_lt (credentialCount_le (hnew account hlock)) hroom)
  | updateStart account result hcall hcode hwork =>
    exact .updateStart account result hcall hcode hwork
  | unchanged account result hcall hcode hwork =>
    exact .unchanged account result hcall hcode hwork
  | updateReady account result row value hcall hcode hwork hrow hlookup hupdate =>
    refine .updateReady account result row value hcall hcode hwork hrow ?_ hupdate
    rw [lookup_view_of_not_locked hwrites table (hrows _ hrow)]
    exact hlookup
  | updated account result row value hcall hcode hwork hrow hlookup hupdate =>
    refine .updated account result row value hcall hcode hwork hrow ?_ hupdate
    rw [lookup_view_of_not_locked hwrites table (hrows _ hrow)]
    exact hlookup

/-- The lock of an insert. -/
theorem CredentialAt.lock {ok : String × Uuid × Bytes → CredentialRow Json → Bool}
    (hself : CredentialAt json api table s) {l : String} {next : CredentialTx Json}
    (hmove : s.code.move ok s.now (s.view table) = .lock l next) :
    CredentialAt json api table (s.acquire l next) := by
  -- A registration that has just begun is the only one that asks for a lock.
  cases hself with
  | insertStart account passkey hcall hcode hwork =>
    rw [hcode] at hmove
    cases hmove
    exact .insertLocked account passkey hcall rfl List.mem_cons_self hwork
  | refused error hcode =>
    rw [hcode] at hmove
    cases hmove
  | insertLocked account passkey hcall hcode hlock hwork =>
    rw [hcode] at hmove
    cases hmove
  | insertFresh account passkey hcall hcode hlock hwork habsent =>
    rw [hcode] at hmove
    cases hmove
  | insertReady account passkey value hcall hcode hlock hwork hencode habsent hroom =>
    rw [hcode, insertWrite, Tx.move] at hmove
    split at hmove
    · cases hmove
    · split at hmove <;> cases hmove
  | inserted account passkey value hcall hcode hlock hwork hencode habsent hroom =>
    rw [hcode] at hmove
    cases hmove
  | updateStart account result hcall hcode hwork =>
    rw [hcode, updateTx, Tx.move] at hmove
    split at hmove <;> cases hmove
  | unchanged account result hcall hcode hwork =>
    rw [hcode] at hmove
    cases hmove
  | updateReady account result row value hcall hcode hwork hrow hlookup hupdate =>
    rw [hcode, updateWrite, Tx.move] at hmove
    split at hmove
    · cases hmove
    · split at hmove
      · cases hmove
      · split at hmove <;> cases hmove
  | updated account result row value hcall hcode hwork hrow hlookup hupdate =>
    rw [hcode] at hmove
    cases hmove

/-- What `update_after_auth` does with the row it has read. -/
theorem updateSelected_cases (json : PasskeyJson Passkey Json)
    (api : WebauthnRs Passkey AuthenticationResult) (account : PostgresAccount)
    (result : AuthenticationResult) (row : CredentialRow Json) :
    (∃ error, updateSelected json api account result (some row) = refuse error) ∨
    updateSelected json api account result (some row) = .commit (.updated false) ∨
    ∃ value, updateSelected json api account result (some row) =
        updateWrite (account.key (api.resultCredId result)) value row.revision ∧
      IsUpdate json api result row value := by
  rcases hread : (credentialUpdateLoad json row).1.bind json.fromValue with _ | credential
  · exact .inl ⟨.invalidRecord, by simp [updateSelected, hread]⟩
  · rcases hupdate : api.updateCredential credential result with _ | ⟨changed, updated⟩
    · exact .inl ⟨.invalidRecord, by simp [updateSelected, hread, hupdate]⟩
    · cases changed with
      | false =>
        cases hneeds : api.needsUpdate result with
        | true => exact .inl ⟨.invalidRecord, by simp [updateSelected, hread, hupdate, hneeds]⟩
        | false => exact .inr (.inl (by simp [updateSelected, hread, hupdate, hneeds]))
      | true =>
        cases hencode : encodePasskey json updated with
        | error error =>
          exact .inl ⟨error, by simp [updateSelected, hread, hupdate, hencode]⟩
        | ok value =>
          have hrevision : (credentialUpdateLoad json row).2 = row.revision := rfl
          refine .inr (.inr ⟨value, ?_, credential, updated, hread, hupdate, hencode⟩)
          simp [updateSelected, hread, hupdate, hencode, hrevision]

/-- **A statement leads from one assertion to the next.** -/
theorem CredentialAt.statement {ok : String × Uuid × Bytes → CredentialRow Json → Bool}
    (hself : CredentialAt json api table s) {rows : List (String × Uuid × Bytes)}
    {work : List ((String × Uuid × Bytes) × Option (CredentialRow Json))}
    {next : CredentialTx Json}
    (hmove : s.code.move ok s.now (s.view table) = .statement rows work next) :
    CredentialAt json api table (s.after rows work next) := by
  cases hself with
  | insertLocked account passkey hcall hcode hlock hwork =>
    rw [hcode, view_of_work_nil hwork] at hmove
    simp only [SecureKeypad.Webauthn.insertLocked, Tx.move, Move.statement.injEq] at hmove
    obtain ⟨rfl, rfl, rfl⟩ := hmove
    rcases hfound : table.lookup (account.key (api.credId passkey)) with _ | row
    · exact .insertFresh account passkey hcall (by simp [Session.after]) hlock
        (by simp [Session.after, hwork]) hfound
    · exact .refused .duplicate (by simp [Session.after])
  | insertFresh account passkey hcall hcode hlock hwork habsent =>
    rw [hcode, view_of_work_nil hwork] at hmove
    simp only [SecureKeypad.Webauthn.insertFresh, Tx.move, Move.statement.injEq] at hmove
    obtain ⟨rfl, rfl, rfl⟩ := hmove
    have hcount : Sql.countWhere (fun key _ => key.1 = account.storageNamespace &&
        key.2.1 = account.userId) table = credentialCount account table := rfl
    rw [hcount]
    by_cases hfull : credentialCount account table ≥ maxCredentialsPerUser
    · exact .refused .capacityReached (by simp [Session.after, insertCounted, hfull])
    · cases hencode : encodePasskey json passkey with
      | error error =>
        exact .refused error (by simp [Session.after, insertCounted, hfull, hencode])
      | ok value =>
        exact .insertReady account passkey value hcall
          (by simp [Session.after, insertCounted, hfull, hencode]) hlock
          (by simp [Session.after, hwork]) hencode habsent (not_le.mp hfull)
  | insertReady account passkey value hcall hcode hlock hwork hencode habsent hroom =>
    rw [hcode, view_of_work_nil hwork] at hmove
    simp only [insertWrite, Tx.move, habsent] at hmove
    split at hmove
    · cases hmove
    · cases hmove
      exact .inserted account passkey value hcall rfl hlock (by simp [Session.after, hwork])
        hencode habsent hroom
  | updateStart account result hcall hcode hwork =>
    rw [hcode, view_of_work_nil hwork] at hmove
    simp only [updateTx, Tx.move] at hmove
    split at hmove
    · cases hmove
      exact .refused .invalidRecord rfl
    · next row hlookup =>
      cases hmove
      rcases updateSelected_cases json api account result row with
        ⟨error, hcase⟩ | hcase | ⟨value, hcase, hupdate⟩
      · exact .refused error hcase
      · exact .unchanged account result hcall hcase (by simp [Session.after, hwork])
      · exact .updateReady account result row value hcall hcase (by simp [Session.after, hwork])
          (by simp [Session.after]) hlookup hupdate
  | updateReady account result row value hcall hcode hwork hrow hlookup hupdate =>
    rw [hcode, view_of_work_nil hwork] at hmove
    -- The lock keeps the row at the revision that was read.
    have hmatch : (some row).filter (fun stored => decide (stored.revision = row.revision)) =
        some row := Option.filter_some_pos (by simp)
    simp only [updateWrite, Tx.move, hlookup, hmatch] at hmove
    split at hmove
    · cases hmove
    · next stored hstored =>
      split at hstored
      · cases hstored
      · cases hstored
        split at hmove
        · cases hmove
          exact .updated account result row value hcall rfl (by simp [Session.after, hwork])
            (by simp [Session.after]) hlookup hupdate
        · cases hmove
  | refused error hcode =>
    rw [hcode] at hmove
    cases hmove
  | insertStart account passkey hcall hcode hwork =>
    rw [hcode] at hmove
    cases hmove
  | inserted account passkey value hcall hcode hlock hwork hencode habsent hroom =>
    rw [hcode] at hmove
    cases hmove
  | unchanged account result hcall hcode hwork =>
    rw [hcode] at hmove
    cases hmove
  | updated account result row value hcall hcode hwork hrow hlookup hupdate =>
    rw [hcode] at hmove
    cases hmove

/-- The assertion a transaction begins with. -/
theorem CredentialAt.begin (table : CredentialTable Json)
    (call : PostgresCredentialCall Passkey AuthenticationResult) (now : ℕ) :
    CredentialAt json api table (Session.start call now (call.tx json api)) := by
  cases call with
  | insert account passkey =>
    by_cases hempty : (api.credId passkey).isEmpty = true
    · refine .refused .invalidRecord ?_
      simp [Session.start, PostgresCredentialCall.tx, insertTx, hempty]
    · refine .insertStart account passkey rfl ?_ rfl
      simp [Session.start, PostgresCredentialCall.tx, insertTx, hempty]
  | updateAfterAuth account result => exact .updateStart account result rfl rfl rfl

/-- **The assertions are a proof outline.** -/
theorem credentialOutline (ok : String × Uuid × Bytes → CredentialRow Json → Bool) :
    Outline ok (PostgresCredentialCall.tx json api) (fun _ => True) (fun _ _ => True) (fun _ _ => True)
      (CredentialAt json api) where
  tick _ _ _ _ _ := trivial
  start now table call _ _ := CredentialAt.begin table call now
  lock _ _ _ _ h hmove := h.lock hmove
  statement _ _ _ _ _ _ _ h hmove := h.statement hmove
  other _ _ _ _ h hother hcommit _ hrows hlocks _ hwrites :=
    h.other hother (Tx.move_eq_commit.mp hcommit) hrows hlocks hwrites
  commit _ _ _ _ _ _ _ _ := trivial

end Assertions

/-! ## What a step does -/

section Effects

variable {Passkey AuthenticationResult Json : Type} (json : PasskeyJson Passkey Json)
  (api : WebauthnRs Passkey AuthenticationResult)

/-- A database whose clients call the stores. -/
abbrev CredentialDatabase (Passkey AuthenticationResult Json : Type) :=
  Db (String × Uuid × Bytes) (CredentialRow Json) String CredentialAnswer
    (PostgresCredentialCall Passkey AuthenticationResult)

/-- What a client of the database learns. -/
abbrev CredentialOutput (Passkey AuthenticationResult : Type) :=
  Output (PostgresCredentialCall Passkey AuthenticationResult) CredentialAnswer

/-- One step of the database. -/
abbrev credentialStep (db : CredentialDatabase Passkey AuthenticationResult Json)
    (input : Input (PostgresCredentialCall Passkey AuthenticationResult)) :
    CredentialOutput Passkey AuthenticationResult ×
      CredentialDatabase Passkey AuthenticationResult Json :=
  step (credentialRowOk json) (PostgresCredentialCall.tx json api) (.failed (.store .unavailable)) db
    input

/-- What leaves the rows alone: a step that ends no call, an error of the store or the database,
    and an update without a change. -/
inductive Idle : CredentialOutput Passkey AuthenticationResult → Prop
  | quiet : Idle .quiet
  | failed (call : PostgresCredentialCall Passkey AuthenticationResult) (now : ℕ)
      (error : CredentialStoreError) : Idle (.finished call now (.failed (.store error)))
  | unchanged (account : PostgresAccount) (result : AuthenticationResult) (now : ℕ) :
      Idle (.finished (.updateAfterAuth account result) now (.updated false))

/-- All one step can do to the rows, with what a client learns. -/
inductive CredentialEffect (table table' : CredentialTable Json) :
    CredentialOutput Passkey AuthenticationResult → Prop
  | idle (out : CredentialOutput Passkey AuthenticationResult) (hout : Idle out)
      (htable : table' = table) : CredentialEffect table table' out
  | inserted (account : PostgresAccount) (passkey : Passkey) (now : ℕ) (value : Json)
      (hencode : encodePasskey json passkey = .ok value)
      (habsent : table.lookup (account.key (api.credId passkey)) = none)
      (hroom : credentialCount account table < maxCredentialsPerUser)
      (htable : ∀ key, table'.lookup key =
        if key = account.key (api.credId passkey) then some ⟨value, 0⟩ else table.lookup key) :
      CredentialEffect table table' (.finished (.insert account passkey) now .inserted)
  /-- The row that is overwritten is the committed one. -/
  | updated (account : PostgresAccount) (result : AuthenticationResult) (now : ℕ)
      (row : CredentialRow Json) (value : Json)
      (hlookup : table.lookup (account.key (api.resultCredId result)) = some row)
      (hupdate : IsUpdate json api result row value)
      (htable : ∀ key, table'.lookup key =
        if key = account.key (api.resultCredId result) then some ⟨value, row.revision + 1⟩
        else table.lookup key) :
      CredentialEffect table table'
        (.finished (.updateAfterAuth account result) now (.updated true))

variable {json} {api} {table table' : CredentialTable Json}
  {s : CredentialSession Passkey AuthenticationResult Json}

/-- What a commit does. -/
theorem CredentialAt.commit (hself : CredentialAt json api table s) {a : CredentialAnswer}
    (hcommit : s.code = .commit a) :
    CredentialEffect json api table (s.view table) (.finished s.call s.now a) := by
  -- By the point of the program; only its three ends are commits.
  cases hself with
  | inserted account passkey value hcall hcode hlock hwork hencode habsent hroom =>
    rw [hcode] at hcommit
    cases hcommit
    rw [hcall]
    exact .inserted account passkey s.now value hencode habsent hroom (view_of_work_one hwork)
  | unchanged account result hcall hcode hwork =>
    rw [hcode] at hcommit
    cases hcommit
    rw [hcall]
    exact .idle _ (.unchanged account result s.now) (view_of_work_nil hwork)
  | updated account result row value hcall hcode hwork hrow hlookup hupdate =>
    rw [hcode] at hcommit
    cases hcommit
    rw [hcall]
    exact .updated account result s.now row value hlookup hupdate (view_of_work_one hwork)
  | refused error hcode =>
    rw [hcode] at hcommit
    cases hcommit
  | insertStart account passkey hcall hcode hwork =>
    rw [hcode] at hcommit
    cases hcommit
  | insertLocked account passkey hcall hcode hlock hwork =>
    rw [hcode] at hcommit
    cases hcommit
  | insertFresh account passkey hcall hcode hlock hwork habsent =>
    rw [hcode] at hcommit
    cases hcommit
  | insertReady account passkey value hcall hcode hlock hwork hencode habsent hroom =>
    rw [hcode] at hcommit
    cases hcommit
  | updateStart account result hcall hcode hwork =>
    rw [hcode] at hcommit
    cases hcommit
  | updateReady account result row value hcall hcode hwork hrow hlookup hupdate =>
    rw [hcode] at hcommit
    cases hcommit

/-- A transaction that returns without a commit has failed, and not behind its `UPDATE`. -/
theorem CredentialAt.rollback (hself : CredentialAt json api table s) {a : CredentialAnswer}
    (hrollback : s.code = .rollback a) : ∃ error, a = .failed (.store error) := by
  -- Only a refusal rolls back.
  cases hself with
  | refused error hcode =>
    rw [hcode] at hrollback
    cases hrollback
    exact ⟨error, rfl⟩
  | insertStart account passkey hcall hcode hwork =>
    rw [hcode] at hrollback
    cases hrollback
  | insertLocked account passkey hcall hcode hlock hwork =>
    rw [hcode] at hrollback
    cases hrollback
  | insertFresh account passkey hcall hcode hlock hwork habsent =>
    rw [hcode] at hrollback
    cases hrollback
  | insertReady account passkey value hcall hcode hlock hwork hencode habsent hroom =>
    rw [hcode] at hrollback
    cases hrollback
  | inserted account passkey value hcall hcode hlock hwork hencode habsent hroom =>
    rw [hcode] at hrollback
    cases hrollback
  | updateStart account result hcall hcode hwork =>
    rw [hcode] at hrollback
    cases hrollback
  | unchanged account result hcall hcode hwork =>
    rw [hcode] at hrollback
    cases hrollback
  | updateReady account result row value hcall hcode hwork hrow hlookup hupdate =>
    rw [hcode] at hrollback
    cases hrollback
  | updated account result row value hcall hcode hwork hrow hlookup hupdate =>
    rw [hcode] at hrollback
    cases hrollback

/-- The assertions hold of every running transaction. -/
abbrev CredentialsOutlined (json : PasskeyJson Passkey Json)
    (api : WebauthnRs Passkey AuthenticationResult)
    (db : CredentialDatabase Passkey AuthenticationResult Json) : Prop :=
  Sound (fun _ _ => True) (CredentialAt json api) db

/-- **Every step of the database is an effect.** -/
theorem credentialStep_effect {db : CredentialDatabase Passkey AuthenticationResult Json}
    (h : CredentialsOutlined json api db)
    (input : Input (PostgresCredentialCall Passkey AuthenticationResult)) :
    CredentialEffect json api db.table (credentialStep json api db input).2.table
      (credentialStep json api db input).1 := by
  have hmoved : Moved (credentialRowOk json) (PostgresCredentialCall.tx json api)
      (.failed (.store .unavailable)) db input (credentialStep json api db input).1
      (credentialStep json api db input).2 := moved_step _ _ _ db input
  generalize credentialStep json api db input = result at hmoved ⊢
  obtain ⟨out, db'⟩ := result
  cases hmoved with
  | idle _ => exact .idle _ .quiet rfl
  | tick elapsed => exact .idle _ .quiet rfl
  | begin c call hfree => exact .idle _ .quiet rfl
  | lock c s l next hs hmove hfree => exact .idle _ .quiet rfl
  | statement c s rows work next hs hmove hfree => exact .idle _ .quiet rfl
  | commit c s a hs hmove => exact (h.sessions c s hs).commit (Tx.move_eq_commit.mp hmove)
  | rollback c s a hs hmove =>
    obtain ⟨error, rfl⟩ := (h.sessions c s hs).rollback (Tx.move_eq_rollback.mp hmove)
    exact .idle _ (.failed s.call s.now error) rfl
  | fail _ c s hs => exact .idle _ (.failed s.call s.now .unavailable) rfl

end Effects

/-! ## Runs -/

section Runs

variable {Passkey AuthenticationResult Json : Type} {json : PasskeyJson Passkey Json}
  {api : WebauthnRs Passkey AuthenticationResult}
  {table table' : CredentialTable Json} {out : CredentialOutput Passkey AuthenticationResult}

theorem toValue_of_encodePasskey {passkey : Passkey} {value : Json}
    (h : encodePasskey json passkey = .ok value) : json.toValue passkey = some value := by
  unfold encodePasskey at h
  split at h
  · cases h
  · next hvalue =>
    split at h
    · cases h
    · split at h
      · cases h
      · cases h
        exact hvalue

theorem fromValue_of_readPasskey {row : CredentialRow Json} {credential : Passkey}
    (h : readPasskey json row = some credential) :
    json.fromValue row.passkey = some credential := by
  unfold readPasskey credentialUpdateLoad at h
  split at h
  · exact h
  · cases h

/-- A row's passkey has the id the row is stored under. -/
def IdsAgree (json : PasskeyJson Passkey Json) (api : WebauthnRs Passkey AuthenticationResult)
    (account : PostgresAccount) (table : CredentialTable Json) : Prop :=
  ∀ id row passkey, table.lookup (account.key id) = some row →
    json.fromValue row.passkey = some passkey → api.credId passkey = id

/-- The row's passkey is kept, with a counter that is no smaller. -/
def CounterKept (json : PasskeyJson Passkey Json) (api : WebauthnRs Passkey AuthenticationResult)
    (row row' : CredentialRow Json) : Prop :=
  ∀ passkey, json.fromValue row.passkey = some passkey →
    ∃ passkey', json.fromValue row'.passkey = some passkey' ∧
      api.credId passkey' = api.credId passkey ∧ api.counter passkey ≤ api.counter passkey'

theorem CounterKept.refl (row : CredentialRow Json) : CounterKept json api row row :=
  fun passkey hpasskey => ⟨passkey, hpasskey, rfl, le_refl _⟩

theorem CounterKept.trans {row row' row'' : CredentialRow Json}
    (h : CounterKept json api row row') (h' : CounterKept json api row' row'') :
    CounterKept json api row row'' := by
  intro passkey hpasskey
  obtain ⟨passkey', hpasskey', hid, hle⟩ := h passkey hpasskey
  obtain ⟨passkey'', hpasskey'', hid', hle'⟩ := h' passkey' hpasskey'
  exact ⟨passkey'', hpasskey'', hid'.trans hid, hle.trans hle'⟩

/-- An update keeps the id and never lowers the counter. -/
theorem IsUpdate.counterKept (hdoc : api.Documented) (hjson : json.RoundTrips)
    {result : AuthenticationResult} {row : CredentialRow Json} {value : Json}
    (h : IsUpdate json api result row value) (revision : ℤ) :
    CounterKept json api row ⟨value, revision⟩ := by
  obtain ⟨credential, updated, hread, hupdate, hencode⟩ := h
  intro passkey hpasskey
  rw [fromValue_of_readPasskey hread, Option.some.injEq] at hpasskey
  subst hpasskey
  have hid : api.credId credential = api.resultCredId result := by
    by_contra hne
    rw [hdoc.update_other credential result hne] at hupdate
    cases hupdate
  obtain ⟨changed, updated', hown, hkeeps, hcounter, -⟩ := hdoc.update_own credential result hid
  rw [hown, Option.some.injEq, Prod.mk.injEq] at hupdate
  obtain ⟨-, rfl⟩ := hupdate
  refine ⟨updated', hjson updated' value (toValue_of_encodePasskey hencode), hkeeps, ?_⟩
  rw [hcounter]
  exact le_max_left _ _

/-- **No row is lost**, and none changes but by an update, which raises its revision by one. -/
theorem CredentialEffect.row (h : CredentialEffect json api table table' out)
    {account : PostgresAccount} {id : Bytes} {row : CredentialRow Json}
    (hrow : table.lookup (account.key id) = some row) :
    ∃ row', table'.lookup (account.key id) = some row' ∧
      (row' = row ∨ ∃ result now value, out =
          .finished (.updateAfterAuth account result) now (.updated true) ∧
        api.resultCredId result = id ∧ IsUpdate json api result row value ∧
        row' = ⟨value, row.revision + 1⟩) := by
  cases h with
  | idle _ hout htable =>
    rw [htable]
    exact ⟨row, hrow, .inl rfl⟩
  -- The inserted row is under a key that had none.
  | inserted account' passkey now value hencode habsent hroom htable =>
    refine ⟨row, ?_, .inl rfl⟩
    rw [htable, if_neg]
    · exact hrow
    · rintro heq
      rw [heq, habsent] at hrow
      cases hrow
  | updated account' result now row' value hlookup hupdate htable =>
    rw [htable]
    by_cases heq : account.key id = account'.key (api.resultCredId result)
    · rw [if_pos heq]
      rw [heq, hlookup, Option.some.injEq] at hrow
      subst hrow
      obtain ⟨rfl, rfl⟩ := key_inj heq
      exact ⟨_, rfl, .inr ⟨result, now, value, rfl, rfl, hupdate, rfl⟩⟩
    · rw [if_neg heq]
      exact ⟨row, hrow, .inl rfl⟩

theorem CredentialEffect.counterKept (hdoc : api.Documented) (hjson : json.RoundTrips)
    (h : CredentialEffect json api table table' out) {account : PostgresAccount} {id : Bytes}
    {row : CredentialRow Json} (hrow : table.lookup (account.key id) = some row) :
    ∃ row', table'.lookup (account.key id) = some row' ∧ CounterKept json api row row' := by
  obtain ⟨row', hrow', rfl | ⟨result, now, value, -, -, hupdate, rfl⟩⟩ := h.row hrow
  · exact ⟨row', hrow', .refl row'⟩
  · exact ⟨_, hrow', hupdate.counterKept hdoc hjson _⟩

/-- An account stays within the bound. -/
theorem CredentialEffect.count_le (h : CredentialEffect json api table table' out)
    {account : PostgresAccount} (hbound : credentialCount account table ≤ maxCredentialsPerUser) :
    credentialCount account table' ≤ maxCredentialsPerUser := by
  cases h with
  | idle _ hout htable => rwa [htable]
  | inserted account' passkey now value hencode habsent hroom htable =>
    by_cases haccount : account = account'
    · subst haccount
      have hone : credentialCount account table' ≤ credentialCount account
          (table.insert (account.key (api.credId passkey)) ⟨value, 0⟩) := by
        refine credentialCount_le fun id row hrow => ⟨row, ?_⟩
        rw [KeyedMap.lookup_insert_ite, ← htable]
        exact hrow
      exact hone.trans ((Sql.countWhere_insert_le _ _ _ _).trans hroom)
    · refine le_trans (credentialCount_le fun id row hrow => ⟨row, ?_⟩) hbound
      rw [htable, if_neg fun heq => haccount (key_inj heq).1] at hrow
      exact hrow
  | updated account' result now row' value hlookup hupdate htable =>
    refine le_trans (credentialCount_le fun id row hrow => ?_) hbound
    rw [htable] at hrow
    split at hrow
    · next heq =>
      rw [heq]
      exact ⟨row', hlookup⟩
    · exact ⟨row, hrow⟩

theorem CredentialEffect.idsAgree (hdoc : api.Documented) (hjson : json.RoundTrips)
    (h : CredentialEffect json api table table' out) {account : PostgresAccount}
    (hids : IdsAgree json api account table) : IdsAgree json api account table' := by
  intro id row passkey hrow hpasskey
  cases h with
  | idle _ hout htable =>
    rw [htable] at hrow
    exact hids id row passkey hrow hpasskey
  -- The new row reads back as the credential whose id is in its key.
  | inserted account' inserted now value hencode habsent hroom htable =>
    rw [htable] at hrow
    split at hrow
    · next heq =>
      cases hrow
      have hback := hjson inserted value (toValue_of_encodePasskey hencode)
      rw [hback, Option.some.injEq] at hpasskey
      rw [← hpasskey]
      exact (key_inj heq).2.symm
    · exact hids id row passkey hrow hpasskey
  -- An update keeps the id of the credential it has read.
  | updated account' result now row' value hlookup hupdate htable =>
    rw [htable] at hrow
    split at hrow
    · next heq =>
      cases hrow
      have hkept := hupdate.counterKept hdoc hjson (row'.revision + 1)
      obtain ⟨credential, _, hread, _⟩ := hupdate
      have hcredential := fromValue_of_readPasskey hread
      obtain ⟨passkey', hpasskey', hkeeps, -⟩ := hkept credential hcredential
      rw [hpasskey', Option.some.injEq] at hpasskey
      rw [← hpasskey, hkeeps]
      rw [← heq] at hlookup
      exact hids _ row' credential hlookup hcredential
    · exact hids id row passkey hrow hpasskey

theorem credentialsOutlined_run {start : CredentialDatabase Passkey AuthenticationResult Json}
    (hrest : start.Resting)
    (inputs : List (Input (PostgresCredentialCall Passkey AuthenticationResult))) (j : ℕ) : CredentialsOutlined json api (run (credentialStep json api) start (inputs.take j)) :=
  (credentialOutline (credentialRowOk json)).sound_run_of_unfair (Sound.of_resting hrest trivial)
    inputs j

/-- The effect of a step of a run. -/
theorem credentialEffect_of_trace
    {start : CredentialDatabase Passkey AuthenticationResult Json} (hrest : start.Resting)
    {inputs : List (Input (PostgresCredentialCall Passkey AuthenticationResult))} {j : ℕ}
    {input : Input (PostgresCredentialCall Passkey AuthenticationResult)}
    (hout : (trace (credentialStep json api) start inputs)[j]? = some (input, out)) :
    CredentialEffect json api (run (credentialStep json api) start (inputs.take j)).table
      (run (credentialStep json api) start (inputs.take (j + 1))).table out := by
  obtain ⟨hinput, rfl⟩ := trace_getElem?_eq_some _ hout
  rw [run_take_succ _ hinput]
  exact credentialStep_effect (credentialsOutlined_run hrest inputs j) input

section

variable {start : CredentialDatabase Passkey AuthenticationResult Json}
  {inputs : List (Input (PostgresCredentialCall Passkey AuthenticationResult))}

/-- What every effect keeps holds from one state of a run to every later one. -/
theorem credentialRun_induction (hrest : start.Resting) {P : CredentialTable Json → Prop}
    (hstep : ∀ table table' out, CredentialEffect json api table table' out → P table → P table')
    {a b : ℕ} (hab : a ≤ b)
    (ha : P (run (credentialStep json api) start (inputs.take a)).table) :
    P (run (credentialStep json api) start (inputs.take b)).table := by
  induction b, hab using Nat.le_induction with
  | base => exact ha
  | succ b hle ih =>
    rcases hb : inputs[b]? with _ | input
    · have hend : inputs.take (b + 1) = inputs.take b := by
        rw [List.take_add_one, hb, Option.toList_none, List.append_nil]
      rw [hend]
      exact ih
    · rw [run_take_succ _ hb]
      exact hstep _ _ _ (credentialStep_effect (credentialsOutlined_run hrest inputs b) input) ih

/-- **The PostgreSQL credential store.** For every interleaving of inserts and updates, from a
    database at rest, on the credentials of one account: they stay within the bound and stored
    under their own ids; an insert that succeeds adds a row, which no step ever removes; an update
    that succeeds applies `update_credential` to the row as committed, and no other step changes a
    row or its revision; counters never decrease; a call that fails leaves the rows as they were;
    and the branch behind an `UPDATE` of no row is never taken. -/
theorem postgres_credential_store_run (json : PasskeyJson Passkey Json)
    (api : WebauthnRs Passkey AuthenticationResult) (hdoc : api.Documented)
    (hjson : json.RoundTrips) (start : CredentialDatabase Passkey AuthenticationResult Json)
    (hrest : start.Resting)
    (inputs : List (Input (PostgresCredentialCall Passkey AuthenticationResult)))
    (account : PostgresAccount) :
    let rows (j : ℕ) := (run (credentialStep json api) start (inputs.take j)).table
    let out (j : ℕ) := ((trace (credentialStep json api) start inputs)[j]?).map Prod.snd
    (credentialCount account start.table ≤ maxCredentialsPerUser →
      ∀ j, credentialCount account (rows j) ≤ maxCredentialsPerUser) ∧
    (IdsAgree json api account start.table → ∀ j, IdsAgree json api account (rows j)) ∧
    (∀ j passkey now, out j = some (.finished (.insert account passkey) now .inserted) →
      (rows j).lookup (account.key (api.credId passkey)) = none ∧
      (∃ value, json.toValue passkey = some value ∧
        (rows (j + 1)).lookup (account.key (api.credId passkey)) = some ⟨value, 0⟩) ∧
      ∀ k, j < k → ∃ row, (rows k).lookup (account.key (api.credId passkey)) = some row) ∧
    (∀ j id row, (rows j).lookup (account.key id) = none →
      (rows (j + 1)).lookup (account.key id) = some row → ∃ passkey now,
        api.credId passkey = id ∧
        out j = some (.finished (.insert account passkey) now .inserted)) ∧
    (∀ j result now,
      out j = some (.finished (.updateAfterAuth account result) now (.updated true)) →
      ∃ row credential updated value,
        (rows j).lookup (account.key (api.resultCredId result)) = some row ∧
        readPasskey json row = some credential ∧
        api.updateCredential credential result = some (true, updated) ∧
        json.toValue updated = some value ∧
        (rows (j + 1)).lookup (account.key (api.resultCredId result)) =
          some ⟨value, row.revision + 1⟩) ∧
    (∀ j id row, (rows j).lookup (account.key id) = some row →
      ∃ row', (rows (j + 1)).lookup (account.key id) = some row' ∧
        (row' = row ∨ row'.revision = row.revision + 1 ∧ ∃ result now,
          api.resultCredId result = id ∧
          out j = some (.finished (.updateAfterAuth account result) now (.updated true)))) ∧
    (∀ j k id row passkey, j ≤ k → (rows j).lookup (account.key id) = some row →
      json.fromValue row.passkey = some passkey →
      ∃ row' passkey', (rows k).lookup (account.key id) = some row' ∧
        json.fromValue row'.passkey = some passkey' ∧
        api.counter passkey ≤ api.counter passkey') ∧
    (∀ j call now failure, out j = some (.finished call now (.failed failure)) →
      rows (j + 1) = rows j ∧ failure ≠ .updateCount) := by
  intro rows out
  have heffect : ∀ j answer, out j = some answer →
      CredentialEffect json api (rows j) (rows (j + 1)) answer := by
    intro j answer hout
    obtain ⟨⟨input, answer'⟩, htrace, rfl⟩ := Option.map_eq_some_iff.mp hout
    exact credentialEffect_of_trace hrest htrace
  -- A step that is not there leaves the rows alone, one that is has an effect.
  have hstep : ∀ j, rows (j + 1) = rows j ∨
      ∃ answer, out j = some answer ∧
        CredentialEffect json api (rows j) (rows (j + 1)) answer := by
    intro j
    rcases hj : inputs[j]? with _ | input
    · left
      have hend : inputs.take (j + 1) = inputs.take j := by
        rw [List.take_add_one, hj, Option.toList_none, List.append_nil]
      simp only [rows, hend]
    · have hout : out j = some (credentialStep json api
          (run (credentialStep json api) start (inputs.take j)) input).1 := by
        simp only [out, trace_getElem?_of_getElem? _ hj, Option.map_some]
      exact .inr ⟨_, hout, heffect j _ hout⟩
  refine ⟨?_, ?_, ?_, ?_, ?_, ?_, ?_, ?_⟩
  · intro hstart j
    exact credentialRun_induction hrest (fun _ _ _ h => h.count_le) (Nat.zero_le j) hstart
  · intro hstart j
    exact credentialRun_induction hrest (fun _ _ _ h => h.idsAgree hdoc hjson) (Nat.zero_le j)
      hstart
  · intro j passkey now hout
    have h := heffect j _ hout
    generalize htable' : rows (j + 1) = table' at h ⊢
    cases h with
    | idle _ hidle _ => cases hidle
    | inserted _ _ _ value hencode habsent hroom htable =>
      have hnew : table'.lookup (account.key (api.credId passkey)) = some ⟨value, 0⟩ := by
        rw [htable, if_pos rfl]
      refine ⟨habsent, ⟨value, toValue_of_encodePasskey hencode, hnew⟩, fun k hk => ?_⟩
      have hstays : ∀ table table' answer, CredentialEffect json api table table' answer →
          (∃ row, table.lookup (account.key (api.credId passkey)) = some row) →
          ∃ row, table'.lookup (account.key (api.credId passkey)) = some row := by
        rintro table table' answer h ⟨row, hrow⟩
        obtain ⟨row', hrow', -⟩ := h.row hrow
        exact ⟨row', hrow'⟩
      refine credentialRun_induction hrest hstays hk ⟨⟨value, 0⟩, ?_⟩
      rw [← hnew, ← htable']
  · intro j id row hnone hsome
    rcases hstep j with hsame | ⟨answer, hout, h⟩
    · rw [hsame, hnone] at hsome
      cases hsome
    · generalize rows (j + 1) = table' at h hsome
      cases h with
      | idle _ hidle htable =>
        rw [htable, hnone] at hsome
        cases hsome
      | inserted account' passkey now value hencode habsent hroom htable =>
        rw [htable] at hsome
        split at hsome
        · next heq =>
          obtain ⟨rfl, rfl⟩ := key_inj heq
          exact ⟨passkey, now, rfl, hout⟩
        · rw [hnone] at hsome
          cases hsome
      | updated account' result now row' value hlookup hupdate htable =>
        rw [htable] at hsome
        split at hsome
        · next heq =>
          rw [heq, hlookup] at hnone
          cases hnone
        · rw [hnone] at hsome
          cases hsome
  · intro j result now hout
    have h := heffect j _ hout
    generalize rows (j + 1) = table' at h ⊢
    cases h with
    | idle _ hidle _ => cases hidle
    | updated _ _ _ row value hlookup hupdate htable =>
      obtain ⟨credential, updated, hread, hchanged, hencode⟩ := hupdate
      exact ⟨row, credential, updated, value, hlookup, hread, hchanged,
        toValue_of_encodePasskey hencode, by rw [htable, if_pos rfl]⟩
  · intro j id row hrow
    rcases hstep j with hsame | ⟨answer, hout, h⟩
    · rw [hsame]
      exact ⟨row, hrow, .inl rfl⟩
    · obtain ⟨row', hrow', rfl | ⟨result, now, value, rfl, hid, -, rfl⟩⟩ := h.row hrow
      · exact ⟨row', hrow', .inl rfl⟩
      · exact ⟨_, hrow', .inr ⟨rfl, result, now, hid, hout⟩⟩
  · intro j k id row passkey hle hrow hpasskey
    have hkeeps : ∀ table table' answer, CredentialEffect json api table table' answer →
        (∃ row', table.lookup (account.key id) = some row' ∧ CounterKept json api row row') →
        ∃ row', table'.lookup (account.key id) = some row' ∧ CounterKept json api row row' := by
      rintro table table' answer h ⟨row', hrow', hcounter⟩
      obtain ⟨row'', hrow'', hcounter'⟩ := h.counterKept hdoc hjson hrow'
      exact ⟨row'', hrow'', hcounter.trans hcounter'⟩
    obtain ⟨row', hrow', hcounter⟩ :=
      credentialRun_induction hrest hkeeps hle ⟨row, hrow, .refl row⟩
    obtain ⟨passkey', hpasskey', -, hle'⟩ := hcounter passkey hpasskey
    exact ⟨row', passkey', hrow', hpasskey', hle'⟩
  · intro j call now failure hout
    have h := heffect j _ hout
    generalize rows (j + 1) = table' at h ⊢
    cases h with
    | idle _ hidle htable =>
      cases hidle
      exact ⟨htable, nofun⟩

end

end Runs

/-! ### A run of one insert and two updates -/

/-- Passkeys that are stored as they are, in 100 bytes each. -/
def plainJson : PasskeyJson PasskeyFields PasskeyFields where
  toValue := some
  fromValue := some
  vecLength _ := some 100
  textLength _ := 100

theorem plainJson_roundTrips : plainJson.RoundTrips := by
  intro passkey value hvalue
  cases hvalue
  rfl

def sampleAccount : PostgresAccount := ⟨"prod", 7⟩

/-- Two updates of one credential; the second waits for the row the first has locked. -/
def sampleCredentialInputs : List (Input (PostgresCredentialCall PasskeyFields ResultFields)) :=
  [.begin 0 (.insert sampleAccount ⟨[1], 3, ⟨true, true⟩⟩),
   .step 0, .step 0, .step 0, .step 0, .step 0,
   .begin 1 (.updateAfterAuth sampleAccount ⟨[1], 5, ⟨true, true⟩, true⟩),
   .begin 2 (.updateAfterAuth sampleAccount ⟨[1], 9, ⟨true, true⟩, true⟩),
   .step 1, .step 2, .step 1, .step 1, .step 2, .step 2, .step 2]

def emptyCredentials : CredentialDatabase PasskeyFields ResultFields PasskeyFields := ⟨0, ∅, ∅⟩

/-- Both updates are applied, one after the other. -/
theorem postgres_credential_store_run_sample :
    ((run (credentialStep plainJson fieldsApi) emptyCredentials
      sampleCredentialInputs).table.lookup (sampleAccount.key [1])).map
        (fun row => (row.passkey.counter, row.revision)) = some (9, 2) ∧
    ∀ j, credentialCount sampleAccount (run (credentialStep plainJson fieldsApi) emptyCredentials
      (sampleCredentialInputs.take j)).table ≤ maxCredentialsPerUser :=
  ⟨by decide +kernel,
    (postgres_credential_store_run plainJson fieldsApi fieldsApi_documented plainJson_roundTrips
      emptyCredentials (fun _ => rfl) sampleCredentialInputs sampleAccount).1 (by decide +kernel)⟩

end SecureKeypad.Webauthn
