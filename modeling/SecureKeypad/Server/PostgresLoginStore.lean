import SecureKeypad.Library.OneTimeRows
import SecureKeypad.Server.RedisLoginStore

/-!
# The PostgreSQL One-Time Login Store (`secure-auth-server::opaque_state_postgres`)

Embeds `PostgresOneTimeLoginStateStore` on the table of
`POSTGRES_ONE_TIME_LOGIN_STATE_SCHEMA_SQL`: the transaction of `insert_bound` under the advisory
lock of its namespace, the one statement of `take_bound`, and the Rust code around both. The
clock and `expires_at` are in microseconds. A connection that breaks is a step of its own, with
its transaction rolled back. SHA-256 comes from the `sha2` crate and is a parameter.

`take_bound` answers `Unavailable` for most failures; the model keeps the cause, so that a cause
can be shown never to occur.

## Main results

- `loginProgram_fits`: what an insert stores fits the time to live and the bound on sizes
- `takeBound_redeems`: a state that is returned has been redeemed, before its expiry
- `takeBound_of_fits`: a row that fits passes the tests on time to live and size
-/

namespace SecureKeypad.Server

open Rust ReadCommitted OneTimeRows Machine Machine.Ledger

/-! ## Configuration -/

def postgresHandleAttempts : ℕ := 8

/-- `PostgresOneTimeStateConfigError`. -/
inductive PostgresOneTimeStateConfigError where
  | invalidNamespace
  | invalidPoolSize
  | invalidCapacity
  | invalidTtl
  | insecureConfig
  | poolBuild
deriving DecidableEq

namespace PostgresOneTimeStateConfigError

/-- `validate_namespace` of this module. -/
def validateNamespace : String → Except PostgresOneTimeStateConfigError Unit :=
  validateNamespaceOr .invalidNamespace

/-- `ttl_millis` of this module, of a duration in nanoseconds. -/
def ttlMillis (ttl : ℕ) : Except PostgresOneTimeStateConfigError TtlMillis :=
  if hbounds : ttl = 0 ∨ ttl > maxDistributedLoginStateTtl then .error .invalidTtl
  else
    let millis := ttl / 1000000
    if h : millis < 2 ^ 63 ∧ millis > 0 then
      .ok ⟨millis, h.2, by
        have hmax : ttl ≤ 900000000000 := not_lt.mp fun hgt => hbounds (.inr hgt)
        omega⟩
    else .error .invalidTtl

end PostgresOneTimeStateConfigError

/-- `PostgresOneTimeLoginStateStore` without its connection pool. -/
structure PostgresOneTimeLoginStateStore where
  storageNamespace : String
  ttl : TtlMillis
  maxEntries : ℕ
  protector : StateProtector
  namespace_ok : PostgresOneTimeStateConfigError.validateNamespace storageNamespace = .ok ()
  maxEntries_pos : 0 < maxEntries
  maxEntries_le : maxEntries ≤ maxInMemoryEntries

/-- `PostgresOneTimeLoginStateStore::build`. What the connection settings say is given by
    `sslRequired`, `connectorIsNoTls` and `poolBuilds`. -/
def PostgresOneTimeLoginStateStore.build (sslRequired connectorIsNoTls poolBuilds : Bool)
    (storageNamespace : String) (poolSize maxEntries ttl : ℕ) (key : Bytes)
    (hkey : key.length = 32) (requireTls : Bool) :
    Except PostgresOneTimeStateConfigError PostgresOneTimeLoginStateStore :=
  if requireTls ∧ (¬ sslRequired ∨ connectorIsNoTls) then .error .insecureConfig
  else
    match h : PostgresOneTimeStateConfigError.validateNamespace storageNamespace with
    | .error error => .error error
    | .ok () =>
      if poolSize = 0 ∨ poolSize > maxPoolSize then .error .invalidPoolSize
      else if hentries : maxEntries = 0 ∨ maxEntries > maxInMemoryEntries then
        .error .invalidCapacity
      else
        match PostgresOneTimeStateConfigError.ttlMillis ttl with
        | .error error => .error error
        | .ok ttl =>
          if ¬ poolBuilds then .error .poolBuild
          else
            .ok { storageNamespace, ttl, maxEntries
                  protector := ⟨key, storageNamespace, hkey, (validateNamespaceOr_eq_ok h).2.1⟩
                  namespace_ok := h
                  maxEntries_pos := Nat.pos_of_ne_zero fun hzero => hentries (.inl hzero)
                  maxEntries_le := not_lt.mp fun hgt => hentries (.inr hgt) }

/-! ## The table -/

/-- The columns of `secure_keypad_opaque_login_states` beside its primary key. -/
structure LoginRow where
  state : Bytes
  expiresAt : ℕ
deriving DecidableEq

/-- The `CHECK` constraints of the table, whose key is `namespace` and `handle_hash`. -/
def loginRowOk (key : String × Bytes) (row : LoginRow) : Bool :=
  (1 ≤ (asBytes key.1).length && (asBytes key.1).length ≤ 64) &&
  -- `namespace ~ '^[A-Za-z0-9._-]+$'`
  (key.1 ≠ "" && (asBytes key.1).all isNamespaceByte) &&
  key.2.length = 32 &&
  (1 ≤ row.state.length && row.state.length ≤ 32802)

/-- Where the stores keep their states. -/
def loginRows (sha256 : Bytes → Bytes) :
    Layout String LoginStateHandle (String × Bytes) LoginRow String where
  space key := key.1
  key storageNamespace handle := (storageNamespace, sha256 handle.bytes)
  lock storageNamespace := storageNamespace ++ ":opaque-login-state"
  expiresAt := LoginRow.expiresAt
  takes _ _ := true
  space_key _ _ := rfl
  lock_injective _ _ h := (String.append_left_inj _).mp h

/-! ## The calls -/

/-- A call of a store, with the nonce and the handles drawn for it. -/
inductive LoginCall where
  | insertBound (store : PostgresOneTimeLoginStateStore) (state : BoundLoginState)
      (nonce : GcmNonce) (draw : ℕ → LoginStateHandle)
  | takeBound (store : PostgresOneTimeLoginStateStore) (handle : LoginStateHandle)

/-- The store a call is made on. -/
def LoginCall.store : LoginCall → PostgresOneTimeLoginStateStore
  | .insertBound store _ _ _ => store
  | .takeBound store _ => store

namespace PostgresOneTimeLoginStateStore

variable (aes : Aes256Gcm) (store : PostgresOneTimeLoginStateStore)

/-- The record `insert_bound` stores. -/
def protectedState (state : BoundLoginState) (nonce : GcmNonce) : Except StoreError Bytes := do
  let encoded ← encodeBoundState state
  if encoded.length > maxDistributedLoginStateRecordBytes then .error .stateTooLarge
  else
    let protectedBytes ← store.protector.sealPlaintext aes nonce encoded
    if protectedBytes.length > maxDistributedLoginStateStorageBytes then .error .stateTooLarge
    else .ok protectedBytes

/-- What `POSTGRES_ONE_TIME_STATE_CONSUME_SQL` returns of the row it removes. -/
structure ConsumeColumns where
  state : Option Bytes
  notExpired : Bool
  withinTtl : Bool
  withinSize : Bool

/-- The `SELECT` of `POSTGRES_ONE_TIME_STATE_CONSUME_SQL` on a removed row. -/
def consumeColumns (now maxBytes ttlMillis : ℕ) (row : LoginRow) : ConsumeColumns :=
  let notExpired := decide (row.expiresAt > now)
  let withinTtl := decide (row.expiresAt ≤ now + ttlMillis * 1000)
  let withinSize := decide (row.state.length ≤ maxBytes)
  { state := if notExpired && withinTtl && withinSize then some row.state else none
    notExpired, withinTtl, withinSize }

/-- Why `take_bound` fails on the row it has removed. -/
inductive TakeFailure where
  | ttl
  | size
  /-- The `state` column is `NULL`. -/
  | noState
  | opening (error : StoreError)
  | decoding (error : StoreError)
deriving DecidableEq

/-- The error `take_bound` returns. -/
def TakeFailure.toError : TakeFailure → StoreError
  | .ttl => .unavailable
  | .size => .unavailable
  | .noState => .unavailable
  | .opening error => error
  | .decoding error => error

/-- `take_bound` behind its statement; `none` is a panic of the decoders. -/
def takeBound (now : ℕ) (row : Option LoginRow) :
    Option (Except TakeFailure (Option BoundLoginState)) :=
  match row.map (consumeColumns now maxDistributedLoginStateStorageBytes store.ttl.millis) with
  | none => some (.ok none)
  | some columns =>
    if !columns.notExpired then some (.ok none)
    else if !columns.withinTtl then some (.error .ttl)
    else if !columns.withinSize then some (.error .size)
    else
      match columns.state with
      | none => some (.error .noState)
      | some protectedBytes =>
        (store.protector.openProtected aes protectedBytes).bind fun
          | .error error => some (.error (.opening error))
          | .ok encoded => (decodeBoundState encoded).map fun
            | .error error => .error (.decoding error)
            | .ok state => .ok (some state)

end PostgresOneTimeLoginStateStore

open PostgresOneTimeLoginStateStore

/-- The statements of `insert_bound` and `take_bound`. -/
def loginProgram (aes : Aes256Gcm) :
    LoginCall → OneTimeRows.Call String LoginStateHandle LoginRow StoreError
  | .insertBound store state nonce draw =>
    match store.protectedState aes state nonce with
    | .error error => .refuse error
    | .ok protectedBytes =>
      .insert
        { space := store.storageNamespace
          -- `i64::try_from(max_entries).unwrap_or(i64::MAX)`
          capacity := min store.maxEntries (2 ^ 63 - 1)
          rounds := postgresHandleAttempts
          draw
          row := fun now => ⟨protectedBytes, now + store.ttl.millis * 1000⟩
          full := .capacityReached
          collision := .handleCollision }
  | .takeBound store handle => .consume store.storageNamespace handle

/-- What a call of a store answers. -/
abbrev LoginAnswer := Answer LoginStateHandle LoginRow StoreError

/-- A database whose clients call the stores. -/
abbrev LoginDatabase := Db (String × Bytes) LoginRow String LoginAnswer LoginCall

/-- One step of the database. -/
abbrev loginDatabaseStep (sha256 : Bytes → Bytes) (aes : Aes256Gcm) :
    LoginDatabase → Input LoginCall → Output LoginCall LoginAnswer × LoginDatabase :=
  databaseStep (loginRows sha256) (loginProgram aes) loginRowOk StoreError.unavailable

/-! ## What the calls do -/

section Calls

variable {sha256 : Bytes → Bytes} {aes : Aes256Gcm} {store : PostgresOneTimeLoginStateStore}

/-- What a row of a store with this time to live looks like at a moment. -/
def LoginRowFits (ttl : TtlMillis) (now : ℕ) (row : LoginRow) : Prop :=
  row.expiresAt ≤ now + ttl.millis * 1000 ∧
    row.state.length ≤ maxDistributedLoginStateStorageBytes

theorem LoginRowFits.mono {ttl : TtlMillis} {now now' : ℕ} {row : LoginRow} (hle : now ≤ now')
    (h : LoginRowFits ttl now row) : LoginRowFits ttl now' row :=
  ⟨h.1.trans (Nat.add_le_add_right hle _), h.2⟩

theorem length_le_of_protectedState {state : BoundLoginState} {nonce : GcmNonce}
    {protectedBytes : Bytes} (h : store.protectedState aes state nonce = .ok protectedBytes) :
    protectedBytes.length ≤ maxDistributedLoginStateStorageBytes := by
  obtain ⟨encoded, -, h⟩ := tryOp_eq_ok.mp h
  split at h
  · cases h
  · obtain ⟨sealedBytes, -, h⟩ := tryOp_eq_ok.mp h
    split at h
    · cases h
    · next hsize =>
      cases h
      exact not_lt.mp hsize

/-- **What an insert stores fits** the time to live of its store. -/
theorem loginProgram_fits {call : LoginCall} {storageNamespace : String} {ttl : TtlMillis}
    (hone : call.store.storageNamespace = storageNamespace → call.store.ttl = ttl) :
    InsertsFit (loginProgram aes) (LoginRowFits ttl) storageNamespace call := by
  intro job hjob hspace now
  cases call with
  | takeBound store handle => cases hjob
  | insertBound store state nonce draw =>
    simp only [loginProgram] at hjob
    split at hjob
    · cases hjob
    · next protectedBytes hprotected =>
      cases hjob
      have httl : store.ttl = ttl := hone hspace
      subst httl
      exact ⟨le_refl _, length_le_of_protectedState hprotected⟩

/-- **A state that is returned has been redeemed**, before its expiry. -/
theorem takeBound_redeems {now : ℕ} {handle : LoginStateHandle} {row : Option LoginRow}
    {state : BoundLoginState} (h : store.takeBound aes now row = some (.ok (some state))) :
    ∃ found, row = some found ∧
      observe (loginRows sha256) (loginProgram aes) store.storageNamespace
        (.finished (.takeBound store handle) now (.consumed row)) =
          .redeem (store.storageNamespace, sha256 handle.bytes) found now := by
  cases row with
  | none => cases h
  | some found =>
    refine ⟨found, rfl, ?_⟩
    simp only [takeBound, Option.map_some, consumeColumns] at h
    split at h
    · cases h
    · next hlive =>
      have hlt : now < found.expiresAt := by simpa using hlive
      simp [observe, loginProgram, loginRows, hlt]

/-- **A row that fits passes** the tests on time to live and size. -/
theorem takeBound_of_fits {now : ℕ} {found : LoginRow} (h : LoginRowFits store.ttl now found) :
    store.takeBound aes now (some found) ≠ some (.error .ttl) ∧
      store.takeBound aes now (some found) ≠ some (.error .size) := by
  have hcolumns : (consumeColumns now maxDistributedLoginStateStorageBytes store.ttl.millis
      found).withinTtl = true ∧ (consumeColumns now maxDistributedLoginStateStorageBytes
        store.ttl.millis found).withinSize = true :=
    ⟨decide_eq_true h.1, decide_eq_true h.2⟩
  simp only [takeBound, Option.map_some, hcolumns.1, hcolumns.2, Bool.not_true,
    Bool.false_eq_true, if_false]
  split
  · exact ⟨nofun, nofun⟩
  · split
    · exact ⟨nofun, nofun⟩
    · next protectedBytes hstate =>
      -- What is left fails in the decoders, with causes of their own.
      cases hopened : store.protector.openProtected aes protectedBytes with
      | none => exact ⟨nofun, nofun⟩
      | some opened =>
        cases opened with
        | error error => exact ⟨nofun, nofun⟩
        | ok encoded =>
          simp only [Option.bind_some]
          cases decodeBoundState encoded with
          | none => exact ⟨nofun, nofun⟩
          | some decoded => cases decoded <;> exact ⟨nofun, nofun⟩

end Calls

end SecureKeypad.Server
