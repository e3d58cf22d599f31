import SecureKeypad.Server.PostgresLoginStore
import SecureKeypad.Webauthn.Ceremony

/-!
# PostgreSQL One-Time Stores (`secure-webauthn-example::storage_postgres`)

Embeds the ceremony side of `PostgresWebAuthnStore` on its table of `POSTGRES_SCHEMA_SQL`: the
transaction of `insert` under the advisory lock of its namespace and the one statement of `take`.
Unlike the login store, each call brings its own time to live, the kind of a ceremony is part of
its key, and the `DELETE` leaves a ceremony that has expired.

## Main results

- `take_redeems`: a ceremony that is returned has been redeemed, for its kind and account
- `postgres_one_time_stores_run`: bound, one-time redemption and atomicity of every interleaving
  of the calls of both stores
-/

namespace SecureKeypad.Webauthn

open Rust Server ReadCommitted OneTimeRows Machine Machine.Ledger

/-! ## Configuration -/

def postgresHandleAttempts : ℕ := 8

/-- `PostgresStorageConfigError`. -/
inductive PostgresStorageConfigError where
  | invalidNamespace
  | invalidPoolSize
  | poolBuild
  | insecureConfig
deriving DecidableEq

/-- `validate_namespace` of this module. -/
def PostgresStorageConfigError.validateNamespace :
    String → Except PostgresStorageConfigError Unit := validateNamespaceOr .invalidNamespace

/-- `PostgresWebAuthnStore` without its connection pool. -/
structure PostgresWebAuthnStore where
  storageNamespace : String
  protector : WebAuthnStateProtector
  namespace_ok : PostgresStorageConfigError.validateNamespace storageNamespace = .ok ()

/-- `PostgresWebAuthnStore::build`. What the connection settings say is given by `sslRequired`,
    `connectorIsNoTls` and `poolBuilds`. -/
def PostgresWebAuthnStore.build (sslRequired connectorIsNoTls poolBuilds : Bool)
    (storageNamespace : String) (poolSize : ℕ) (requireTls : Bool) (key : Bytes)
    (hkey : key.length = 32) : Except PostgresStorageConfigError PostgresWebAuthnStore :=
  if requireTls ∧ (¬ sslRequired ∨ connectorIsNoTls) then .error .insecureConfig
  else
    match h : PostgresStorageConfigError.validateNamespace storageNamespace with
    | .error error => .error error
    | .ok () =>
      if poolSize = 0 ∨ poolSize > 256 then .error .invalidPoolSize
      else if ¬ poolBuilds then .error .poolBuild
      else .ok ⟨storageNamespace, ⟨key, storageNamespace, hkey⟩, h⟩

/-! ## The table -/

/-- The columns of `secure_keypad_webauthn_ceremonies` beside its primary key. -/
structure CeremonyRow where
  userId : Uuid
  state : Bytes
  expiresAt : ℕ
deriving DecidableEq

/-- `kind_tag`. -/
def kindTag : CeremonyKind → ℤ
  | .registration => 1
  | .authentication => 2

/-- The `CHECK` constraints of the table, whose key is `namespace`, `handle` and `kind`. -/
def ceremonyRowOk (key : String × Bytes × ℤ) (row : CeremonyRow) : Bool :=
  (1 ≤ (asBytes key.1).length && (asBytes key.1).length ≤ 64) &&
  -- `namespace ~ '^[A-Za-z0-9._-]+$'`
  (key.1 ≠ "" && (asBytes key.1).all isNamespaceByte) &&
  key.2.1.length = 32 &&
  (key.2.2 = 1 || key.2.2 = 2) &&
  (1 ≤ row.state.length && row.state.length ≤ 131128)

/-- Where the stores keep their ceremonies. -/
def ceremonyRows :
    Layout String (CeremonyKind × LoginStateHandle) (String × Bytes × ℤ) CeremonyRow String where
  space key := key.1
  key storageNamespace id := (storageNamespace, id.2.bytes, kindTag id.1)
  lock storageNamespace := storageNamespace ++ ":ceremonies"
  expiresAt := CeremonyRow.expiresAt
  takes now row := row.expiresAt > now
  space_key _ _ := rfl
  lock_injective _ _ h := (String.append_left_inj _).mp h

/-! ## The calls -/

/-- A call of a store, with the monotonic clock, the nonce and the handles an `insert` reads. -/
inductive CeremonyCall where
  | insert (store : PostgresWebAuthnStore) (kind : CeremonyKind) (userId : Uuid) (state : Bytes)
      (ttl instantMax instant : ℕ) (nonce : GcmNonce) (draw : ℕ → LoginStateHandle)
  | take (store : PostgresWebAuthnStore) (kind : CeremonyKind) (handle : LoginStateHandle)

namespace PostgresWebAuthnStore

variable (aes : Aes256Gcm) (store : PostgresWebAuthnStore)

/-- The record `insert` stores, and its time to live in milliseconds. -/
def protectedRecord (kind : CeremonyKind) (userId : Uuid) (state : Bytes)
    (ttl instantMax instant : ℕ) (nonce : GcmNonce) : Except CeremonyStoreError (Bytes × ℕ) :=
  if state.isEmpty then .error .invalidState
  else if state.length > maxCeremonyStateBytes then .error .stateTooLarge
  else do
    let millis ← validateBackendTtl instantMax instant ttl
    if millis ≥ 2 ^ 63 then .error .invalidTtl
    else
      let encoded ← encodeCeremonyRecord kind userId state
      let protectedBytes ← store.protector.sealRecord aes nonce encoded
      .ok (protectedBytes, millis)

/-- The `RETURNING` columns of `POSTGRES_CEREMONY_CONSUME_SQL` on a removed row. -/
def ceremonyColumns (tag : ℤ) (maxBytes : ℕ) (row : CeremonyRow) : ℤ × Uuid × Option Bytes :=
  (tag, row.userId, if row.state.length ≤ maxBytes then some row.state else none)

/-- `take` behind its statement, which removes no row of another kind. -/
def take (kind : CeremonyKind) (row : Option CeremonyRow) :
    Except CeremonyStoreError (Option CeremonyState) :=
  match row.map (ceremonyColumns (kindTag kind) maxProtectedCeremonyRecordBytes) with
  | none => .ok none
  | some (_, _, none) => .error .invalidState
  | some (storedKind, userId, some protectedBytes) =>
    if storedKind ≠ kindTag kind then .ok none
    else do
      let encoded ← store.protector.openRecord aes protectedBytes
      let state ← decodeCeremonyRecord encoded
      if state.kind ≠ kind ∨ state.userId ≠ userId then .error .invalidState
      else .ok (some state)

end PostgresWebAuthnStore

/-- The statements of `insert` and `take`. -/
def ceremonyProgram (aes : Aes256Gcm) : CeremonyCall →
    OneTimeRows.Call String (CeremonyKind × LoginStateHandle) CeremonyRow CeremonyStoreError
  | .insert store kind userId state ttl instantMax instant nonce draw =>
    match store.protectedRecord aes kind userId state ttl instantMax instant nonce with
    | .error error => .refuse error
    | .ok (protectedBytes, millis) =>
      .insert
        { space := store.storageNamespace
          -- `i64::try_from(MAX_PENDING_CEREMONIES).unwrap_or(i64::MAX)`
          capacity := min maxPendingCeremonies (2 ^ 63 - 1)
          rounds := postgresHandleAttempts
          draw := fun i => (kind, draw i)
          row := fun now => ⟨userId, protectedBytes, now + millis * 1000⟩
          full := .capacityReached
          collision := .handleCollision }
  | .take store kind handle => .consume store.storageNamespace (kind, handle)

/-- What a call of a store answers. -/
abbrev CeremonyAnswer := Answer (CeremonyKind × LoginStateHandle) CeremonyRow CeremonyStoreError

/-- A database whose clients call the stores. -/
abbrev CeremonyDatabase := Db (String × Bytes × ℤ) CeremonyRow String CeremonyAnswer CeremonyCall

/-- One step of the database. -/
abbrev ceremonyDatabaseStep (aes : Aes256Gcm) : CeremonyDatabase → Input CeremonyCall →
    Output CeremonyCall CeremonyAnswer × CeremonyDatabase :=
  databaseStep ceremonyRows (ceremonyProgram aes) ceremonyRowOk CeremonyStoreError.unavailable

/-- **A ceremony that is returned has been redeemed**, for its kind and its account. -/
theorem take_redeems {aes : Aes256Gcm} {store : PostgresWebAuthnStore} {kind : CeremonyKind}
    {handle : LoginStateHandle} {now : ℕ} {row : Option CeremonyRow} {state : CeremonyState}
    (h : store.take aes kind row = .ok (some state))
    (htakes : ∀ found, row = some found → ceremonyRows.takes now found = true) :
    state.kind = kind ∧ ∃ found, row = some found ∧ state.userId = found.userId ∧
      observe ceremonyRows (ceremonyProgram aes) store.storageNamespace
        (.finished (.take store kind handle) now (.consumed row)) =
          .redeem (store.storageNamespace, handle.bytes, kindTag kind) found now := by
  cases row with
  | none => cases h
  | some found =>
    have hlive : now < found.expiresAt := of_decide_eq_true (htakes found rfl)
    simp only [PostgresWebAuthnStore.take, Option.map_some,
      PostgresWebAuthnStore.ceremonyColumns] at h
    split at h
    · cases h
    · cases h
    · next _ storedKind userId protectedBytes hcolumns =>
      simp only [Option.some.injEq, Prod.mk.injEq] at hcolumns
      obtain ⟨rfl, rfl, -⟩ := hcolumns
      rw [if_neg (not_not.mpr rfl)] at h
      obtain ⟨encoded, -, h⟩ := tryOp_eq_ok.mp h
      obtain ⟨decoded, -, h⟩ := tryOp_eq_ok.mp h
      split at h
      · cases h
      -- The record names the kind and the user of its row, which the code compares.
      · next hmatches =>
        cases h
        rw [not_or, not_not, not_not] at hmatches
        refine ⟨hmatches.1, found, rfl, hmatches.2, ?_⟩
        simp [observe, ceremonyProgram, ceremonyRows, hlive]

/-! ## Runs -/

/-- **The PostgreSQL one-time stores.** For every interleaving of the calls on either table, from
    a database at rest: behind each committed insert its namespace holds at most `maxEntries`
    rows, or `maxPendingCeremonies`; each inserted row is handed out at most once, under its own
    key and before its expiry, and what a call returns is such a row; a consume touches no row but
    its own; what fails leaves the table as it was. With one time to live, and no consume that
    begins before its insert has committed, `take_bound` never fails on the time to live or the
    size of a record. -/
theorem postgres_one_time_stores_run (sha256 : Bytes → Bytes) (aes : Aes256Gcm)
    (logins : LoginDatabase) (hlogins : logins.Resting) (loginInputs : List (Input LoginCall))
    (ceremonies : CeremonyDatabase) (hceremonies : ceremonies.Resting)
    (ceremonyInputs : List (Input CeremonyCall)) :
    Guarantee (loginRows sha256) (loginProgram aes) loginRowOk .unavailable logins loginInputs ∧
    (∀ (j : ℕ) input (store : PostgresOneTimeLoginStateStore) handle now row state,
      (trace (loginDatabaseStep sha256 aes) logins loginInputs)[j]? =
        some (input, .finished (.takeBound store handle) now (.consumed row)) →
      store.takeBound aes now row = some (.ok (some state)) →
      ∃ found, row = some found ∧
        observe (loginRows sha256) (loginProgram aes) store.storageNamespace
          (.finished (.takeBound store handle) now (.consumed row)) =
            .redeem (store.storageNamespace, sha256 handle.bytes) found now) ∧
    (∀ storageNamespace ttl,
      (∀ c call, .begin c call ∈ loginInputs →
        call.store.storageNamespace = storageNamespace → call.store.ttl = ttl) →
      RowsFit (loginRows sha256) (LoginRowFits ttl) storageNamespace logins.clock logins.table →
      NoEarlyConsume (loginRows sha256) (loginProgram aes) loginRowOk .unavailable logins
        loginInputs →
      ∀ (j : ℕ) input (store : PostgresOneTimeLoginStateStore) handle now row,
        (trace (loginDatabaseStep sha256 aes) logins loginInputs)[j]? =
          some (input, .finished (.takeBound store handle) now (.consumed row)) →
        store.storageNamespace = storageNamespace → store.ttl = ttl →
        store.takeBound aes now row ≠ some (.error .ttl) ∧
          store.takeBound aes now row ≠ some (.error .size)) ∧
    Guarantee ceremonyRows (ceremonyProgram aes) ceremonyRowOk .unavailable ceremonies
      ceremonyInputs ∧
    (∀ (j : ℕ) input (store : PostgresWebAuthnStore) kind handle now row state,
      (trace (ceremonyDatabaseStep aes) ceremonies ceremonyInputs)[j]? =
        some (input, .finished (.take store kind handle) now (.consumed row)) →
      store.take aes kind row = .ok (some state) →
      state.kind = kind ∧ ∃ found, row = some found ∧ state.userId = found.userId ∧
        observe ceremonyRows (ceremonyProgram aes) store.storageNamespace
          (.finished (.take store kind handle) now (.consumed row)) =
            .redeem (store.storageNamespace, handle.bytes, kindTag kind) found now) := by
  refine ⟨guarantee_run hlogins loginInputs, ?_, ?_, guarantee_run hceremonies ceremonyInputs, ?_⟩
  · intro j input store handle now row state _ hreturned
    exact takeBound_redeems hreturned
  · intro storageNamespace ttl hone hrows hearly j input store handle now row hout hspace httl
    subst hspace
    subst httl
    -- Without a row the handle was unknown, which is no error.
    cases row with
    | none => exact ⟨nofun, nofun⟩
    | some found =>
      -- Every row was inserted by a call with this lifetime, and stays within it as time goes on.
      have hinserts : ∀ c call, .begin c call ∈ loginInputs → InsertsFit (loginProgram aes)
          (LoginRowFits store.ttl) store.storageNamespace call :=
        fun c call hbegin => loginProgram_fits (hone c call hbegin)
      have hmono : ∀ now now' row, now ≤ now' → LoginRowFits store.ttl now row →
          LoginRowFits store.ttl now' row := fun _ _ _ => LoginRowFits.mono
      have hfits := consumed_fits hmono hinserts hlogins hrows hearly hout rfl
      exact takeBound_of_fits hfits
  · intro j input store kind handle now row state hout hreturned
    -- The rows a take can consume are those of its own kind.
    refine take_redeems hreturned ?_
    rintro found rfl
    exact takes_of_trace hceremonies hout

/-! ### A run of one insert and two consumes -/

/-- A store with room for one state. -/
def sampleLoginStore : PostgresOneTimeLoginStateStore :=
  ⟨"tenant-a", sampleTtl, 1, sampleProtector, rfl, Nat.one_pos, by decide⟩

def sampleInsert : LoginCall :=
  .insertBound sampleLoginStore ⟨⟨[0x61, 0x62, 0x63]⟩, [0x63], [0x73], by decide, by decide⟩
    sampleNonce fun _ => zeroHandle

/-- The insert runs through; then two consumes of its handle overlap, the second waiting for the
    row the first has locked. -/
def sampleLoginInputs : List (Input LoginCall) :=
  [.begin 0 sampleInsert, .step 0, .step 0, .step 0, .step 0, .step 0, .tick 5000000,
   .begin 1 (.takeBound sampleLoginStore zeroHandle),
   .begin 2 (.takeBound sampleLoginStore zeroHandle), .step 1, .step 2, .step 1, .step 2, .step 2]

def emptyLogins : LoginDatabase := ⟨1700000000000000, ∅, ∅⟩

def emptyCeremonies : CeremonyDatabase := ⟨1700000000000000, ∅, ∅⟩

/-- The size of the state a consume finds. -/
def foundSize : Output LoginCall LoginAnswer → Option (Option ℕ)
  | .finished _ _ (.consumed row) => some (row.map fun row => row.state.length)
  | _ => none

def insertsHandle : Output LoginCall LoginAnswer → Bool
  | .finished _ _ (.inserted _) => true
  | _ => false

def isTakeBound : LoginCall → Bool
  | .insertBound .. => false
  | .takeBound .. => true

/-- The one insert ends in the sixth step, when no consume has begun. -/
theorem sample_noEarlyConsume :
    NoEarlyConsume (loginRows zeroSha256) (loginProgram sampleAes) loginRowOk .unavailable
      emptyLogins sampleLoginInputs := by
  intro j input call now h job hout hjob c s n' h' hs hconsume
  have hends : (trace (loginDatabaseStep zeroSha256 sampleAes) emptyLogins
      sampleLoginInputs).map (fun p => insertsHandle p.2) =
        List.replicate 5 false ++ true :: List.replicate 8 false := by decide +kernel
  have hj : (List.replicate 5 false ++ true :: List.replicate 8 false)[j]? = some true := by
    rw [← hends, List.getElem?_map, hout]
    rfl
  have hfive : j = 5 := by
    have hlt : j < 14 := (List.getElem?_eq_some_iff.mp hj).1
    interval_cases j <;> first | rfl | cases hj
  subst hfive
  have hnone : (run (loginDatabaseStep zeroSha256 sampleAes) emptyLogins
      (sampleLoginInputs.take 5)).sessions.entries.all
        (fun entry => !isTakeBound entry.2.call) = true := by decide +kernel
  have hinsert := List.all_eq_true.mp hnone _ (KeyedMap.lookup_eq_some_iff.mp hs)
  cases hcall : s.call with
  | insertBound store state nonce draw =>
    rw [hcall] at hconsume
    simp only [loginProgram] at hconsume
    split at hconsume <;> cases hconsume
  | takeBound store handle =>
    rw [hcall] at hinsert
    cases hinsert

/-- The first consume finds the state, the second waits and finds nothing. -/
theorem postgres_one_time_stores_run_sample :
    (trace (loginDatabaseStep zeroSha256 sampleAes) emptyLogins sampleLoginInputs).map
        (fun p => foundSize p.2) =
      List.replicate 11 none ++ [some (some 53), none, some none] ∧
    RedeemsOnce (events (fun _ out => observe (loginRows zeroSha256) (loginProgram sampleAes)
      "tenant-a" out) (loginDatabaseStep zeroSha256 sampleAes) emptyLogins sampleLoginInputs) ∧
    ∀ (j : ℕ) input handle now row,
      (trace (loginDatabaseStep zeroSha256 sampleAes) emptyLogins sampleLoginInputs)[j]? =
        some (input, .finished (.takeBound sampleLoginStore handle) now (.consumed row)) →
      sampleLoginStore.takeBound sampleAes now row ≠ some (.error .ttl) ∧
        sampleLoginStore.takeBound sampleAes now row ≠ some (.error .size) := by
  have hrun := postgres_one_time_stores_run zeroSha256 sampleAes emptyLogins (fun _ => rfl)
    sampleLoginInputs emptyCeremonies (fun _ => rfl) []
  refine ⟨by decide +kernel, hrun.1.once "tenant-a" fun _ _ => rfl, ?_⟩
  intro j input handle now row hout
  refine hrun.2.2.1 "tenant-a" sampleLoginStore.ttl ?_ ?_ sample_noEarlyConsume j input
    sampleLoginStore handle now row hout rfl rfl
  · intro c call hbegin _
    simp only [sampleLoginInputs, List.mem_cons, Input.begin.injEq, reduceCtorEq, false_or,
      List.not_mem_nil, or_false] at hbegin
    rcases hbegin with ⟨-, rfl⟩ | ⟨-, rfl⟩ | ⟨-, rfl⟩ <;> rfl
  · intro key row _ hlookup
    cases hlookup

end SecureKeypad.Webauthn
