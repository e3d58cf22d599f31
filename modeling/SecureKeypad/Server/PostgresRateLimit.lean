import SecureKeypad.Library.Machine
import SecureKeypad.Library.Sql
import SecureKeypad.Server.RateLimitRuns
import SecureKeypad.Server.StorageNames

/-!
# The PostgreSQL Rate Limiter (`secure-auth-server::rate_limit_postgres`)

Embeds the transaction `PostgresRateLimiter::check` runs under the advisory lock of its
namespace, on the table of `POSTGRES_RATE_LIMIT_SCHEMA_SQL`. The lock serialises the checks of a
namespace, so a run is a sequence of transactions, each with its `now()` in microseconds. Rows of
other namespaces may be anything. SHA-256 comes from the `sha2` crate and is a parameter, and
`EXTRACT(EPOCH …)` is the exact `numeric` of PostgreSQL 14 and later.

`check` answers `Unavailable` for every failure the database or a conversion reports; the model
keeps the cause, so that a cause can be shown never to occur.

## Main results

- `transaction_eq`: a transaction as one case analysis of the open row of its key
- `PgSim.check`: a check is a check of the in-memory limiter at the transaction's time
- `postgres_rate_limiter_run`: the same over whole runs
-/

namespace SecureKeypad.Server

open Rust Machine

/-! ## Configuration -/

/-- `PostgresRateLimitConfigError`. -/
inductive PostgresRateLimitConfigError where
  | invalidNamespace
  | invalidPoolSize
  | invalidCapacity
  | invalidPolicy
  | insecureConfig
  | poolBuild
deriving DecidableEq

namespace PostgresRateLimitConfigError

/-- `validate_namespace` of this module. -/
def validateNamespace : String → Except PostgresRateLimitConfigError Unit :=
  validateNamespaceOr .invalidNamespace

/-- `validate_pool_size`. -/
def validatePoolSize (poolSize : ℕ) : Except PostgresRateLimitConfigError Unit :=
  if poolSize = 0 ∨ poolSize > 256 then .error .invalidPoolSize else .ok ()

/-- `policy_window_millis` of this module. -/
def policyWindowMillis (policy : RateLimitPolicy) : Except PostgresRateLimitConfigError ℕ :=
  let millis := policy.window / 1000000
  if millis ≥ 2 ^ 64 then .error .invalidPolicy
  else if policy.window > maxDistributedRateLimitWindow then .error .invalidPolicy
  else if millis < 2 ^ 63 ∧ millis > 0 then .ok millis
  else .error .invalidPolicy

end PostgresRateLimitConfigError

/-- `PostgresRateLimiter` without its connection pool. -/
structure PostgresRateLimiter where
  storageNamespace : String
  policy : RateLimitPolicy
  windowMillis : ℕ
  maxKeys : ℕ
  namespace_ok : PostgresRateLimitConfigError.validateNamespace storageNamespace = .ok ()
  windowMillis_eq : PostgresRateLimitConfigError.policyWindowMillis policy = .ok windowMillis
  maxKeys_pos : 0 < maxKeys
  maxKeys_le : maxKeys ≤ maxInMemoryRateKeys

namespace PostgresRateLimiter

/-- `PostgresRateLimiter::build`. What the connection settings say is given by `sslRequired`,
    `connectorIsNoTls` and `poolBuilds`. -/
def build (sslRequired connectorIsNoTls poolBuilds : Bool) (storageNamespace : String)
    (poolSize maxKeys : ℕ) (policy : RateLimitPolicy) (requireTls : Bool) :
    Except PostgresRateLimitConfigError PostgresRateLimiter :=
  if requireTls ∧ (¬ sslRequired ∨ connectorIsNoTls) then .error .insecureConfig
  else
    match hnamespace : PostgresRateLimitConfigError.validateNamespace storageNamespace with
    | .error error => .error error
    | .ok () =>
      match PostgresRateLimitConfigError.validatePoolSize poolSize with
      | .error error => .error error
      | .ok () =>
        if hkeys : maxKeys = 0 ∨ maxKeys > maxInMemoryRateKeys then .error .invalidCapacity
        else
          match hwindow : PostgresRateLimitConfigError.policyWindowMillis policy with
          | .error error => .error error
          | .ok windowMillis =>
            if ¬ poolBuilds then .error .poolBuild
            else
              .ok { storageNamespace, policy, windowMillis, maxKeys
                    namespace_ok := hnamespace
                    windowMillis_eq := hwindow
                    maxKeys_pos := capacity_pos hkeys
                    maxKeys_le := capacity_le hkeys }

end PostgresRateLimiter

/-! ## The table -/

/-- The columns of `secure_keypad_rate_limit_windows` beside its primary key, with `expires_at`
    in microseconds. -/
structure WindowRow where
  attempts : ℤ
  expiresAt : ℕ
deriving DecidableEq

/-- `secure_keypad_rate_limit_windows`, by `namespace` and `key_hash`. -/
abbrev WindowTable := KeyedMap (String × Bytes) WindowRow

/-- The `CHECK` constraints of the table. -/
def windowRowOk (key : String × Bytes) (row : WindowRow) : Bool :=
  (1 ≤ (asBytes key.1).length && (asBytes key.1).length ≤ 64) &&
  -- `namespace ~ '^[A-Za-z0-9._-]+$'`
  (key.1 ≠ "" && (asBytes key.1).all isNamespaceByte) &&
  key.2.length = 32 &&
  (1 ≤ row.attempts && row.attempts ≤ 4294967295)

/-! ## A check -/

/-- `validate_persisted_attempts`. -/
def validatePersistedAttempts (attempts : ℤ) : Except RateLimitError ℕ :=
  if attempts < 1 then .error .unavailable
  else
    match u32TryFrom attempts with
    | some attempts => .ok attempts
    | none => .error .unavailable

/-- `i64::try_from` on a `usize`. -/
def i64TryFrom (n : ℕ) : Option ℤ := if n < 2 ^ 63 then some n else none

/-- Why a check fails. -/
inductive CheckFailure where
  | invalidKey
  | capacityReached
  /-- The database refuses the new or updated row. -/
  | constraint (violation : Sql.Violation)
  /-- `validate_persisted_attempts` refuses the stored count. -/
  | persistedAttempts
  /-- `retry_after` refuses the milliseconds left. -/
  | retryMillis
  /-- `checked_add` on the count overflows. -/
  | attemptsOverflow
  /-- `checked_sub` of the count underflows. -/
  | remainingUnderflow
deriving DecidableEq, Repr

/-- The error `check` returns. -/
def CheckFailure.toError : CheckFailure → RateLimitError
  | .invalidKey => .invalidKey
  | .capacityReached => .capacityReached
  | .constraint _ => .unavailable
  | .persistedAttempts => .unavailable
  | .retryMillis => .unavailable
  | .attemptsOverflow => .unavailable
  | .remainingUnderflow => .unavailable

/-- `GREATEST(1, CEIL(EXTRACT(EPOCH FROM (expires_at - now())) * 1000))::BIGINT`. -/
def retryMillis (now expiresAt : ℕ) : ℤ := max 1 (((expiresAt : ℤ) - now + 999) / 1000)

namespace PostgresRateLimiter

/-- The rows of the namespace whose window is over. -/
def isExpired (limiter : PostgresRateLimiter) (now : ℕ) (key : String × Bytes)
    (row : WindowRow) : Bool := key.1 = limiter.storageNamespace && row.expiresAt ≤ now

/-- The rows of the namespace whose window is open. -/
def isActive (limiter : PostgresRateLimiter) (now : ℕ) (key : String × Bytes)
    (row : WindowRow) : Bool := key.1 = limiter.storageNamespace && now < row.expiresAt

/-- `DELETE … WHERE namespace = $1 AND expires_at <= now()`. -/
def purged (limiter : PostgresRateLimiter) (now : ℕ) (table : WindowTable) : WindowTable :=
  Sql.deleteWhere (limiter.isExpired now) table

/-- The transaction of `check` under the advisory lock. Whatever returns before a commit drops
    the transaction. -/
def transaction (limiter : PostgresRateLimiter) (now : ℕ) (keyHash : Bytes)
    (table : WindowTable) : Sql.TxEnd WindowTable (Except CheckFailure RateLimitDecision) :=
  let maxAttempts := limiter.policy.maxAttempts
  let pk := (limiter.storageNamespace, keyHash)
  let table := limiter.purged now table
  match (table.lookup pk).filter (limiter.isActive now pk) with
  | some row =>
    match validatePersistedAttempts row.attempts with
    | .error _ => .rolledBack (.error .persistedAttempts)
    | .ok attempts =>
      if attempts ≥ maxAttempts then
        match retryAfter (retryMillis now row.expiresAt) with
        | .error _ => .rolledBack (.error .retryMillis)
        | .ok retry => .committed table (.ok (.limited retry))
      else
        match checkedAddU32 attempts 1 with
        | none => .rolledBack (.error .attemptsOverflow)
        | some nextAttempts =>
          match Sql.updateRow windowRowOk table pk ({ · with attempts := nextAttempts }) with
          | .error violation => .rolledBack (.error (.constraint violation))
          | .ok table =>
            -- The subtraction comes after the commit.
            match checkedSubU32 maxAttempts nextAttempts with
            | none => .committed table (.error .remainingUnderflow)
            | some remaining => .committed table (.ok (.allowed remaining))
  | none =>
    let activeKeys : ℤ := Sql.countWhere (limiter.isActive now) table
    if activeKeys ≥ (i64TryFrom limiter.maxKeys).getD (2 ^ 63 - 1) then
      .rolledBack (.error .capacityReached)
    else
      match Sql.insertRow windowRowOk table pk ⟨1, now + limiter.windowMillis * 1000⟩ with
      | .error violation => .rolledBack (.error (.constraint violation))
      | .ok table => .committed table (.ok (.allowed (subU32 maxAttempts 1)))

/-- `PostgresRateLimiter::check` once a connection is at hand, at transaction time `now`. -/
def check (sha256 : Bytes → List.Vector UInt8 32) (limiter : PostgresRateLimiter) (now : ℕ)
    (key : Bytes) (table : WindowTable) : Except CheckFailure RateLimitDecision × WindowTable :=
  if key.isEmpty ∨ key.length > maxRateLimitKeyBytes then (.error .invalidKey, table)
  else (limiter.transaction now (sha256 key).toList table).settle table

/-! ## What a transaction does -/

/-- The row of a key while its window is open. -/
def openRow (limiter : PostgresRateLimiter) (now : ℕ) (table : WindowTable) (keyHash : Bytes) :
    Option WindowRow :=
  (table.lookup (limiter.storageNamespace, keyHash)).filter fun row => now < row.expiresAt

section Transaction

variable {limiter : PostgresRateLimiter} {now : ℕ} {table : WindowTable} {keyHash : Bytes}
  {row : WindowRow}

theorem openRow_eq_some :
    limiter.openRow now table keyHash = some row ↔
      table.lookup (limiter.storageNamespace, keyHash) = some row ∧ now < row.expiresAt := by
  rw [openRow, Option.filter_eq_some_iff, decide_eq_true_eq]

theorem lookup_purged :
    (limiter.purged now table).lookup (limiter.storageNamespace, keyHash) = some row ↔
      table.lookup (limiter.storageNamespace, keyHash) = some row ∧ now < row.expiresAt := by
  rw [purged, Sql.lookup_deleteWhere]
  simp [isExpired]

/-- The `DELETE` leaves the open row and nothing else under a key. -/
theorem lookup_purged_eq_openRow :
    (limiter.purged now table).lookup (limiter.storageNamespace, keyHash) =
      limiter.openRow now table keyHash := by
  apply Option.ext
  intro row
  rw [lookup_purged, openRow_eq_some]

@[simp] theorem openRow_purged :
    limiter.openRow now (limiter.purged now table) keyHash =
      limiter.openRow now table keyHash := by
  apply Option.ext
  intro row
  rw [openRow_eq_some, lookup_purged, openRow_eq_some]
  exact ⟨fun h => h.1, fun h => ⟨h, h.2⟩⟩

theorem openRow_insert (keyHash' : Bytes) (hopen : now < row.expiresAt) :
    limiter.openRow now (table.insert (limiter.storageNamespace, keyHash) row) keyHash' =
      if keyHash' = keyHash then some row else limiter.openRow now table keyHash' := by
  rw [openRow, KeyedMap.lookup_insert_ite]
  by_cases heq : keyHash' = keyHash
  · simp [heq, hopen]
  · simp [heq, openRow]

/-- The rows an intact table may hold in the limiter's namespace. -/
def RowsInRange (limiter : PostgresRateLimiter) (table : WindowTable) : Prop :=
  ∀ keyHash row, table.lookup (limiter.storageNamespace, keyHash) = some row →
    1 ≤ row.attempts ∧ row.attempts ≤ limiter.policy.maxAttempts

/-- The limiter's own rows pass the constraints of the schema. -/
theorem windowRowOk_of_range (hhash : keyHash.length = 32) (hpos : 1 ≤ row.attempts)
    (hmax : row.attempts ≤ limiter.policy.maxAttempts) :
    windowRowOk (limiter.storageNamespace, keyHash) row = true := by
  obtain ⟨hnonempty, hlength, hbytes⟩ := validateNamespaceOr_eq_ok limiter.namespace_ok
  have hne : limiter.storageNamespace ≠ "" := by
    intro h
    rw [h] at hnonempty
    cases hnonempty
  have hone : 1 ≤ (asBytes limiter.storageNamespace).length := by
    rw [Nat.one_le_iff_ne_zero, asBytes]
    simpa using hne
  have hu32 : row.attempts ≤ 4294967295 := by
    have := limiter.policy.maxAttempts_lt
    omega
  simp only [windowRowOk, Bool.and_eq_true, decide_eq_true_eq, hhash, hpos, hu32, hone, hbytes,
    ne_eq, hne, not_false_eq_true, and_true, true_and]
  exact hlength

theorem validatePersistedAttempts_eq_ok {attempts : ℤ} (hpos : 1 ≤ attempts)
    (hmax : attempts < 2 ^ 32) : validatePersistedAttempts attempts = .ok attempts.toNat := by
  have hnonneg : 0 ≤ attempts := by omega
  rw [validatePersistedAttempts, if_neg (not_lt.mpr hpos), u32TryFrom, if_pos ⟨hnonneg, hmax⟩]

theorem retryMillis_pos (now expiresAt : ℕ) : 0 < retryMillis now expiresAt :=
  lt_of_lt_of_le one_pos (le_max_left _ _)

/-- `max_keys` is small enough to be compared as an `i64`. -/
theorem i64TryFrom_maxKeys :
    (i64TryFrom limiter.maxKeys).getD (2 ^ 63 - 1) = (limiter.maxKeys : ℤ) := by
  have hle : limiter.maxKeys ≤ 100000 := limiter.maxKeys_le
  have hlt : limiter.maxKeys < 2 ^ 63 := by omega
  rw [i64TryFrom, if_pos hlt, Option.getD_some]

/-- **A transaction on an intact table.** Of the failures only `CapacityReached` is left, and it
    is the one end that does not commit. -/
theorem transaction_eq (now : ℕ) (hrange : limiter.RowsInRange table)
    (hhash : keyHash.length = 32) :
    limiter.transaction now keyHash table =
      match limiter.openRow now table keyHash with
      | some row =>
        if limiter.policy.maxAttempts ≤ row.attempts.toNat then
          .committed (limiter.purged now table)
            (.ok (.limited ((retryMillis now row.expiresAt).toNat * 1000000)))
        else
          .committed ((limiter.purged now table).insert (limiter.storageNamespace, keyHash)
              ⟨row.attempts + 1, row.expiresAt⟩)
            (.ok (.allowed (limiter.policy.maxAttempts - (row.attempts.toNat + 1))))
      | none =>
        if limiter.maxKeys ≤ Sql.countWhere (limiter.isActive now) (limiter.purged now table) then
          .rolledBack (.error .capacityReached)
        else
          .committed ((limiter.purged now table).insert (limiter.storageNamespace, keyHash)
              ⟨1, now + limiter.windowMillis * 1000⟩)
            (.ok (.allowed (limiter.policy.maxAttempts - 1))) := by
  have hmax := limiter.policy.maxAttempts_lt
  have hpos := limiter.policy.maxAttempts_pos
  -- What the second statement selects is the row that is open.
  have hselect : ((limiter.purged now table).lookup (limiter.storageNamespace, keyHash)).filter
      (limiter.isActive now (limiter.storageNamespace, keyHash)) =
        limiter.openRow now table keyHash := by
    rw [lookup_purged_eq_openRow]
    apply Option.ext
    intro row
    rw [Option.filter_eq_some_iff, openRow_eq_some]
    simp only [isActive, decide_true, Bool.true_and, decide_eq_true_eq, and_assoc, and_self]
  unfold transaction
  simp only [hselect]
  cases hrow : limiter.openRow now table keyHash with
  | none =>
    -- No open row: a window is opened, if there is room for one.
    have hnone := lookup_purged_eq_openRow.trans hrow
    have hok : windowRowOk (limiter.storageNamespace, keyHash)
        ⟨1, now + limiter.windowMillis * 1000⟩ = true :=
      windowRowOk_of_range hhash (le_refl 1) (by show (1 : ℤ) ≤ _; omega)
    have hone : subU32 limiter.policy.maxAttempts 1 = limiter.policy.maxAttempts - 1 :=
      subU32_eq hmax hpos
    simp only [i64TryFrom_maxKeys, ge_iff_le, Nat.cast_le, Sql.insertRow_eq_ok hok hnone, hone]
  | some row =>
    -- An open row: its counter is in range, so no conversion fails.
    obtain ⟨hlookup, hopen⟩ := openRow_eq_some.mp hrow
    obtain ⟨hone, hle⟩ := hrange keyHash row hlookup
    have hvalid : validatePersistedAttempts row.attempts = .ok row.attempts.toNat :=
      validatePersistedAttempts_eq_ok hone (by omega)
    have hretry : retryAfter (retryMillis now row.expiresAt) =
        .ok ((retryMillis now row.expiresAt).toNat * 1000000) := by
      have hmillis := retryMillis_pos now row.expiresAt
      rw [retryAfter, if_neg (not_lt.mpr hmillis.le), if_neg hmillis.ne']
    simp only [hvalid, hretry, ge_iff_le]
    split
    · rfl
    · next hbelow =>
      -- Below the limit the counter is raised, and the result is still in range.
      have hcast : ((row.attempts.toNat + 1 : ℕ) : ℤ) = row.attempts + 1 := by omega
      have hadd : checkedAddU32 row.attempts.toNat 1 = some (row.attempts.toNat + 1) := by
        rw [checkedAddU32, if_pos (by omega)]
      have hsub : checkedSubU32 limiter.policy.maxAttempts (row.attempts.toNat + 1) =
          some (limiter.policy.maxAttempts - (row.attempts.toNat + 1)) := by
        rw [checkedSubU32, if_pos (by omega)]
      have hok : windowRowOk (limiter.storageNamespace, keyHash)
          ⟨row.attempts + 1, row.expiresAt⟩ = true :=
        windowRowOk_of_range hhash (by show 1 ≤ row.attempts + 1; omega)
          (by show row.attempts + 1 ≤ _; omega)
      have hupdate : Sql.updateRow windowRowOk (limiter.purged now table)
          (limiter.storageNamespace, keyHash)
          (fun stored => { stored with attempts := row.attempts + 1 }) =
            .ok ((limiter.purged now table).insert (limiter.storageNamespace, keyHash)
              ⟨row.attempts + 1, row.expiresAt⟩) :=
        Sql.updateRow_eq_ok (lookup_purged_eq_openRow.trans hrow) hok
      simp only [hadd, hcast, hsub, hupdate]

end Transaction

end PostgresRateLimiter

/-! ## Simulation by the in-memory limiter -/

/-- A transaction time as an instant of the in-memory limiter. -/
def instantOfMicros (micros : ℕ) : ℕ := micros * 1000

/-- A duration rounded up to a millisecond. -/
def roundUpToMillis (duration : ℕ) : ℕ := (duration + 999999) / 1000000 * 1000000

/-- A decision with its retry time rounded up to a millisecond. -/
def RateLimitDecision.roundRetry : RateLimitDecision → RateLimitDecision
  | .allowed remaining => .allowed remaining
  | .limited retryAfter => .limited (roundUpToMillis retryAfter)

/-- A row and the entry it stands for. -/
structure RowOf (window : ℕ) (row : WindowRow) (entry : WindowEntry) : Prop where
  attempts_eq : row.attempts = entry.attempts
  expiresAt_eq : instantOfMicros row.expiresAt = entry.startedAt + window

/-- The table and the in-memory limiter know the same open windows of the used keys. Windows that
    are over may differ: `CapacityReached` rolls the `DELETE` back but keeps the purge. -/
structure PgSim (sha256 : Bytes → List.Vector UInt8 32) (limiter : PostgresRateLimiter)
    (used : Set Bytes) (now : ℕ) (table : WindowTable) (memory : InMemoryRateLimiter) :
    Prop where
  healthy : memory.Healthy (instantOfMicros now)
  policy_eq : memory.policy = limiter.policy
  maxKeys_eq : memory.maxKeys = limiter.maxKeys
  range : limiter.RowsInRange table
  entries_used : ∀ key entry, memory.entries.value.lookup key = some entry → key ∈ used
  rows_used : ∀ keyHash row, limiter.openRow now table keyHash = some row →
    ∃ key ∈ used, (sha256 key).toList = keyHash
  agree : ∀ key ∈ used, Option.Rel (RowOf limiter.policy.window)
    (limiter.openRow now table (sha256 key).toList)
    ((memory.openEntries (instantOfMicros now)).lookup key)

/-- A policy of whole milliseconds. -/
def PostgresRateLimiter.WholeMillis (limiter : PostgresRateLimiter) : Prop :=
  limiter.policy.window = limiter.windowMillis * 1000000

/-- The retry time of a row is the rest of its entry's window, rounded up. -/
theorem RowOf.retry {window now : ℕ} {row : WindowRow} {entry : WindowEntry}
    (h : RowOf window row entry) (hopen : now < row.expiresAt)
    (hstarted : entry.startedAt ≤ instantOfMicros now) :
    (retryMillis now row.expiresAt).toNat * 1000000 =
      roundUpToMillis (window - (instantOfMicros now - entry.startedAt)) := by
  have hexpires := h.expiresAt_eq
  unfold instantOfMicros at *
  have hrest : window - (now * 1000 - entry.startedAt) = (row.expiresAt - now) * 1000 := by omega
  have hmillis : retryMillis now row.expiresAt = ((row.expiresAt - now + 999) / 1000 : ℕ) := by
    unfold retryMillis
    omega
  have hround : ((row.expiresAt - now) * 1000 + 999999) / 1000000 =
      (row.expiresAt - now + 999) / 1000 := by omega
  simp only [hrest, hmillis, Int.toNat_natCast, roundUpToMillis, hround]

/-- A row is open exactly as long as its entry. -/
theorem RowOf.open_iff {window now : ℕ} {row : WindowRow} {entry : WindowEntry}
    (h : RowOf window row entry) :
    now < row.expiresAt ↔ instantOfMicros now < entry.startedAt + window := by
  rw [← h.expiresAt_eq]
  unfold instantOfMicros
  omega

namespace PgSim

variable {sha256 : Bytes → List.Vector UInt8 32} {limiter : PostgresRateLimiter}
  {used : Set Bytes} {now : ℕ} {table : WindowTable} {memory : InMemoryRateLimiter}

/-- Time passing closes the same windows on both sides. -/
theorem later (h : PgSim sha256 limiter used now table memory) {t : ℕ} (hle : now ≤ t) :
    PgSim sha256 limiter used t table memory := by
  have hinstant : instantOfMicros now ≤ instantOfMicros t := Nat.mul_le_mul_right _ hle
  have hhealthy := h.healthy.mono hinstant
  -- What is open at `t` is what is open now and has not closed by then.
  have hrow : ∀ keyHash, limiter.openRow t table keyHash =
      (limiter.openRow now table keyHash).filter fun row => t < row.expiresAt := by
    intro keyHash
    apply Option.ext
    intro row
    rw [Option.filter_eq_some_iff, PostgresRateLimiter.openRow_eq_some,
      PostgresRateLimiter.openRow_eq_some, decide_eq_true_eq]
    exact ⟨fun hopen => ⟨⟨hopen.1, hle.trans_lt hopen.2⟩, hopen.2⟩,
      fun hopen => ⟨hopen.1.1, hopen.2⟩⟩
  have hentry : ∀ key, (memory.openEntries (instantOfMicros t)).lookup key =
      ((memory.openEntries (instantOfMicros now)).lookup key).filter
        fun entry => instantOfMicros t < entry.startedAt + limiter.policy.window := by
    intro key
    apply Option.ext
    intro entry
    rw [Option.filter_eq_some_iff, hhealthy.lookup_openEntries (le_refl _),
      h.healthy.lookup_openEntries (le_refl _), decide_eq_true_eq, h.policy_eq]
    exact ⟨fun hopen => ⟨⟨hopen.1, hinstant.trans_lt hopen.2⟩, hopen.2⟩,
      fun hopen => ⟨hopen.1.1, hopen.2⟩⟩
  refine ⟨hhealthy, h.policy_eq, h.maxKeys_eq, h.range, h.entries_used, ?_, ?_⟩
  · intro keyHash row hopen
    rw [hrow, Option.filter_eq_some_iff] at hopen
    exact h.rows_used keyHash row hopen.1
  · intro key hkey
    rw [hrow, hentry]
    apply KeyedMap.rel_filter (h.agree key hkey)
    intro row entry hrowOf
    exact decide_eq_decide.mpr hrowOf.open_iff

/-- An open entry has its row. -/
theorem row_of_entry (h : PgSim sha256 limiter used now table memory) {key : Bytes}
    (hkey : key ∈ used) {entry : WindowEntry}
    (hentry : (memory.openEntries (instantOfMicros now)).lookup key = some entry) :
    ∃ row, limiter.openRow now table (sha256 key).toList = some row ∧
      RowOf limiter.policy.window row entry := by
  have hagree := h.agree key hkey
  rw [hentry] at hagree
  cases hrow : limiter.openRow now table (sha256 key).toList with
  | none =>
    rw [hrow] at hagree
    cases hagree
  | some row =>
    rw [hrow] at hagree
    cases hagree with
    | some hrowOf => exact ⟨row, rfl, hrowOf⟩

/-- An open row has its entry. -/
theorem entry_of_row (h : PgSim sha256 limiter used now table memory) {key : Bytes}
    (hkey : key ∈ used) {row : WindowRow}
    (hrow : limiter.openRow now table (sha256 key).toList = some row) :
    ∃ entry, (memory.openEntries (instantOfMicros now)).lookup key = some entry := by
  have hagree := h.agree key hkey
  rw [hrow] at hagree
  cases hentry : (memory.openEntries (instantOfMicros now)).lookup key with
  | none =>
    rw [hentry] at hagree
    cases hagree
  | some entry => exact ⟨entry, rfl⟩

theorem no_row (h : PgSim sha256 limiter used now table memory) {key : Bytes} (hkey : key ∈ used)
    (hentry : (memory.openEntries (instantOfMicros now)).lookup key = none) :
    limiter.openRow now table (sha256 key).toList = none := by
  apply Option.eq_none_iff_forall_ne_some.mpr
  intro row hrow
  obtain ⟨entry, hsome⟩ := h.entry_of_row hkey hrow
  rw [hentry] at hsome
  cases hsome

/-- The two count the same number of open windows. -/
theorem countWhere_eq (h : PgSim sha256 limiter used now table memory)
    (hsha : Set.InjOn sha256 used) :
    Sql.countWhere (limiter.isActive now) (limiter.purged now table) =
      (memory.openEntries (instantOfMicros now)).size := by
  have hused : ∀ key entry, (memory.openEntries (instantOfMicros now)).lookup key = some entry →
      key ∈ used := fun key entry hentry =>
    h.entries_used key entry ((h.healthy.lookup_openEntries (le_refl _)).mp hentry).1
  -- The digest carries the open keys of the memory onto the open rows of the table.
  apply KeyedMap.size_eq_of_injOn fun key => (limiter.storageNamespace, (sha256 key).toList)
  · intro a ha b hb hab
    obtain ⟨entry, ha⟩ := KeyedMap.mem_keys_iff_lookup.mp ha
    obtain ⟨entry', hb⟩ := KeyedMap.mem_keys_iff_lookup.mp hb
    have hdigest : sha256 a = sha256 b := List.Vector.toList_injective (Prod.mk.inj hab).2
    exact hsha (hused a entry ha) (hused b entry' hb) hdigest
  · intro ⟨storageNamespace, keyHash⟩
    rw [KeyedMap.mem_keys_iff_lookup]
    constructor
    · intro ⟨row, hrow⟩
      rw [KeyedMap.lookup_retain_eq_some] at hrow
      obtain ⟨hlookup, hactive⟩ := hrow
      simp only [PostgresRateLimiter.isActive, Bool.and_eq_true, decide_eq_true_eq] at hactive
      obtain ⟨rfl, -⟩ := hactive
      rw [PostgresRateLimiter.lookup_purged_eq_openRow] at hlookup
      obtain ⟨key, hkey, rfl⟩ := h.rows_used keyHash row hlookup
      exact ⟨key, KeyedMap.mem_keys_iff_lookup.mpr (h.entry_of_row hkey hlookup), rfl⟩
    · intro ⟨key, hkey, hpair⟩
      obtain ⟨rfl, rfl⟩ := Prod.mk.inj hpair
      obtain ⟨entry, hentry⟩ := KeyedMap.mem_keys_iff_lookup.mp hkey
      obtain ⟨row, hrow, -⟩ := h.row_of_entry (hused key entry hentry) hentry
      refine ⟨row, KeyedMap.lookup_retain_eq_some.mpr
        ⟨PostgresRateLimiter.lookup_purged_eq_openRow.trans hrow, ?_⟩⟩
      simp [PostgresRateLimiter.isActive, (PostgresRateLimiter.openRow_eq_some.mp hrow).2]

/-- A table with the same open rows, beside the purged entries. -/
theorem of_purge (h : PgSim sha256 limiter used now table memory) {table' : WindowTable}
    (hrange : limiter.RowsInRange table')
    (hopen : ∀ keyHash, limiter.openRow now table' keyHash = limiter.openRow now table keyHash)
    (hhealthy : (memory.write (memory.openEntries (instantOfMicros now))).Healthy
      (instantOfMicros now)) :
    PgSim sha256 limiter used now table'
      (memory.write (memory.openEntries (instantOfMicros now))) where
  healthy := hhealthy
  policy_eq := h.policy_eq
  maxKeys_eq := h.maxKeys_eq
  range := hrange
  entries_used key entry hentry :=
    h.entries_used key entry ((h.healthy.lookup_openEntries (le_refl _)).mp hentry).1
  rows_used keyHash row hrow := by
    rw [hopen] at hrow
    exact h.rows_used keyHash row hrow
  agree key hkey := by
    -- What was open stays open, and purging it again changes nothing.
    have hpurge : ((memory.write (memory.openEntries (instantOfMicros now))).openEntries
        (instantOfMicros now)).lookup key =
          (memory.openEntries (instantOfMicros now)).lookup key := by
      apply Option.ext
      intro entry
      rw [hhealthy.lookup_openEntries (le_refl _)]
      apply and_iff_left_of_imp
      intro hentry
      exact ((h.healthy.lookup_openEntries (le_refl _)).mp hentry).2
    rw [hopen, hpurge]
    exact h.agree key hkey

/-- The purged rows and entries, with a matching open row and entry under one key. -/
theorem of_insert (h : PgSim sha256 limiter used now table memory)
    (hsha : Set.InjOn sha256 used) {key : Bytes} (hkey : key ∈ used) {row : WindowRow}
    {entry : WindowEntry} (hrowOf : RowOf limiter.policy.window row entry)
    (hopen : now < row.expiresAt) (hpos : 1 ≤ row.attempts)
    (hmax : row.attempts ≤ limiter.policy.maxAttempts)
    (hhealthy : (memory.write ((memory.openEntries (instantOfMicros now)).insert key
      entry)).Healthy (instantOfMicros now)) :
    PgSim sha256 limiter used now
      ((limiter.purged now table).insert (limiter.storageNamespace, (sha256 key).toList) row)
      (memory.write ((memory.openEntries (instantOfMicros now)).insert key entry)) where
  healthy := hhealthy
  policy_eq := h.policy_eq
  maxKeys_eq := h.maxKeys_eq
  -- The inserted row is in range; every other row was there before.
  range := by
    intro keyHash stored hstored
    rw [KeyedMap.lookup_insert_ite] at hstored
    split at hstored
    · cases hstored
      exact ⟨hpos, hmax⟩
    · exact h.range keyHash stored (PostgresRateLimiter.lookup_purged.mp hstored).1
  entries_used := by
    intro other stored hstored
    rw [InMemoryRateLimiter.write_entries, Mutex.store_value,
      KeyedMap.lookup_insert_ite] at hstored
    split at hstored
    · next heq =>
      rw [heq]
      exact hkey
    · exact h.entries_used other stored ((h.healthy.lookup_openEntries (le_refl _)).mp hstored).1
  rows_used := by
    intro keyHash stored hstored
    rw [PostgresRateLimiter.openRow_insert _ hopen, PostgresRateLimiter.openRow_purged] at hstored
    split at hstored
    · next heq => exact ⟨key, hkey, heq.symm⟩
    · exact h.rows_used keyHash stored hstored
  -- The two sides agree key by key; the digest separates the keys in use.
  agree := by
    intro other hother
    -- What is open in memory: the new entry under its key, and the rest as before.
    have hentry : ((memory.write ((memory.openEntries (instantOfMicros now)).insert key
        entry)).openEntries (instantOfMicros now)).lookup other =
          if other = key then some entry
          else (memory.openEntries (instantOfMicros now)).lookup other := by
      apply Option.ext
      intro stored
      rw [hhealthy.lookup_openEntries (le_refl _), InMemoryRateLimiter.write_entries,
        Mutex.store_value, KeyedMap.lookup_insert_ite, InMemoryRateLimiter.write_policy,
        h.policy_eq]
      apply and_iff_left_of_imp
      intro hstored
      split at hstored
      · cases hstored
        exact hrowOf.open_iff.mp hopen
      · have hlive := ((h.healthy.lookup_openEntries (le_refl _)).mp hstored).2
        rwa [h.policy_eq] at hlive
    rw [hentry, PostgresRateLimiter.openRow_insert _ hopen, PostgresRateLimiter.openRow_purged]
    by_cases heq : other = key
    · rw [heq, if_pos rfl, if_pos rfl]
      exact .some hrowOf
    · have hne : (sha256 other).toList ≠ (sha256 key).toList := fun hdigest =>
        heq (hsha hother hkey (List.Vector.toList_injective hdigest))
      rw [if_neg heq, if_neg hne]
      exact h.agree other hother

/-- A valid key takes `check` into its transaction. -/
theorem check_of_valid {key : Bytes} (hvalid : validateKey key = .ok ()) :
    PostgresRateLimiter.check sha256 limiter now key table =
      (limiter.transaction now (sha256 key).toList table).settle table := by
  unfold validateKey at hvalid
  split at hvalid
  · cases hvalid
  · next hlength => rw [PostgresRateLimiter.check, if_neg hlength]

/-- **One check.** -/
theorem check (h : PgSim sha256 limiter used now table memory) (hwhole : limiter.WholeMillis)
    (hsha : Set.InjOn sha256 used) {key : Bytes} (hkey : key ∈ used) :
    ((PostgresRateLimiter.check sha256 limiter now key table).1.mapError CheckFailure.toError =
      (memory.checkAt key (instantOfMicros now)).1.map RateLimitDecision.roundRetry) ∧
    (∀ failure, (PostgresRateLimiter.check sha256 limiter now key table).1 = .error failure →
      failure = .invalidKey ∨ failure = .capacityReached) ∧
    PgSim sha256 limiter used now (PostgresRateLimiter.check sha256 limiter now key table).2
      (memory.checkAt key (instantOfMicros now)).2 := by
  have heffect := h.healthy.checkAt_effect key (le_refl _)
  have hhealthy := heffect.healthy h.healthy (le_refl _)
  have hpurged : limiter.RowsInRange (limiter.purged now table) := fun keyHash row hrow =>
    h.range keyHash row (PostgresRateLimiter.lookup_purged.mp hrow).1
  have htransaction :=
    PostgresRateLimiter.transaction_eq now h.range (sha256 key).toList_length
  generalize (memory.checkAt key (instantOfMicros now)).1 = result at heffect ⊢
  generalize (memory.checkAt key (instantOfMicros now)).2 = after at heffect hhealthy ⊢
  cases heffect with
  | invalid hinvalid =>
    have hcheck : PostgresRateLimiter.check sha256 limiter now key table =
        (.error .invalidKey, table) := by
      unfold validateKey at hinvalid
      split at hinvalid
      · next hlength => rw [PostgresRateLimiter.check, if_pos hlength]
      · cases hinvalid
    rw [hcheck]
    exact ⟨rfl, fun failure hfailure => .inl (Except.error.inj hfailure).symm, h⟩
  | limited entry hvalid hentry hfull =>
    obtain ⟨row, hrow, hrowOf⟩ := h.row_of_entry hkey hentry
    have hattempts := hrowOf.attempts_eq
    have hexhausted : limiter.policy.maxAttempts ≤ row.attempts.toNat := by
      rw [h.policy_eq] at hfull
      omega
    have hstarted := h.healthy.started key entry
      ((h.healthy.lookup_openEntries (le_refl _)).mp hentry).1
    have hretry := hrowOf.retry (PostgresRateLimiter.openRow_eq_some.mp hrow).2 hstarted
    simp only [hrow, if_pos hexhausted] at htransaction
    rw [check_of_valid hvalid, htransaction, Sql.TxEnd.settle_committed]
    refine ⟨?_, fun failure hfailure => (by cases hfailure), ?_⟩
    · rw [hretry, h.policy_eq]
      rfl
    · exact h.of_purge hpurged (fun _ => PostgresRateLimiter.openRow_purged) hhealthy
  | counted entry hvalid hentry hroom =>
    obtain ⟨row, hrow, hrowOf⟩ := h.row_of_entry hkey hentry
    obtain ⟨hlookup, hopen⟩ := PostgresRateLimiter.openRow_eq_some.mp hrow
    have hattempts := hrowOf.attempts_eq
    rw [h.policy_eq] at hroom ⊢
    have hbelow : ¬ limiter.policy.maxAttempts ≤ row.attempts.toNat := by omega
    have htoNat : row.attempts.toNat = entry.attempts := by omega
    simp only [hrow, if_neg hbelow] at htransaction
    rw [check_of_valid hvalid, htransaction, Sql.TxEnd.settle_committed, htoNat]
    refine ⟨rfl, fun failure hfailure => (by cases hfailure), ?_⟩
    refine h.of_insert hsha hkey ⟨?_, hrowOf.expiresAt_eq⟩ hopen ?_ ?_ hhealthy
    · show row.attempts + 1 = ((entry.attempts + 1 : ℕ) : ℤ)
      omega
    · show 1 ≤ row.attempts + 1
      omega
    · show row.attempts + 1 ≤ (limiter.policy.maxAttempts : ℤ)
      omega
  | full hvalid hentry hsize =>
    rw [h.maxKeys_eq, ← h.countWhere_eq hsha] at hsize
    simp only [h.no_row hkey hentry, if_pos hsize] at htransaction
    rw [check_of_valid hvalid, htransaction, Sql.TxEnd.settle_rolledBack]
    refine ⟨rfl, fun failure hfailure => .inr (Except.error.inj hfailure).symm, ?_⟩
    -- The `DELETE` is undone, the purge is not; no open window is touched by either.
    exact h.of_purge h.range (fun _ => rfl) hhealthy
  | opened hvalid hentry hsize =>
    rw [h.maxKeys_eq, ← h.countWhere_eq hsha] at hsize
    simp only [h.no_row hkey hentry, if_neg (not_le.mpr hsize)] at htransaction
    rw [check_of_valid hvalid, htransaction, Sql.TxEnd.settle_committed, h.policy_eq]
    have hwindow := limiter.policy.window_pos
    have hpos := limiter.policy.maxAttempts_pos
    have hlength : limiter.policy.window = limiter.windowMillis * 1000000 := hwhole
    refine ⟨rfl, fun failure hfailure => (by cases hfailure), ?_⟩
    refine h.of_insert hsha hkey ⟨rfl, ?_⟩ ?_ (le_refl 1) ?_ hhealthy
    · show (now + limiter.windowMillis * 1000) * 1000 = now * 1000 + limiter.policy.window
      omega
    · show now < now + limiter.windowMillis * 1000
      omega
    · show (1 : ℤ) ≤ limiter.policy.maxAttempts
      omega

end PgSim

/-! ## Runs -/

/-- One check, its `now` being the transaction's `now()` in microseconds. -/
def pgStep (sha256 : Bytes → List.Vector UInt8 32) (limiter : PostgresRateLimiter)
    (table : WindowTable) (call : CheckCall) :
    Except CheckFailure RateLimitDecision × WindowTable :=
  limiter.check sha256 call.now call.key table

/-- The same call on the clock of the in-memory limiter. -/
def CheckCall.atInstant (call : CheckCall) : CheckCall := ⟨call.key, instantOfMicros call.now⟩

/-- What the checks of a run agree on. -/
structure PgRunLaw (sha256 : Bytes → List.Vector UInt8 32) (limiter : PostgresRateLimiter)
    (table : WindowTable) (memory : InMemoryRateLimiter) (calls : List CheckCall) : Prop where
  /-- Every check answers what the in-memory limiter answers, its retry time rounded up. -/
  results : ((trace (pgStep sha256 limiter) table calls).map fun p =>
      p.2.mapError CheckFailure.toError) =
    (trace checkStep memory (calls.map CheckCall.atInstant)).map fun p =>
      p.2.map RateLimitDecision.roundRetry
  /-- No constraint is violated, no stored count refused, no conversion or subtraction fails. -/
  failures : ∀ p ∈ trace (pgStep sha256 limiter) table calls, ∀ failure,
    p.2 = .error failure → failure = .invalidKey ∨ failure = .capacityReached
  /-- The stored counts stay within the policy. -/
  range : ∀ n, limiter.RowsInRange (run (pgStep sha256 limiter) table (calls.take n))

/-- The simulation along a run whose transaction times do not decrease. -/
theorem PgSim.run {sha256 : Bytes → List.Vector UInt8 32} {limiter : PostgresRateLimiter}
    {used : Set Bytes} {now : ℕ} {table : WindowTable} {memory : InMemoryRateLimiter}
    (h : PgSim sha256 limiter used now table memory) (hwhole : limiter.WholeMillis)
    (hsha : Set.InjOn sha256 used) {calls : List CheckCall}
    (hused : ∀ call ∈ calls, call.key ∈ used) (hnow : ∀ call ∈ calls, now ≤ call.now)
    (hordered : calls.Pairwise fun call later => call.now ≤ later.now) :
    PgRunLaw sha256 limiter table memory calls := by
  induction calls generalizing now table memory with
  | nil =>
    refine ⟨rfl, ?_, ?_⟩
    · intro p hp
      cases hp
    · intro n
      rw [List.take_nil]
      exact h.range
  | cons call calls ih =>
    -- One check on both sides, from tables that agree at the later instant.
    obtain ⟨hresult, hfailure, hafter⟩ :=
      (h.later (hnow call List.mem_cons_self)).check hwhole hsha (hused call List.mem_cons_self)
    have hrest := ih hafter (fun later hlater => hused later (List.mem_cons_of_mem _ hlater))
      (fun later hlater => List.rel_of_pairwise_cons hordered hlater) hordered.of_cons
    refine ⟨?_, ?_, ?_⟩
    · simp only [trace_cons, List.map_cons, List.cons.injEq]
      exact ⟨hresult, hrest.results⟩
    · intro p hp
      rw [trace_cons, List.mem_cons] at hp
      rcases hp with rfl | hp
      · exact hfailure
      · exact hrest.failures p hp
    · intro n
      cases n with
      | zero => exact h.range
      | succ n =>
        rw [List.take_succ_cons, run_cons]
        exact hrest.range n

/-- **The PostgreSQL limiter is the in-memory limiter.** From a table without rows of the
    namespace, over checks whose transaction times do not decrease. -/
theorem postgres_rate_limiter_run (sha256 : Bytes → List.Vector UInt8 32)
    (limiter : PostgresRateLimiter) (hwhole : limiter.WholeMillis) {memory : InMemoryRateLimiter}
    (hnew : InMemoryRateLimiter.new limiter.maxKeys limiter.policy = .ok memory)
    (table : WindowTable)
    (hempty : ∀ keyHash, table.lookup (limiter.storageNamespace, keyHash) = none)
    (calls : List CheckCall)
    (hordered : calls.Pairwise fun call later => call.now ≤ later.now)
    (hsha : Set.InjOn sha256 {key | ∃ call ∈ calls, call.key = key}) :
    PgRunLaw sha256 limiter table memory calls := by
  obtain ⟨hhealthy, hpolicy, hmaxKeys, -, hentries⟩ := InMemoryRateLimiter.Healthy.of_new hnew
    (instantOfMicros 0)
  have hrow : ∀ keyHash, limiter.openRow 0 table keyHash = none := by
    intro keyHash
    rw [PostgresRateLimiter.openRow, hempty]
    rfl
  have hentry : ∀ key, (memory.openEntries (instantOfMicros 0)).lookup key = none := by
    intro key
    rw [InMemoryRateLimiter.openEntries, hentries]
    rfl
  -- Both are empty at the start, and agree.
  have hstart : PgSim sha256 limiter {key | ∃ call ∈ calls, call.key = key} 0 table memory := by
    refine ⟨hhealthy, hpolicy, hmaxKeys, ?_, ?_, ?_, ?_⟩
    · intro keyHash row hlookup
      rw [hempty] at hlookup
      cases hlookup
    · intro key entry hlookup
      rw [hentries] at hlookup
      cases hlookup
    · intro keyHash row hlookup
      rw [hrow] at hlookup
      cases hlookup
    · intro key _
      rw [hrow, hentry]
      exact .none
  exact hstart.run hwhole hsha (fun call hcall => ⟨call, hcall, rfl⟩)
    (fun call _ => Nat.zero_le _) hordered

/-- SHA-256 of the one-byte keys `a` and `b`. -/
def sampleDigest (key : Bytes) : List.Vector UInt8 32 :=
  if key = [0x61] then
  ⟨[0xca, 0x97, 0x81, 0x12, 0xca, 0x1b, 0xbd, 0xca, 0xfa, 0xc2, 0x31, 0xb3, 0x9a, 0x23, 0xdc, 0x4d,
    0xa7, 0x86, 0xef, 0xf8, 0x14, 0x7c, 0x4e, 0x72, 0xb9, 0x80, 0x77, 0x85, 0xaf, 0xee, 0x48, 0xbb],
    rfl⟩
  else if key = [0x62] then
  ⟨[0x3e, 0x23, 0xe8, 0x16, 0x00, 0x39, 0x59, 0x4a, 0x33, 0x89, 0x4f, 0x65, 0x64, 0xe1, 0xb1, 0x34,
    0x8b, 0xbd, 0x7a, 0x00, 0x88, 0xd4, 0x2c, 0x4a, 0xcb, 0x73, 0xee, 0xae, 0xd5, 0x9c, 0x00, 0x9d],
    rfl⟩
  else List.Vector.replicate 32 0

/-- Two attempts a second, room for one key. -/
def samplePostgresLimiter : PostgresRateLimiter where
  storageNamespace := "prod"
  policy := samplePolicyASecond
  windowMillis := 1000
  maxKeys := 1
  namespace_ok := by decide +kernel
  windowMillis_eq := by decide
  maxKeys_pos := Nat.one_pos
  maxKeys_le := one_le_maxInMemoryRateKeys

/-- The window of `a` is exhausted: half a millisecond before its end the retry time is rounded
    up, and `b` is kept out to its last microsecond. -/
def samplePgChecks : List CheckCall :=
  [⟨[0x61], 1700000000000000⟩, ⟨[0x61], 1700000000400000⟩, ⟨[0x61], 1700000000999500⟩,
    ⟨[0x62], 1700000000999999⟩, ⟨[0x62], 1700000001000000⟩]

theorem postgres_rate_limiter_run_two_keys :
    ((trace (pgStep sampleDigest samplePostgresLimiter) ∅ samplePgChecks).map fun p => p.2) =
      [.ok (.allowed 1), .ok (.allowed 0), .ok (.limited 1000000), .error .capacityReached,
        .ok (.allowed 1)] ∧
    PgRunLaw sampleDigest samplePostgresLimiter ∅ ⟨.new ∅, 1, samplePostgresLimiter.policy⟩
      samplePgChecks := by
  refine ⟨by decide +kernel, ?_⟩
  have hkeys : ∀ call ∈ samplePgChecks, call.key = [0x61] ∨ call.key = [0x62] := by decide
  refine postgres_rate_limiter_run sampleDigest samplePostgresLimiter rfl rfl ∅ (fun _ => rfl)
    samplePgChecks (by decide) ?_
  intro key ⟨call, hcall, hkey⟩ key' ⟨call', hcall', hkey'⟩
  subst hkey hkey'
  rcases hkeys call hcall with h | h <;> rcases hkeys call' hcall' with h' | h' <;>
    rw [h, h'] <;> decide

end SecureKeypad.Server
