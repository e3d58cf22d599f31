import SecureKeypad.Library.OneTimeKeys
import SecureKeypad.Server.StateCodec

/-!
# The Redis One-Time Login Store (`secure-auth-server::opaque_state_redis`)

Embeds the two Lua scripts of the store, the Rust calls around them and the construction of the
store. Every script run is one step of a machine over the Redis keys and clock, so a list of
calls is an interleaving of the runs of any number of store instances that share a namespace and
a capacity; between two runs the clock moves on by any amount. SHA-256 comes from the `sha2`
crate and is a parameter.

## Main results

- `insertScript_effect`, `consumeScript_effect`: all a script run can do to an intact keyspace
- `scriptStep_effects`: every run of scripts is one of effects on the layout of the keys
- `redis_login_store_run`: tracking, capacity, one-time redemption and type safety of every run
-/

namespace SecureKeypad.Server

open Rust Redis Machine Machine.Ledger

/-! ## Configuration -/

def redisHandleAttempts : ℕ := 8
def maxPoolSize : ℕ := 256
def maxDistributedLoginStateTtl : ℕ := durationFromSecs (15 * 60)

/-- `RedisOneTimeStateConfigError`. -/
inductive RedisOneTimeStateConfigError where
  | invalidUrl
  | insecureUrl
  | invalidNamespace
  | invalidPoolSize
  | invalidCapacity
  | invalidTtl
  | poolBuild
deriving DecidableEq

/-- `validate_namespace` of this module. -/
def RedisOneTimeStateConfigError.validateNamespace :
    String → Except RedisOneTimeStateConfigError Unit := validateNamespaceOr .invalidNamespace

/-- A time to live in milliseconds, as `ttl_millis` lets it through. -/
structure TtlMillis where
  millis : ℕ
  pos : 0 < millis
  le_max : millis ≤ 900000

/-- `ttl_millis` of a duration in nanoseconds. -/
def ttlMillis (ttl : ℕ) : Except RedisOneTimeStateConfigError TtlMillis :=
  let millis := ttl / 1000000
  if h : (millis < 2 ^ 64 ∧ 0 < millis ∧ millis < 2 ^ 63) ∧ ttl ≤ maxDistributedLoginStateTtl then
    .ok ⟨millis, h.1.2.1, by
      have hmax : ttl ≤ 900000000000 := h.2
      omega⟩
  else .error .invalidTtl

/-- The keys shared by every store instance of a deployment, and their bound. -/
structure LoginKeyspace where
  storageNamespace : String
  maxEntries : ℕ

/-- `RedisOneTimeLoginStateStore` without its connection pool. -/
structure RedisOneTimeLoginStateStore extends LoginKeyspace where
  ttl : TtlMillis
  protector : StateProtector

/-- `RedisOneTimeLoginStateStore::build`. Whether redis-rs parses the URL and the pool comes up
    is given by `clientOpens` and `poolBuilds`. -/
def RedisOneTimeLoginStateStore.build (clientOpens poolBuilds : Bool) (url : String)
    (storageNamespace : String) (poolSize maxEntries ttl : ℕ) (key : Bytes)
    (hkey : key.length = 32) (requireTls : Bool) :
    Except RedisOneTimeStateConfigError RedisOneTimeLoginStateStore :=
  match h : RedisOneTimeStateConfigError.validateNamespace storageNamespace with
  | .error error => .error error
  | .ok () =>
    if poolSize = 0 ∨ poolSize > maxPoolSize then .error .invalidPoolSize
    else if maxEntries = 0 ∨ maxEntries > maxInMemoryEntries then .error .invalidCapacity
    else
      match ttlMillis ttl with
      | .error error => .error error
      | .ok ttl =>
        if requireTls ∧ ¬ "rediss://".toList.isPrefixOf url.toList then .error .insecureUrl
        else if ¬ clientOpens then .error .invalidUrl
        else if ¬ poolBuilds then .error .poolBuild
        else
          .ok { storageNamespace, maxEntries, ttl
                protector := ⟨key, storageNamespace, hkey, (validateNamespaceOr_eq_ok h).2.1⟩ }

namespace LoginKeyspace

/-- `state_key`. -/
def stateKey (ls : LoginKeyspace) (hash : String) : String :=
  ls.storageNamespace ++ ":opaque:v1:login:" ++ hash

/-- `pending_index_key`. -/
def pendingIndexKey (ls : LoginKeyspace) : String :=
  ls.storageNamespace ++ ":opaque:v1:login:pending"

end LoginKeyspace

/-- `hash_handle`. -/
def hashHandle (sha256 : Bytes → Bytes) (handle : LoginStateHandle) : String :=
  hexEncode (sha256 handle.bytes)

/-! ## The scripts -/

/-- The Redis keys this store works on. -/
abbrev LoginKeys := Keyspace String Bytes String

/-- `INSERT_SCRIPT` with `KEYS = {stateKey, indexKey}` and `ARGV = {value, ttl, maxEntries, hash}`,
    run when the server clock shows `clock` microseconds. -/
def insertScript (clock : ℕ) (stateKey indexKey : String) (value : Bytes) (ttl maxEntries : ℕ)
    (hash : String) (ks : LoginKeys) : ℤ × LoginKeys :=
  let now := mstime clock
  let nowMs := scriptNow clock
  let indexType := type now ks indexKey
  if indexType ≠ .none ∧ indexType ≠ .zset then (-2, del indexKey ks)
  else
    let ks := zremrangebyscore now nowMs indexKey ks
    if zcard now ks indexKey ≥ maxEntries then (0, ks)
    else
      match setNxPx now ttl stateKey value ks with
      | (false, ks) => (-1, ks)
      | (true, ks) => (1, extendTo now ttl indexKey (zadd now (nowMs + ttl) hash indexKey ks))

/-- `CONSUME_SCRIPT` with `KEYS = {stateKey, indexKey}` and `ARGV = {hash, maxBytes, maxTtl}`. -/
def consumeScript (clock : ℕ) (stateKey indexKey hash : String) (maxBytes maxTtl : ℕ)
    (ks : LoginKeys) : (ℤ × Option Bytes) × LoginKeys :=
  let now := mstime clock
  let nowMs := scriptNow clock
  let indexType := type now ks indexKey
  if indexType ≠ .none ∧ indexType ≠ .zset then ((-2, none), del indexKey (del stateKey ks))
  else
    let ks := zremrangebyscore now nowMs indexKey ks
    let ttl := pttl now ks stateKey
    if ttl = -1 ∨ ttl = 0 ∨ ttl > maxTtl then ((-2, none), zrem now hash indexKey (del stateKey ks))
    else
      let keyType := type now ks stateKey
      if keyType ≠ .none ∧ keyType ≠ .string then
        ((-2, none), zrem now hash indexKey (del stateKey ks))
      else if strlen List.length now ks stateKey > maxBytes then
        ((-2, none), zrem now hash indexKey (del stateKey ks))
      else
        match Redis.get now ks stateKey with
        | some value => ((1, some value), zrem now hash indexKey (del stateKey ks))
        | none => ((0, none), zrem now hash indexKey ks)

/-! ## Interleaved script runs -/

/-- The Redis server: its clock in microseconds and its keys. -/
structure RedisWorld where
  clock : ℕ
  keys : LoginKeys

/-- One script run, `wait` microseconds after the previous one. The time to live is the one of
    the store instance that makes the call. -/
inductive ScriptCall where
  | insert (wait : ℕ) (handle : LoginStateHandle) (value : Bytes) (ttl : TtlMillis)
  | consume (wait : ℕ) (handle : LoginStateHandle) (ttl : TtlMillis)

/-- What a script answers, and the millisecond it ran in. -/
structure ScriptReply where
  now : ℕ
  status : ℤ
  value : Option Bytes

/-- One atomic script run with the keys and arguments `insert_bound` and `take_bound` give it. -/
def scriptStep (sha256 : Bytes → Bytes) (ls : LoginKeyspace) (world : RedisWorld) :
    ScriptCall → ScriptReply × RedisWorld
  | .insert wait handle value ttl =>
    let clock := world.clock + wait
    let hash := hashHandle sha256 handle
    let result := insertScript clock (ls.stateKey hash) ls.pendingIndexKey value ttl.millis
      ls.maxEntries hash world.keys
    (⟨mstime clock, result.1, none⟩, ⟨clock, result.2⟩)
  | .consume wait handle ttl =>
    let clock := world.clock + wait
    let hash := hashHandle sha256 handle
    let result := consumeScript clock (ls.stateKey hash) ls.pendingIndexKey hash
      maxDistributedLoginStateStorageBytes ttl.millis world.keys
    (⟨mstime clock, result.1.1, result.1.2⟩, ⟨clock, result.2⟩)

/-- The event an insert shows. -/
def insertEvent (digest value : Bytes) (e : ℕ) (status : ℤ) : Event Bytes Bytes :=
  if status = 1 then .issue digest value e else .quiet

/-- The event a consume shows. -/
def consumeEvent (digest : Bytes) (now : ℕ) : ℤ × Option Bytes → Event Bytes Bytes
  | (status, some value) => if status = 1 then .redeem digest value now else .quiet
  | (_, none) => .quiet

/-- The event a script run shows: an insert with status 1 stores its value until the expiry of
    its key, a consume with status 1 hands out the value it returns. -/
def scriptEvent (sha256 : Bytes → Bytes) : ScriptCall → ScriptReply → Event Bytes Bytes
  | .insert _ handle value ttl, reply =>
    insertEvent (sha256 handle.bytes) value (reply.now + ttl.millis) reply.status
  | .consume _ handle _, reply =>
    consumeEvent (sha256 handle.bytes) reply.now (reply.status, reply.value)

/-! ## The calls around the scripts -/

/-- One round of `insert_bound`'s loop: what other clients run before it, the time it takes to
    start, and the handle drawn for it. -/
structure InsertAttempt where
  others : List ScriptCall
  wait : ℕ
  handle : LoginStateHandle

namespace RedisOneTimeLoginStateStore

variable (sha256 : Bytes → Bytes) (aes : Aes256Gcm) (store : RedisOneTimeLoginStateStore)

/-- The loop of `insert_bound` with the given number of rounds left. -/
def insertRounds (protectedState : Bytes) :
    ℕ → (ℕ → InsertAttempt) → RedisWorld → Except StoreError LoginStateHandle × RedisWorld
  | 0, _, world => (.error .handleCollision, world)
  | rounds + 1, draw, world =>
    let world := run (scriptStep sha256 store.toLoginKeyspace) world (draw 0).others
    let inserted := scriptStep sha256 store.toLoginKeyspace world
      (.insert (draw 0).wait (draw 0).handle protectedState store.ttl)
    if inserted.1.status = 1 then (.ok (draw 0).handle, inserted.2)
    else if inserted.1.status = 0 then (.error .capacityReached, inserted.2)
    else if inserted.1.status = -1 then
      insertRounds protectedState rounds (fun i => draw (i + 1)) inserted.2
    else (.error .unavailable, inserted.2)

/-- `insert_bound` once a connection is at hand. -/
def insertBound (state : BoundLoginState) (nonce : GcmNonce) (draw : ℕ → InsertAttempt)
    (world : RedisWorld) : Except StoreError LoginStateHandle × RedisWorld :=
  match encodeBoundState state with
  | .error error => (.error error, world)
  | .ok encoded =>
    if encoded.length > maxDistributedLoginStateRecordBytes then (.error .stateTooLarge, world)
    else
      match store.protector.sealPlaintext aes nonce encoded with
      | .error error => (.error error, world)
      | .ok protectedState =>
        insertRounds sha256 store protectedState redisHandleAttempts draw world

/-- `take_bound` once a connection is at hand; `none` is a panic of the decoders. -/
def takeBound (wait : ℕ) (handle : LoginStateHandle) (world : RedisWorld) :
    Option (Except StoreError (Option BoundLoginState)) × RedisWorld :=
  let consumed := scriptStep sha256 store.toLoginKeyspace world (.consume wait handle store.ttl)
  (if consumed.1.status = 0 then some (.ok none)
   else if consumed.1.status = 1 then
     match consumed.1.value with
     | none => some (.error .unavailable)
     | some protectedState =>
       (store.protector.openProtected aes protectedState).bind fun
         | .error error => some (.error error)
         | .ok encoded => (decodeBoundState encoded).map fun decoded => decoded.map some
   else some (.error .unavailable),
   consumed.2)

theorem insertRounds_run (protectedState : Bytes) (rounds : ℕ) (draw : ℕ → InsertAttempt)
    (world : RedisWorld) :
    ∃ calls, (insertRounds sha256 store protectedState rounds draw world).2 =
      run (scriptStep sha256 store.toLoginKeyspace) world calls := by
  induction rounds generalizing draw world with
  | zero => exact ⟨[], rfl⟩
  | succ rounds ih =>
    have hone : (scriptStep sha256 store.toLoginKeyspace
        (run (scriptStep sha256 store.toLoginKeyspace) world (draw 0).others)
        (.insert (draw 0).wait (draw 0).handle protectedState store.ttl)).2 =
        run (scriptStep sha256 store.toLoginKeyspace) world ((draw 0).others ++
          [.insert (draw 0).wait (draw 0).handle protectedState store.ttl]) :=
      (run_snoc ..).symm
    simp only [insertRounds]
    split
    · exact ⟨_, hone⟩
    · split
      · exact ⟨_, hone⟩
      · split
        · obtain ⟨calls, hcalls⟩ := ih (fun i => draw (i + 1)) (scriptStep sha256
            store.toLoginKeyspace (run (scriptStep sha256 store.toLoginKeyspace) world
              (draw 0).others) (.insert (draw 0).wait (draw 0).handle protectedState store.ttl)).2
          rw [hone, ← run_append] at hcalls
          exact ⟨_, hone ▸ hcalls⟩
        · exact ⟨_, hone⟩

/-- Whatever `insert_bound` does to Redis, with other clients between its rounds, is a run of
    scripts. -/
theorem insertBound_run (state : BoundLoginState) (nonce : GcmNonce) (draw : ℕ → InsertAttempt)
    (world : RedisWorld) :
    ∃ calls, (insertBound sha256 aes store state nonce draw world).2 =
      run (scriptStep sha256 store.toLoginKeyspace) world calls := by
  unfold insertBound
  split
  · exact ⟨[], rfl⟩
  · split
    · exact ⟨[], rfl⟩
    · split
      · exact ⟨[], rfl⟩
      · exact insertRounds_run ..

/-- `take_bound` is one script run, and gives a state only when the script hands one out. -/
theorem takeBound_run (wait : ℕ) (handle : LoginStateHandle) (world : RedisWorld) :
    (takeBound sha256 aes store wait handle world).2 =
        run (scriptStep sha256 store.toLoginKeyspace) world [.consume wait handle store.ttl] ∧
      ∀ state, (takeBound sha256 aes store wait handle world).1 = some (.ok (some state)) →
        ∃ value, scriptEvent sha256 (.consume wait handle store.ttl) (scriptStep sha256
          store.toLoginKeyspace world (.consume wait handle store.ttl)).1 =
            .redeem (sha256 handle.bytes) value (mstime (world.clock + wait)) := by
  refine ⟨rfl, fun state h => ?_⟩
  simp only [takeBound] at h
  split at h
  · cases h
  · split at h
    · next hstatus =>
      split at h
      · cases h
      · next value hvalue =>
        refine ⟨value, ?_⟩
        simp only [scriptEvent, hvalue, consumeEvent, if_pos hstatus]
        rfl
    · cases h

end RedisOneTimeLoginStateStore

/-! ## The keys are apart -/

namespace LoginKeyspace

variable (ls : LoginKeyspace)

theorem stateKey_inj {a b : String} : ls.stateKey a = ls.stateKey b ↔ a = b :=
  String.append_right_inj _

/-- The index is never mistaken for a state: `p` is no hexadecimal digit. -/
theorem stateKey_ne_pendingIndexKey (digest : Bytes) :
    ls.stateKey (hexEncode digest) ≠ ls.pendingIndexKey := by
  intro h
  have hindex : ls.pendingIndexKey = ls.stateKey "pending" := by
    rw [pendingIndexKey, stateKey, String.append_assoc]
    rfl
  have hhash : hexEncode digest = "pending" := ls.stateKey_inj.mp (h.trans hindex)
  have hp : 'p' ∈ (hexEncode digest).toList := by
    rw [hhash]
    decide
  exact absurd (mem_hexEncode hp) (by decide)

end LoginKeyspace

/-! ## What holds of the keys -/

/-- What a reader of the keys sees at the millisecond `now`. -/
structure LoginGuarantee (ls : LoginKeyspace) (now : ℕ) (ks : LoginKeys) : Prop where
  /-- A state with `PTTL > 0` is in the index, its score being its expiry. -/
  tracked : ∀ digest : Bytes, 0 < pttl now ks (ls.stateKey (hexEncode digest)) →
    ∃ e : ℕ, (e : ℤ) = now + pttl now ks (ls.stateKey (hexEncode digest)) ∧
      (scores now ks ls.pendingIndexKey).lookup (hexEncode digest) = some e
  /-- The index expires no earlier than any of its scores. -/
  outlives : ∀ member score, (scores now ks ls.pendingIndexKey).lookup member = some score →
    (score : ℤ) ≤ now + pttl now ks ls.pendingIndexKey
  /-- Live states are bounded. -/
  bounded : {hash | (∃ digest, hash = hexEncode digest) ∧
    0 < pttl now ks (ls.stateKey hash)}.encard ≤ ls.maxEntries
  /-- The wrong-type branch on the index is not taken. -/
  index_type : ¬ (type now ks ls.pendingIndexKey ≠ .none ∧ type now ks ls.pendingIndexKey ≠ .zset)
  /-- Nor is the one on a state. -/
  state_type : ∀ digest : Bytes, ¬ (type now ks (ls.stateKey (hexEncode digest)) ≠ .none ∧
    type now ks (ls.stateKey (hexEncode digest)) ≠ .string)

/-- Where the store keeps its states: the ids are the digests of the handles. -/
def LoginKeyspace.layout (ls : LoginKeyspace) : Layout Bytes String String where
  key digest := ls.stateKey (hexEncode digest)
  member := hexEncode
  index := ls.pendingIndexKey
  key_injective _ _ h := hexEncode_injective (ls.stateKey_inj.mp h)
  member_injective _ _ h := hexEncode_injective h
  key_ne_index := ls.stateKey_ne_pendingIndexKey

/-- What the scripts keep true of the keys, seen at the millisecond `now`. -/
abbrev LoginInvariant (ls : LoginKeyspace) (now : ℕ) (ks : LoginKeys) : Prop :=
  Tracked ls.layout ls.maxEntries now ks

theorem LoginInvariant.guarantee {ls : LoginKeyspace} {now : ℕ} {ks : LoginKeys}
    (h : LoginInvariant ls now ks) : LoginGuarantee ls now ks where
  tracked := (Tracked.guarantee h).tracked
  outlives := (Tracked.guarantee h).outlives
  bounded := by
    -- The bound on digests, carried over to their texts.
    have hdigests := (Tracked.guarantee h).bounded
    rw [← ls.layout.member_injective.encard_image] at hdigests
    refine le_trans (Set.encard_le_encard ?_) hdigests
    rintro hash ⟨⟨digest, rfl⟩, hpttl⟩
    exact ⟨digest, hpttl, rfl⟩
  index_type := (Tracked.guarantee h).index_type
  state_type := (Tracked.guarantee h).key_type

/-! ## What a script run does -/

section Effects

variable {ls : LoginKeyspace} {now : ℕ} {digest : Bytes} {ks ks' : LoginKeys}

/-- All a script run for the digest can do to an intact keyspace, with the event it shows. -/
abbrev ScriptEffect (ls : LoginKeyspace) (now : ℕ) (digest : Bytes) (ks ks' : LoginKeys) :
    Event Bytes Bytes → Prop :=
  Effect ls.layout ls.maxEntries now digest ks ks'

/-- `INSERT_SCRIPT` on an intact keyspace purges the index and at most stores one state. -/
theorem insertScript_effect {clock : ℕ} (h : LoginInvariant ls (mstime clock) ks) (digest : Bytes)
    (value : Bytes) (ttl : ℕ) :
    let result := insertScript clock (ls.stateKey (hexEncode digest)) ls.pendingIndexKey value ttl
      ls.maxEntries (hexEncode digest) ks
    ScriptEffect ls (mstime clock) digest ks result.2
      (insertEvent digest value (mstime clock + ttl) result.1) := by
  have hindex : IndexOk ks ls.pendingIndexKey := h.index
  simp only [insertScript, scriptNow_eq, if_neg (hindex.type_ok (mstime clock))]
  split
  · exact h.effect_refuse digest
  · next hroom =>
    rcases hfind : find (mstime clock)
        (zremrangebyscore (mstime clock) (mstime clock) ls.pendingIndexKey ks)
        (ls.stateKey (hexEncode digest)) with _ | slot
    · simp only [setNxPx, hfind]
      exact h.effect_enrol digest value ttl hroom
    · simp only [setNxPx, hfind]
      exact h.effect_refuse digest

/-- `CONSUME_SCRIPT` on an intact keyspace purges the index and takes the state away; it hands
    out nothing but an unexpired state. -/
theorem consumeScript_effect {clock : ℕ} (h : LoginInvariant ls (mstime clock) ks)
    (digest : Bytes) (maxBytes maxTtl : ℕ) :
    let result := consumeScript clock (ls.stateKey (hexEncode digest)) ls.pendingIndexKey
      (hexEncode digest) maxBytes maxTtl ks
    ScriptEffect ls (mstime clock) digest ks result.2
      (consumeEvent digest (mstime clock) result.1) := by
  have hindex : IndexOk ks ls.pendingIndexKey := h.index
  simp only [consumeScript, scriptNow_eq, if_neg (hindex.type_ok (mstime clock))]
  split
  · exact h.effect_withdraw digest
  · next httl =>
    split
    · exact h.effect_withdraw digest
    · next htype =>
      split
      · exact h.effect_withdraw digest
      · split
        · next value hget =>
          exact h.effect_redeem digest hget fun hzero => httl (.inr (.inl hzero))
        · next hget =>
          exact h.effect_forget digest (h.find_of_get_none hget)

end Effects

/-! ## Runs -/

section Runs

variable (sha256 : Bytes → Bytes) (ls : LoginKeyspace)

/-- The digest a call is about. -/
def ScriptCall.digest : ScriptCall → Bytes
  | .insert _ handle _ _ => sha256 handle.bytes
  | .consume _ handle _ => sha256 handle.bytes

/-- The invariant at the millisecond the server clock shows. -/
def RedisWorld.Intact (world : RedisWorld) : Prop :=
  LoginInvariant ls (mstime world.clock) world.keys

/-- Every call is one script effect at the moment it runs. -/
theorem scriptStep_effect {world : RedisWorld} (h : world.Intact ls) (call : ScriptCall) :
    mstime world.clock ≤ mstime (scriptStep sha256 ls world call).2.clock ∧
      ScriptEffect ls (mstime (scriptStep sha256 ls world call).2.clock) (call.digest sha256)
        world.keys (scriptStep sha256 ls world call).2.keys
        (scriptEvent sha256 call (scriptStep sha256 ls world call).1) := by
  cases call with
  | insert wait handle value ttl =>
    have hle : mstime world.clock ≤ mstime (world.clock + wait) :=
      mstime_mono (Nat.le_add_right _ _)
    exact ⟨hle, insertScript_effect (Tracked.advance h hle) (sha256 handle.bytes) value
      ttl.millis⟩
  | consume wait handle ttl =>
    have hle : mstime world.clock ≤ mstime (world.clock + wait) :=
      mstime_mono (Nat.le_add_right _ _)
    exact ⟨hle, consumeScript_effect (Tracked.advance h hle) (sha256 handle.bytes)
      maxDistributedLoginStateStorageBytes ttl.millis⟩

/-- Interleaved script runs are effects on the layout. -/
theorem scriptStep_effects :
    StepsAreEffects (scriptStep sha256 ls) (scriptEvent sha256)
      (fun world => mstime world.clock) RedisWorld.keys (ScriptCall.digest sha256) ls.layout
      ls.maxEntries :=
  fun _ call h => scriptStep_effect sha256 ls h call

/-- None of the deployment's keys exist. -/
def LoginKeyspace.EmptyIn (ks : LoginKeys) : Prop :=
  ks ls.pendingIndexKey = none ∧ ∀ digest : Bytes, ks (ls.stateKey (hexEncode digest)) = none

/-- **The Redis one-time login store.** For every interleaving of script runs from an empty
    namespace, at every later moment before the next run: each state with `PTTL > 0` is in the
    pending index under its expiry, the index outlives its scores, at most `maxEntries` states
    are live and no wrong-type branch can be taken. Each inserted value is handed out by at most
    one consume, before its expiry. -/
theorem redis_login_store_run (start : RedisWorld) (hempty : ls.EmptyIn start.keys)
    (calls : List ScriptCall) :
    (∀ j wait, let world := run (scriptStep sha256 ls) start (calls.take j)
      LoginGuarantee ls (mstime (world.clock + wait)) world.keys) ∧
    RedeemsOnce (events (scriptEvent sha256) (scriptStep sha256 ls) start calls) := by
  have heffects := scriptStep_effects sha256 ls
  have hstart : start.Intact ls := Tracked.of_emptyIn hempty
  constructor
  · intro j wait world
    have hworld : world.Intact ls :=
      run_invariant (scriptStep sha256 ls) (P := RedisWorld.Intact ls)
        (fun _ call h => heffects.tracked h call) hstart (calls.take j)
    have hle : mstime world.clock ≤ mstime (world.clock + wait) :=
      mstime_mono (Nat.le_add_right _ _)
    exact LoginInvariant.guarantee (Tracked.advance hworld hle)
  · exact redeemsOnce_of_refinement (refinement_of_effects heffects) hstart
      (fun digest => Layout.stored_of_none (hempty.2 digest)) calls

end Runs

/-! ### A run of four scripts -/

/-- The handle of 32 zero bytes. -/
def zeroHandle : LoginStateHandle := ⟨List.replicate 32 0, by decide⟩

/-- SHA-256 of 32 zero bytes. -/
def zeroDigest : Bytes :=
  [0x66, 0x68, 0x7a, 0xad, 0xf8, 0x62, 0xbd, 0x77, 0x6c, 0x8f, 0xc1, 0x8b, 0x8e, 0x9f, 0x8e, 0x20,
   0x08, 0x97, 0x14, 0x85, 0x6e, 0xe2, 0x33, 0xb3, 0x90, 0x2a, 0x59, 0x1d, 0x0d, 0x5f, 0x29, 0x25]

/-- SHA-256 on the one input the run below has. -/
def zeroSha256 (bytes : Bytes) : Bytes := if bytes = List.replicate 32 0 then zeroDigest else []

def sampleTtl : TtlMillis := ⟨60000, by decide, by decide⟩

/-- Two inserts and two consumes under one handle, with room for one state. -/
def sampleCalls : List ScriptCall :=
  [.insert 0 zeroHandle [7] sampleTtl,
   .insert 10 zeroHandle [8] sampleTtl,
   .consume 2000 zeroHandle sampleTtl,
   .consume 5 zeroHandle sampleTtl]

/-- The second insert finds the store full, the second consume finds the state gone. -/
theorem redis_login_store_run_capacity_one :
    (trace (scriptStep zeroSha256 ⟨"prod", 1⟩) ⟨1700000000000000, fun _ => none⟩ sampleCalls).map
        (fun p => (p.2.status, p.2.value)) =
      [(1, none), (0, none), (1, some [7]), (0, none)] ∧
    RedeemsOnce (events (scriptEvent zeroSha256) (scriptStep zeroSha256 ⟨"prod", 1⟩)
      ⟨1700000000000000, fun _ => none⟩ sampleCalls) :=
  ⟨by decide +kernel,
    (redis_login_store_run zeroSha256 ⟨"prod", 1⟩ ⟨1700000000000000, fun _ => none⟩
      ⟨rfl, fun _ => rfl⟩ sampleCalls).2⟩

end SecureKeypad.Server
