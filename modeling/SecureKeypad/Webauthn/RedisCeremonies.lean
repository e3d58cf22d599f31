import SecureKeypad.Server.RedisLoginStore
import SecureKeypad.Webauthn.Ceremony

/-!
# The Redis WebAuthn Ceremony Store (`secure-webauthn-example::storage_redis`)

Embeds the ceremony side of `RedisWebAuthnStore`: its two Lua scripts, its keys, and the Rust
calls around the scripts. Unlike the login store, each call brings its own time to live, the two
ceremony kinds share one pending index, and a ceremony is recorded there under its own key.

Every script run is one step of a machine over the Redis keys and clock, so a list of calls is an
interleaving of the runs of any number of store instances that share a namespace.

## Main results

- `ceremonyScriptStep_effects`: every run of scripts is one of effects on the layout of the keys
- `consumeCeremonyScript_failure`: when a consume answers `-2`
- `redis_ceremony_store_run`: tracking, the bound, one-time redemption, separation of the kinds
  and the reach of status `-2`, of every run
-/

namespace SecureKeypad.Webauthn

open Rust Server Redis Machine Machine.Ledger

/-! ## Keys -/

def handleAttempts : ℕ := 8
def maxCeremonyTtlMillis : ℕ := 15 * 60 * 1000

/-- The word of a kind in a key. -/
def CeremonyKind.word : CeremonyKind → String
  | .registration => "registration"
  | .authentication => "authentication"

/-- `ceremony_key`. -/
def ceremonyKey (storageNamespace : String) (kind : CeremonyKind) (handle : LoginStateHandle) :
    String :=
  storageNamespace ++ ":webauthn:v1:" ++ kind.word ++ ":" ++ hexEncode handle.bytes

/-- `pending_index_key`. -/
def pendingIndexKey (storageNamespace : String) : String :=
  storageNamespace ++ ":webauthn:v1:" ++ "pending"

/-- The characters of a ceremony key behind what all keys share. -/
def ceremonyTail (kind : CeremonyKind) (handle : LoginStateHandle) : List Char :=
  kind.word.toList ++ ":".toList ++ (hexEncode handle.bytes).toList

theorem toList_ceremonyKey (storageNamespace : String) (kind : CeremonyKind)
    (handle : LoginStateHandle) :
    (ceremonyKey storageNamespace kind handle).toList =
      (storageNamespace ++ ":webauthn:v1:").toList ++ ceremonyTail kind handle := by
  simp only [ceremonyKey, ceremonyTail, String.toList_append, List.append_assoc]

/-- The kinds' words differ in their first letter. -/
theorem ceremonyTail_inj {kind kind' : CeremonyKind} {handle handle' : LoginStateHandle}
    (h : ceremonyTail kind handle = ceremonyTail kind' handle') :
    kind = kind' ∧ handle = handle' := by
  have hkind : kind = kind' := by
    have hhead := congrArg List.head? h
    cases kind <;> cases kind' <;> simp [ceremonyTail, CeremonyKind.word] at hhead ⊢
  subst hkind
  have hhex := String.toList_injective (List.append_cancel_left h)
  have hbytes := hexEncode_injective hhex
  cases handle
  cases handle'
  cases hbytes
  exact ⟨rfl, rfl⟩

theorem ceremonyKey_inj {storageNamespace : String} {kind kind' : CeremonyKind}
    {handle handle' : LoginStateHandle}
    (h : ceremonyKey storageNamespace kind handle = ceremonyKey storageNamespace kind' handle') :
    kind = kind' ∧ handle = handle' := by
  have htails := congrArg String.toList h
  rw [toList_ceremonyKey, toList_ceremonyKey] at htails
  exact ceremonyTail_inj (List.append_cancel_left htails)

/-- The index is never mistaken for a ceremony. -/
theorem ceremonyKey_ne_pendingIndexKey (storageNamespace : String) (kind : CeremonyKind)
    (handle : LoginStateHandle) :
    ceremonyKey storageNamespace kind handle ≠ pendingIndexKey storageNamespace := by
  intro h
  have hindex : (pendingIndexKey storageNamespace).toList =
      (storageNamespace ++ ":webauthn:v1:").toList ++ "pending".toList := String.toList_append
  have htails := congrArg String.toList h
  rw [toList_ceremonyKey, hindex] at htails
  have hhead := congrArg List.head? (List.append_cancel_left htails)
  cases kind <;> simp [ceremonyTail, CeremonyKind.word] at hhead

/-- Where the store keeps its ceremonies: a ceremony is known by its kind and its handle. -/
def ceremonyLayout (storageNamespace : String) :
    Layout (CeremonyKind × LoginStateHandle) String String where
  key id := ceremonyKey storageNamespace id.1 id.2
  member id := ceremonyKey storageNamespace id.1 id.2
  index := pendingIndexKey storageNamespace
  key_injective _ _ h := Prod.ext_iff.mpr (ceremonyKey_inj h)
  member_injective _ _ h := Prod.ext_iff.mpr (ceremonyKey_inj h)
  key_ne_index id := ceremonyKey_ne_pendingIndexKey storageNamespace id.1 id.2

/-! ## The scripts -/

/-- The Redis keys this store works on. -/
abbrev CeremonyKeys := Keyspace String Bytes String

/-- `INSERT_SCRIPT` with `KEYS = {key, indexKey}` and `ARGV = {value, ttl, maxEntries}`, run when
    the server clock shows `clock` microseconds. -/
def insertCeremonyScript (clock : ℕ) (key indexKey : String) (value : Bytes) (ttl maxEntries : ℕ)
    (ks : CeremonyKeys) : ℤ × CeremonyKeys :=
  let now := mstime clock
  let nowMs := scriptNow clock
  let indexType := type now ks indexKey
  if indexType ≠ .none ∧ indexType ≠ .zset then (-2, del indexKey ks)
  else
    let ks := zremrangebyscore now nowMs indexKey ks
    if zcard now ks indexKey ≥ maxEntries then (0, ks)
    else
      match setNxPx now ttl key value ks with
      | (false, ks) => (-1, ks)
      | (true, ks) => (1, extendTo now ttl indexKey (zadd now (nowMs + ttl) key indexKey ks))

/-- `CONSUME_SCRIPT` with `KEYS = {key, indexKey}` and `ARGV = {maxBytes, maxTtl}`. -/
def consumeCeremonyScript (clock : ℕ) (key indexKey : String) (maxBytes maxTtl : ℕ)
    (ks : CeremonyKeys) : (ℤ × Option Bytes) × CeremonyKeys :=
  let now := mstime clock
  let nowMs := scriptNow clock
  let indexType := type now ks indexKey
  if indexType ≠ .none ∧ indexType ≠ .zset then ((-2, none), del indexKey (del key ks))
  else
    let ks := zremrangebyscore now nowMs indexKey ks
    let ttl := pttl now ks key
    if ttl = -2 then ((0, none), zrem now key indexKey ks)
    else if ttl < 1 ∨ ttl > maxTtl then ((-2, none), zrem now key indexKey (del key ks))
    else
      let keyType := type now ks key
      if keyType ≠ .none ∧ keyType ≠ .string then
        ((-2, none), zrem now key indexKey (del key ks))
      else if strlen List.length now ks key > maxBytes then
        ((-2, none), zrem now key indexKey (del key ks))
      else
        match Redis.get now ks key with
        | some value => ((1, some value), zrem now key indexKey (del key ks))
        | none => ((0, none), ks)

/-! ## Interleaved script runs -/

/-- A sealed record, as `seal` lets it through. -/
structure ProtectedRecord where
  bytes : Bytes
  bounded : bytes.length ≤ maxProtectedCeremonyRecordBytes
deriving DecidableEq

/-- One script run, `wait` microseconds after the previous one. -/
inductive CeremonyScriptCall where
  | insert (wait : ℕ) (kind : CeremonyKind) (handle : LoginStateHandle) (value : ProtectedRecord)
      (ttl : TtlMillis)
  | consume (wait : ℕ) (kind : CeremonyKind) (handle : LoginStateHandle)

/-- The ceremony a call is about. -/
def CeremonyScriptCall.id : CeremonyScriptCall → CeremonyKind × LoginStateHandle
  | .insert _ kind handle _ _ => (kind, handle)
  | .consume _ kind handle => (kind, handle)

/-- One atomic script run with the keys and arguments `insert` and `take` give it. -/
def ceremonyScriptStep (storageNamespace : String) (world : RedisWorld) :
    CeremonyScriptCall → ScriptReply × RedisWorld
  | .insert wait kind handle value ttl =>
    let clock := world.clock + wait
    let result := insertCeremonyScript clock (ceremonyKey storageNamespace kind handle)
      (pendingIndexKey storageNamespace) value.bytes ttl.millis maxPendingCeremonies world.keys
    (⟨mstime clock, result.1, none⟩, ⟨clock, result.2⟩)
  | .consume wait kind handle =>
    let clock := world.clock + wait
    let result := consumeCeremonyScript clock (ceremonyKey storageNamespace kind handle)
      (pendingIndexKey storageNamespace) maxProtectedCeremonyRecordBytes maxCeremonyTtlMillis
      world.keys
    (⟨mstime clock, result.1.1, result.1.2⟩, ⟨clock, result.2⟩)

/-- The event an insert shows. -/
def insertCeremonyEvent (id : CeremonyKind × LoginStateHandle) (value : Bytes) (e : ℕ)
    (status : ℤ) : Event (CeremonyKind × LoginStateHandle) Bytes :=
  if status = 1 then .issue id value e else .quiet

/-- The event a consume shows. -/
def consumeCeremonyEvent (id : CeremonyKind × LoginStateHandle) (now : ℕ) :
    ℤ × Option Bytes → Event (CeremonyKind × LoginStateHandle) Bytes
  | (status, some value) => if status = 1 then .redeem id value now else .quiet
  | (_, none) => .quiet

/-- An insert with status 1 stores its value until the expiry of its key, a consume with status 1
    hands out the value it returns. -/
def ceremonyScriptEvent :
    CeremonyScriptCall → ScriptReply → Event (CeremonyKind × LoginStateHandle) Bytes
  | .insert _ kind handle value ttl, reply =>
    insertCeremonyEvent (kind, handle) value.bytes (reply.now + ttl.millis) reply.status
  | .consume _ kind handle, reply =>
    consumeCeremonyEvent (kind, handle) reply.now (reply.status, reply.value)

/-! ## The calls around the scripts -/

/-- One round of `insert`'s loop: what other clients run before it, the time it takes to start,
    and the handle drawn for it. -/
structure CeremonyInsertAttempt where
  others : List CeremonyScriptCall
  wait : ℕ
  handle : LoginStateHandle

/-- `RedisWebAuthnStore` without its connection pool. -/
structure RedisWebAuthnStore where
  storageNamespace : String
  protector : WebAuthnStateProtector

namespace RedisWebAuthnStore

variable (aes : Aes256Gcm) (store : RedisWebAuthnStore)

/-- The loop of `insert` with the given number of rounds left. -/
def insertRounds (kind : CeremonyKind) (value : ProtectedRecord) (ttl : TtlMillis) :
    ℕ → (ℕ → CeremonyInsertAttempt) → RedisWorld →
      Except CeremonyStoreError LoginStateHandle × RedisWorld
  | 0, _, world => (.error .handleCollision, world)
  | rounds + 1, draw, world =>
    let world := run (ceremonyScriptStep store.storageNamespace) world (draw 0).others
    let inserted := ceremonyScriptStep store.storageNamespace world
      (.insert (draw 0).wait kind (draw 0).handle value ttl)
    if inserted.1.status = 1 then (.ok (draw 0).handle, inserted.2)
    else if inserted.1.status = 0 then (.error .capacityReached, inserted.2)
    else if inserted.1.status = -2 then (.error .unavailable, inserted.2)
    else insertRounds kind value ttl rounds (fun i => draw (i + 1)) inserted.2

/-- `insert` once a connection is at hand, for a duration of whole milliseconds. -/
def insert (kind : CeremonyKind) (userId : Uuid) (state : Bytes) (ttl : TtlMillis)
    (nonce : GcmNonce) (draw : ℕ → CeremonyInsertAttempt) (world : RedisWorld) :
    Except CeremonyStoreError LoginStateHandle × RedisWorld :=
  if state.length > maxCeremonyStateBytes then (.error .stateTooLarge, world)
  else
    match encodeCeremonyRecord kind userId state with
    | .error error => (.error error, world)
    | .ok encoded =>
      match h : store.protector.sealRecord aes nonce encoded with
      | .error error => (.error error, world)
      | .ok sealedBytes =>
        insertRounds store kind ⟨sealedBytes, store.protector.length_le_of_sealRecord aes h⟩ ttl
          handleAttempts draw world

/-- `take` once a connection is at hand. -/
def take (wait : ℕ) (kind : CeremonyKind) (handle : LoginStateHandle) (world : RedisWorld) :
    Except CeremonyStoreError (Option CeremonyState) × RedisWorld :=
  let consumed := ceremonyScriptStep store.storageNamespace world (.consume wait kind handle)
  (if consumed.1.status = 0 then .ok none
   else if consumed.1.status = 1 then
     match consumed.1.value with
     | none => .error .unavailable
     | some sealedBytes => do
       let encoded ← store.protector.openRecord aes sealedBytes
       let state ← decodeCeremonyRecord encoded
       if state.kind ≠ kind then .ok none else .ok (some state)
   else .error .unavailable,
   consumed.2)

theorem insertRounds_run (kind : CeremonyKind) (value : ProtectedRecord) (ttl : TtlMillis)
    (rounds : ℕ) (draw : ℕ → CeremonyInsertAttempt) (world : RedisWorld) :
    ∃ calls, (insertRounds store kind value ttl rounds draw world).2 =
      run (ceremonyScriptStep store.storageNamespace) world calls := by
  induction rounds generalizing draw world with
  | zero => exact ⟨[], rfl⟩
  | succ rounds ih =>
    have hone : (ceremonyScriptStep store.storageNamespace
        (run (ceremonyScriptStep store.storageNamespace) world (draw 0).others)
        (.insert (draw 0).wait kind (draw 0).handle value ttl)).2 =
        run (ceremonyScriptStep store.storageNamespace) world ((draw 0).others ++
          [.insert (draw 0).wait kind (draw 0).handle value ttl]) :=
      (run_snoc ..).symm
    simp only [insertRounds]
    split
    · exact ⟨_, hone⟩
    · split
      · exact ⟨_, hone⟩
      · split
        · exact ⟨_, hone⟩
        · obtain ⟨calls, hcalls⟩ := ih (fun i => draw (i + 1)) (ceremonyScriptStep
            store.storageNamespace (run (ceremonyScriptStep store.storageNamespace) world
              (draw 0).others) (.insert (draw 0).wait kind (draw 0).handle value ttl)).2
          rw [hone, ← run_append] at hcalls
          exact ⟨_, hone ▸ hcalls⟩

/-- Whatever `insert` does to Redis, with other clients between its rounds, is a run of
    scripts. -/
theorem insert_run (kind : CeremonyKind) (userId : Uuid) (state : Bytes) (ttl : TtlMillis)
    (nonce : GcmNonce) (draw : ℕ → CeremonyInsertAttempt) (world : RedisWorld) :
    ∃ calls, (insert aes store kind userId state ttl nonce draw world).2 =
      run (ceremonyScriptStep store.storageNamespace) world calls := by
  unfold insert
  split
  · exact ⟨[], rfl⟩
  · split
    · exact ⟨[], rfl⟩
    · split
      · exact ⟨[], rfl⟩
      · exact insertRounds_run ..

/-- `take` is one script run, and gives a state only when the script hands one out. -/
theorem take_run (wait : ℕ) (kind : CeremonyKind) (handle : LoginStateHandle)
    (world : RedisWorld) :
    (take aes store wait kind handle world).2 =
        run (ceremonyScriptStep store.storageNamespace) world [.consume wait kind handle] ∧
      ∀ state, (take aes store wait kind handle world).1 = .ok (some state) →
        state.kind = kind ∧
        ∃ value, ceremonyScriptEvent (.consume wait kind handle) (ceremonyScriptStep
          store.storageNamespace world (.consume wait kind handle)).1 =
            .redeem (kind, handle) value (mstime (world.clock + wait)) := by
  refine ⟨rfl, fun state h => ?_⟩
  -- A state is returned only if the script has consumed a value that opens as this kind.
  simp only [take] at h
  split at h
  · cases h
  · split at h
    · next hstatus =>
      split at h
      · cases h
      · next value hvalue =>
        obtain ⟨encoded, -, h⟩ := tryOp_eq_ok.mp h
        obtain ⟨decoded, -, h⟩ := tryOp_eq_ok.mp h
        split at h
        · cases h
        · next hkind =>
          cases h
          refine ⟨not_not.mp hkind, value, ?_⟩
          simp only [ceremonyScriptEvent, hvalue, consumeCeremonyEvent, if_pos hstatus]
          rfl
    · cases h

end RedisWebAuthnStore

/-! ## What a script run does -/

section Effects

variable {storageNamespace : String} {ks : CeremonyKeys}

/-- `INSERT_SCRIPT` on keys with a true index purges the index and at most stores one value. -/
theorem insertCeremonyScript_effect {clock capacity : ℕ}
    (h : Tracked (ceremonyLayout storageNamespace) capacity (mstime clock) ks)
    (id : CeremonyKind × LoginStateHandle) (value : Bytes) (ttl : ℕ) :
    let result := insertCeremonyScript clock (ceremonyKey storageNamespace id.1 id.2)
      (pendingIndexKey storageNamespace) value ttl capacity ks
    Effect (ceremonyLayout storageNamespace) capacity (mstime clock) id ks result.2
        (insertCeremonyEvent id value (mstime clock + ttl) result.1) ∧
      result.1 ≠ -2 := by
  have hindex : IndexOk ks (pendingIndexKey storageNamespace) := h.index
  simp only [insertCeremonyScript, scriptNow_eq, if_neg (hindex.type_ok (mstime clock))]
  split
  · exact ⟨h.effect_refuse id, (by decide : (0 : ℤ) ≠ -2)⟩
  · next hroom =>
    rcases hfind : find (mstime clock)
        (zremrangebyscore (mstime clock) (mstime clock) (pendingIndexKey storageNamespace) ks)
        (ceremonyKey storageNamespace id.1 id.2) with _ | slot
    · simp only [setNxPx, hfind]
      exact ⟨h.effect_enrol id value ttl hroom, (by decide : (1 : ℤ) ≠ -2)⟩
    · simp only [setNxPx, hfind]
      exact ⟨h.effect_refuse id, (by decide : (-1 : ℤ) ≠ -2)⟩

/-- `CONSUME_SCRIPT` on keys with a true index purges the index and takes the ceremony away; it
    hands out nothing but an unexpired value. -/
theorem consumeCeremonyScript_effect {clock capacity : ℕ}
    (h : Tracked (ceremonyLayout storageNamespace) capacity (mstime clock) ks)
    (id : CeremonyKind × LoginStateHandle) (maxBytes maxTtl : ℕ) :
    let result := consumeCeremonyScript clock (ceremonyKey storageNamespace id.1 id.2)
      (pendingIndexKey storageNamespace) maxBytes maxTtl ks
    Effect (ceremonyLayout storageNamespace) capacity (mstime clock) id ks result.2
      (consumeCeremonyEvent id (mstime clock) result.1) := by
  have hindex : IndexOk ks (pendingIndexKey storageNamespace) := h.index
  simp only [consumeCeremonyScript, scriptNow_eq, if_neg (hindex.type_ok (mstime clock))]
  split
  · next hmissing => exact h.effect_forget id (find_of_pttl hmissing)
  · split
    · exact h.effect_withdraw id
    · next httl =>
      split
      · exact h.effect_withdraw id
      · split
        · exact h.effect_withdraw id
        · split
          · next value hget =>
            exact h.effect_redeem id hget fun hzero => httl (.inl (hzero.trans_lt one_pos))
          · exact h.effect_refuse id

/-- What the records stored so far respect: the length the consume reads with, and an expiry
    within the longest time to live. -/
def RecordsBounded (storageNamespace : String) (now : ℕ) (ks : CeremonyKeys) : Prop :=
  ∀ id value e, (ceremonyLayout storageNamespace).stored ks id = some (value, e) →
    value.length ≤ maxProtectedCeremonyRecordBytes ∧ e ≤ now + maxCeremonyTtlMillis

/-- **Status `-2` of a consume**: the ceremony is there, in the very millisecond of its expiry. -/
theorem consumeCeremonyScript_failure {clock capacity : ℕ}
    (h : Tracked (ceremonyLayout storageNamespace) capacity (mstime clock) ks)
    (hbounded : RecordsBounded storageNamespace (mstime clock) ks)
    (id : CeremonyKind × LoginStateHandle)
    (hstatus : (consumeCeremonyScript clock (ceremonyKey storageNamespace id.1 id.2)
      (pendingIndexKey storageNamespace) maxProtectedCeremonyRecordBytes maxCeremonyTtlMillis
      ks).1.1 = -2) :
    ∃ value, ks (ceremonyKey storageNamespace id.1 id.2) =
      some ⟨.string value, some (mstime clock)⟩ := by
  have hindex : IndexOk ks (pendingIndexKey storageNamespace) := h.index
  -- Behind the purge the ceremony's key is as it was.
  have hkey : find (mstime clock)
      (zremrangebyscore (mstime clock) (mstime clock) (pendingIndexKey storageNamespace) ks)
      (ceremonyKey storageNamespace id.1 id.2) =
        find (mstime clock) ks (ceremonyKey storageNamespace id.1 id.2) :=
    find_congr ((ceremonyLayout storageNamespace).purged_key (mstime clock) ks id)
  simp only [consumeCeremonyScript, scriptNow_eq, if_neg (hindex.type_ok (mstime clock))]
    at hstatus
  simp only [type, pttl, strlen, Redis.get, hkey] at hstatus
  by_cases hfind : find (mstime clock) ks (ceremonyKey storageNamespace id.1 id.2) = none
  · rw [hfind] at hstatus
    simp at hstatus
  · obtain ⟨value, e, hold, hle⟩ : ∃ value e, ks (ceremonyKey storageNamespace id.1 id.2) =
        some ⟨.string value, some e⟩ ∧ mstime clock ≤ e := h.state_of_find hfind
    obtain ⟨hlength, hexpiry⟩ := hbounded id value e (Layout.stored_eq_some.mpr hold)
    rw [find_of_some hold, if_pos hle] at hstatus
    by_cases hnow : mstime clock = e
    · exact ⟨value, hnow ▸ hold⟩
    · -- Before its expiry every test of the script passes.
      have hlt : mstime clock < e := lt_of_le_of_ne hle hnow
      have hpresent : ¬ ((e : ℤ) - mstime clock = -2) := by omega
      have hfits : ¬ ((e : ℤ) - mstime clock < 1 ∨
          (e : ℤ) - mstime clock > maxCeremonyTtlMillis) := by omega
      have hsize : ¬ value.length > maxProtectedCeremonyRecordBytes := not_lt.mpr hlength
      simp [hpresent, hfits, hsize] at hstatus

end Effects

/-! ## Runs -/

section Runs

variable (storageNamespace : String)

/-- Every run of scripts is one of effects on the layout of the keys. -/
theorem ceremonyScriptStep_effects :
    StepsAreEffects (ceremonyScriptStep storageNamespace) ceremonyScriptEvent
      (fun world => mstime world.clock) RedisWorld.keys CeremonyScriptCall.id
      (ceremonyLayout storageNamespace) maxPendingCeremonies := by
  intro world call h
  cases call with
  | insert wait kind handle value ttl =>
    have hle : mstime world.clock ≤ mstime (world.clock + wait) :=
      mstime_mono (Nat.le_add_right _ _)
    exact ⟨hle, (insertCeremonyScript_effect (h.advance hle) (kind, handle) value.bytes
      ttl.millis).1⟩
  | consume wait kind handle =>
    have hle : mstime world.clock ≤ mstime (world.clock + wait) :=
      mstime_mono (Nat.le_add_right _ _)
    exact ⟨hle, consumeCeremonyScript_effect (h.advance hle) (kind, handle)
      maxProtectedCeremonyRecordBytes maxCeremonyTtlMillis⟩

/-- What holds in every state of a run. -/
structure CeremonyInvariant (world : RedisWorld) : Prop where
  tracked : Tracked (ceremonyLayout storageNamespace) maxPendingCeremonies (mstime world.clock)
    world.keys
  records : RecordsBounded storageNamespace (mstime world.clock) world.keys

theorem RecordsBounded.advance {storageNamespace : String} {now now' : ℕ} {ks : CeremonyKeys}
    (h : RecordsBounded storageNamespace now ks) (hle : now ≤ now') :
    RecordsBounded storageNamespace now' ks := by
  intro id value e hstored
  obtain ⟨hlength, hexpiry⟩ := h id value e hstored
  exact ⟨hlength, by omega⟩

/-- What an insert issues is bounded. -/
theorem issue_bounded {world : RedisWorld} {call : CeremonyScriptCall}
    {id : CeremonyKind × LoginStateHandle} {value : Bytes} {e : ℕ}
    (h : ceremonyScriptEvent call (ceremonyScriptStep storageNamespace world call).1 =
      .issue id value e) :
    value.length ≤ maxProtectedCeremonyRecordBytes ∧
      e ≤ mstime (ceremonyScriptStep storageNamespace world call).2.clock +
        maxCeremonyTtlMillis := by
  cases call with
  | insert wait kind handle record ttl =>
    simp only [ceremonyScriptEvent, insertCeremonyEvent] at h
    split at h
    · cases h
      have httl : ttl.millis ≤ maxCeremonyTtlMillis := ttl.le_max
      refine ⟨record.bounded, ?_⟩
      simp only [ceremonyScriptStep]
      omega
    · cases h
  | consume wait kind handle =>
    simp only [ceremonyScriptEvent, consumeCeremonyEvent] at h
    split at h
    · split at h <;> cases h
    · cases h

theorem ceremonyScriptStep_invariant {world : RedisWorld}
    (h : CeremonyInvariant storageNamespace world) (call : CeremonyScriptCall) :
    CeremonyInvariant storageNamespace (ceremonyScriptStep storageNamespace world call).2 where
  tracked := (ceremonyScriptStep_effects storageNamespace).tracked h.tracked call
  records := by
    obtain ⟨hle, heffect⟩ := ceremonyScriptStep_effects storageNamespace world call h.tracked
    intro id value e hafter
    rcases heffect.appears hafter with hbefore | hissue
    · exact h.records.advance hle id value e hbefore
    · exact issue_bounded storageNamespace hissue

theorem ceremonyInvariant_run {start : RedisWorld}
    (hempty : (ceremonyLayout storageNamespace).EmptyIn start.keys)
    (calls : List CeremonyScriptCall) :
    CeremonyInvariant storageNamespace
      (run (ceremonyScriptStep storageNamespace) start calls) := by
  refine run_invariant (ceremonyScriptStep storageNamespace)
    (P := CeremonyInvariant storageNamespace)
    (fun _ call h => ceremonyScriptStep_invariant storageNamespace h call) ?_ calls
  refine ⟨Tracked.of_emptyIn hempty, ?_⟩
  intro id value e hstored
  rw [Layout.stored_of_none (hempty.2 id)] at hstored
  cases hstored

/-- Only a consume answers `-2`, in the millisecond its ceremony expires. -/
theorem ceremonyScriptStep_failure {world : RedisWorld}
    (h : CeremonyInvariant storageNamespace world) {call : CeremonyScriptCall}
    (hstatus : (ceremonyScriptStep storageNamespace world call).1.status = -2) :
    ∃ wait kind handle value, call = .consume wait kind handle ∧
      world.keys (ceremonyKey storageNamespace kind handle) =
        some ⟨.string value, some (ceremonyScriptStep storageNamespace world call).1.now⟩ := by
  cases call with
  | insert wait kind handle value ttl =>
    have hle : mstime world.clock ≤ mstime (world.clock + wait) :=
      mstime_mono (Nat.le_add_right _ _)
    have hinsert := (insertCeremonyScript_effect (h.tracked.advance hle) (kind, handle)
      value.bytes ttl.millis).2
    simp only [ceremonyScriptStep] at hstatus
    exact absurd hstatus hinsert
  | consume wait kind handle =>
    have hle : mstime world.clock ≤ mstime (world.clock + wait) :=
      mstime_mono (Nat.le_add_right _ _)
    simp only [ceremonyScriptStep] at hstatus
    obtain ⟨value, hvalue⟩ := consumeCeremonyScript_failure (h.tracked.advance hle)
      (h.records.advance hle) (kind, handle) hstatus
    exact ⟨wait, kind, handle, value, rfl, hvalue⟩

/-- **The Redis WebAuthn ceremony store.** For every interleaving of script runs from an empty
    namespace, at every later moment before the next run: each ceremony with `PTTL > 0` is in the
    pending index under its expiry, the index outlives its scores and at most
    `maxPendingCeremonies` ceremonies are live. Each inserted value is handed out by at most one
    consume, before its expiry. A consume touches no ceremony but its own, in particular none of
    the other kind. Only a consume answers `-2`, and only in the millisecond its ceremony
    expires. -/
theorem redis_ceremony_store_run (start : RedisWorld)
    (hempty : (ceremonyLayout storageNamespace).EmptyIn start.keys)
    (calls : List CeremonyScriptCall) :
    (∀ j wait, let world := run (ceremonyScriptStep storageNamespace) start (calls.take j)
      Guarantee (ceremonyLayout storageNamespace) maxPendingCeremonies
        (mstime (world.clock + wait)) world.keys) ∧
    RedeemsOnce (events ceremonyScriptEvent (ceremonyScriptStep storageNamespace) start calls) ∧
    (∀ j wait kind handle, calls[j]? = some (.consume wait kind handle) →
      let before := run (ceremonyScriptStep storageNamespace) start (calls.take j)
      let after := run (ceremonyScriptStep storageNamespace) start (calls.take (j + 1))
      ∀ kind' handle', (kind', handle') ≠ (kind, handle) →
        after.keys (ceremonyKey storageNamespace kind' handle') =
          before.keys (ceremonyKey storageNamespace kind' handle') ∧
        ∀ e, (pending (mstime after.clock) before.keys (pendingIndexKey storageNamespace)).lookup
            (ceremonyKey storageNamespace kind' handle') = some e →
          (pending (mstime after.clock) after.keys (pendingIndexKey storageNamespace)).lookup
            (ceremonyKey storageNamespace kind' handle') = some e) ∧
    (∀ j call reply, (trace (ceremonyScriptStep storageNamespace) start calls)[j]? =
        some (call, reply) → reply.status = -2 →
      ∃ wait kind handle value, call = .consume wait kind handle ∧
        (run (ceremonyScriptStep storageNamespace) start (calls.take j)).keys
          (ceremonyKey storageNamespace kind handle) =
            some ⟨.string value, some reply.now⟩) := by
  have heffects := ceremonyScriptStep_effects storageNamespace
  have hinv := ceremonyInvariant_run storageNamespace hempty
  refine ⟨?_, ?_, ?_, ?_⟩
  · intro j wait world
    -- Waiting longer makes nothing of the invariant false.
    have hle : mstime world.clock ≤ mstime (world.clock + wait) :=
      mstime_mono (Nat.le_add_right _ _)
    exact ((hinv (calls.take j)).tracked.advance hle).guarantee
  · exact redeemsOnce_of_refinement (refinement_of_effects heffects) (hinv []).tracked
      (fun id => Layout.stored_of_none (hempty.2 id)) calls
  · intro j wait kind handle hcall before after kind' handle' hne
    have hafter : after = (ceremonyScriptStep storageNamespace before
        (.consume wait kind handle)).2 := run_take_succ _ hcall
    -- A consume touches the key and the index entry of its own handle only.
    have heffect := (heffects before (.consume wait kind handle)
      (hinv (calls.take j)).tracked).2
    rw [← hafter] at heffect
    clear_value after before
    have hother : (kind', handle') ≠ (CeremonyScriptCall.consume wait kind handle).id := hne
    obtain ⟨hkey, hpending⟩ := heffect.other hother
    refine ⟨hkey, ?_⟩
    exact hpending
  · intro j call reply hreply hstatus
    obtain ⟨hcall, rfl⟩ := trace_getElem?_eq_some _ hreply
    exact ceremonyScriptStep_failure storageNamespace (hinv (calls.take j)) hstatus

end Runs

/-! ### A run of six scripts -/

/-- One ceremony consumed under the wrong kind, then twice under its own; a second one consumed
    in the millisecond of its expiry. -/
def sampleCeremonyCalls : List CeremonyScriptCall :=
  [.insert 0 .registration zeroHandle ⟨[7], by decide⟩ sampleTtl,
   .consume 2000 .authentication zeroHandle,
   .consume 5 .registration zeroHandle,
   .consume 5 .registration zeroHandle,
   .insert 0 .authentication zeroHandle ⟨[8], by decide⟩ ⟨2, Nat.two_pos, by decide⟩,
   .consume 2000 .authentication zeroHandle]

/-- The other kind is a miss, the second consume finds nothing, the last one answers `-2`. -/
theorem redis_ceremony_store_run_sample :
    (trace (ceremonyScriptStep "prod") ⟨1700000000000000, fun _ => none⟩
        sampleCeremonyCalls).map (fun p => (p.2.status, p.2.value)) =
      [(1, none), (0, none), (1, some [7]), (0, none), (1, none), (-2, none)] ∧
    RedeemsOnce (events ceremonyScriptEvent (ceremonyScriptStep "prod")
      ⟨1700000000000000, fun _ => none⟩ sampleCeremonyCalls) :=
  ⟨by decide +kernel,
    (redis_ceremony_store_run "prod" ⟨1700000000000000, fun _ => none⟩ ⟨rfl, fun _ => rfl⟩
      sampleCeremonyCalls).2.1⟩

end SecureKeypad.Webauthn
