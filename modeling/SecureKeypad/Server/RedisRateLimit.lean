import SecureKeypad.Library.Bytes
import SecureKeypad.Library.FixedWindow
import SecureKeypad.Library.Redis
import SecureKeypad.Server.RateLimit
import SecureKeypad.Server.StorageNames

/-!
# The Redis Rate Limiter (`secure-auth-server::rate_limit_redis`)

Embeds the Lua script that checks and counts in one step, the Rust call around it and the
construction of the limiter. A run is a sequence of checks on one Redis server whose clock moves
on by any amount between two of them. SHA-256 comes from the `sha2` crate and is a parameter.

Counters are decimal text in Redis. The script reads them as Lua numbers, which are exact here:
text of ten to the fourteenth or more is never printed back as it was read and is rejected.

## Main results

- `rateLimitScript_effect`: all a script run can do to an intact keyspace
- `RateInvariant.advance`, `RateEffect.invariant`: time and script runs keep the index true
- `check_simulates`: a check other than `Unavailable` is a check of the in-memory limiter
- `redis_rate_limiter_run`: agreement with the in-memory limiter over whole runs, when
  `Unavailable` occurs, the window law, the bound on live counters and the range of `remaining`
-/

namespace SecureKeypad.Server

open Rust Redis Machine

/-! ## Configuration -/

def maxRateCounterBytes : ℕ := 32

/-- `RedisRateLimitConfigError`. -/
inductive RedisRateLimitConfigError where
  | invalidUrl
  | insecureUrl
  | invalidNamespace
  | invalidPoolSize
  | invalidCapacity
  | invalidPolicy
  | poolBuild
deriving DecidableEq

/-- `validate_namespace` of this module. -/
def RedisRateLimitConfigError.validateNamespace :
    String → Except RedisRateLimitConfigError Unit := validateNamespaceOr .invalidNamespace

/-- `policy_window_millis`. -/
def policyWindowMillis (policy : RateLimitPolicy) : Except RedisRateLimitConfigError ℕ :=
  let millis := policy.window / 1000000
  if millis ≥ 2 ^ 64 then .error .invalidPolicy
  else if millis = 0 ∨ millis ≥ 2 ^ 63 ∨ policy.window > maxDistributedRateLimitWindow then
    .error .invalidPolicy
  else .ok millis

/-- `RedisRateLimiter` without its connection pool. -/
structure RedisRateLimiter where
  storageNamespace : String
  policy : RateLimitPolicy
  windowMillis : ℕ
  maxKeys : ℕ
  windowMillis_eq : policyWindowMillis policy = .ok windowMillis
  maxKeys_pos : 0 < maxKeys
  maxKeys_le : maxKeys ≤ maxInMemoryRateKeys

namespace RedisRateLimiter

/-- `RedisRateLimiter::build`. Whether redis-rs parses the URL and the pool comes up is given by
    `clientOpens` and `poolBuilds`. -/
def build (clientOpens poolBuilds : Bool) (url storageNamespace : String)
    (poolSize maxKeys : ℕ) (policy : RateLimitPolicy) (requireTls : Bool) :
    Except RedisRateLimitConfigError RedisRateLimiter :=
  match RedisRateLimitConfigError.validateNamespace storageNamespace with
  | .error error => .error error
  | .ok () =>
    if poolSize = 0 ∨ poolSize > 256 then .error .invalidPoolSize
    else if hkeys : maxKeys = 0 ∨ maxKeys > maxInMemoryRateKeys then .error .invalidCapacity
    else
      match hwindow : policyWindowMillis policy with
      | .error error => .error error
      | .ok windowMillis =>
        if requireTls ∧ ¬ "rediss://".toList.isPrefixOf url.toList then .error .insecureUrl
        else if ¬ clientOpens then .error .invalidUrl
        else if ¬ poolBuilds then .error .poolBuild
        else
          .ok { storageNamespace, policy, windowMillis, maxKeys
                windowMillis_eq := hwindow
                maxKeys_pos := capacity_pos hkeys
                maxKeys_le := capacity_le hkeys }

/-- `key_name`. -/
def keyName (limiter : RedisRateLimiter) (hash : String) : String :=
  limiter.storageNamespace ++ ":ratelimit:v1:key:" ++ hash

/-- `index_name`. -/
def indexName (limiter : RedisRateLimiter) : String :=
  limiter.storageNamespace ++ ":ratelimit:v1:index"

theorem keyName_inj (limiter : RedisRateLimiter) {a b : String} :
    limiter.keyName a = limiter.keyName b ↔ a = b :=
  String.append_right_inj _

/-- A counter is never mistaken for the index. -/
theorem keyName_ne_indexName (limiter : RedisRateLimiter) (hash : String) :
    limiter.keyName hash ≠ limiter.indexName := by
  intro h
  rw [keyName, indexName, String.append_assoc, String.append_right_inj] at h
  have hchars := congrArg (fun text : String => text.toList[14]?) h
  rw [String.toList_append] at hchars
  exact absurd hchars (by
    rw [List.getElem?_append_left (by decide)]
    decide)

theorem windowMillis_pos (limiter : RedisRateLimiter) : 0 < limiter.windowMillis := by
  have h := limiter.windowMillis_eq
  unfold policyWindowMillis at h
  dsimp only at h
  split at h
  · cases h
  · split at h
    · cases h
    · next hmillis =>
      rw [← Except.ok.inj h]
      exact Nat.pos_of_ne_zero fun h0 => hmillis (.inl h0)

end RedisRateLimiter

/-- `hash_key`. -/
def hashKey (sha256 : Bytes → Bytes) (key : Bytes) : String := hexEncode (sha256 key)

/-! ## The script -/

/-- The Redis keys this limiter works on. -/
abbrev RateKeys := Keyspace String Bytes String

/-- Lua's `tostring` of a whole number; `none` is the exponent form it takes from ten to the
    fourteenth on, which is no text of digits. -/
def luaToString (n : ℕ) : Option Bytes := if n < 10 ^ 14 then some (decimal n) else none

/-- The script's test of a counter: a text of digits whose number is at least one, whole, and
    prints back as the same text. -/
def luaCounter (current : Bytes) : Option ℕ :=
  match parseDecimal current with
  | none => none
  | some attempts =>
    if attempts < 1 ∨ luaToString attempts ≠ some current then none else some attempts

/-- The 64-bit number `INCR` reads: the text has to be the one it would print. -/
def parseI64 : Bytes → Option ℤ
  | 0x2D :: text => (parseDecimal text).bind fun n =>
    if 0 < n ∧ decimal n = text ∧ n ≤ 2 ^ 63 then some (-(n : ℤ)) else none
  | text => (parseDecimal text).bind fun n =>
    if decimal n = text ∧ n < 2 ^ 63 then some (n : ℤ) else none

/-- The text `INCR` writes. -/
def printI64 : ℤ → Bytes
  | .ofNat n => decimal n
  | .negSucc n => 0x2D :: decimal (n + 1)

/-- `RATE_LIMIT_SCRIPT` with `KEYS = {counterKey, indexKey}` and
    `ARGV = {maxAttempts, maxKeys, window, hash, maxBytes}`, run when the server clock shows
    `clock` microseconds. `none` is a script error. -/
def rateLimitScript (clock : ℕ) (counterKey indexKey : String) (maxAttempts maxKeys window : ℕ)
    (hash : String) (maxBytes : ℕ) (ks : RateKeys) : Option (List ℤ) × RateKeys :=
  let now := mstime clock
  let nowMs := scriptNow clock
  let withdrawn := fun ks : RateKeys => zrem now hash indexKey (del counterKey ks)
  let registered := fun (score : ℕ) (ks : RateKeys) =>
    extendTo now window indexKey (zadd now score hash indexKey ks)
  let indexType := type now ks indexKey
  if indexType ≠ .none ∧ indexType ≠ .zset then
    (some [-2, 0, 0], del indexKey (del counterKey ks))
  else
    let ks := zremrangebyscore now nowMs indexKey ks
    let keyType := type now ks counterKey
    if keyType ≠ .none ∧ keyType ≠ .string then (some [-2, 0, 0], withdrawn ks)
    else if strlen List.length now ks counterKey > maxBytes then (some [-2, 0, 0], withdrawn ks)
    else
      match Redis.get now ks counterKey with
      | some current =>
        match luaCounter current with
        | none => (some [-2, 0, 0], withdrawn ks)
        | some attempts =>
          if attempts ≥ maxAttempts then
            let ttl := pttl now ks counterKey
            if ttl < 1 ∨ ttl > window then (some [-2, 0, 0], withdrawn ks)
            else (some [0, 0, ttl], registered (nowMs + ttl.toNat) ks)
          else
            match incr parseI64 printI64 now counterKey ks with
            | (none, ks) => (none, ks)
            | (some nextAttempts, ks) =>
              let ttl := pttl now ks counterKey
              if ttl < 1 ∨ ttl > window then (some [-2, 0, 0], withdrawn ks)
              else (some [1, maxAttempts - nextAttempts, ttl], registered (nowMs + ttl.toNat) ks)
      | none =>
        let ks := zrem now hash indexKey ks
        if zcard now ks indexKey ≥ maxKeys then (some [-1, 0, 0], ks)
        else
          (some [1, maxAttempts - 1, window],
            registered (nowMs + window) (setPx now window counterKey (decimal 1) ks))

/-! ## The call around the script -/

/-- What `check` makes of the script's response. -/
def decodeResponse : Option (List ℤ) → Except RateLimitError RateLimitDecision
  | some [status, left, millis] =>
    if status = -2 then .error .unavailable
    else if status = -1 then .error .capacityReached
    else if status = 0 then (retryAfter millis).map .limited
    else if status = 1 then
      match u32TryFrom left with
      | some remaining => .ok (.allowed remaining)
      | none => .error .unavailable
    else .error .unavailable
  | _ => .error .unavailable

/-- The Redis server: its clock in microseconds and its keys. -/
structure RateWorld where
  clock : ℕ
  keys : RateKeys

/-- One check, `wait` microseconds after the previous one. -/
structure RateCall where
  wait : ℕ
  key : Bytes

/-- What a check answers: the millisecond it ran in, the script's response if it got that far,
    and the result. -/
structure RateReply where
  now : ℕ
  response : Option (List ℤ)
  result : Except RateLimitError RateLimitDecision

/-- The script with the keys and arguments `check` gives it. -/
def RedisRateLimiter.invoke (limiter : RedisRateLimiter) (clock : ℕ) (hash : String)
    (ks : RateKeys) : Option (List ℤ) × RateKeys :=
  rateLimitScript clock (limiter.keyName hash) limiter.indexName limiter.policy.maxAttempts
    limiter.maxKeys limiter.windowMillis hash maxRateCounterBytes ks

/-- `check` once a connection is at hand. -/
def rateStep (sha256 : Bytes → Bytes) (limiter : RedisRateLimiter) (world : RateWorld)
    (call : RateCall) : RateReply × RateWorld :=
  let clock := world.clock + call.wait
  if call.key.isEmpty ∨ call.key.length > maxRateLimitKeyBytes then
    (⟨mstime clock, none, .error .invalidKey⟩, ⟨clock, world.keys⟩)
  else
    let hash := hashKey sha256 call.key
    let result := limiter.invoke clock hash world.keys
    (⟨mstime clock, result.1, decodeResponse result.1⟩, ⟨clock, result.2⟩)

/-! ## Counters as text -/

/-- A counter the limiter can hold passes the script's test. -/
theorem luaCounter_decimal {n : ℕ} (hpos : 0 < n) (hlt : n < 2 ^ 32) :
    luaCounter (decimal n) = some n := by
  have hprint : luaToString n = some (decimal n) := by
    rw [luaToString, if_pos (hlt.trans (by decide))]
  rw [luaCounter, parseDecimal_decimal]
  dsimp only
  rw [if_neg]
  rintro (hzero | hne)
  · omega
  · exact hne hprint

theorem length_decimal_le_maxRateCounterBytes {n : ℕ} (hpos : 0 < n) (hlt : n < 2 ^ 32) :
    (decimal n).length ≤ maxRateCounterBytes :=
  (length_decimal_le hpos.ne' (hlt.trans (by decide : (2 : ℕ) ^ 32 < 10 ^ 10))).trans (by decide)

/-- A text of digits does not start with a sign. -/
private theorem parseDecimal_minus (text : Bytes) : parseDecimal (0x2D :: text) = none := by
  rw [parseDecimal, if_neg]
  rintro ⟨-, hall⟩
  rw [List.all_cons, Bool.and_eq_true] at hall
  exact absurd hall.1 (by decide)

theorem parseI64_decimal {n : ℕ} (hlt : n < 2 ^ 63) : parseI64 (decimal n) = some (n : ℤ) := by
  unfold parseI64
  split
  · next text htext =>
    have hparse := parseDecimal_decimal n
    rw [htext, parseDecimal_minus] at hparse
    cases hparse
  · rw [parseDecimal_decimal, Option.bind_some, if_pos ⟨rfl, hlt⟩]

/-! ## What holds of the keys -/

/-- The counter of a window opened at `start` that has admitted `n` checks. -/
def RedisRateLimiter.counterSlot (limiter : RedisRateLimiter) (start n : ℕ) : Slot Bytes String :=
  ⟨.string (decimal n), some (start + limiter.windowMillis)⟩

theorem RedisRateLimiter.counterSlot_inj {limiter : RedisRateLimiter} {start n start' n' : ℕ}
    (h : limiter.counterSlot start n = limiter.counterSlot start' n') : start = start' ∧ n = n' := by
  simp only [counterSlot, Slot.mk.injEq, Value.string.injEq, Option.some.injEq] at h
  exact ⟨Nat.add_right_cancel h.2, decimal_injective h.1⟩

/-- What script runs keep true of the keys, seen at the millisecond `now`: the index outlives its
    members, every counter belongs to a window and holds a count within the policy, and the
    unexpired members of the index are exactly the counters of open windows. -/
structure RateInvariant (limiter : RedisRateLimiter) (now : ℕ) (ks : RateKeys) : Prop where
  index : IndexOk ks limiter.indexName
  size_le : (pending now ks limiter.indexName).size ≤ limiter.maxKeys
  counters : ∀ digest : Bytes, ks (limiter.keyName (hexEncode digest)) = none ∨
    ∃ start n, ks (limiter.keyName (hexEncode digest)) = some (limiter.counterSlot start n) ∧
      0 < n ∧ n ≤ limiter.policy.maxAttempts ∧ start ≤ now
  members : ∀ hash e, (pending now ks limiter.indexName).lookup hash = some e ↔
    now < e ∧ ∃ digest start n, hash = hexEncode digest ∧ e = start + limiter.windowMillis ∧
      ks (limiter.keyName hash) = some (limiter.counterSlot start n)

namespace RateInvariant

variable {limiter : RedisRateLimiter} {now : ℕ} {ks : RateKeys}

/-- Time passing keeps the invariant. -/
theorem advance (h : RateInvariant limiter now ks) {now' : ℕ} (hnow : now ≤ now') :
    RateInvariant limiter now' ks where
  index := h.index
  size_le := by
    refine le_trans (KeyedMap.size_le_of_lookup ?_) h.size_le
    intro hash e hlookup
    exact ⟨e, ((lookup_pending_advance h.index hnow).mp hlookup).1⟩
  counters := by
    intro digest
    rcases h.counters digest with hnone | ⟨start, n, hkey, hpos, hle, hstart⟩
    · exact .inl hnone
    · exact .inr ⟨start, n, hkey, hpos, hle, hstart.trans hnow⟩
  members := by
    intro hash e
    rw [lookup_pending_advance h.index hnow, h.members]
    constructor
    · rintro ⟨⟨-, hcounter⟩, hlt⟩
      exact ⟨hlt, hcounter⟩
    · rintro ⟨hlt, hcounter⟩
      exact ⟨⟨hnow.trans_lt hlt, hcounter⟩, hlt⟩

/-- The score of an open window is its end. -/
theorem lookup_of_open (h : RateInvariant limiter now ks) {digest : Bytes} {start n : ℕ}
    (hkey : ks (limiter.keyName (hexEncode digest)) = some (limiter.counterSlot start n))
    (hopen : now < start + limiter.windowMillis) :
    (pending now ks limiter.indexName).lookup (hexEncode digest) =
      some (start + limiter.windowMillis) :=
  (h.members _ _).mpr ⟨hopen, digest, start, n, rfl, rfl, hkey⟩

/-- A digest whose window is over, or never opened, is not among the unexpired members. -/
theorem lookup_of_over (h : RateInvariant limiter now ks) {digest : Bytes}
    (hover : ∀ start n, ks (limiter.keyName (hexEncode digest)) =
      some (limiter.counterSlot start n) → start + limiter.windowMillis ≤ now) :
    (pending now ks limiter.indexName).lookup (hexEncode digest) = none := by
  rw [Option.eq_none_iff_forall_ne_some]
  intro e hlookup
  obtain ⟨hlt, -, start, n, -, rfl, hkey⟩ := (h.members _ _).mp hlookup
  exact absurd (hover start n hkey) (not_le.mpr hlt)

end RateInvariant

/-! ## What a script run does -/

section Effects

variable {limiter : RedisRateLimiter} {now : ℕ} {digest : Bytes} {ks ks' : RateKeys}

/-- All a script run for the digest can do to an intact keyspace, with its response. -/
inductive RateEffect (limiter : RedisRateLimiter) (now : ℕ) (digest : Bytes) (ks ks' : RateKeys) :
    List ℤ → Prop where
  /-- The window ends in this very millisecond: its counter is deleted. -/
  | expired (start n : ℕ)
      (hold : ks (limiter.keyName (hexEncode digest)) = some (limiter.counterSlot start n))
      (hnow : now = start + limiter.windowMillis)
      (hks : Rewritten now limiter.indexName (limiter.keyName (hexEncode digest)) ks
        (pending now ks limiter.indexName) ks')
      (hkey : ks' (limiter.keyName (hexEncode digest)) = none) :
      RateEffect limiter now digest ks ks' [-2, 0, 0]
  /-- The open window is exhausted. -/
  | limited (start n : ℕ)
      (hold : ks (limiter.keyName (hexEncode digest)) = some (limiter.counterSlot start n))
      (hopen : now < start + limiter.windowMillis) (hmax : limiter.policy.maxAttempts ≤ n)
      (hks : Rewritten now limiter.indexName (limiter.keyName (hexEncode digest)) ks
        ((pending now ks limiter.indexName).insert (hexEncode digest)
          (start + limiter.windowMillis)) ks')
      (hkey : ks' (limiter.keyName (hexEncode digest)) = some (limiter.counterSlot start n)) :
      RateEffect limiter now digest ks ks' [0, 0, (start + limiter.windowMillis : ℕ) - now]
  /-- The check counts in the open window. -/
  | counted (start n : ℕ)
      (hold : ks (limiter.keyName (hexEncode digest)) = some (limiter.counterSlot start n))
      (hopen : now < start + limiter.windowMillis) (hmax : n < limiter.policy.maxAttempts)
      (hks : Rewritten now limiter.indexName (limiter.keyName (hexEncode digest)) ks
        ((pending now ks limiter.indexName).insert (hexEncode digest)
          (start + limiter.windowMillis)) ks')
      (hkey : ks' (limiter.keyName (hexEncode digest)) =
        some (limiter.counterSlot start (n + 1))) :
      RateEffect limiter now digest ks ks'
        [1, limiter.policy.maxAttempts - ((n : ℤ) + 1), (start + limiter.windowMillis : ℕ) - now]
  /-- There is no room for another window. -/
  | full
      (hold : find now ks (limiter.keyName (hexEncode digest)) = none)
      (hsize : limiter.maxKeys ≤ (pending now ks limiter.indexName).size)
      (hks : Rewritten now limiter.indexName (limiter.keyName (hexEncode digest)) ks
        (pending now ks limiter.indexName) ks')
      (hkey : ks' (limiter.keyName (hexEncode digest)) =
        ks (limiter.keyName (hexEncode digest))) :
      RateEffect limiter now digest ks ks' [-1, 0, 0]
  /-- The check opens a window. -/
  | opened
      (hold : find now ks (limiter.keyName (hexEncode digest)) = none)
      (hsize : (pending now ks limiter.indexName).size < limiter.maxKeys)
      (hks : Rewritten now limiter.indexName (limiter.keyName (hexEncode digest)) ks
        ((pending now ks limiter.indexName).insert (hexEncode digest)
          (now + limiter.windowMillis)) ks')
      (hkey : ks' (limiter.keyName (hexEncode digest)) = some (limiter.counterSlot now 1)) :
      RateEffect limiter now digest ks ks'
        [1, (limiter.policy.maxAttempts : ℤ) - 1, limiter.windowMillis]

/-- A digest without a visible counter: the check opens a window if there is room. -/
theorem invoke_of_find_none {clock : ℕ} (h : RateInvariant limiter (mstime clock) ks)
    (hfind : find (mstime clock) ks (limiter.keyName (hexEncode digest)) = none) :
    ∃ response ks', limiter.invoke clock (hexEncode digest) ks = (some response, ks') ∧
      RateEffect limiter (mstime clock) digest ks ks' response := by
  have hne := limiter.keyName_ne_indexName (hexEncode digest)
  have hpurge := h.index.purge (mstime clock) (limiter.keyName (hexEncode digest))
  have hkey : zremrangebyscore (mstime clock) (mstime clock) limiter.indexName ks
      (limiter.keyName (hexEncode digest)) = ks (limiter.keyName (hexEncode digest)) :=
    zremrangebyscore_of_ne hne
  simp only [RedisRateLimiter.invoke, rateLimitScript, scriptNow_eq,
    if_neg (h.index.type_ok (mstime clock))]
  generalize zremrangebyscore (mstime clock) (mstime clock) limiter.indexName ks = purged
    at hpurge hkey ⊢
  have hfind' : find (mstime clock) purged (limiter.keyName (hexEncode digest)) = none := by
    rw [find_congr hkey, hfind]
  have hget : Redis.get (mstime clock) purged (limiter.keyName (hexEncode digest)) = none := by
    rw [Redis.get, hfind']
  have htype : type (mstime clock) purged (limiter.keyName (hexEncode digest)) = .none := by
    rw [type, hfind']
  have hlen : ¬ strlen List.length (mstime clock) purged (limiter.keyName (hexEncode digest)) >
      maxRateCounterBytes := by
    rw [strlen, hget]
    exact Nat.not_lt_zero _
  -- A counter that is gone was over, so the index has no live entry for it.
  have hover : (pending (mstime clock) ks limiter.indexName).lookup (hexEncode digest) = none := by
    apply h.lookup_of_over
    intro start n hslot
    by_contra hlt
    rw [find_of_some hslot, if_pos (not_le.mp hlt).le] at hfind
    cases hfind
  have hzrem := hpurge.zrem (hexEncode digest)
  rw [KeyedMap.erase_of_lookup_none hover] at hzrem
  have hzkey : zrem (mstime clock) (hexEncode digest) limiter.indexName purged
      (limiter.keyName (hexEncode digest)) = ks (limiter.keyName (hexEncode digest)) := by
    rw [zrem_of_ne hne, hkey]
  simp only [htype, ne_eq, not_true_eq_false, false_and, if_false, if_neg hlen, hget]
  split
  -- As many windows are open as there may be.
  · next hsize =>
    rw [zcard, hzrem.scores_eq] at hsize
    exact ⟨_, _, rfl, .full hfind hsize hzrem hzkey⟩
  · next hsize =>
    rw [zcard, hzrem.scores_eq, not_le] at hsize
    -- There is room: the counter starts at 1 and is entered in the index.
    refine ⟨_, _, rfl, .opened hfind hsize
      ((hzrem.setPx hne limiter.windowMillis (decimal 1)).register (le_refl _) _) ?_⟩
    rw [extendTo_of_ne hne, zadd_of_ne hne, setPx_self]
    rfl

/-- The common end of the two branches that find a counter: in the millisecond the window ends
    the counter is withdrawn, before it the counter is registered under its expiry. -/
private theorem finish_counter {start n m : ℕ} {response : List ℤ} {mid : RateKeys}
    (h : RateInvariant limiter now ks)
    (hold : ks (limiter.keyName (hexEncode digest)) = some (limiter.counterSlot start n))
    (hstart : start ≤ now) (hvisible : now ≤ start + limiter.windowMillis)
    (hmid : Rewritten now limiter.indexName (limiter.keyName (hexEncode digest)) ks
      (pending now ks limiter.indexName) mid)
    (hkey : mid (limiter.keyName (hexEncode digest)) = some (limiter.counterSlot start m))
    (hend : now < start + limiter.windowMillis →
      ∀ ks', Rewritten now limiter.indexName (limiter.keyName (hexEncode digest)) ks
        ((pending now ks limiter.indexName).insert (hexEncode digest)
          (start + limiter.windowMillis)) ks' →
      ks' (limiter.keyName (hexEncode digest)) = some (limiter.counterSlot start m) →
      RateEffect limiter now digest ks ks' response) :
    ∃ response' ks', (if ((start + limiter.windowMillis : ℕ) - (now : ℤ) < 1 ∨
        (start + limiter.windowMillis : ℕ) - (now : ℤ) > limiter.windowMillis) then
        (some [-2, 0, 0], zrem now (hexEncode digest) limiter.indexName
          (del (limiter.keyName (hexEncode digest)) mid))
      else (some response, extendTo now limiter.windowMillis limiter.indexName
        (zadd now (now + ((start + limiter.windowMillis : ℕ) - (now : ℤ)).toNat)
          (hexEncode digest) limiter.indexName mid))) = (some response', ks') ∧
      RateEffect limiter now digest ks ks' response' := by
  have hne := limiter.keyName_ne_indexName (hexEncode digest)
  -- At the very millisecond of the expiry the key still answers, with nothing left to live.
  by_cases hnow : now = start + limiter.windowMillis
  · rw [if_pos (.inl (by omega))]
    have hover : (pending now ks limiter.indexName).lookup (hexEncode digest) = none := by
      apply h.lookup_of_over
      intro start' n' hslot
      rw [hold, Option.some.injEq] at hslot
      rw [← (RedisRateLimiter.counterSlot_inj hslot).1]
      exact hnow.ge
    have hks' := (hmid.del hne).zrem (hexEncode digest)
    rw [KeyedMap.erase_of_lookup_none hover] at hks'
    refine ⟨_, _, rfl, .expired start n hold hnow hks' ?_⟩
    rw [zrem_of_ne hne, del_self]
  · have hopen : now < start + limiter.windowMillis := lt_of_le_of_ne hvisible hnow
    have hscore : now + ((start + limiter.windowMillis : ℕ) - (now : ℤ)).toNat =
        start + limiter.windowMillis := by omega
    rw [if_neg (by omega), hscore]
    refine ⟨_, _, rfl, hend hopen _ (hmid.register (by omega) _) ?_⟩
    rw [extendTo_of_ne hne, zadd_of_ne hne, hkey]

/-- A digest with a visible counter: the check counts, is limited, or finds the window just
    over. -/
theorem invoke_of_counter {clock : ℕ} (h : RateInvariant limiter (mstime clock) ks)
    {start n : ℕ}
    (hold : ks (limiter.keyName (hexEncode digest)) = some (limiter.counterSlot start n))
    (hpos : 0 < n) (hmax : n ≤ limiter.policy.maxAttempts) (hstart : start ≤ mstime clock)
    (hvisible : mstime clock ≤ start + limiter.windowMillis) :
    ∃ response ks', limiter.invoke clock (hexEncode digest) ks = (some response, ks') ∧
      RateEffect limiter (mstime clock) digest ks ks' response := by
  have hne := limiter.keyName_ne_indexName (hexEncode digest)
  have hu32 : n < 2 ^ 32 := hmax.trans_lt limiter.policy.maxAttempts_lt
  -- The purge of the index leaves the counter alone.
  have hpurge := h.index.purge (mstime clock) (limiter.keyName (hexEncode digest))
  have hkey : zremrangebyscore (mstime clock) (mstime clock) limiter.indexName ks
      (limiter.keyName (hexEncode digest)) = some (limiter.counterSlot start n) := by
    rw [zremrangebyscore_of_ne hne, hold]
  simp only [RedisRateLimiter.invoke, rateLimitScript, scriptNow_eq,
    if_neg (h.index.type_ok (mstime clock))]
  generalize zremrangebyscore (mstime clock) (mstime clock) limiter.indexName ks = purged
    at hpurge hkey ⊢
  have hfind : find (mstime clock) purged (limiter.keyName (hexEncode digest)) =
      some (limiter.counterSlot start n) := by
    rw [RedisRateLimiter.counterSlot, find_of_some hkey, if_pos hvisible]
  have hget : Redis.get (mstime clock) purged (limiter.keyName (hexEncode digest)) =
      some (decimal n) := by
    rw [Redis.get, hfind, RedisRateLimiter.counterSlot]
  have htype : type (mstime clock) purged (limiter.keyName (hexEncode digest)) = .string := by
    rw [type, hfind, RedisRateLimiter.counterSlot]
  -- What the script has written itself passes the checks it makes on reading.
  have hlen : ¬ strlen List.length (mstime clock) purged (limiter.keyName (hexEncode digest)) >
      maxRateCounterBytes := by
    rw [strlen, hget, Option.map_some, Option.getD_some, gt_iff_lt, not_lt]
    exact length_decimal_le_maxRateCounterBytes hpos hu32
  have hpttl : ∀ {ks : RateKeys} {m : ℕ},
      ks (limiter.keyName (hexEncode digest)) = some (limiter.counterSlot start m) →
      pttl (mstime clock) ks (limiter.keyName (hexEncode digest)) =
        (start + limiter.windowMillis : ℕ) - (mstime clock : ℤ) :=
    fun hslot => pttl_of_some hslot hvisible
  simp only [htype, ne_eq, not_true_eq_false, and_false, if_false, if_neg hlen, hget,
    luaCounter_decimal hpos hu32]
  -- At the limit the script only reads; below it the counter is raised.
  by_cases hfull : n ≥ limiter.policy.maxAttempts
  · simp only [if_pos hfull, hpttl hkey]
    exact finish_counter h hold hstart hvisible hpurge hkey fun hopen _ hks' hkey' =>
      .limited start n hold hopen hfull hks' hkey'
  · have hincr := incr_of_find printI64 hfind (parseI64_decimal (n := n) (by omega))
      (by omega)
    -- The raised counter keeps the lifetime of its window.
    have hnext : Function.update purged (limiter.keyName (hexEncode digest))
        (some ⟨.string (printI64 (n + 1)), some (start + limiter.windowMillis)⟩)
        (limiter.keyName (hexEncode digest)) = some (limiter.counterSlot start (n + 1)) :=
      Function.update_self ..
    have hpurge' := hpurge.of_frame hne fun k' hk' =>
      Function.update_of_ne hk' (some ⟨.string (printI64 (n + 1)),
        some (start + limiter.windowMillis)⟩) purged
    simp only [if_neg hfull, hincr, hpttl hnext]
    exact finish_counter h hold hstart hvisible hpurge' hnext fun hopen _ hks' hkey' =>
      .counted start n hold hopen (not_le.mp hfull) hks' hkey'

/-- **The script on an intact keyspace** never fails and has one of the five effects. -/
theorem invoke_effect {clock : ℕ} (h : RateInvariant limiter (mstime clock) ks)
    (digest : Bytes) :
    ∃ response ks', limiter.invoke clock (hexEncode digest) ks = (some response, ks') ∧
      RateEffect limiter (mstime clock) digest ks ks' response := by
  rcases h.counters digest with hnone | ⟨start, n, hold, hpos, hmax, hstart⟩
  · exact invoke_of_find_none h (find_of_none hnone)
  · by_cases hvisible : mstime clock ≤ start + limiter.windowMillis
    · exact invoke_of_counter h hold hpos hmax hstart hvisible
    · exact invoke_of_find_none h (by rw [find_of_some hold, if_neg hvisible])

/-- What an effect leaves under its digest: no counter and no member, what was there, or the
    counter of an open window registered under the window's end. -/
def Settled (limiter : RedisRateLimiter) (now : ℕ) (digest : Bytes) (ks : RateKeys)
    (members : KeyedMap String ℕ) (ks' : RateKeys) : Prop :=
  (ks' (limiter.keyName (hexEncode digest)) = none ∧ members.lookup (hexEncode digest) = none) ∨
  (ks' (limiter.keyName (hexEncode digest)) = ks (limiter.keyName (hexEncode digest)) ∧
    members = pending now ks limiter.indexName) ∨
  ∃ start n, ks' (limiter.keyName (hexEncode digest)) = some (limiter.counterSlot start n) ∧
    members.lookup (hexEncode digest) = some (start + limiter.windowMillis) ∧
    0 < n ∧ n ≤ limiter.policy.maxAttempts ∧ start ≤ now ∧ now < start + limiter.windowMillis

/-- The counter found under a digest is one of a window within the policy. -/
theorem RateInvariant.counter_ok (h : RateInvariant limiter now ks) {start n : ℕ}
    (hold : ks (limiter.keyName (hexEncode digest)) = some (limiter.counterSlot start n)) :
    0 < n ∧ n ≤ limiter.policy.maxAttempts ∧ start ≤ now := by
  rcases h.counters digest with hnone | ⟨start', n', hkey, hok⟩
  · rw [hnone] at hold
    cases hold
  · rw [hkey, Option.some.injEq] at hold
    obtain ⟨rfl, rfl⟩ := RedisRateLimiter.counterSlot_inj hold
    exact hok

/-- Every effect rewrites the index within its bound and settles its digest. -/
theorem RateEffect.settles {response : List ℤ} (h : RateInvariant limiter now ks)
    (heffect : RateEffect limiter now digest ks ks' response) :
    ∃ members, Rewritten now limiter.indexName (limiter.keyName (hexEncode digest)) ks members ks' ∧
      (∀ hash, hash ≠ hexEncode digest →
        members.lookup hash = (pending now ks limiter.indexName).lookup hash) ∧
      members.size ≤ limiter.maxKeys ∧ Settled limiter now digest ks members ks' := by
  -- By the end of the script: the counter is gone, left as it was, or counts on.
  cases heffect with
  | expired start n hold hnow hks hkey =>
    refine ⟨_, hks, fun _ _ => rfl, h.size_le, .inl ⟨hkey, h.lookup_of_over ?_⟩⟩
    intro start' n' hslot
    rw [hold, Option.some.injEq] at hslot
    rw [← (RedisRateLimiter.counterSlot_inj hslot).1]
    exact hnow.ge
  | limited start n hold hopen hmax hks hkey =>
    obtain ⟨hpos, hle, hstart⟩ := h.counter_ok hold
    have hsize := KeyedMap.size_insert_of_lookup_some (start + limiter.windowMillis)
      (h.lookup_of_open hold hopen)
    exact ⟨_, hks, fun hash hhash => AList.lookup_insert_ne hhash, hsize.le.trans h.size_le,
      .inr (.inr ⟨start, n, hkey, AList.lookup_insert _, hpos, hle, hstart, hopen⟩)⟩
  | counted start n hold hopen hmax hks hkey =>
    obtain ⟨hpos, -, hstart⟩ := h.counter_ok hold
    have hsize := KeyedMap.size_insert_of_lookup_some (start + limiter.windowMillis)
      (h.lookup_of_open hold hopen)
    exact ⟨_, hks, fun hash hhash => AList.lookup_insert_ne hhash, hsize.le.trans h.size_le,
      .inr (.inr ⟨start, n + 1, hkey, AList.lookup_insert _, Nat.succ_pos n, hmax, hstart, hopen⟩)⟩
  | full hold hsize hks hkey =>
    exact ⟨_, hks, fun _ _ => rfl, h.size_le, .inr (.inl ⟨hkey, rfl⟩)⟩
  | opened hold hsize hks hkey =>
    exact ⟨_, hks, fun hash hhash => AList.lookup_insert_ne hhash,
      (KeyedMap.size_insert_le _ _ _).trans hsize,
      .inr (.inr ⟨now, 1, hkey, AList.lookup_insert _, Nat.one_pos, limiter.policy.maxAttempts_pos,
        le_refl now, Nat.lt_add_of_pos_right limiter.windowMillis_pos⟩)⟩

/-- Another digest's counter is left alone. -/
theorem RateEffect.other {response : List ℤ} (h : RateInvariant limiter now ks)
    (heffect : RateEffect limiter now digest ks ks' response) {hash : String}
    (hne : hash ≠ hexEncode digest) : ks' (limiter.keyName hash) = ks (limiter.keyName hash) := by
  obtain ⟨members, hks, -⟩ := heffect.settles h
  exact hks.frame _ (limiter.keyName_ne_indexName hash) fun heq => hne (limiter.keyName_inj.mp heq)

/-- **A script run keeps the invariant.** -/
theorem RateEffect.invariant {response : List ℤ} (h : RateInvariant limiter now ks)
    (heffect : RateEffect limiter now digest ks ks' response) : RateInvariant limiter now ks' := by
  -- What the script leaves of the index and of the one counter it has touched.
  obtain ⟨members, hks, hothers, hsize, hsettled⟩ := heffect.settles h
  refine ⟨hks.index_ok, ?_, ?_, ?_⟩
  · rw [pending, hks.scores_eq]
    exact (KeyedMap.size_retain_le _ _).trans hsize
  · intro other
    by_cases hother : hexEncode other = hexEncode digest
    · rw [hother]
      rcases hsettled with ⟨hkey, -⟩ | ⟨hkey, -⟩ | ⟨start, n, hkey, -, hpos, hle, hstart, -⟩
      · exact .inl hkey
      · rw [hkey]
        exact h.counters digest
      · exact .inr ⟨start, n, hkey, hpos, hle, hstart⟩
    · rw [heffect.other h hother]
      exact h.counters other
  · intro hash e
    rw [lookup_pending, hks.scores_eq]
    by_cases hhash : hash = hexEncode digest
    · subst hhash
      rcases hsettled with ⟨hkey, hlookup⟩ | ⟨hkey, rfl⟩ | ⟨start, n, hkey, hlookup, -, -, -, -⟩
      · rw [hkey, hlookup]
        simp
      · rw [hkey, h.members]
        exact ⟨fun hmember => hmember.1, fun hmember => ⟨hmember, hmember.1⟩⟩
      · rw [hkey, hlookup, Option.some.injEq]
        constructor
        · rintro ⟨rfl, hlt⟩
          exact ⟨hlt, digest, start, n, rfl, rfl, rfl⟩
        · rintro ⟨hlt, -, start', n', -, rfl, hslot⟩
          rw [Option.some.injEq] at hslot
          rw [(RedisRateLimiter.counterSlot_inj hslot).1]
          exact ⟨rfl, hlt⟩
    · rw [hothers hash hhash, heffect.other h hhash, h.members]
      exact ⟨fun hmember => hmember.1, fun hmember => ⟨hmember, hmember.1⟩⟩

end Effects

/-! ## Simulation by the in-memory limiter -/

/-- The instant, in nanoseconds, of a millisecond of the Redis clock. -/
def instantOfMillis (millis : ℕ) : ℕ := millis * 1000000

/-- The two limiters hold the same open windows. An entry of a key that has been used is open
    exactly when its counter is, with the same start and count; closed entries may linger in the
    in-memory limiter until it purges them. -/
structure RateSim (sha256 : Bytes → Bytes) (limiter : RedisRateLimiter) (used : Set Bytes)
    (now : ℕ) (ks : RateKeys) (memory : InMemoryRateLimiter) : Prop where
  intact : RateInvariant limiter now ks
  maxKeys_eq : memory.maxKeys = limiter.maxKeys
  policy_eq : memory.policy = limiter.policy
  healthy : memory.entries.poisoned = false
  started : ∀ key entry, memory.entries.value.lookup key = some entry →
    entry.startedAt ≤ instantOfMillis now
  entries_used : ∀ key entry, memory.entries.value.lookup key = some entry → key ∈ used
  counters_used : ∀ digest start n,
    ks (limiter.keyName (hexEncode digest)) = some (limiter.counterSlot start n) →
    now < start + limiter.windowMillis → ∃ key ∈ used, sha256 key = digest
  agree : ∀ key ∈ used, ∀ startedAt n,
    (memory.entries.value.lookup key = some ⟨startedAt, n⟩ ∧
      instantOfMillis now < startedAt + limiter.policy.window) ↔
    ∃ start, startedAt = instantOfMillis start ∧
      ks (limiter.keyName (hashKey sha256 key)) = some (limiter.counterSlot start n) ∧
      now < start + limiter.windowMillis

section Simulation

variable {sha256 : Bytes → Bytes} {limiter : RedisRateLimiter} {used : Set Bytes} {now : ℕ}
  {ks ks' : RateKeys} {memory : InMemoryRateLimiter}

/-- A policy of whole milliseconds. -/
def RedisRateLimiter.WholeMillis (limiter : RedisRateLimiter) : Prop :=
  limiter.policy.window = instantOfMillis limiter.windowMillis

theorem instantOfMillis_lt_iff (hwhole : limiter.WholeMillis) (t start : ℕ) :
    instantOfMillis t < instantOfMillis start + limiter.policy.window ↔
      t < start + limiter.windowMillis := by
  rw [hwhole, instantOfMillis, instantOfMillis, instantOfMillis]
  omega

namespace RateSim

/-- Time passing closes the same windows in both limiters. -/
theorem advance (h : RateSim sha256 limiter used now ks memory) (hwhole : limiter.WholeMillis)
    {now' : ℕ} (hnow : now ≤ now') : RateSim sha256 limiter used now' ks memory where
  intact := h.intact.advance hnow
  maxKeys_eq := h.maxKeys_eq
  policy_eq := h.policy_eq
  healthy := h.healthy
  started key entry hentry := (h.started key entry hentry).trans (Nat.mul_le_mul_right _ hnow)
  entries_used := h.entries_used
  counters_used digest start n hkey hopen :=
    h.counters_used digest start n hkey (hnow.trans_lt hopen)
  agree := by
    intro key hkey startedAt n
    have hle : instantOfMillis now ≤ instantOfMillis now' := Nat.mul_le_mul_right _ hnow
    constructor
    · rintro ⟨hentry, hopen⟩
      obtain ⟨start, rfl, hslot, -⟩ :=
        (h.agree key hkey startedAt n).mp ⟨hentry, hle.trans_lt hopen⟩
      exact ⟨start, rfl, hslot, (instantOfMillis_lt_iff hwhole now' start).mp hopen⟩
    · rintro ⟨start, rfl, hslot, hopen⟩
      obtain ⟨hentry, -⟩ := (h.agree key hkey (instantOfMillis start) n).mpr
        ⟨start, rfl, hslot, hnow.trans_lt hopen⟩
      exact ⟨hentry, (instantOfMillis_lt_iff hwhole now' start).mpr hopen⟩

/-- The entries the in-memory limiter keeps are the open windows. -/
theorem lookup_purge_iff (h : RateSim sha256 limiter used now ks memory) {key : Bytes}
    {entry : WindowEntry} :
    (InMemoryRateLimiter.purge limiter.policy.window (instantOfMillis now)
        memory.entries.value).lookup key = some entry ↔
      memory.entries.value.lookup key = some entry ∧
        instantOfMillis now < entry.startedAt + limiter.policy.window := by
  rw [InMemoryRateLimiter.lookup_purge]
  constructor
  · rintro ⟨hentry, hopen⟩
    have hstarted := h.started key entry hentry
    exact ⟨hentry, by omega⟩
  · rintro ⟨hentry, hopen⟩
    have hstarted := h.started key entry hentry
    have hpos := limiter.policy.window_pos
    exact ⟨hentry, by omega⟩

/-- The two limiters count the same number of open windows. -/
theorem size_eq (h : RateSim sha256 limiter used now ks memory) (hsha : Set.InjOn sha256 used) :
    (InMemoryRateLimiter.purge limiter.policy.window (instantOfMillis now)
      memory.entries.value).size = (pending now ks limiter.indexName).size := by
  refine (KeyedMap.size_eq_of_injOn (hashKey sha256) ?_ ?_).symm
  · intro a ha b hb hab
    obtain ⟨entry, ha⟩ := KeyedMap.mem_keys_iff_lookup.mp ha
    obtain ⟨entry', hb⟩ := KeyedMap.mem_keys_iff_lookup.mp hb
    exact hsha (h.entries_used _ _ (h.lookup_purge_iff.mp ha).1)
      (h.entries_used _ _ (h.lookup_purge_iff.mp hb).1) (hexEncode_injective hab)
  · intro hash
    rw [KeyedMap.mem_keys_iff_lookup]
    constructor
    · rintro ⟨e, hlookup⟩
      obtain ⟨hopen, digest, start, n, rfl, rfl, hslot⟩ := (h.intact.members _ _).mp hlookup
      obtain ⟨key, hkey, rfl⟩ := h.counters_used digest start n hslot hopen
      have hentry := (h.agree key hkey (instantOfMillis start) n).mpr ⟨start, rfl, hslot, hopen⟩
      exact ⟨key, KeyedMap.mem_keys_iff_lookup.mpr ⟨_, h.lookup_purge_iff.mpr hentry⟩, rfl⟩
    · rintro ⟨key, hkey, rfl⟩
      obtain ⟨⟨startedAt, n⟩, hentry⟩ := KeyedMap.mem_keys_iff_lookup.mp hkey
      have hlive := h.lookup_purge_iff.mp hentry
      obtain ⟨start, rfl, hslot, hopen⟩ :=
        (h.agree key (h.entries_used _ _ hlive.1) startedAt n).mp hlive
      exact ⟨_, h.intact.lookup_of_open hslot hopen⟩

theorem lock_eq (h : RateSim sha256 limiter used now ks memory) :
    memory.entries.lock = some memory.entries.value := by
  rw [Mutex.lock, h.healthy]
  rfl

/-- An effect under one key, matched by new entries that differ under that key alone (closed
    entries apart), keeps the simulation. -/
theorem of_effect (h : RateSim sha256 limiter used now ks memory)
    (hsha : Set.InjOn sha256 used) {key : Bytes} (hkey : key ∈ used) {response : List ℤ}
    (heffect : RateEffect limiter now (sha256 key) ks ks' response)
    {entries : KeyedMap Bytes WindowEntry}
    (hfrom : ∀ other entry, other ≠ key → entries.lookup other = some entry →
      memory.entries.value.lookup other = some entry)
    (hkeep : ∀ other entry, other ≠ key → memory.entries.value.lookup other = some entry →
      instantOfMillis now < entry.startedAt + limiter.policy.window →
      entries.lookup other = some entry)
    (hstarted : ∀ entry, entries.lookup key = some entry →
      entry.startedAt ≤ instantOfMillis now)
    (hagree : ∀ startedAt n, (entries.lookup key = some ⟨startedAt, n⟩ ∧
        instantOfMillis now < startedAt + limiter.policy.window) ↔
      ∃ start, startedAt = instantOfMillis start ∧
        ks' (limiter.keyName (hashKey sha256 key)) = some (limiter.counterSlot start n) ∧
        now < start + limiter.windowMillis) :
    RateSim sha256 limiter used now ks' (memory.write entries) where
  intact := heffect.invariant h.intact
  maxKeys_eq := h.maxKeys_eq
  policy_eq := h.policy_eq
  healthy := h.healthy
  started := by
    intro other entry hentry
    by_cases hother : other = key
    · subst hother
      exact hstarted entry hentry
    · exact h.started other entry (hfrom other entry hother hentry)
  entries_used := by
    intro other entry hentry
    by_cases hother : other = key
    · rw [hother]
      exact hkey
    · exact h.entries_used other entry (hfrom other entry hother hentry)
  counters_used := by
    intro digest start n hslot hopen
    by_cases hdigest : hexEncode digest = hexEncode (sha256 key)
    · exact ⟨key, hkey, (hexEncode_injective hdigest).symm⟩
    · rw [heffect.other h.intact hdigest] at hslot
      exact h.counters_used digest start n hslot hopen
  agree := by
    intro other hused startedAt n
    by_cases hother : other = key
    · subst hother
      exact hagree startedAt n
    -- Another key keeps its slot, since its digest is another one.
    · have hhash : hexEncode (sha256 other) ≠ hexEncode (sha256 key) := fun heq =>
        hother (hsha hused hkey (hexEncode_injective heq))
      rw [hashKey, heffect.other h.intact hhash, ← hashKey, ← h.agree other hused startedAt n]
      constructor
      · rintro ⟨hentry, hopen⟩
        exact ⟨hfrom other _ hother hentry, hopen⟩
      · rintro ⟨hentry, hopen⟩
        exact ⟨hkeep other _ hother hentry hopen, hopen⟩

/-- An effect that leaves the counter as it was is matched by the purge alone. -/
theorem of_effect_purge (h : RateSim sha256 limiter used now ks memory)
    (hsha : Set.InjOn sha256 used) {key : Bytes} (hkey : key ∈ used) {response : List ℤ}
    (heffect : RateEffect limiter now (sha256 key) ks ks' response)
    (hsame : ks' (limiter.keyName (hashKey sha256 key)) =
      ks (limiter.keyName (hashKey sha256 key))) :
    RateSim sha256 limiter used now ks' (memory.write (InMemoryRateLimiter.purge
      limiter.policy.window (instantOfMillis now) memory.entries.value)) := by
  refine h.of_effect hsha hkey heffect (fun _ _ _ hentry => (h.lookup_purge_iff.mp hentry).1)
    (fun _ _ _ hentry hopen => h.lookup_purge_iff.mpr ⟨hentry, hopen⟩)
    (fun _ hentry => h.started _ _ (h.lookup_purge_iff.mp hentry).1) ?_
  intro startedAt n
  rw [hsame, ← h.agree key hkey startedAt n, h.lookup_purge_iff]
  exact ⟨fun hlive => hlive.1, fun hlive => ⟨hlive, hlive.2⟩⟩

/-- An effect that leaves the counter of an open window is matched by the purge and an entry
    with the same start and count. -/
theorem of_effect_insert (h : RateSim sha256 limiter used now ks memory)
    (hwhole : limiter.WholeMillis) (hsha : Set.InjOn sha256 used) {key : Bytes} (hkey : key ∈ used)
    {response : List ℤ} (heffect : RateEffect limiter now (sha256 key) ks ks' response)
    {start n : ℕ} (hstart : start ≤ now) (hopen : now < start + limiter.windowMillis)
    (hslot : ks' (limiter.keyName (hashKey sha256 key)) = some (limiter.counterSlot start n)) :
    RateSim sha256 limiter used now ks' (memory.write ((InMemoryRateLimiter.purge
      limiter.policy.window (instantOfMillis now) memory.entries.value).insert key
        ⟨instantOfMillis start, n⟩)) := by
  -- Both sides change at this key only, and hold the same window there.
  refine h.of_effect hsha hkey heffect ?_ ?_ ?_ ?_
  · intro other entry hother hentry
    rw [AList.lookup_insert_ne hother] at hentry
    exact (h.lookup_purge_iff.mp hentry).1
  · intro other entry hother hentry hlive
    rw [AList.lookup_insert_ne hother]
    exact h.lookup_purge_iff.mpr ⟨hentry, hlive⟩
  · intro entry hentry
    rw [AList.lookup_insert, Option.some.injEq] at hentry
    subst hentry
    exact Nat.mul_le_mul_right _ hstart
  · intro startedAt n'
    rw [AList.lookup_insert, Option.some.injEq, WindowEntry.mk.injEq]
    constructor
    · rintro ⟨⟨rfl, rfl⟩, -⟩
      exact ⟨start, rfl, hslot, hopen⟩
    · rintro ⟨start', rfl, hslot', hopen'⟩
      rw [hslot, Option.some.injEq] at hslot'
      obtain ⟨rfl, rfl⟩ := RedisRateLimiter.counterSlot_inj hslot'
      exact ⟨⟨rfl, rfl⟩, (instantOfMillis_lt_iff hwhole now start).mpr hopen'⟩

/-- A counter of an open window has its entry, which the purge keeps. -/
theorem lookup_purge_of_open (h : RateSim sha256 limiter used now ks memory) {key : Bytes}
    (hkey : key ∈ used) {start n : ℕ}
    (hslot : ks (limiter.keyName (hashKey sha256 key)) = some (limiter.counterSlot start n))
    (hopen : now < start + limiter.windowMillis) :
    (InMemoryRateLimiter.purge limiter.policy.window (instantOfMillis now)
      memory.entries.value).lookup key = some ⟨instantOfMillis start, n⟩ :=
  h.lookup_purge_iff.mpr ((h.agree key hkey _ n).mpr ⟨start, rfl, hslot, hopen⟩)

/-- A key without an open window has no entry left after the purge. -/
theorem lookup_purge_of_find_none (h : RateSim sha256 limiter used now ks memory) {key : Bytes}
    (hkey : key ∈ used) (hfind : find now ks (limiter.keyName (hashKey sha256 key)) = none) :
    (InMemoryRateLimiter.purge limiter.policy.window (instantOfMillis now)
      memory.entries.value).lookup key = none := by
  rw [Option.eq_none_iff_forall_ne_some]
  rintro ⟨startedAt, n⟩ hentry
  obtain ⟨start, rfl, hslot, hopen⟩ :=
    (h.agree key hkey startedAt n).mp (h.lookup_purge_iff.mp hentry)
  rw [find_of_some hslot, if_pos hopen.le] at hfind
  cases hfind

end RateSim

/-- What `check` makes of the response of each effect. -/
theorem decodeResponse_allowed {left : ℤ} (millis : ℤ) (hnonneg : 0 ≤ left)
    (hlt : left < 2 ^ 32) :
    decodeResponse (some [1, left, millis]) = .ok (.allowed left.toNat) := by
  simp only [decodeResponse, u32TryFrom, if_pos (And.intro hnonneg hlt)]
  rfl

theorem decodeResponse_limited {millis : ℤ} (hpos : 0 < millis) :
    decodeResponse (some [0, 0, millis]) = .ok (.limited (instantOfMillis millis.toNat)) := by
  simp only [decodeResponse, retryAfter, if_neg (not_lt.mpr hpos.le), if_neg hpos.ne']
  rfl

/-- **One check.** It answers `Unavailable` in the millisecond its window ends, and then leaves
    the in-memory limiter where it is; otherwise it answers what `check_at` answers. -/
theorem check_simulates (h : RateSim sha256 limiter used now ks memory)
    (hwhole : limiter.WholeMillis) (hsha : Set.InjOn sha256 used) {key : Bytes} (hkey : key ∈ used)
    (hvalid : validateKey key = .ok ()) {response : List ℤ}
    (heffect : RateEffect limiter now (sha256 key) ks ks' response) :
    (decodeResponse (some response) = .error .unavailable ∧
      (∃ start n, ks (limiter.keyName (hashKey sha256 key)) = some (limiter.counterSlot start n) ∧
        now = start + limiter.windowMillis) ∧
      RateSim sha256 limiter used now ks' memory) ∨
    (decodeResponse (some response) ≠ .error .unavailable ∧
      decodeResponse (some response) = (memory.checkAt key (instantOfMillis now)).1 ∧
      RateSim sha256 limiter used now ks' (memory.checkAt key (instantOfMillis now)).2) := by
  have hmax := limiter.policy.maxAttempts_lt
  have hpos := limiter.policy.maxAttempts_pos
  -- What the memory limiter does is read off its own specification.
  have hcheck := InMemoryRateLimiter.checkAt_valid hvalid h.lock_eq h.started
  rw [h.policy_eq, h.maxKeys_eq] at hcheck
  -- The script has five ends; in the first one the key expires between two of its commands.
  cases heffect with
  | expired start n hold hnow hks hkey' =>
    left
    refine ⟨rfl, ⟨start, n, hold, hnow⟩, ?_⟩
    refine h.of_effect hsha hkey (.expired start n hold hnow hks hkey') (fun _ _ _ => id)
      (fun _ _ _ hentry _ => hentry) (h.started key) ?_
    intro startedAt n'
    rw [hashKey, hkey']
    constructor
    · intro hlive
      obtain ⟨start', -, hslot, hopen⟩ := (h.agree key hkey startedAt n').mp hlive
      rw [hashKey, hold, Option.some.injEq] at hslot
      rw [← (RedisRateLimiter.counterSlot_inj hslot).1, ← hnow] at hopen
      exact absurd hopen (lt_irrefl now)
    · rintro ⟨_, _, hslot, _⟩
      cases hslot
  | limited start n hold hopen hfull hks hkey' =>
    right
    obtain ⟨-, -, hstart⟩ := h.intact.counter_ok hold
    have hsim := h.of_effect_purge hsha hkey (.limited start n hold hopen hfull hks hkey')
      (hkey'.trans hold.symm)
    rw [h.lookup_purge_of_open hkey hold hopen] at hcheck
    dsimp only at hcheck
    rw [if_pos hfull] at hcheck
    rw [hcheck, decodeResponse_limited (by omega)]
    refine ⟨by simp, ?_, hsim⟩
    rw [hwhole, instantOfMillis, instantOfMillis, instantOfMillis, instantOfMillis]
    congr 2
    omega
  | counted start n hold hopen hroom hks hkey' =>
    right
    obtain ⟨-, -, hstart⟩ := h.intact.counter_ok hold
    have hsim := h.of_effect_insert hwhole hsha hkey
      (.counted start n hold hopen hroom hks hkey') hstart hopen hkey'
    rw [h.lookup_purge_of_open hkey hold hopen] at hcheck
    dsimp only at hcheck
    rw [if_neg (not_le.mpr hroom)] at hcheck
    rw [hcheck, decodeResponse_allowed _ (by omega) (by omega)]
    refine ⟨by simp, ?_, hsim⟩
    congr 2
    omega
  | full hold hsize hks hkey' =>
    right
    have hsim := h.of_effect_purge hsha hkey (.full hold hsize hks hkey') hkey'
    rw [h.lookup_purge_of_find_none hkey hold] at hcheck
    dsimp only at hcheck
    rw [h.size_eq hsha, if_pos hsize] at hcheck
    rw [hcheck]
    exact ⟨by simp [decodeResponse], rfl, hsim⟩
  | opened hold hsize hks hkey' =>
    right
    have hsim := h.of_effect_insert hwhole hsha hkey (.opened hold hsize hks hkey') (le_refl now)
      (Nat.lt_add_of_pos_right limiter.windowMillis_pos) hkey'
    rw [h.lookup_purge_of_find_none hkey hold] at hcheck
    dsimp only at hcheck
    rw [h.size_eq hsha, if_neg (not_le.mpr hsize)] at hcheck
    rw [hcheck, decodeResponse_allowed _ (by omega) (by omega)]
    refine ⟨by simp, ?_, hsim⟩
    congr 2
    omega

end Simulation

/-! ## Runs -/

section Runs

variable (limiter : RedisRateLimiter)

/-- The invariant at the millisecond the server clock shows. -/
def RateWorld.Intact (world : RateWorld) : Prop :=
  RateInvariant limiter (mstime world.clock) world.keys

/-- What a check shows, its key renamed by `name`. -/
def rateAnswer (name : Bytes → Bytes) (call : RateCall) (reply : RateReply) :
    FixedWindow.Answer Bytes :=
  ⟨name call.key, reply.now,
    match reply.result with
    | .ok (.allowed remaining) => some remaining
    | _ => none⟩

/-- The window a counter stands for. -/
def counterWindow (world : RateWorld) (digest : Bytes) : Option FixedWindow.Window :=
  match world.keys (limiter.keyName (hexEncode digest)) with
  | some ⟨.string text, some e⟩ => (parseDecimal text).map (⟨e - limiter.windowMillis, ·⟩)
  | _ => none

variable {limiter}

theorem counterWindow_of_slot {world : RateWorld} {digest : Bytes} {start n : ℕ}
    (h : world.keys (limiter.keyName (hexEncode digest)) = some (limiter.counterSlot start n)) :
    counterWindow limiter world digest = some ⟨start, n⟩ := by
  rw [counterWindow, h, RedisRateLimiter.counterSlot]
  dsimp only
  rw [parseDecimal_decimal, Option.map_some, Nat.add_sub_cancel]

theorem counterWindow_of_none {world : RateWorld} {digest : Bytes}
    (h : world.keys (limiter.keyName (hexEncode digest)) = none) :
    counterWindow limiter world digest = none := by
  rw [counterWindow, h]

theorem slot_of_counterWindow {world : RateWorld} (h : world.Intact limiter) {digest : Bytes}
    {w : FixedWindow.Window} (hw : counterWindow limiter world digest = some w) :
    world.keys (limiter.keyName (hexEncode digest)) =
      some (limiter.counterSlot w.startedAt w.attempts) := by
  rcases h.counters digest with hnone | ⟨start, n, hkey, -⟩
  · rw [counterWindow_of_none hnone] at hw
    cases hw
  · rw [counterWindow_of_slot hkey] at hw
    cases hw
    exact hkey

/-- A check of an invalid key leaves Redis alone; any other is one script effect. -/
theorem rateStep_cases (sha256 : Bytes → Bytes) {world : RateWorld} (h : world.Intact limiter)
    (call : RateCall) :
    (validateKey call.key = .error .invalidKey ∧ rateStep sha256 limiter world call =
      (⟨mstime (world.clock + call.wait), none, .error .invalidKey⟩,
        ⟨world.clock + call.wait, world.keys⟩)) ∨
    (validateKey call.key = .ok () ∧ ∃ response ks', rateStep sha256 limiter world call =
      (⟨mstime (world.clock + call.wait), some response, decodeResponse (some response)⟩,
        ⟨world.clock + call.wait, ks'⟩) ∧
      RateEffect limiter (mstime (world.clock + call.wait)) (sha256 call.key) world.keys ks'
        response) := by
  have hle : mstime world.clock ≤ mstime (world.clock + call.wait) :=
    mstime_mono (Nat.le_add_right _ _)
  unfold rateStep validateKey
  by_cases hkey : call.key.isEmpty ∨ call.key.length > maxRateLimitKeyBytes
  · simp only [if_pos hkey]
    exact .inl ⟨trivial, trivial⟩
  · simp only [if_neg hkey]
    obtain ⟨response, ks', hinvoke, heffect⟩ :=
      invoke_effect (RateInvariant.advance h hle) (sha256 call.key)
    refine .inr ⟨trivial, response, ks', ?_, heffect⟩
    rw [hashKey, hinvoke]

/-- Every step keeps the invariant. -/
theorem rateStep_intact (sha256 : Bytes → Bytes) {world : RateWorld} (h : world.Intact limiter)
    (call : RateCall) :
    (rateStep sha256 limiter world call).2.Intact limiter := by
  have hle : mstime world.clock ≤ mstime (world.clock + call.wait) :=
    mstime_mono (Nat.le_add_right _ _)
  rcases rateStep_cases sha256 h call with ⟨-, hstep⟩ | ⟨-, response, ks', hstep, heffect⟩
  · rw [hstep]
    exact RateInvariant.advance h hle
  · rw [hstep]
    exact heffect.invariant (RateInvariant.advance h hle)

theorem rateStep_clock (sha256 : Bytes → Bytes) (world : RateWorld) (call : RateCall) :
    (rateStep sha256 limiter world call).1.now = mstime (world.clock + call.wait) ∧
      (rateStep sha256 limiter world call).2.clock = world.clock + call.wait := by
  unfold rateStep
  dsimp only
  split
  · exact ⟨rfl, rfl⟩
  · exact ⟨rfl, rfl⟩

/-- An admitted check either counts in an open window or opens one. -/
theorem RateEffect.allowed {now : ℕ} {digest : Bytes} {ks ks' : RateKeys} {response : List ℤ}
    {remaining : ℕ} (heffect : RateEffect limiter now digest ks ks' response)
    (hallowed : decodeResponse (some response) = .ok (.allowed remaining)) :
    (∃ start n, ks (limiter.keyName (hexEncode digest)) = some (limiter.counterSlot start n) ∧
      now < start + limiter.windowMillis ∧ n < limiter.policy.maxAttempts ∧
      remaining = limiter.policy.maxAttempts - (n + 1) ∧
      ks' (limiter.keyName (hexEncode digest)) = some (limiter.counterSlot start (n + 1))) ∨
    (find now ks (limiter.keyName (hexEncode digest)) = none ∧
      remaining = limiter.policy.maxAttempts - 1 ∧
      ks' (limiter.keyName (hexEncode digest)) = some (limiter.counterSlot now 1)) := by
  have hmax := limiter.policy.maxAttempts_lt
  have hpos := limiter.policy.maxAttempts_pos
  cases heffect with
  | expired start n hold hnow hks hkey => cases hallowed
  | limited start n hold hopen hfull hks hkey =>
    rw [decodeResponse_limited (by omega)] at hallowed
    cases hallowed
  | counted start n hold hopen hroom hks hkey =>
    rw [decodeResponse_allowed _ (by omega) (by omega)] at hallowed
    cases hallowed
    exact .inl ⟨start, n, hold, hopen, hroom, by omega, hkey⟩
  | full hold hsize hks hkey => cases hallowed
  | opened hold hsize hks hkey =>
    rw [decodeResponse_allowed _ (by omega) (by omega)] at hallowed
    cases hallowed
    exact .inr ⟨hold, by omega, hkey⟩

/-- A check that is not admitted leaves an open window as it is. -/
theorem RateEffect.keeps_open {now : ℕ} {digest : Bytes} {ks ks' : RateKeys}
    {response : List ℤ} (heffect : RateEffect limiter now digest ks ks' response)
    (hrefused : ∀ remaining, decodeResponse (some response) ≠ .ok (.allowed remaining))
    {start n : ℕ}
    (hold : ks (limiter.keyName (hexEncode digest)) = some (limiter.counterSlot start n))
    (hopen : now < start + limiter.windowMillis) :
    ks' (limiter.keyName (hexEncode digest)) = some (limiter.counterSlot start n) := by
  have hmax := limiter.policy.maxAttempts_lt
  have hpos := limiter.policy.maxAttempts_pos
  cases heffect with
  | expired start' n' hold' hnow hks hkey =>
    rw [hold, Option.some.injEq] at hold'
    rw [(RedisRateLimiter.counterSlot_inj hold').1] at hopen
    exact absurd hnow hopen.ne
  | limited start' n' hold' hopen' hfull hks hkey => rw [hkey, ← hold', hold]
  | counted start' n' hold' hopen' hroom hks hkey =>
    exact absurd (decodeResponse_allowed _ (by omega) (by omega)) (hrefused _)
  | full hold' hsize hks hkey => rw [hkey, hold]
  | opened hold' hsize hks hkey =>
    exact absurd (decodeResponse_allowed _ (by omega) (by omega)) (hrefused _)

/-- A counter after a check stood there before, counting for the same window, or is the one of
    the window the check has opened. -/
theorem RateEffect.appears {now : ℕ} {digest : Bytes} {ks ks' : RateKeys} {response : List ℤ}
    (heffect : RateEffect limiter now digest ks ks' response) {start n : ℕ}
    (hafter : ks' (limiter.keyName (hexEncode digest)) = some (limiter.counterSlot start n)) :
    (∃ m, ks (limiter.keyName (hexEncode digest)) = some (limiter.counterSlot start m)) ∨
    (start = now ∧ decodeResponse (some response) =
      .ok (.allowed (limiter.policy.maxAttempts - 1))) := by
  have hmax := limiter.policy.maxAttempts_lt
  have hpos := limiter.policy.maxAttempts_pos
  -- Only a window that is opened starts anew; the others keep their start.
  cases heffect with
  | expired start' n' hold hnow hks hkey =>
    rw [hkey] at hafter
    cases hafter
  | limited start' n' hold hopen hfull hks hkey =>
    rw [hkey, Option.some.injEq] at hafter
    rw [← (RedisRateLimiter.counterSlot_inj hafter).1]
    exact .inl ⟨n', hold⟩
  | counted start' n' hold hopen hroom hks hkey =>
    rw [hkey, Option.some.injEq] at hafter
    rw [← (RedisRateLimiter.counterSlot_inj hafter).1]
    exact .inl ⟨n', hold⟩
  | full hold hsize hks hkey =>
    rw [hkey] at hafter
    exact .inl ⟨n, hafter⟩
  | opened hold hsize hks hkey =>
    rw [hkey, Option.some.injEq] at hafter
    refine .inr ⟨(RedisRateLimiter.counterSlot_inj hafter).1.symm, ?_⟩
    rw [decodeResponse_allowed _ (by omega) (by omega)]
    congr 2
    omega

theorem rateAnswer_of_allowed {name : Bytes → Bytes} {call : RateCall} {reply : RateReply}
    {remaining : ℕ} (h : reply.result = .ok (.allowed remaining)) :
    rateAnswer name call reply = ⟨name call.key, reply.now, some remaining⟩ := by
  rw [rateAnswer, h]

theorem result_of_rateAnswer {name : Bytes → Bytes} {call : RateCall} {reply : RateReply}
    {k : Bytes} {t remaining : ℕ} (h : rateAnswer name call reply = ⟨k, t, some remaining⟩) :
    k = name call.key ∧ t = reply.now ∧ reply.result = .ok (.allowed remaining) := by
  unfold rateAnswer at h
  simp only [FixedWindow.Answer.mk.injEq] at h
  obtain ⟨rfl, rfl, hallowed⟩ := h
  split at hallowed
  · next heq =>
    cases hallowed
    exact ⟨rfl, rfl, heq⟩
  · cases hallowed

/-- The checks of a run refine the fixed windows of their counters. -/
theorem rateStep_refines_windows (limiter : RedisRateLimiter) (sha256 : Bytes → Bytes) :
    FixedWindow.Refinement limiter.policy.maxAttempts limiter.windowMillis
      (rateStep sha256 limiter) (rateAnswer sha256) (fun world => mstime world.clock)
      (counterWindow limiter) (RateWorld.Intact limiter) where
  inv _ call h := rateStep_intact sha256 h call
  clock_le := by
    intro world call
    rw [rateAnswer, (rateStep_clock sha256 world call).1]
    exact mstime_mono (Nat.le_add_right _ _)
  clock_eq := by
    intro world call
    rw [rateAnswer, (rateStep_clock sha256 world call).1, (rateStep_clock sha256 world call).2]
  -- A window that is open goes on, unless a call of the same key is allowed in it.
  keeps := by
    intro world call digest w h hw hopen hrefused
    have hslot := slot_of_counterWindow h hw
    rcases rateStep_cases sha256 h call with ⟨-, hstep⟩ | ⟨-, response, ks', hstep, heffect⟩
    · rw [hstep]
      exact hw
    · have hle : mstime world.clock ≤ mstime (world.clock + call.wait) :=
        mstime_mono (Nat.le_add_right _ _)
      rw [hstep] at hopen hrefused ⊢
      apply counterWindow_of_slot
      by_cases hdigest : digest = sha256 call.key
      · subst hdigest
        refine heffect.keeps_open ?_ hslot hopen
        intro remaining hallowed
        have hnone := hrefused rfl
        rw [rateAnswer_of_allowed hallowed] at hnone
        cases hnone
      · dsimp only
        rw [heffect.other (RateInvariant.advance h hle)
          fun heq => hdigest (hexEncode_injective heq)]
        exact hslot
  -- An allowed call was either counted in an open window or has opened one.
  admits := by
    intro world call digest t remaining h hanswer
    rcases rateStep_cases sha256 h call with ⟨-, hstep⟩ | ⟨-, response, ks', hstep, heffect⟩
    · rw [hstep] at hanswer
      cases hanswer
    · have hle : mstime world.clock ≤ mstime (world.clock + call.wait) :=
        mstime_mono (Nat.le_add_right _ _)
      rw [hstep] at hanswer ⊢
      obtain ⟨rfl, rfl, hresult⟩ := result_of_rateAnswer hanswer
      rcases heffect.allowed hresult with
        ⟨start, n, hold, hopen, hroom, hremaining, hkey⟩ | ⟨hold, hremaining, hkey⟩
      · have hpos := ((RateInvariant.advance h hle).counter_ok hold).1
        exact .inl ⟨⟨start, n⟩, counterWindow_of_slot hold, hopen, hpos, hroom, hremaining,
          counterWindow_of_slot hkey⟩
      · refine .inr ⟨?_, hremaining, counterWindow_of_slot hkey⟩
        intro w hw
        have hslot := slot_of_counterWindow h hw
        by_contra hlt
        rw [find_of_some hslot, if_pos (not_le.mp hlt).le] at hold
        cases hold
  -- A window that is there now was there before, or was opened by this call.
  appears := by
    intro world call digest w h hafter
    have hintact := rateStep_intact sha256 h call
    have hslot := slot_of_counterWindow hintact hafter
    rcases rateStep_cases sha256 h call with ⟨-, hstep⟩ | ⟨-, response, ks', hstep, heffect⟩
    · rw [hstep] at hafter
      exact .inl ⟨w, hafter, rfl⟩
    · have hle : mstime world.clock ≤ mstime (world.clock + call.wait) :=
        mstime_mono (Nat.le_add_right _ _)
      rw [hstep] at hslot ⊢
      by_cases hdigest : digest = sha256 call.key
      · subst hdigest
        rcases heffect.appears hslot with ⟨m, hold⟩ | ⟨hstart, hallowed⟩
        · exact .inl ⟨⟨w.startedAt, m⟩, counterWindow_of_slot hold, rfl⟩
        · rw [hstart]
          exact .inr (rateAnswer_of_allowed hallowed)
      · dsimp only at hslot
        rw [heffect.other (RateInvariant.advance h hle)
          fun heq => hdigest (hexEncode_injective heq)] at hslot
        exact .inl ⟨w, counterWindow_of_slot hslot, rfl⟩

/-- One step of a run, seen from the in-memory limiter. -/
theorem rateStep_simulates {sha256 : Bytes → Bytes} {used : Set Bytes}
    {memory : InMemoryRateLimiter} {world : RateWorld} (hwhole : limiter.WholeMillis)
    (hsha : Set.InjOn sha256 used)
    (h : RateSim sha256 limiter used (mstime world.clock) world.keys memory) (call : RateCall)
    (hkey : call.key ∈ used) :
    let result := rateStep sha256 limiter world call
    (result.1.result = .error .unavailable ∧
      (∃ start n, world.keys (limiter.keyName (hashKey sha256 call.key)) =
        some (limiter.counterSlot start n) ∧ result.1.now = start + limiter.windowMillis) ∧
      RateSim sha256 limiter used (mstime result.2.clock) result.2.keys memory) ∨
    (result.1.result ≠ .error .unavailable ∧
      result.1.result = (memory.checkAt call.key (instantOfMillis result.1.now)).1 ∧
      RateSim sha256 limiter used (mstime result.2.clock) result.2.keys
        (memory.checkAt call.key (instantOfMillis result.1.now)).2) := by
  have hle : mstime world.clock ≤ mstime (world.clock + call.wait) :=
    mstime_mono (Nat.le_add_right _ _)
  have hadvanced := h.advance hwhole hle
  rcases rateStep_cases sha256 h.intact call with
    ⟨hinvalid, hstep⟩ | ⟨hvalid, response, ks', hstep, heffect⟩
  · have hcheck : memory.checkAt call.key (instantOfMillis (mstime (world.clock + call.wait))) =
        (.error .invalidKey, memory) := by
      rw [InMemoryRateLimiter.checkAt, hinvalid]
    simp only [hstep, hcheck]
    exact .inr ⟨by simp, trivial, hadvanced⟩
  · simp only [hstep]
    exact check_simulates hadvanced hwhole hsha hkey hvalid heffect

/-- The in-memory limiter after the checks of a log that were not `Unavailable`. -/
def memoryAfter (memory : InMemoryRateLimiter) (log : List (RateCall × RateReply)) :
    InMemoryRateLimiter :=
  log.foldl (fun memory p =>
    match p.2.result with
    | .error .unavailable => memory
    | _ => (memory.checkAt p.1.key (instantOfMillis p.2.now)).2) memory

theorem memoryAfter_snoc (memory : InMemoryRateLimiter) (log : List (RateCall × RateReply))
    (call : RateCall) (reply : RateReply) :
    memoryAfter memory (log ++ [(call, reply)]) =
      match reply.result with
      | .error .unavailable => memoryAfter memory log
      | _ => ((memoryAfter memory log).checkAt call.key (instantOfMillis reply.now)).2 := by
  simp only [memoryAfter, List.foldl_append, List.foldl_cons, List.foldl_nil]

/-- None of the limiter's keys exist. -/
def RedisRateLimiter.EmptyIn (limiter : RedisRateLimiter) (ks : RateKeys) : Prop :=
  ks limiter.indexName = none ∧ ∀ digest : Bytes, ks (limiter.keyName (hexEncode digest)) = none

theorem RateInvariant.of_emptyIn {now : ℕ} {ks : RateKeys} (h : limiter.EmptyIn ks) :
    RateInvariant limiter now ks where
  index := .inl h.1
  size_le := by
    rw [pending, scores_of_none h.1]
    exact Nat.zero_le _
  counters digest := .inl (h.2 digest)
  members := by
    intro hash e
    rw [lookup_pending, scores_of_none h.1]
    constructor
    · rintro ⟨hlookup, -⟩
      cases hlookup
    · rintro ⟨-, digest, start, n, rfl, -, hslot⟩
      rw [h.2] at hslot
      cases hslot

theorem RateSim.of_emptyIn {sha256 : Bytes → Bytes} {used : Set Bytes} {now : ℕ} {ks : RateKeys}
    (h : limiter.EmptyIn ks) :
    RateSim sha256 limiter used now ks ⟨.new ∅, limiter.maxKeys, limiter.policy⟩ where
  intact := .of_emptyIn h
  maxKeys_eq := rfl
  policy_eq := rfl
  healthy := rfl
  started _ _ hentry := by cases hentry
  entries_used _ _ hentry := by cases hentry
  counters_used digest start n hslot := by
    rw [h.2] at hslot
    cases hslot
  agree := by
    intro key _ startedAt n
    constructor
    · rintro ⟨hentry, -⟩
      cases hentry
    · rintro ⟨_, -, hslot, -⟩
      rw [hashKey, h.2] at hslot
      cases hslot

/-- The simulation holds along every run. -/
theorem rateSim_run {sha256 : Bytes → Bytes} {start : RateWorld} {calls : List RateCall}
    {memory : InMemoryRateLimiter} (hwhole : limiter.WholeMillis)
    (hsha : Set.InjOn sha256 {key | ∃ call ∈ calls, call.key = key})
    (hstart : RateSim sha256 limiter {key | ∃ call ∈ calls, call.key = key} (mstime start.clock)
      start.keys memory) {j : ℕ} (hj : j ≤ calls.length) :
    let world := run (rateStep sha256 limiter) start (calls.take j)
    RateSim sha256 limiter {key | ∃ call ∈ calls, call.key = key} (mstime world.clock) world.keys
      (memoryAfter memory (trace (rateStep sha256 limiter) start (calls.take j))) := by
  induction j with
  | zero => exact hstart
  | succ j ih =>
    have hget : calls[j]? = some calls[j] := List.getElem?_eq_getElem hj
    have hsim := ih (Nat.le_of_succ_le hj)
    have hstep := rateStep_simulates hwhole hsha hsim calls[j] ⟨_, List.getElem_mem hj, rfl⟩
    simp only [List.take_add_one, hget, Option.toList_some, run_snoc, trace_snoc,
      memoryAfter_snoc] at hstep ⊢
    rcases hstep with ⟨hresult, -, hnext⟩ | ⟨hresult, -, hnext⟩
    · rw [hresult]
      exact hnext
    · split
      · next heq => exact absurd heq hresult
      · exact hnext

/-- What is left after an admitted check fits the policy. -/
theorem RateEffect.left_range {now : ℕ} {digest : Bytes} {ks ks' : RateKeys} {left millis : ℤ}
    (heffect : RateEffect limiter now digest ks ks' [1, left, millis]) :
    0 ≤ left ∧ left < limiter.policy.maxAttempts := by
  have hpos := limiter.policy.maxAttempts_pos
  cases heffect with
  | counted start n hold hopen hroom hks hkey => omega
  | opened hold hsize hks hkey => omega

/-- Counters with `PTTL > 0` are bounded. -/
theorem RateInvariant.bounded {now : ℕ} {ks : RateKeys} (h : RateInvariant limiter now ks) :
    {hash | (∃ digest, hash = hexEncode digest) ∧
      0 < pttl now ks (limiter.keyName hash)}.encard ≤ limiter.maxKeys := by
  have hsize : {hash | (∃ digest, hash = hexEncode digest) ∧
      0 < pttl now ks (limiter.keyName hash)}.encard ≤
        (pending now ks limiter.indexName).size := by
    apply KeyedMap.encard_le_size
    rintro hash ⟨⟨digest, rfl⟩, hpttl⟩
    rcases h.counters digest with hnone | ⟨start, n, hslot, -⟩
    · simp only [pttl, find_of_none hnone] at hpttl
      omega
    · by_cases hle : now ≤ start + limiter.windowMillis
      · rw [pttl_of_some hslot hle] at hpttl
        exact ⟨_, h.lookup_of_open hslot (by omega)⟩
      · have hfind : find now ks (limiter.keyName (hexEncode digest)) = none := by
          rw [find_of_some hslot, if_neg hle]
        simp only [pttl, hfind] at hpttl
        omega
  exact hsize.trans (by exact_mod_cast h.size_le)

/-- The answers under the digests are the answers under the keys, renamed. -/
theorem answers_rateAnswer (sha256 : Bytes → Bytes) (start : RateWorld) (calls : List RateCall) :
    FixedWindow.answers (rateAnswer sha256) (rateStep sha256 limiter) start calls =
      (FixedWindow.answers (rateAnswer id) (rateStep sha256 limiter) start calls).map
        (FixedWindow.Answer.mapKey sha256) := by
  rw [FixedWindow.answers, FixedWindow.answers, List.map_map]
  rfl

/-- An opening under a digest is one under the key, keys being told apart by their digests. -/
theorem opensAt_of_digest {sha256 : Bytes → Bytes} {start : RateWorld} {calls : List RateCall}
    (hsha : Set.InjOn sha256 {key | ∃ call ∈ calls, call.key = key}) {key : Bytes}
    (hkey : ∃ call ∈ calls, call.key = key) {limit opened p : ℕ}
    (h : FixedWindow.OpensAt limit (FixedWindow.answers (rateAnswer sha256)
      (rateStep sha256 limiter) start calls) (sha256 key) opened p) :
    FixedWindow.OpensAt limit (FixedWindow.answers (rateAnswer id) (rateStep sha256 limiter) start
      calls) key opened p := by
  obtain ⟨call, hcall, hanswer⟩ := FixedWindow.answers_getElem? h
  obtain ⟨hdigest, rfl, hresult⟩ := result_of_rateAnswer hanswer
  have hcallKey : key = call.key := hsha hkey ⟨call, List.mem_of_getElem? hcall, rfl⟩ hdigest
  rw [FixedWindow.OpensAt, FixedWindow.answers_of_getElem? hcall, rateAnswer_of_allowed hresult,
    hcallKey]
  rfl

/-- **The Redis rate limiter against the in-memory limiter.** For every sequence of checks from an
    empty namespace, under a policy of whole milliseconds: a check answers `Unavailable` or what
    `check_at` answers after the earlier checks that were not `Unavailable`; it answers
    `Unavailable` only in the millisecond in which a window of its key, opened by an earlier
    check, ends; what is converted to `remaining` is below `max_attempts`; the answers obey the
    window law; and no more than `max_keys` counters are live at any time. -/
theorem redis_rate_limiter_run (sha256 : Bytes → Bytes) (limiter : RedisRateLimiter)
    (hwhole : limiter.WholeMillis) (memory : InMemoryRateLimiter)
    (hmemory : InMemoryRateLimiter.new limiter.maxKeys limiter.policy = .ok memory)
    (start : RateWorld) (hempty : limiter.EmptyIn start.keys) (calls : List RateCall)
    (hsha : Set.InjOn sha256 {key | ∃ call ∈ calls, call.key = key}) :
    (∀ j call, calls[j]? = some call →
      let reply := (rateStep sha256 limiter (run (rateStep sha256 limiter) start (calls.take j))
        call).1
      let before := memoryAfter memory (trace (rateStep sha256 limiter) start (calls.take j))
      (reply.result = .error .unavailable ∨
        reply.result = (before.checkAt call.key (instantOfMillis reply.now)).1) ∧
      (reply.result = .error .unavailable → ∃ opened, ∃ p < j,
        FixedWindow.OpensAt limiter.policy.maxAttempts
          (FixedWindow.answers (rateAnswer id) (rateStep sha256 limiter) start calls)
          call.key opened p ∧ reply.now = opened + limiter.windowMillis) ∧
      ∀ left millis, reply.response = some [1, left, millis] →
        0 ≤ left ∧ left < limiter.policy.maxAttempts) ∧
    FixedWindow.WindowLaw limiter.policy.maxAttempts limiter.windowMillis
      (FixedWindow.answers (rateAnswer id) (rateStep sha256 limiter) start calls) ∧
    ∀ j wait, let world := run (rateStep sha256 limiter) start (calls.take j)
      {hash | (∃ digest, hash = hexEncode digest) ∧
        0 < pttl (mstime (world.clock + wait)) world.keys (limiter.keyName hash)}.encard ≤
          limiter.maxKeys := by
  -- A new memory limiter is the empty one.
  have hfresh : memory = ⟨.new ∅, limiter.maxKeys, limiter.policy⟩ := by
    unfold InMemoryRateLimiter.new at hmemory
    split at hmemory
    · cases hmemory
    · exact (Except.ok.inj hmemory).symm
  subst hfresh
  have hstart : RateWorld.Intact limiter start := RateInvariant.of_emptyIn hempty
  have hnone : ∀ digest, counterWindow limiter start digest = none :=
    fun digest => counterWindow_of_none (hempty.2 digest)
  have hrefines := rateStep_refines_windows limiter sha256
  have hintact : ∀ j, (run (rateStep sha256 limiter) start (calls.take j)).Intact limiter :=
    fun j => run_invariant (rateStep sha256 limiter) (P := RateWorld.Intact limiter)
      (fun _ call h => rateStep_intact sha256 h call) hstart (calls.take j)
  refine ⟨?_, ?_, ?_⟩
  · intro j call hcall
    have hj : j ≤ calls.length := (List.getElem?_eq_some_iff.mp hcall).1.le
    have hused : ∃ call' ∈ calls, call'.key = call.key :=
      ⟨call, List.mem_of_getElem? hcall, rfl⟩
    -- Both limiters are in step up to this call.
    have hsim := rateSim_run hwhole hsha (RateSim.of_emptyIn hempty) hj
    have hstep := rateStep_simulates hwhole hsha hsim call hused
    refine ⟨?_, ?_, ?_⟩
    · rcases hstep with ⟨hresult, -⟩ | ⟨-, hresult, -⟩
      · exact .inl hresult
      · exact .inr hresult
    · intro hunavailable
      rcases hstep with ⟨-, ⟨opened, n, hslot, hnow⟩, -⟩ | ⟨hresult, -⟩
      -- The counter belongs to a window, and some call has opened it.
      · obtain ⟨p, hp, hopens⟩ := FixedWindow.opensAt_of_window hrefines hstart hnone hj
          (counterWindow_of_slot hslot)
        exact ⟨opened, p, hp, opensAt_of_digest hsha hused hopens, hnow⟩
      · exact absurd hunavailable hresult
    · intro left millis hresponse
      rcases rateStep_cases sha256 (hintact j) call with
        ⟨-, heq⟩ | ⟨-, response, ks', heq, heffect⟩
      · rw [heq] at hresponse
        cases hresponse
      · rw [heq] at hresponse
        cases hresponse
        exact heffect.left_range
  -- The law holds of digests; different keys have different digests.
  · have hlaw := FixedWindow.windowLaw_of_refinement hrefines hstart hnone
      limiter.policy.maxAttempts_pos limiter.windowMillis_pos calls
    rw [answers_rateAnswer] at hlaw
    refine hlaw.of_mapKey (hsha.mono ?_)
    rintro key ⟨answer, hanswer, rfl⟩
    obtain ⟨p, hp⟩ := List.mem_iff_getElem?.mp hanswer
    obtain ⟨call, hcall, rfl⟩ := FixedWindow.answers_getElem? hp
    exact ⟨call, List.mem_of_getElem? hcall, rfl⟩
  · intro j wait world
    exact (RateInvariant.advance (hintact j) (mstime_mono (Nat.le_add_right _ wait))).bounded

end Runs

/-! ### A run of six checks -/

/-- SHA-256 of the one-byte keys `a` and `b`. -/
def sampleSha256 (key : Bytes) : Bytes :=
  if key = [0x61] then
  [0xca, 0x97, 0x81, 0x12, 0xca, 0x1b, 0xbd, 0xca, 0xfa, 0xc2, 0x31, 0xb3, 0x9a, 0x23, 0xdc, 0x4d,
   0xa7, 0x86, 0xef, 0xf8, 0x14, 0x7c, 0x4e, 0x72, 0xb9, 0x80, 0x77, 0x85, 0xaf, 0xee, 0x48, 0xbb]
  else if key = [0x62] then
  [0x3e, 0x23, 0xe8, 0x16, 0x00, 0x39, 0x59, 0x4a, 0x33, 0x89, 0x4f, 0x65, 0x64, 0xe1, 0xb1, 0x34,
   0x8b, 0xbd, 0x7a, 0x00, 0x88, 0xd4, 0x2c, 0x4a, 0xcb, 0x73, 0xee, 0xae, 0xd5, 0x9c, 0x00, 0x9d]
  else []

/-- Two attempts a second, room for one key. -/
def sampleRateLimiter : RedisRateLimiter where
  storageNamespace := "prod"
  policy := samplePolicyASecond
  windowMillis := 1000
  maxKeys := 1
  windowMillis_eq := by decide
  maxKeys_pos := Nat.one_pos
  maxKeys_le := one_le_maxInMemoryRateKeys

/-- Three checks of `a`, one of `b`, one of `a` as its window ends, one of `b` then. -/
def sampleChecks : List RateCall :=
  [⟨0, [0x61]⟩, ⟨5000, [0x61]⟩, ⟨5000, [0x61]⟩, ⟨0, [0x62]⟩, ⟨990000, [0x61]⟩, ⟨0, [0x62]⟩]

/-- The window of `a` is exhausted and keeps `b` out; in its last millisecond `a` is answered
    `Unavailable` and `b` finds room. -/
theorem redis_rate_limiter_run_two_keys :
    ((trace (rateStep sampleSha256 sampleRateLimiter) ⟨1700000000000000, fun _ => none⟩
      sampleChecks).map fun p => (rateAnswer id p.1 p.2).allowed) =
      [some 1, some 0, none, none, none, some 1] ∧
    FixedWindow.WindowLaw 2 1000 (FixedWindow.answers (rateAnswer id)
      (rateStep sampleSha256 sampleRateLimiter) ⟨1700000000000000, fun _ => none⟩
      sampleChecks) := by
  refine ⟨by decide +kernel, ?_⟩
  refine (redis_rate_limiter_run sampleSha256 sampleRateLimiter rfl
    ⟨.new ∅, 1, sampleRateLimiter.policy⟩ rfl ⟨1700000000000000, fun _ => none⟩
    ⟨rfl, fun _ => rfl⟩ sampleChecks ?_).2.1
  have hkeys : ∀ call ∈ sampleChecks, call.key = [0x61] ∨ call.key = [0x62] := by decide
  rintro key ⟨call, hcall, rfl⟩ key' ⟨call', hcall', rfl⟩
  rcases hkeys call hcall with hkey | hkey <;> rcases hkeys call' hcall' with hkey' | hkey' <;>
    rw [hkey, hkey'] <;> decide

end SecureKeypad.Server
