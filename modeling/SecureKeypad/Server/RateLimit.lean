import SecureKeypad.Library.KeyedMap
import SecureKeypad.Library.Rust

/-!
# The In-Memory Rate Limiter (`secure-auth-server::rate_limit`)

Embeds the fixed-window limiter kept in a process: the policy and its checks, the decision and
error types shared by every limiter, and `check_at`. Instants and durations are nanoseconds; the
`u32` arithmetic is the one of a release build.

## Main results

- `checkAt_valid`: `check_at` on a valid key, as one case analysis of the purged entries
- `Healthy.checkAt_effect`, `CheckEffect.healthy`: all a check can do, and that it keeps a
  limiter healthy
-/

namespace SecureKeypad.Server

open Rust

/-! ## Policy, decisions, errors -/

def maxInMemoryRateKeys : ℕ := 100000
def maxRateLimitKeyBytes : ℕ := 256
def maxDistributedRateLimitWindow : ℕ := durationFromSecs (7 * 24 * 60 * 60)

/-- The capacities `build` and `new` let through. -/
theorem capacity_pos {maxKeys : ℕ} (h : ¬ (maxKeys = 0 ∨ maxKeys > maxInMemoryRateKeys)) :
    0 < maxKeys := Nat.pos_of_ne_zero fun h0 => h (.inl h0)

theorem capacity_le {maxKeys : ℕ} (h : ¬ (maxKeys = 0 ∨ maxKeys > maxInMemoryRateKeys)) :
    maxKeys ≤ maxInMemoryRateKeys := not_lt.mp fun hlt => h (.inr hlt)

/-- `RateLimitError`. -/
inductive RateLimitError where
  | invalidPolicy
  | invalidCapacity
  | invalidKey
  | capacityReached
  | unavailable
deriving DecidableEq, Repr

/-- `RateLimitDecision`. -/
inductive RateLimitDecision where
  | allowed (remaining : ℕ)
  | limited (retryAfter : ℕ)
deriving DecidableEq, Repr

/-- `RateLimitPolicy`. -/
structure RateLimitPolicy where
  maxAttempts : ℕ
  window : ℕ
  maxAttempts_pos : 0 < maxAttempts
  maxAttempts_lt : maxAttempts < 2 ^ 32
  window_pos : 0 < window
deriving DecidableEq

/-- Two attempts a second. -/
def samplePolicyASecond : RateLimitPolicy := ⟨2, 1000000000, by decide, by decide, by decide⟩

theorem one_le_maxInMemoryRateKeys : 1 ≤ maxInMemoryRateKeys := by decide

/-- `RateLimitPolicy::new` on a `u32` and a duration. -/
def RateLimitPolicy.new (maxAttempts : ℕ) (hu32 : maxAttempts < 2 ^ 32) (window : ℕ) :
    Except RateLimitError RateLimitPolicy :=
  if h : maxAttempts = 0 ∨ window = 0 then .error .invalidPolicy
  else .ok ⟨maxAttempts, window, Nat.pos_of_ne_zero fun h0 => h (.inl h0), hu32,
    Nat.pos_of_ne_zero fun h0 => h (.inr h0)⟩

/-- `validate_key`. -/
def validateKey (key : Bytes) : Except RateLimitError Unit :=
  if key.isEmpty ∨ key.length > maxRateLimitKeyBytes then .error .invalidKey else .ok ()

/-! ## What the distributed limiters share -/

/-- `retry_after`: a positive number of milliseconds as a duration. -/
def retryAfter (millis : ℤ) : Except RateLimitError ℕ :=
  if millis < 0 then .error .unavailable
  else if millis = 0 then .error .unavailable
  else .ok (millis.toNat * 1000000)

/-- `u32::try_from` on an `i64`. -/
def u32TryFrom (n : ℤ) : Option ℕ := if 0 ≤ n ∧ n < 2 ^ 32 then some n.toNat else none

/-! ## The limiter -/

/-- `WindowEntry`. -/
structure WindowEntry where
  startedAt : ℕ
  attempts : ℕ
deriving DecidableEq

/-- `InMemoryRateLimiter`. -/
structure InMemoryRateLimiter where
  entries : Mutex (KeyedMap Bytes WindowEntry)
  maxKeys : ℕ
  policy : RateLimitPolicy

namespace InMemoryRateLimiter

/-- `InMemoryRateLimiter::new`. -/
def new (maxKeys : ℕ) (policy : RateLimitPolicy) : Except RateLimitError InMemoryRateLimiter :=
  if maxKeys = 0 ∨ maxKeys > maxInMemoryRateKeys then .error .invalidCapacity
  else .ok ⟨.new ∅, maxKeys, policy⟩

/-- Write the entries back at the end of the critical section. -/
def write (limiter : InMemoryRateLimiter) (entries : KeyedMap Bytes WindowEntry) :
    InMemoryRateLimiter := { limiter with entries := limiter.entries.store entries }

@[simp] theorem write_maxKeys (limiter : InMemoryRateLimiter)
    (entries : KeyedMap Bytes WindowEntry) : (limiter.write entries).maxKeys = limiter.maxKeys :=
  rfl

@[simp] theorem write_policy (limiter : InMemoryRateLimiter)
    (entries : KeyedMap Bytes WindowEntry) : (limiter.write entries).policy = limiter.policy :=
  rfl

@[simp] theorem write_entries (limiter : InMemoryRateLimiter)
    (entries : KeyedMap Bytes WindowEntry) :
    (limiter.write entries).entries = limiter.entries.store entries := rfl

/-- The entries `retain` keeps. -/
def purge (window now : ℕ) (entries : KeyedMap Bytes WindowEntry) : KeyedMap Bytes WindowEntry :=
  entries.retain fun _ entry => (checkedDurationSince now entry.startedAt).all (· < window)

/-- `check_at`. -/
def checkAt (limiter : InMemoryRateLimiter) (key : Bytes) (now : ℕ) :
    Except RateLimitError RateLimitDecision × InMemoryRateLimiter :=
  match validateKey key with
  | .error error => (.error error, limiter)
  | .ok () =>
    match limiter.entries.lock with
    | none => (.error .unavailable, limiter)
    | some entries =>
      let policy := limiter.policy
      let entries := purge policy.window now entries
      match entries.lookup key with
      | some entry =>
        let elapsed := (checkedDurationSince now entry.startedAt).getD 0
        if elapsed ≥ policy.window then
          (.ok (.allowed (subU32 policy.maxAttempts 1)),
            limiter.write (entries.insert key ⟨now, 1⟩))
        else if entry.attempts ≥ policy.maxAttempts then
          (.ok (.limited (policy.window - elapsed)), limiter.write entries)
        else
          let attempts := addU32 entry.attempts 1
          (.ok (.allowed (subU32 policy.maxAttempts attempts)),
            limiter.write (entries.insert key { entry with attempts }))
      | none =>
        if entries.size ≥ limiter.maxKeys then (.error .capacityReached, limiter.write entries)
        else
          (.ok (.allowed (subU32 policy.maxAttempts 1)),
            limiter.write (entries.insert key ⟨now, 1⟩))

/-! ## What `check_at` does -/

/-- An entry survives the purge while its window is open. -/
theorem lookup_purge {window now : ℕ} {entries : KeyedMap Bytes WindowEntry} {key : Bytes}
    {entry : WindowEntry} :
    (purge window now entries).lookup key = some entry ↔
      entries.lookup key = some entry ∧
        (now < entry.startedAt ∨ now - entry.startedAt < window) := by
  rw [purge, KeyedMap.lookup_retain_eq_some]
  unfold checkedDurationSince
  by_cases hle : entry.startedAt ≤ now
  · simp only [if_pos hle, Option.all_some, decide_eq_true_eq, not_lt.mpr hle, false_or]
  · simp only [if_neg hle, Option.all_none, not_le.mp hle, true_or, and_true]

/-- `check_at` on a valid key of a healthy limiter. The purge leaves no entry whose window is
    over, so the branch that restarts a window is never taken. -/
theorem checkAt_valid {limiter : InMemoryRateLimiter} {key : Bytes} {now : ℕ}
    {entries : KeyedMap Bytes WindowEntry} (hkey : validateKey key = .ok ())
    (hlock : limiter.entries.lock = some entries)
    (hstarted : ∀ key entry, entries.lookup key = some entry → entry.startedAt ≤ now) :
    limiter.checkAt key now =
      match (purge limiter.policy.window now entries).lookup key with
      | some entry =>
        if entry.attempts ≥ limiter.policy.maxAttempts then
          (.ok (.limited (limiter.policy.window - (now - entry.startedAt))),
            limiter.write (purge limiter.policy.window now entries))
        else
          (.ok (.allowed (limiter.policy.maxAttempts - (entry.attempts + 1))),
            limiter.write ((purge limiter.policy.window now entries).insert key
              ⟨entry.startedAt, entry.attempts + 1⟩))
      | none =>
        if (purge limiter.policy.window now entries).size ≥ limiter.maxKeys then
          (.error .capacityReached, limiter.write (purge limiter.policy.window now entries))
        else
          (.ok (.allowed (limiter.policy.maxAttempts - 1)),
            limiter.write ((purge limiter.policy.window now entries).insert key ⟨now, 1⟩)) := by
  have hmax := limiter.policy.maxAttempts_lt
  have hpos := limiter.policy.maxAttempts_pos
  have hone : subU32 limiter.policy.maxAttempts 1 = limiter.policy.maxAttempts - 1 :=
    subU32_eq hmax hpos
  simp only [checkAt, hkey, hlock]
  rcases hlookup : (purge limiter.policy.window now entries).lookup key with _ | entry
  · simp only [hone]
  -- What the purge has left is open, so no subtraction wraps.
  · obtain ⟨hentry, hopen⟩ := lookup_purge.mp hlookup
    have hle := hstarted key entry hentry
    have helapsed : (checkedDurationSince now entry.startedAt).getD 0 = now - entry.startedAt := by
      rw [checkedDurationSince, if_pos hle, Option.getD_some]
    have hwindow : ¬ now - entry.startedAt ≥ limiter.policy.window := by omega
    simp only [helapsed, if_neg hwindow]
    split
    · rfl
    · next hattempts =>
      have hadd : addU32 entry.attempts 1 = entry.attempts + 1 := addU32_eq (by omega)
      rw [hadd, subU32_eq hmax (by omega)]

/-! ## Health and effects -/

/-- What every check keeps true of a limiter at time `now`: nobody has poisoned its lock, no
    entry starts in the future, every count lies within the policy, and the entries within the
    capacity. -/
structure Healthy (limiter : InMemoryRateLimiter) (now : ℕ) : Prop where
  unpoisoned : limiter.entries.poisoned = false
  started : ∀ key entry, limiter.entries.value.lookup key = some entry → entry.startedAt ≤ now
  attempts_pos : ∀ key entry, limiter.entries.value.lookup key = some entry → 0 < entry.attempts
  attempts_le : ∀ key entry, limiter.entries.value.lookup key = some entry →
    entry.attempts ≤ limiter.policy.maxAttempts
  size_le : limiter.entries.value.size ≤ limiter.maxKeys

/-- The entries whose window is open at `now`. -/
def openEntries (limiter : InMemoryRateLimiter) (now : ℕ) : KeyedMap Bytes WindowEntry :=
  purge limiter.policy.window now limiter.entries.value

/-- All a check can do to a healthy limiter. -/
inductive CheckEffect (limiter : InMemoryRateLimiter) (key : Bytes) (now : ℕ) :
    Except RateLimitError RateLimitDecision → InMemoryRateLimiter → Prop where
  /-- The key is empty or too long. -/
  | invalid (hinvalid : validateKey key = .error .invalidKey) :
      CheckEffect limiter key now (.error .invalidKey) limiter
  /-- The open window is exhausted. -/
  | limited (entry : WindowEntry) (hvalid : validateKey key = .ok ())
      (hentry : (limiter.openEntries now).lookup key = some entry)
      (hfull : limiter.policy.maxAttempts ≤ entry.attempts) :
      CheckEffect limiter key now
        (.ok (.limited (limiter.policy.window - (now - entry.startedAt))))
        (limiter.write (limiter.openEntries now))
  /-- The check counts in the open window. -/
  | counted (entry : WindowEntry) (hvalid : validateKey key = .ok ())
      (hentry : (limiter.openEntries now).lookup key = some entry)
      (hroom : entry.attempts < limiter.policy.maxAttempts) :
      CheckEffect limiter key now
        (.ok (.allowed (limiter.policy.maxAttempts - (entry.attempts + 1))))
        (limiter.write ((limiter.openEntries now).insert key
          ⟨entry.startedAt, entry.attempts + 1⟩))
  /-- There is no room for another window. -/
  | full (hvalid : validateKey key = .ok ())
      (hentry : (limiter.openEntries now).lookup key = none)
      (hsize : limiter.maxKeys ≤ (limiter.openEntries now).size) :
      CheckEffect limiter key now (.error .capacityReached)
        (limiter.write (limiter.openEntries now))
  /-- The check opens a window. -/
  | opened (hvalid : validateKey key = .ok ())
      (hentry : (limiter.openEntries now).lookup key = none)
      (hsize : (limiter.openEntries now).size < limiter.maxKeys) :
      CheckEffect limiter key now (.ok (.allowed (limiter.policy.maxAttempts - 1)))
        (limiter.write ((limiter.openEntries now).insert key ⟨now, 1⟩))

section Effects

variable {limiter : InMemoryRateLimiter} {key : Bytes} {now : ℕ}

theorem validateKey_cases (key : Bytes) :
    validateKey key = .error .invalidKey ∨ validateKey key = .ok () := by
  unfold validateKey
  split
  · exact .inl rfl
  · exact .inr rfl

/-- An entry is open while less than a window has passed since its start. -/
theorem Healthy.lookup_openEntries (h : limiter.Healthy now) {entry : WindowEntry} {t : ℕ}
    (hle : now ≤ t) :
    (limiter.openEntries t).lookup key = some entry ↔
      limiter.entries.value.lookup key = some entry ∧
        t < entry.startedAt + limiter.policy.window := by
  rw [openEntries, lookup_purge]
  constructor
  · rintro ⟨hentry, hopen⟩
    have hstarted := h.started key entry hentry
    exact ⟨hentry, by omega⟩
  · rintro ⟨hentry, hopen⟩
    have hstarted := h.started key entry hentry
    exact ⟨hentry, by omega⟩

/-- **Every check of a healthy limiter has one of the five effects.** -/
theorem Healthy.checkAt_effect (h : limiter.Healthy now) (key : Bytes) {t : ℕ} (hle : now ≤ t) :
    CheckEffect limiter key t (limiter.checkAt key t).1 (limiter.checkAt key t).2 := by
  rcases validateKey_cases key with hinvalid | hvalid
  · have hcheck : limiter.checkAt key t = (.error .invalidKey, limiter) := by
      rw [checkAt, hinvalid]
    rw [hcheck]
    exact .invalid hinvalid
  · have hlock : limiter.entries.lock = some limiter.entries.value := by
      rw [Mutex.lock, h.unpoisoned]
      rfl
    rw [checkAt_valid hvalid hlock fun key entry hentry => (h.started key entry hentry).trans hle]
    rcases hlookup : (purge limiter.policy.window t limiter.entries.value).lookup key with _ | entry
    · dsimp only
      split
      · next hsize => exact .full hvalid hlookup hsize
      · next hsize => exact .opened hvalid hlookup (not_le.mp hsize)
    · dsimp only
      split
      · next hfull => exact .limited entry hvalid hlookup hfull
      · next hroom => exact .counted entry hvalid hlookup (not_le.mp hroom)

/-- An entry of the open ones, or one added under `key`, fits a healthy limiter. -/
private theorem Healthy.of_entries (h : limiter.Healthy now) {t : ℕ} (hle : now ≤ t)
    {entries : KeyedMap Bytes WindowEntry}
    (hfrom : ∀ other entry, entries.lookup other = some entry →
      limiter.entries.value.lookup other = some entry ∨
        (entry.startedAt ≤ t ∧ 0 < entry.attempts ∧
          entry.attempts ≤ limiter.policy.maxAttempts))
    (hsize : entries.size ≤ limiter.maxKeys) : (limiter.write entries).Healthy t where
  unpoisoned := h.unpoisoned
  started := by
    intro other entry hentry
    rcases hfrom other entry hentry with hold | ⟨hstarted, -, -⟩
    · exact (h.started other entry hold).trans hle
    · exact hstarted
  attempts_pos := by
    intro other entry hentry
    rcases hfrom other entry hentry with hold | ⟨-, hpos, -⟩
    · exact h.attempts_pos other entry hold
    · exact hpos
  attempts_le := by
    intro other entry hentry
    rcases hfrom other entry hentry with hold | ⟨-, -, hmax⟩
    · exact h.attempts_le other entry hold
    · exact hmax
  size_le := hsize

/-- **A check keeps a limiter healthy.** -/
theorem CheckEffect.healthy {t : ℕ} {result : Except RateLimitError RateLimitDecision}
    {after : InMemoryRateLimiter} (h : limiter.Healthy now) (hle : now ≤ t)
    (heffect : CheckEffect limiter key t result after) : after.Healthy t := by
  have hopen : ∀ other entry, (limiter.openEntries t).lookup other = some entry →
      limiter.entries.value.lookup other = some entry :=
    fun other entry hentry => ((h.lookup_openEntries hle).mp hentry).1
  have hsize : (limiter.openEntries t).size ≤ limiter.maxKeys :=
    (KeyedMap.size_retain_le _ _).trans h.size_le
  cases heffect with
  | invalid hinvalid =>
    exact ⟨h.unpoisoned, fun other entry hentry => (h.started other entry hentry).trans hle,
      h.attempts_pos, h.attempts_le, h.size_le⟩
  | limited entry hvalid hentry hfull =>
    exact h.of_entries hle (fun other entry hentry => .inl (hopen other entry hentry)) hsize
  -- The raised entry replaces one that is there.
  | counted entry hvalid hentry hroom =>
    refine h.of_entries hle ?_ ?_
    · intro other entry' hentry'
      rw [KeyedMap.lookup_insert_ite] at hentry'
      split at hentry'
      · cases hentry'
        exact .inr ⟨(h.started key entry (hopen key entry hentry)).trans hle, Nat.succ_pos _, hroom⟩
      · exact .inl (hopen other entry' hentry')
    · rw [KeyedMap.size_insert_of_lookup_some _ hentry]
      exact hsize
  | full hvalid hentry hfull =>
    exact h.of_entries hle (fun other entry hentry => .inl (hopen other entry hentry)) hsize
  -- A new entry needs room, which was checked.
  | opened hvalid hentry hroom =>
    refine h.of_entries hle ?_ ?_
    · intro other entry' hentry'
      rw [KeyedMap.lookup_insert_ite] at hentry'
      split at hentry'
      · cases hentry'
        exact .inr ⟨le_refl t, Nat.one_pos, limiter.policy.maxAttempts_pos⟩
      · exact .inl (hopen other entry' hentry')
    · exact (KeyedMap.size_insert_le _ _ _).trans hroom

/-- A check configures nothing. -/
theorem CheckEffect.config {t : ℕ} {result : Except RateLimitError RateLimitDecision}
    {after : InMemoryRateLimiter} (heffect : CheckEffect limiter key t result after) :
    after.policy = limiter.policy ∧ after.maxKeys = limiter.maxKeys := by
  cases heffect <;> exact ⟨rfl, rfl⟩

/-- A fresh limiter is healthy. -/
theorem Healthy.of_new {maxKeys : ℕ} {policy : RateLimitPolicy}
    (h : InMemoryRateLimiter.new maxKeys policy = .ok limiter) (now : ℕ) :
    limiter.Healthy now ∧ limiter.policy = policy ∧ limiter.maxKeys = maxKeys ∧ 0 < maxKeys ∧
      limiter.entries.value = ∅ := by
  unfold InMemoryRateLimiter.new at h
  split at h
  · cases h
  · next hkeys =>
    cases h
    refine ⟨⟨rfl, ?_, ?_, ?_, Nat.zero_le _⟩, rfl, rfl, ?_, rfl⟩
    · intro key entry hentry
      cases hentry
    · intro key entry hentry
      cases hentry
    · intro key entry hentry
      cases hentry
    · exact Nat.pos_of_ne_zero fun h0 => hkeys (.inl h0)

end Effects

end InMemoryRateLimiter

end SecureKeypad.Server
