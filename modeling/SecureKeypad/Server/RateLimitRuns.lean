import SecureKeypad.Library.FixedWindow
import SecureKeypad.Server.RateLimit

/-!
# Runs of the In-Memory Rate Limiter

The fixed-window law of `InMemoryRateLimiter::check_at` over whole call histories, and the
isolation of one key from the traffic on the others.

A timed run carries its clock: every check happens some time after the one before it, which is
what a sequence with nondecreasing `now` is. The isolation theorem compares two runs of which one
leaves calls out, so its calls carry their `now`.

## Main results

- `timedStep_refines_windows`: a timed run refines the windows of its entries
- `fixed_window_law`: windows, countdown, capacity, arithmetic and exact retry times
- `key_isolation`: a key that is never refused for capacity is answered as if it were alone
-/

namespace SecureKeypad.Server

open Rust Machine

/-! ## Overflow checks -/

namespace InMemoryRateLimiter

/-- `check_at` as a build with overflow checks runs it: `none` is an arithmetic panic. -/
def checkAtChecked (limiter : InMemoryRateLimiter) (key : Bytes) (now : ℕ) :
    Option (Except RateLimitError RateLimitDecision × InMemoryRateLimiter) :=
  match validateKey key with
  | .error error => some (.error error, limiter)
  | .ok () =>
    match limiter.entries.lock with
    | none => some (.error .unavailable, limiter)
    | some entries =>
      let policy := limiter.policy
      let entries := purge policy.window now entries
      match entries.lookup key with
      | some entry =>
        let elapsed := (checkedDurationSince now entry.startedAt).getD 0
        if elapsed ≥ policy.window then
          (checkedSubU32 policy.maxAttempts 1).map fun remaining =>
            (.ok (.allowed remaining), limiter.write (entries.insert key ⟨now, 1⟩))
        else if entry.attempts ≥ policy.maxAttempts then
          some (.ok (.limited (policy.window - elapsed)), limiter.write entries)
        else
          (checkedAddU32 entry.attempts 1).bind fun attempts =>
            (checkedSubU32 policy.maxAttempts attempts).map fun remaining =>
              (.ok (.allowed remaining),
                limiter.write (entries.insert key { entry with attempts }))
      | none =>
        if entries.size ≥ limiter.maxKeys then
          some (.error .capacityReached, limiter.write entries)
        else
          (checkedSubU32 policy.maxAttempts 1).map fun remaining =>
            (.ok (.allowed remaining), limiter.write (entries.insert key ⟨now, 1⟩))

/-- No check overflows: the count is below `max_attempts` where it is incremented, and
    `max_attempts` is at least one. -/
theorem checkAtChecked_eq (limiter : InMemoryRateLimiter) (key : Bytes) (now : ℕ) :
    limiter.checkAtChecked key now = some (limiter.checkAt key now) := by
  have hmax := limiter.policy.maxAttempts_lt
  have hpos := limiter.policy.maxAttempts_pos
  -- The constructor refuses a limit of 0, so this subtraction does not wrap.
  have hone : checkedSubU32 limiter.policy.maxAttempts 1 =
      some (subU32 limiter.policy.maxAttempts 1) := by
    rw [subU32_eq hmax hpos, checkedSubU32, if_pos (Nat.succ_le_of_lt hpos)]
  unfold checkAtChecked checkAt
  cases validateKey key with
  | error error => rfl
  | ok value =>
    cases limiter.entries.lock with
    | none => rfl
    | some entries =>
      dsimp only
      cases (purge limiter.policy.window now entries).lookup key with
      | none =>
        dsimp only
        split
        · rfl
        · rw [hone, Option.map_some]
      | some entry =>
        dsimp only
        split
        · rw [hone, Option.map_some]
        · split
          · rfl
          · next hroom =>
            -- Below the limit neither sum nor difference leaves the 32 bits.
            have hadd : checkedAddU32 entry.attempts 1 = some (addU32 entry.attempts 1) := by
              rw [addU32_eq (by omega), checkedAddU32, if_pos (by omega)]
            have hsub : checkedSubU32 limiter.policy.maxAttempts (addU32 entry.attempts 1) =
                some (subU32 limiter.policy.maxAttempts (addU32 entry.attempts 1)) := by
              rw [addU32_eq (by omega), subU32_eq hmax (by omega), checkedSubU32,
                if_pos (by omega)]
            rw [hadd, Option.bind_some, hsub, Option.map_some]

end InMemoryRateLimiter

/-! ## Timed runs -/

/-- A limiter and the time of the last check. -/
structure TimedLimiter where
  clock : ℕ
  limiter : InMemoryRateLimiter

/-- One check, `wait` nanoseconds after the previous one. -/
structure TimedCheck where
  wait : ℕ
  key : Bytes

/-- When a check ran and what it answered. -/
structure TimedReply where
  now : ℕ
  result : Except RateLimitError RateLimitDecision

/-- One call of `check_at`. -/
def timedStep (timed : TimedLimiter) (check : TimedCheck) : TimedReply × TimedLimiter :=
  let now := timed.clock + check.wait
  let answer := timed.limiter.checkAt check.key now
  (⟨now, answer.1⟩, ⟨now, answer.2⟩)

/-- What a check shows of itself. -/
def timedAnswer (check : TimedCheck) (reply : TimedReply) : FixedWindow.Answer Bytes :=
  ⟨check.key, reply.now,
    match reply.result with
    | .ok (.allowed remaining) => some remaining
    | _ => none⟩

/-- The window of an entry. -/
def entryWindow (timed : TimedLimiter) (key : Bytes) : Option FixedWindow.Window :=
  (timed.limiter.entries.value.lookup key).map fun entry => ⟨entry.startedAt, entry.attempts⟩

/-- A healthy limiter with the given configuration. -/
structure TimedLimiter.Intact (policy : RateLimitPolicy) (maxKeys : ℕ) (timed : TimedLimiter) :
    Prop where
  healthy : timed.limiter.Healthy timed.clock
  policy_eq : timed.limiter.policy = policy
  maxKeys_eq : timed.limiter.maxKeys = maxKeys

section Timed

variable {policy : RateLimitPolicy} {maxKeys : ℕ} {timed : TimedLimiter}

theorem TimedLimiter.Intact.effect (h : timed.Intact policy maxKeys) (check : TimedCheck) :
    InMemoryRateLimiter.CheckEffect timed.limiter check.key (timedStep timed check).1.now
      (timedStep timed check).1.result (timedStep timed check).2.limiter :=
  h.healthy.checkAt_effect check.key (Nat.le_add_right _ _)

theorem timedStep_intact (h : timed.Intact policy maxKeys) (check : TimedCheck) :
    (timedStep timed check).2.Intact policy maxKeys := by
  have heffect := h.effect check
  obtain ⟨hpolicy, hkeys⟩ := heffect.config
  exact ⟨heffect.healthy h.healthy (Nat.le_add_right _ _), hpolicy.trans h.policy_eq,
    hkeys.trans h.maxKeys_eq⟩

theorem entryWindow_eq_some {key : Bytes} {w : FixedWindow.Window} :
    entryWindow timed key = some w ↔
      timed.limiter.entries.value.lookup key = some ⟨w.startedAt, w.attempts⟩ := by
  rw [entryWindow, Option.map_eq_some_iff]
  constructor
  · rintro ⟨entry, hentry, rfl⟩
    exact hentry
  · intro hentry
    exact ⟨_, hentry, rfl⟩

/-- The entry a check finds under its own key, when its window is open. -/
theorem TimedLimiter.Intact.openEntries_iff (h : timed.Intact policy maxKeys) (check : TimedCheck)
    {key : Bytes} {entry : WindowEntry} :
    (timed.limiter.openEntries (timedStep timed check).1.now).lookup key = some entry ↔
      timed.limiter.entries.value.lookup key = some entry ∧
        (timedStep timed check).1.now < entry.startedAt + policy.window := by
  have hle : timed.clock ≤ (timedStep timed check).1.now := Nat.le_add_right _ _
  rw [h.healthy.lookup_openEntries hle, h.policy_eq]

/-- A check that does not count under `key` leaves its open entry alone. -/
theorem TimedLimiter.Intact.keeps (h : timed.Intact policy maxKeys) (check : TimedCheck)
    {key : Bytes} {entry : WindowEntry}
    (hentry : timed.limiter.entries.value.lookup key = some entry)
    (hopen : (timedStep timed check).1.now < entry.startedAt + policy.window)
    (hrefused : check.key = key → ∀ remaining,
      (timedStep timed check).1.result ≠ .ok (.allowed remaining)) :
    (timedStep timed check).2.limiter.entries.value.lookup key = some entry := by
  have hlive := (h.openEntries_iff check).mpr ⟨hentry, hopen⟩
  have heffect := h.effect check
  generalize (timedStep timed check).1.result = result at heffect hrefused
  generalize (timedStep timed check).2.limiter = after at heffect ⊢
  cases heffect with
  | invalid _ => exact hentry
  | limited _ _ _ _ => exact hlive
  | full _ _ _ => exact hlive
  | counted entry' _ _ _ =>
    have hne : key ≠ check.key := fun heq => hrefused heq.symm _ rfl
    rw [← hlive]
    exact AList.lookup_insert_ne hne
  | opened _ _ _ =>
    have hne : key ≠ check.key := fun heq => hrefused heq.symm _ rfl
    rw [← hlive]
    exact AList.lookup_insert_ne hne

/-- An admitted check counts in the open window of its key, or finds none and opens one. -/
theorem TimedLimiter.Intact.admits (h : timed.Intact policy maxKeys) (check : TimedCheck)
    {remaining : ℕ} (hresult : (timedStep timed check).1.result = .ok (.allowed remaining)) :
    (∃ entry, timed.limiter.entries.value.lookup check.key = some entry ∧
      (timedStep timed check).1.now < entry.startedAt + policy.window ∧
      entry.attempts < policy.maxAttempts ∧
      remaining = policy.maxAttempts - (entry.attempts + 1) ∧
      (timedStep timed check).2.limiter.entries.value.lookup check.key =
        some ⟨entry.startedAt, entry.attempts + 1⟩) ∨
    ((∀ entry, timed.limiter.entries.value.lookup check.key = some entry →
        entry.startedAt + policy.window ≤ (timedStep timed check).1.now) ∧
      remaining = policy.maxAttempts - 1 ∧
      (timedStep timed check).2.limiter.entries.value.lookup check.key =
        some ⟨(timedStep timed check).1.now, 1⟩) := by
  have heffect := h.effect check
  rw [hresult] at heffect
  generalize hafter : (timedStep timed check).2.limiter = after at heffect ⊢
  cases heffect with
  | counted entry _ hentry hroom =>
    obtain ⟨hold, hopen⟩ := (h.openEntries_iff check).mp hentry
    rw [h.policy_eq] at hroom ⊢
    exact .inl ⟨entry, hold, hopen, hroom, rfl, AList.lookup_insert _⟩
  | opened _ hentry _ =>
    rw [h.policy_eq]
    refine .inr ⟨?_, rfl, AList.lookup_insert _⟩
    intro entry hold
    by_contra hlt
    rw [(h.openEntries_iff check).mpr ⟨hold, not_le.mp hlt⟩] at hentry
    cases hentry

/-- An entry after a check was there before, for the same window, or was opened by it. -/
theorem TimedLimiter.Intact.appears (h : timed.Intact policy maxKeys) (check : TimedCheck)
    {key : Bytes} {entry : WindowEntry}
    (hafter : (timedStep timed check).2.limiter.entries.value.lookup key = some entry) :
    (∃ old, timed.limiter.entries.value.lookup key = some old ∧
      old.startedAt = entry.startedAt) ∨
    (key = check.key ∧ entry.startedAt = (timedStep timed check).1.now ∧
      (timedStep timed check).1.result = .ok (.allowed (policy.maxAttempts - 1))) := by
  have heffect := h.effect check
  have hold : ∀ {entry}, (timed.limiter.openEntries (timedStep timed check).1.now).lookup key =
      some entry → timed.limiter.entries.value.lookup key = some entry :=
    fun hentry => ((h.openEntries_iff check).mp hentry).1
  generalize (timedStep timed check).1.result = result at heffect ⊢
  generalize (timedStep timed check).2.limiter = after at heffect hafter
  cases heffect with
  | invalid _ => exact .inl ⟨entry, hafter, rfl⟩
  | limited _ _ _ _ => exact .inl ⟨entry, hold hafter, rfl⟩
  | full _ _ _ => exact .inl ⟨entry, hold hafter, rfl⟩
  -- Counting keeps the start of the window.
  | counted old _ hentry _ =>
    simp only [InMemoryRateLimiter.write_entries, Mutex.store_value,
      KeyedMap.lookup_insert_ite] at hafter
    split at hafter
    · next heq =>
      subst heq
      cases hafter
      exact .inl ⟨old, hold hentry, rfl⟩
    · exact .inl ⟨entry, hold hafter, rfl⟩
  -- A window that is opened starts at this check.
  | opened _ hentry _ =>
    simp only [InMemoryRateLimiter.write_entries, Mutex.store_value,
      KeyedMap.lookup_insert_ite] at hafter
    split at hafter
    · next heq =>
      cases hafter
      rw [h.policy_eq]
      exact .inr ⟨heq, rfl, rfl⟩
    · exact .inl ⟨entry, hold hafter, rfl⟩

theorem timedAnswer_of_allowed {check : TimedCheck} {reply : TimedReply} {remaining : ℕ}
    (h : reply.result = .ok (.allowed remaining)) :
    timedAnswer check reply = ⟨check.key, reply.now, some remaining⟩ := by
  rw [timedAnswer, h]

theorem result_of_timedAnswer {check : TimedCheck} {reply : TimedReply} {k : Bytes}
    {t remaining : ℕ} (h : timedAnswer check reply = ⟨k, t, some remaining⟩) :
    k = check.key ∧ t = reply.now ∧ reply.result = .ok (.allowed remaining) := by
  unfold timedAnswer at h
  simp only [FixedWindow.Answer.mk.injEq] at h
  obtain ⟨rfl, rfl, hallowed⟩ := h
  split at hallowed
  · next heq =>
    cases hallowed
    exact ⟨rfl, rfl, heq⟩
  · cases hallowed

/-- Timed runs refine the windows of their entries. -/
theorem timedStep_refines_windows (policy : RateLimitPolicy) (maxKeys : ℕ) :
    FixedWindow.Refinement policy.maxAttempts policy.window timedStep timedAnswer
      TimedLimiter.clock entryWindow (TimedLimiter.Intact policy maxKeys) where
  inv _ check h := timedStep_intact h check
  clock_le timed check := Nat.le_add_right timed.clock check.wait
  clock_eq _ _ := rfl
  -- An open window goes on, unless a check of its key is allowed in it.
  keeps := by
    intro timed check key w h hw hopen hrefused
    rw [entryWindow_eq_some] at hw ⊢
    refine h.keeps check hw hopen ?_
    intro hkey remaining hresult
    have hnone := hrefused hkey
    rw [timedAnswer_of_allowed hresult] at hnone
    cases hnone
  -- An allowed check was counted in an open window, or has opened one.
  admits := by
    intro timed check key t remaining h hanswer
    obtain ⟨rfl, rfl, hresult⟩ := result_of_timedAnswer hanswer
    rcases h.admits check hresult with
      ⟨entry, hentry, hopen, hroom, hremaining, hafter⟩ | ⟨hover, hremaining, hafter⟩
    · have hpos := h.healthy.attempts_pos check.key entry hentry
      exact .inl ⟨⟨entry.startedAt, entry.attempts⟩, entryWindow_eq_some.mpr hentry, hopen, hpos,
        hroom, hremaining, entryWindow_eq_some.mpr hafter⟩
    · refine .inr ⟨?_, hremaining, entryWindow_eq_some.mpr hafter⟩
      intro w hw
      exact hover _ (entryWindow_eq_some.mp hw)
  appears := by
    intro timed check key w h hafter
    rw [entryWindow_eq_some] at hafter
    rcases h.appears check hafter with ⟨old, hold, hstart⟩ | ⟨rfl, hstart, hresult⟩
    · exact .inl ⟨⟨old.startedAt, old.attempts⟩, entryWindow_eq_some.mpr hold, hstart⟩
    · refine .inr ?_
      rw [timedAnswer_of_allowed hresult]
      exact congrArg (fun t => (⟨check.key, t, some (policy.maxAttempts - 1)⟩ :
        FixedWindow.Answer Bytes)) hstart.symm

/-- A limited check finds its window open and exhausted, and names the rest of it. -/
theorem TimedLimiter.Intact.limited (h : timed.Intact policy maxKeys) (check : TimedCheck)
    {retry : ℕ} (hresult : (timedStep timed check).1.result = .ok (.limited retry)) :
    validateKey check.key = .ok () ∧ ∃ entry,
      timed.limiter.entries.value.lookup check.key = some entry ∧
      (timedStep timed check).1.now < entry.startedAt + policy.window ∧
      policy.maxAttempts ≤ entry.attempts ∧
      (timedStep timed check).1.now + retry = entry.startedAt + policy.window := by
  have heffect := h.effect check
  have hclock : timed.clock ≤ (timedStep timed check).1.now := Nat.le_add_right _ _
  rw [hresult] at heffect
  generalize (timedStep timed check).2.limiter = after at heffect
  cases heffect with
  | limited entry hvalid hentry hfull =>
    obtain ⟨hold, hopen⟩ := (h.openEntries_iff check).mp hentry
    have hstarted := (h.healthy.started check.key entry hold).trans hclock
    rw [h.policy_eq] at hfull ⊢
    exact ⟨hvalid, entry, hold, hopen, hfull, by omega⟩

/-- A check that finds its window open and exhausted is limited. -/
theorem TimedLimiter.Intact.exhausted (h : timed.Intact policy maxKeys) (check : TimedCheck)
    (hvalid : validateKey check.key = .ok ()) {entry : WindowEntry}
    (hentry : timed.limiter.entries.value.lookup check.key = some entry)
    (hopen : (timedStep timed check).1.now < entry.startedAt + policy.window)
    (hfull : policy.maxAttempts ≤ entry.attempts) :
    ∃ retry, (timedStep timed check).1.result = .ok (.limited retry) := by
  have hlive := (h.openEntries_iff check).mpr ⟨hentry, hopen⟩
  have heffect := h.effect check
  generalize (timedStep timed check).1.result = result at heffect ⊢
  generalize (timedStep timed check).2.limiter = after at heffect
  cases heffect with
  | invalid hinvalid =>
    rw [hvalid] at hinvalid
    cases hinvalid
  | limited _ _ _ _ => exact ⟨_, rfl⟩
  | counted entry' _ hentry' hroom =>
    rw [hlive, Option.some.injEq] at hentry'
    subst hentry'
    rw [h.policy_eq] at hroom
    exact absurd hfull (not_le.mpr hroom)
  | full _ hnone _ =>
    rw [hlive] at hnone
    cases hnone
  | opened _ hnone _ =>
    rw [hlive] at hnone
    cases hnone

/-- A check whose window is over opens a new one or is refused for capacity. -/
theorem TimedLimiter.Intact.over (h : timed.Intact policy maxKeys) (check : TimedCheck)
    (hvalid : validateKey check.key = .ok ())
    (hover : ∀ entry, timed.limiter.entries.value.lookup check.key = some entry →
      entry.startedAt + policy.window ≤ (timedStep timed check).1.now) :
    (timedStep timed check).1.result = .ok (.allowed (policy.maxAttempts - 1)) ∨
      (timedStep timed check).1.result = .error .capacityReached := by
  have hnone : ∀ {entry}, (timed.limiter.openEntries (timedStep timed check).1.now).lookup
      check.key ≠ some entry := by
    intro entry hentry
    obtain ⟨hold, hopen⟩ := (h.openEntries_iff check).mp hentry
    exact absurd (hover entry hold) (not_le.mpr hopen)
  have heffect := h.effect check
  generalize (timedStep timed check).1.result = result at heffect ⊢
  generalize (timedStep timed check).2.limiter = after at heffect
  cases heffect with
  | invalid hinvalid =>
    rw [hvalid] at hinvalid
    cases hinvalid
  | limited entry _ hentry _ => exact absurd hentry hnone
  | counted entry _ hentry _ => exact absurd hentry hnone
  | full _ _ _ => exact .inr rfl
  | opened _ _ _ =>
    rw [h.policy_eq]
    exact .inl rfl

end Timed

/-! ## The fixed-window law -/

/-- The limiter when its `j`-th check arrives. -/
def timedAt (start : TimedLimiter) (checks : List TimedCheck) (j : ℕ) : TimedLimiter :=
  run timedStep start (checks.take j)

/-- The reply to a check that arrives after the first `j`. -/
def replyAt (start : TimedLimiter) (checks : List TimedCheck) (j : ℕ) (check : TimedCheck) :
    TimedReply := (timedStep (timedAt start checks j) check).1

/-- What a user of the limiter may rely on over a whole run. -/
structure FixedWindowLaw (policy : RateLimitPolicy) (maxKeys : ℕ) (start : TimedLimiter)
    (checks : List TimedCheck) : Prop where
  /-- The admitted checks of a key lie in windows that start at least `window` apart and admit
      at most `max_attempts` each. -/
  windows : FixedWindow.WindowLaw policy.maxAttempts policy.window
    (FixedWindow.answers timedAnswer timedStep start checks)
  /-- Within a window `remaining` counts down from `max_attempts - 1` without gaps. -/
  countdown : ∀ key opened p q t remaining,
    FixedWindow.OpensAt policy.maxAttempts
      (FixedWindow.answers timedAnswer timedStep start checks) key opened p → p ≤ q →
    (FixedWindow.answers timedAnswer timedStep start checks)[q]? = some ⟨key, t, some remaining⟩ →
    t < opened + policy.window →
    remaining + {q' ∈ FixedWindow.admitted policy.window
      (FixedWindow.answers timedAnswer timedStep start checks) key opened p | q' ≤ q}.ncard =
        policy.maxAttempts
  /-- A limited check lies in a window as well, and names the rest of it. -/
  limited_inside : ∀ j check retry, checks[j]? = some check →
    (replyAt start checks j check).result = .ok (.limited retry) →
    0 < retry ∧ ∃ opened, ∃ p < j, FixedWindow.OpensAt policy.maxAttempts
      (FixedWindow.answers timedAnswer timedStep start checks) check.key opened p ∧
      (replyAt start checks j check).now + retry = opened + policy.window
  /-- A check refused for capacity lies in no window of its key. -/
  full_outside : ∀ j check opened p, checks[j]? = some check →
    (replyAt start checks j check).result = .error .capacityReached →
    p < j → FixedWindow.OpensAt policy.maxAttempts
      (FixedWindow.answers timedAnswer timedStep start checks) check.key opened p →
    opened + policy.window ≤ (replyAt start checks j check).now
  /-- Entries never exceed `max_keys`. -/
  capacity : ∀ j, (timedAt start checks j).limiter.entries.value.size ≤ maxKeys
  /-- No arithmetic overflows. -/
  arithmetic : ∀ j check, checks[j]? = some check →
    (timedAt start checks j).limiter.checkAtChecked check.key (replyAt start checks j check).now =
      some ((timedAt start checks j).limiter.checkAt check.key
        (replyAt start checks j check).now)
  /-- Until the retry time every check of the key is limited. -/
  retry_until : ∀ j check retry q later, checks[j]? = some check →
    (replyAt start checks j check).result = .ok (.limited retry) →
    j < q → checks[q]? = some later → later.key = check.key →
    (replyAt start checks q later).now < (replyAt start checks j check).now + retry →
    ∃ retry', (replyAt start checks q later).result = .ok (.limited retry')
  /-- The first check of the key at or after the retry time opens a window or is refused for
      capacity. -/
  retry_then : ∀ j check retry q later, checks[j]? = some check →
    (replyAt start checks j check).result = .ok (.limited retry) →
    j < q → checks[q]? = some later → later.key = check.key →
    (replyAt start checks j check).now + retry ≤ (replyAt start checks q later).now →
    (∀ c between, j < c → c < q → checks[c]? = some between → between.key = check.key →
      (replyAt start checks c between).now < (replyAt start checks j check).now + retry) →
    (replyAt start checks q later).result = .ok (.allowed (policy.maxAttempts - 1)) ∨
      (replyAt start checks q later).result = .error .capacityReached

section Law

variable {policy : RateLimitPolicy} {maxKeys : ℕ} {start : TimedLimiter}
  {checks : List TimedCheck}

theorem timedAt_intact (h : start.Intact policy maxKeys) (checks : List TimedCheck) (j : ℕ) :
    (timedAt start checks j).Intact policy maxKeys :=
  run_invariant timedStep (P := TimedLimiter.Intact policy maxKeys)
    (fun _ check h => timedStep_intact h check) h (checks.take j)

/-- After a limited check, every check of the key before its window ends is limited. -/
theorem limited_until (h : start.Intact policy maxKeys) {j q retry : ℕ}
    {check later : TimedCheck}
    (hlimited : (replyAt start checks j check).result = .ok (.limited retry)) (hjq : j < q)
    (hlater : checks[q]? = some later) (hkey : later.key = check.key)
    (hnow : (replyAt start checks q later).now < (replyAt start checks j check).now + retry) :
    ∃ retry', (replyAt start checks q later).result = .ok (.limited retry') := by
  obtain ⟨hvalid, entry, hentry, -, hfull, hrest⟩ := (timedAt_intact h checks j).limited check hlimited
  -- The window is still there when `later` arrives, with at least the same count.
  obtain ⟨m, hle, hwindow⟩ := FixedWindow.window_kept
    (timedStep_refines_windows policy maxKeys) h hjq.le hlater
    (entryWindow_eq_some.mpr hentry) (hnow.trans_eq hrest)
  rw [← hkey] at hwindow hvalid
  exact (timedAt_intact h checks q).exhausted later hvalid (entryWindow_eq_some.mp hwindow)
    (hnow.trans_eq hrest) (hfull.trans hle)

/-- Until the first check of the key after its window, the key has no entry but that window's. -/
theorem entry_until (h : start.Intact policy maxKeys) {j q retry : ℕ} {check : TimedCheck}
    (hcheck : checks[j]? = some check)
    (hlimited : (replyAt start checks j check).result = .ok (.limited retry)) (hjq : j < q)
    (hq : q ≤ checks.length)
    (hbetween : ∀ c between, j < c → c < q → checks[c]? = some between →
      between.key = check.key →
      (replyAt start checks c between).now < (replyAt start checks j check).now + retry) :
    ∀ entry, (timedAt start checks q).limiter.entries.value.lookup check.key = some entry →
      entry.startedAt + policy.window = (replyAt start checks j check).now + retry := by
  obtain ⟨-, old, hold, -, -, hrest⟩ := (timedAt_intact h checks j).limited check hlimited
  -- The window that limited the check stays, since no check of its key opens another.
  refine run_take_window timedStep (P := fun timed => ∀ entry,
    timed.limiter.entries.value.lookup check.key = some entry →
      entry.startedAt + policy.window = (replyAt start checks j check).now + retry)
    hjq.le hq ?_ ?_
  · intro entry hentry
    have hsame : (timedAt start checks j).limiter.entries.value.lookup check.key = some entry :=
      hentry
    rw [hold, Option.some.injEq] at hsame
    rw [← hsame]
    exact hrest.symm
  · intro c between hjc hcq hget hprevious entry hentry
    rcases (timedAt_intact h checks c).appears between hentry with
      ⟨before, hbefore, hstart⟩ | ⟨hkey, -, hallowed⟩
    · rw [← hstart]
      exact hprevious before hbefore
    · -- A check of the key in between is limited, so it opened nothing.
      have hlimitedC : ∃ retry', (replyAt start checks c between).result =
          .ok (.limited retry') := by
        rcases Nat.eq_or_lt_of_le hjc with rfl | hlt
        · rw [hcheck, Option.some.injEq] at hget
          rw [← hget]
          exact ⟨retry, hlimited⟩
        · exact limited_until h hlimited hlt hget hkey.symm
            (hbetween c between hlt hcq hget hkey.symm)
      obtain ⟨retry', hresult⟩ := hlimitedC
      have hsame : (replyAt start checks c between).result =
          .ok (.allowed (policy.maxAttempts - 1)) := hallowed
      rw [hresult] at hsame
      cases hsame

/-- **The fixed-window law of the in-memory limiter.** -/
theorem fixed_window_law {limiter : InMemoryRateLimiter}
    (hnew : InMemoryRateLimiter.new maxKeys policy = .ok limiter) (clock : ℕ)
    (checks : List TimedCheck) : FixedWindowLaw policy maxKeys ⟨clock, limiter⟩ checks := by
  obtain ⟨hhealthy, hpolicy, hkeys, -, hempty⟩ := InMemoryRateLimiter.Healthy.of_new hnew clock
  have h : TimedLimiter.Intact policy maxKeys ⟨clock, limiter⟩ := ⟨hhealthy, hpolicy, hkeys⟩
  have hnone : ∀ key, entryWindow ⟨clock, limiter⟩ key = none := by
    intro key
    rw [entryWindow, hempty]
    rfl
  have hrefines := timedStep_refines_windows policy maxKeys
  refine ⟨?_, ?_, ?_, ?_, ?_, ?_, ?_, ?_⟩
  · exact FixedWindow.windowLaw_of_refinement hrefines h hnone policy.maxAttempts_pos
      policy.window_pos checks
  · intro key opened p q t remaining hopens hpq hq ht
    exact FixedWindow.allowed_add_ncard hrefines h policy.maxAttempts_pos policy.window_pos hopens
      hpq hq ht
  · intro j check retry hcheck hlimited
    obtain ⟨-, entry, hentry, hopen, -, hrest⟩ := (timedAt_intact h checks j).limited check hlimited
    have hj : j ≤ checks.length := (List.getElem?_eq_some_iff.mp hcheck).1.le
    obtain ⟨p, hp, hopens⟩ := FixedWindow.opensAt_of_window hrefines h hnone hj
      (entryWindow_eq_some (w := ⟨entry.startedAt, entry.attempts⟩) |>.mpr hentry)
    refine ⟨?_, entry.startedAt, p, hp, hopens, hrest⟩
    rw [← hrest] at hopen
    exact Nat.pos_of_lt_add_right hopen
  · intro j check opened p hcheck hfull hpj hopens
    by_contra hlt
    -- Were the window open, its entry would be found and the check could not be refused.
    obtain ⟨m, -, hwindow⟩ := FixedWindow.window_kept hrefines h hpj hcheck
      (FixedWindow.window_of_opensAt hrefines h hopens) (not_le.mp hlt)
    have hlive := ((timedAt_intact h checks j).openEntries_iff check).mpr
      ⟨entryWindow_eq_some.mp hwindow, not_le.mp hlt⟩
    have heffect := (timedAt_intact h checks j).effect check
    have hresult : (timedStep (timedAt ⟨clock, limiter⟩ checks j) check).1.result =
        .error .capacityReached := hfull
    rw [hresult] at heffect
    generalize (timedStep (timedAt ⟨clock, limiter⟩ checks j) check).2.limiter = after at heffect
    cases heffect with
    | full _ hentry _ =>
      rw [hlive] at hentry
      cases hentry
  · intro j
    have hintact := timedAt_intact h checks j
    rw [← hintact.maxKeys_eq]
    exact hintact.healthy.size_le
  · intro j check _
    exact InMemoryRateLimiter.checkAtChecked_eq _ _ _
  · intro j check retry q later _ hlimited hjq hlater hkey hnow
    exact limited_until h hlimited hjq hlater hkey hnow
  · intro j check retry q later hcheck hlimited hjq hlater hkey hnow hbetween
    have hq : q ≤ checks.length := (List.getElem?_eq_some_iff.mp hlater).1.le
    have hentry := entry_until h hcheck hlimited hjq hq hbetween
    obtain ⟨hvalid, -⟩ := (timedAt_intact h checks j).limited check hlimited
    rw [← hkey] at hvalid hentry
    refine (timedAt_intact h checks q).over later hvalid fun entry hlookup => ?_
    rw [hentry entry hlookup]
    exact hnow

end Law

/-- Two attempts in a window of a microsecond, for one key. -/
def samplePolicy : RateLimitPolicy := { samplePolicyASecond with
  window := 1000
  window_pos := by decide }

/-- The window admits two checks, limits the third, and is over exactly when it says. -/
theorem fixed_window_law_one_key :
    ((trace timedStep ⟨7, ⟨.new ∅, 1, samplePolicy⟩⟩
      [⟨0, [0x61]⟩, ⟨300, [0x61]⟩, ⟨300, [0x61]⟩, ⟨0, [0x62]⟩, ⟨399, [0x61]⟩, ⟨1, [0x61]⟩]).map
        fun p => p.2.result) =
      [.ok (.allowed 1), .ok (.allowed 0), .ok (.limited 400), .error .capacityReached,
        .ok (.limited 1), .ok (.allowed 1)] ∧
    FixedWindowLaw samplePolicy 1 ⟨7, ⟨.new ∅, 1, samplePolicy⟩⟩
      [⟨0, [0x61]⟩, ⟨300, [0x61]⟩, ⟨300, [0x61]⟩, ⟨0, [0x62]⟩, ⟨399, [0x61]⟩, ⟨1, [0x61]⟩] :=
  ⟨by decide +kernel, fixed_window_law rfl 7 _⟩

/-! ## Isolation of a key -/

/-- One call of `check_at`, with its `now`. -/
structure CheckCall where
  key : Bytes
  now : ℕ

def checkStep (limiter : InMemoryRateLimiter) (call : CheckCall) :
    Except RateLimitError RateLimitDecision × InMemoryRateLimiter :=
  limiter.checkAt call.key call.now

theorem InMemoryRateLimiter.Healthy.mono {limiter : InMemoryRateLimiter} {now t : ℕ}
    (h : limiter.Healthy now) (hle : now ≤ t) : limiter.Healthy t where
  unpoisoned := h.unpoisoned
  started key entry hentry := (h.started key entry hentry).trans hle
  attempts_pos := h.attempts_pos
  attempts_le := h.attempts_le
  size_le := h.size_le

/-- A limiter and one that has only seen the checks of `key`, both at time `now`. The entries of
    `key` may differ once their window is over: the traffic of the others purges them earlier. -/
structure Isolated (key : Bytes) (now : ℕ) (full solo : InMemoryRateLimiter) : Prop where
  full_healthy : full.Healthy now
  solo_healthy : solo.Healthy now
  policy_eq : solo.policy = full.policy
  maxKeys_pos : 0 < solo.maxKeys
  agree : ∀ entry : WindowEntry, now < entry.startedAt + full.policy.window →
    (full.entries.value.lookup key = some entry ↔ solo.entries.value.lookup key = some entry)
  alone : ∀ other, other ≠ key → solo.entries.value.lookup other = none

section Isolation

variable {key : Bytes} {now t : ℕ} {full solo : InMemoryRateLimiter}

theorem Isolated.later (h : Isolated key now full solo) (hle : now ≤ t) :
    Isolated key t full solo where
  full_healthy := h.full_healthy.mono hle
  solo_healthy := h.solo_healthy.mono hle
  policy_eq := h.policy_eq
  maxKeys_pos := h.maxKeys_pos
  agree entry hopen := h.agree entry (hle.trans_lt hopen)
  alone := h.alone

/-- Both limiters find the same open entry under `key`. -/
theorem Isolated.lookup_openEntries (h : Isolated key now full solo) :
    (full.openEntries now).lookup key = (solo.openEntries now).lookup key := by
  apply Option.ext
  intro entry
  rw [h.full_healthy.lookup_openEntries (le_refl now),
    h.solo_healthy.lookup_openEntries (le_refl now), h.policy_eq]
  constructor
  · intro ⟨hentry, hopen⟩
    exact ⟨(h.agree entry hopen).mp hentry, hopen⟩
  · intro ⟨hentry, hopen⟩
    exact ⟨(h.agree entry hopen).mpr hentry, hopen⟩

/-- The lone limiter holds nothing but the entry of `key`. -/
theorem Isolated.lookup_other (h : Isolated key now full solo) {other : Bytes}
    (hne : other ≠ key) : (solo.openEntries now).lookup other = none := by
  apply Option.eq_none_iff_forall_ne_some.mpr
  intro entry hentry
  have hlookup := ((h.solo_healthy.lookup_openEntries (le_refl now)).mp hentry).1
  rw [h.alone other hne] at hlookup
  cases hlookup

/-- Without an open entry of `key` the lone limiter has room. -/
theorem Isolated.solo_room (h : Isolated key now full solo)
    (hnone : (solo.openEntries now).lookup key = none) :
    (solo.openEntries now).size < solo.maxKeys := by
  have hempty : (solo.openEntries now).size ≤ (∅ : KeyedMap Bytes WindowEntry).size := by
    apply KeyedMap.size_le_of_lookup
    intro other entry hentry
    rcases eq_or_ne other key with rfl | hne
    · rw [hnone] at hentry
      cases hentry
    · rw [h.lookup_other hne] at hentry
      cases hentry
  exact hempty.trans_lt h.maxKeys_pos

/-- A check of another key leaves the relation as it is. -/
theorem Isolated.other (h : Isolated key now full solo) {other : Bytes} (hne : other ≠ key)
    (hle : now ≤ t) : Isolated key t (full.checkAt other t).2 solo := by
  have hlater := h.later hle
  have heffect := hlater.full_healthy.checkAt_effect other (le_refl t)
  have hhealthy := heffect.healthy hlater.full_healthy (le_refl t)
  obtain ⟨hpolicy, -⟩ := heffect.config
  refine ⟨hhealthy, hlater.solo_healthy, h.policy_eq.trans hpolicy.symm, h.maxKeys_pos, ?_,
    h.alone⟩
  intro entry hopen
  rw [hpolicy] at hopen
  -- The check purges, and may insert under `other`; neither touches an open entry of `key`.
  have hkept : ((full.checkAt other t).2.entries.value.lookup key = some entry ↔
      full.entries.value.lookup key = some entry) := by
    have hlive : (full.openEntries t).lookup key = some entry ↔ _ :=
      hlater.full_healthy.lookup_openEntries (le_refl t)
    generalize (full.checkAt other t).1 = result at heffect
    generalize (full.checkAt other t).2 = after at heffect ⊢
    cases heffect with
    | invalid _ => exact Iff.rfl
    | limited _ _ _ _ => exact hlive.trans (and_iff_left hopen)
    | full _ _ _ => exact hlive.trans (and_iff_left hopen)
    | counted old _ _ _ =>
      rw [InMemoryRateLimiter.write_entries, Mutex.store_value, AList.lookup_insert_ne hne.symm]
      exact hlive.trans (and_iff_left hopen)
    | opened _ _ _ =>
      rw [InMemoryRateLimiter.write_entries, Mutex.store_value, AList.lookup_insert_ne hne.symm]
      exact hlive.trans (and_iff_left hopen)
  exact hkept.trans (hlater.agree entry hopen)

/-- Writing back the same open entry of `key`, or the same new one, keeps the relation. -/
theorem Isolated.of_write (h : Isolated key now full solo)
    {entriesF entriesS : KeyedMap Bytes WindowEntry} (hfull : (full.write entriesF).Healthy now)
    (hsolo : (solo.write entriesS).Healthy now)
    (hkey : entriesF.lookup key = entriesS.lookup key)
    (halone : ∀ other, other ≠ key → entriesS.lookup other = none) :
    Isolated key now (full.write entriesF) (solo.write entriesS) where
  full_healthy := hfull
  solo_healthy := hsolo
  policy_eq := h.policy_eq
  maxKeys_pos := h.maxKeys_pos
  agree entry _ := by
    show entriesF.lookup key = some entry ↔ entriesS.lookup key = some entry
    rw [hkey]
  alone := halone

/-- The lone limiter still holds no other key after a write under `key`. -/
theorem Isolated.lookup_insert_other (h : Isolated key now full solo) (entry : WindowEntry)
    (other : Bytes) (hne : other ≠ key) :
    ((solo.openEntries now).insert key entry).lookup other = none := by
  rw [AList.lookup_insert_ne hne]
  exact h.lookup_other hne

/-- A check of `key` that is not refused for capacity is answered alike by both. -/
theorem Isolated.own (h : Isolated key now full solo) (hle : now ≤ t)
    (hroom : (full.checkAt key t).1 ≠ .error .capacityReached) :
    (full.checkAt key t).1 = (solo.checkAt key t).1 ∧
      Isolated key t (full.checkAt key t).2 (solo.checkAt key t).2 := by
  have hlater := h.later hle
  have hlookup := hlater.lookup_openEntries
  have hfull := hlater.full_healthy.checkAt_effect key (le_refl t)
  have hsolo := hlater.solo_healthy.checkAt_effect key (le_refl t)
  have hfullHealthy := hfull.healthy hlater.full_healthy (le_refl t)
  have hsoloHealthy := hsolo.healthy hlater.solo_healthy (le_refl t)
  generalize (full.checkAt key t).1 = resultF at *
  generalize (full.checkAt key t).2 = afterF at *
  generalize (solo.checkAt key t).1 = resultS at *
  generalize (solo.checkAt key t).2 = afterS at *
  -- The open entry decides the branch, and both limiters look at the same one.
  cases hfull with
  | invalid hinvalid =>
    cases hsolo with
    | invalid _ => exact ⟨rfl, hlater⟩
    | limited _ hvalid _ _ => simp [hinvalid] at hvalid
    | counted _ hvalid _ _ => simp [hinvalid] at hvalid
    | full hvalid _ _ => simp [hinvalid] at hvalid
    | opened hvalid _ _ => simp [hinvalid] at hvalid
  | limited entry hvalid hentry hexhausted =>
    have hsame : (solo.openEntries t).lookup key = some entry := hlookup.symm.trans hentry
    cases hsolo with
    | invalid hinvalid => simp [hvalid] at hinvalid
    | limited entry' _ hentry' _ =>
      obtain rfl : entry = entry' := Option.some.inj (hsame.symm.trans hentry')
      rw [hlater.policy_eq]
      exact ⟨rfl, hlater.of_write hfullHealthy hsoloHealthy hlookup
        fun other hne => hlater.lookup_other hne⟩
    | counted entry' _ hentry' hroom' =>
      obtain rfl : entry = entry' := Option.some.inj (hsame.symm.trans hentry')
      rw [hlater.policy_eq] at hroom'
      exact absurd hexhausted (not_le.mpr hroom')
    | full _ hnone _ => simp [hsame] at hnone
    | opened _ hnone _ => simp [hsame] at hnone
  | counted entry hvalid hentry hbelow =>
    have hsame : (solo.openEntries t).lookup key = some entry := hlookup.symm.trans hentry
    cases hsolo with
    | invalid hinvalid => simp [hvalid] at hinvalid
    | limited entry' _ hentry' hexhausted =>
      obtain rfl : entry = entry' := Option.some.inj (hsame.symm.trans hentry')
      rw [hlater.policy_eq] at hexhausted
      exact absurd hexhausted (not_le.mpr hbelow)
    | counted entry' _ hentry' _ =>
      obtain rfl : entry = entry' := Option.some.inj (hsame.symm.trans hentry')
      rw [hlater.policy_eq]
      refine ⟨rfl, hlater.of_write hfullHealthy hsoloHealthy ?_ (hlater.lookup_insert_other _)⟩
      rw [AList.lookup_insert, AList.lookup_insert]
    | full _ hnone _ => simp [hsame] at hnone
    | opened _ hnone _ => simp [hsame] at hnone
  | full _ _ _ => exact absurd rfl hroom
  | opened hvalid hnone _ =>
    have hsame : (solo.openEntries t).lookup key = none := hlookup.symm.trans hnone
    cases hsolo with
    | invalid hinvalid => simp [hvalid] at hinvalid
    | limited _ _ hentry _ => simp [hsame] at hentry
    | counted _ _ hentry _ => simp [hsame] at hentry
    | full _ _ hsize => exact absurd hsize (not_le.mpr (hlater.solo_room hsame))
    | opened _ _ _ =>
      rw [hlater.policy_eq]
      refine ⟨rfl, hlater.of_write hfullHealthy hsoloHealthy ?_ (hlater.lookup_insert_other _)⟩
      rw [AList.lookup_insert, AList.lookup_insert]

/-- The relation along the calls still to come: they are in order, and none of `key` will be
    refused for capacity. -/
structure IsolatedUntil (key : Bytes) (calls : List CheckCall)
    (full solo : InMemoryRateLimiter) : Prop where
  isolated : ∃ now, Isolated key now full solo ∧ ∀ call ∈ calls, now ≤ call.now
  ordered : calls.Pairwise fun call later => call.now ≤ later.now
  room : ∀ call, (call, .error .capacityReached) ∈ trace checkStep full calls → call.key ≠ key

/-- **Isolation.** A key none of whose checks is refused for capacity is answered as if the
    limiter had seen its checks alone. -/
theorem key_isolation {policy : RateLimitPolicy} {maxKeys : ℕ} {limiter : InMemoryRateLimiter}
    (hnew : InMemoryRateLimiter.new maxKeys policy = .ok limiter) (calls : List CheckCall)
    (hordered : calls.Pairwise fun call later => call.now ≤ later.now) (key : Bytes)
    (hroom : ∀ call, (call, .error .capacityReached) ∈ trace checkStep limiter calls →
      call.key ≠ key) :
    (trace checkStep limiter calls).filter (fun p => p.1.key = key) =
      trace checkStep limiter (calls.filter fun call => call.key = key) := by
  obtain ⟨hhealthy, -, hmaxKeys, hpos, hempty⟩ := InMemoryRateLimiter.Healthy.of_new hnew 0
  have hstart : IsolatedUntil key calls limiter limiter := by
    refine ⟨⟨0, ⟨hhealthy, hhealthy, rfl, hmaxKeys ▸ hpos, fun _ _ => Iff.rfl, ?_⟩,
      fun call _ => Nat.zero_le _⟩, hordered, hroom⟩
    intro other _
    rw [hempty]
    rfl
  -- Checks of other keys keep the two limiters alike at this key; its own are answered alike.
  refine trace_filter_eq_of_unwinding checkStep (fun call => decide (call.key = key)) ?_ ?_ hstart
  · intro call calls full solo h hother
    obtain ⟨now, hisolated, hnow⟩ := h.isolated
    have hne : call.key ≠ key := of_decide_eq_false hother
    refine ⟨⟨call.now, hisolated.other hne (hnow call List.mem_cons_self), ?_⟩,
      h.ordered.of_cons, ?_⟩
    · intro later hlater
      exact List.rel_of_pairwise_cons h.ordered hlater
    · intro later hlater
      exact h.room later (List.mem_cons_of_mem _ hlater)
  · intro call calls full solo h hown
    obtain ⟨now, hisolated, hnow⟩ := h.isolated
    obtain rfl : call.key = key := of_decide_eq_true hown
    -- The check of this key was not refused for want of room, by `hroom`.
    have hallowed : (full.checkAt call.key call.now).1 ≠ .error .capacityReached := by
      intro hrefused
      refine h.room call ?_ rfl
      rw [trace_cons, checkStep, hrefused]
      exact List.mem_cons_self
    obtain ⟨hanswer, hafter⟩ := hisolated.own (hnow call List.mem_cons_self) hallowed
    refine ⟨hanswer, ⟨call.now, hafter, ?_⟩, h.ordered.of_cons, ?_⟩
    · intro later hlater
      exact List.rel_of_pairwise_cons h.ordered hlater
    · intro later hlater
      exact h.room later (List.mem_cons_of_mem _ hlater)

end Isolation

/-- Another key's check purges the first key's window between two of its own checks. -/
theorem key_isolation_two_keys :
    ((trace checkStep ⟨.new ∅, 2, samplePolicy⟩ [⟨[0x61], 0⟩, ⟨[0x62], 10⟩, ⟨[0x61], 20⟩,
      ⟨[0x61], 30⟩, ⟨[0x62], 1000⟩, ⟨[0x61], 1005⟩]).filter fun p => p.1.key = [0x61]) =
    trace checkStep ⟨.new ∅, 2, samplePolicy⟩ [⟨[0x61], 0⟩, ⟨[0x61], 20⟩, ⟨[0x61], 30⟩,
      ⟨[0x61], 1005⟩] ∧
    (trace checkStep ⟨.new ∅, 2, samplePolicy⟩ [⟨[0x61], 0⟩, ⟨[0x61], 20⟩, ⟨[0x61], 30⟩,
      ⟨[0x61], 1005⟩]).map (fun p => p.2) =
      [.ok (.allowed 1), .ok (.allowed 0), .ok (.limited 970), .ok (.allowed 1)] := by
  have hnew : InMemoryRateLimiter.new 2 samplePolicy = .ok ⟨.new ∅, 2, samplePolicy⟩ := rfl
  have hroom : ∀ p ∈ trace checkStep ⟨.new ∅, 2, samplePolicy⟩ [⟨[0x61], 0⟩, ⟨[0x62], 10⟩,
      ⟨[0x61], 20⟩, ⟨[0x61], 30⟩, ⟨[0x62], 1000⟩, ⟨[0x61], 1005⟩],
      p.2 ≠ .error .capacityReached := by decide +kernel
  refine ⟨?_, by decide +kernel⟩
  refine key_isolation hnew _ (by decide) [0x61] ?_
  intro call hmem
  exact absurd rfl (hroom _ hmem)

end SecureKeypad.Server
