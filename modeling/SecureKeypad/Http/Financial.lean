import SecureKeypad.Library.ReplayGuard
import SecureKeypad.Library.Rust
import SecureKeypad.Library.Unicode

/-!
# The Financial Evidence Gate of the Rust Adapters

Embeds the financial admission contract of `secure-auth-http` (`is_valid_financial_context`,
`is_valid_financial_evidence`) and the replay guard that `secure-auth-axum` and
`secure-auth-actix` put in front of the OPAQUE routes. The two adapters carry the same text of
`FinancialAdmission::consume` and of the gate inside `handle_request`.

A request passes the gate in two moments: it reads the clock once and checks its evidence at
that reading, and later, under the mutex, consumes the evidence with that same reading. The
router below interleaves these moments of any number of requests.

## Main results

- `router_consumes_evidence_once`: runs in which no consume with a reading at or past an
  evidence's expiry comes between two consumes of that evidence answer `Consumed` at most once
  for it
- `router_consumes_evidence_twice`: without that condition a purge by a third request re-opens
  evidence whose own request still holds an older reading
-/

namespace SecureKeypad.Http

open Rust

/-! ## Evidence and context -/

/-- `FinancialAuthOperation`. -/
inductive FinancialAuthOperation where
  | registration
  | login
deriving DecidableEq

/-- `FinancialAuthContext`: the host-derived binding an integrity result must cover. -/
structure FinancialAuthContext where
  subject : String
  operation : FinancialAuthOperation
  nonce : String
  deploymentId : String
deriving DecidableEq

/-- `DeviceIntegrityProvider`. -/
inductive DeviceIntegrityProvider where
  | androidPlayIntegrity
  | iosAppAttest
  | iosDeviceCheck
  | custom
deriving DecidableEq

/-- `DeviceIntegrityEvidence`; the two times are `u64` Unix milliseconds. -/
structure DeviceIntegrityEvidence where
  subject : String
  operation : FinancialAuthOperation
  nonce : String
  deploymentId : String
  provider : DeviceIntegrityProvider
  issuedAtMs : ℕ
  expiresAtMs : ℕ
deriving DecidableEq

/-- `FinancialDeviceIntegrityDecision`. -/
inductive FinancialDeviceIntegrityDecision where
  | evidence (evidence : DeviceIntegrityEvidence)
  | rejected
  | unavailable

def maxFinancialEvidenceLifetimeMs : ℕ := 300000
def maxFinancialFutureSkewMs : ℕ := 30000
def maxFinancialSubjectBytes : ℕ := 256
def maxFinancialNonceBytes : ℕ := 512
def maxFinancialDeploymentBytes : ℕ := 128

def registrationStartPath : String := "/v1/opaque/registration/start"
def registrationFinishPath : String := "/v1/opaque/registration/finish"
def loginStartPath : String := "/v1/opaque/login/start"
def loginFinishPath : String := "/v1/opaque/login/finish"

/-- `valid_financial_binding`. -/
def validFinancialBinding (value : String) (minimumBytes maximumBytes : ℕ) : Bool :=
  let length := value.utf8ByteSize
  decide (minimumBytes ≤ length) && decide (length ≤ maximumBytes) &&
    !(value.toList.any fun character => Unicode.isControl character || Unicode.isWhiteSpace character)

/-- `financial_operation_for_path`. -/
def financialOperationForPath (path : String) : Option FinancialAuthOperation :=
  if path = registrationStartPath ∨ path = registrationFinishPath then some .registration
  else if path = loginStartPath ∨ path = loginFinishPath then some .login
  else none

/-- `is_valid_financial_context`. -/
def isValidFinancialContext (path : String) (context : FinancialAuthContext) : Bool :=
  decide (financialOperationForPath path = some context.operation) &&
    validFinancialBinding context.subject 1 maxFinancialSubjectBytes &&
    validFinancialBinding context.nonce 16 maxFinancialNonceBytes &&
    validFinancialBinding context.deploymentId 1 maxFinancialDeploymentBytes

/-- The `matches!` on the provider, which lists every provider there is. -/
def isAcceptedProvider : DeviceIntegrityProvider → Bool
  | .androidPlayIntegrity | .iosAppAttest | .iosDeviceCheck | .custom => true

/-- `is_valid_financial_evidence`. -/
def isValidFinancialEvidence (path : String) (context : FinancialAuthContext)
    (evidence : DeviceIntegrityEvidence) (nowMs : ℕ) : Bool :=
  isValidFinancialContext path context &&
    decide (evidence.subject = context.subject) &&
    decide (evidence.operation = context.operation) &&
    decide (evidence.nonce = context.nonce) &&
    decide (evidence.deploymentId = context.deploymentId) &&
    isAcceptedProvider evidence.provider &&
    decide (evidence.issuedAtMs ≤ saturatingAddU64 nowMs maxFinancialFutureSkewMs) &&
    decide (evidence.expiresAtMs > nowMs) &&
    decide (evidence.expiresAtMs > evidence.issuedAtMs) &&
    decide (evidence.expiresAtMs - evidence.issuedAtMs ≤ maxFinancialEvidenceLifetimeMs)

/-- Accepted evidence has not expired at the reading it was checked with. -/
theorem expiresAtMs_gt_of_isValidFinancialEvidence {path : String} {context : FinancialAuthContext}
    {evidence : DeviceIntegrityEvidence} {nowMs : ℕ}
    (h : isValidFinancialEvidence path context evidence nowMs = true) :
    nowMs < evidence.expiresAtMs := by
  unfold isValidFinancialEvidence at h
  simp only [Bool.and_eq_true, decide_eq_true_eq] at h
  exact h.1.1.2

/-! ## The replay guard -/

def maxFinancialReplayEntries : ℕ := 4096

/-- `ReplayDecision`: `Consumed`, `Replayed` or `Unavailable`. -/
abbrev ReplayDecision := ReplayGuard.Decision

/-- The replay map: expiry by formatted context. -/
abbrev ReplayMap := KeyedMap String ℕ

/-- The operation word of the replay key. -/
def FinancialAuthOperation.word : FinancialAuthOperation → String
  | .registration => "registration"
  | .login => "login"

/-- The key `consume` files a context under. -/
def replayKey (context : FinancialAuthContext) : String :=
  context.deploymentId ++ "\x00" ++ context.subject ++ "\x00" ++ context.operation.word ++
    "\x00" ++ context.nonce

/-- `FinancialAdmission::consume`, as both adapters have it: under the lock, purge, refuse a key
    that is still there, refuse past the entry bound, else insert. -/
def consume (consumed : Mutex ReplayMap) (context : FinancialAuthContext)
    (expiresAtMs nowMs : ℕ) : ReplayDecision × Mutex ReplayMap :=
  match consumed.lock with
  | none => (.unavailable, consumed)
  | some entries =>
    let (decision, entries) :=
      ReplayGuard.attemptOnce maxFinancialReplayEntries entries (replayKey context) expiresAtMs nowMs
    (decision, consumed.store entries)

/-- A consume fails to get the lock, or is one attempt on the replay map. -/
theorem consume_cases (m : Mutex ReplayMap) (context : FinancialAuthContext)
    (expiresAtMs nowMs : ℕ) :
    consume m context expiresAtMs nowMs = (.unavailable, m) ∨
    ((consume m context expiresAtMs nowMs).1 =
        (ReplayGuard.attemptOnce maxFinancialReplayEntries m.value (replayKey context) expiresAtMs
          nowMs).1 ∧
      (consume m context expiresAtMs nowMs).2.value = (ReplayGuard.attemptOnce maxFinancialReplayEntries
        m.value (replayKey context) expiresAtMs nowMs).2) := by
  unfold consume
  cases hlock : m.lock with
  | none => exact .inl rfl
  | some entries =>
    obtain rfl := Mutex.lock_eq_some hlock
    exact .inr ⟨rfl, rfl⟩

/-! ## The gate in `handle_request` -/

/-- A request that passed its evidence check and waits for the mutex. -/
structure PendingConsume where
  context : FinancialAuthContext
  expiresAtMs : ℕ
  nowMs : ℕ
deriving DecidableEq

/-- The financial gate up to the call of `consume`: the error status it answers with, or the
    arguments of that call. `resolved` and `integrity` are the host callbacks (a panicking
    callback counts as `none` and `unavailable`), `clock` the one reading of
    `current_time_millis`. -/
def checkEvidence (path : String) (resolved : Option FinancialAuthContext)
    (integrity : FinancialAuthContext → FinancialDeviceIntegrityDecision) (clock : Option ℕ) :
    Except ℕ PendingConsume :=
  match resolved with
  | none => .error 503
  | some context =>
    if isValidFinancialContext path context = false then .error 503
    else
      match integrity context with
      | .rejected => .error 403
      | .unavailable => .error 503
      | .evidence evidence =>
        match clock with
        | none => .error 503
        | some nowMs =>
          if isValidFinancialEvidence path context evidence nowMs = false then .error 403
          else .ok { context, expiresAtMs := evidence.expiresAtMs, nowMs }

/-- The response that follows a replay decision; `none` means the request goes on to the body. -/
def replayResponse : ReplayDecision → Option ℕ
  | .consumed => none
  | .replayed => some 403
  | .unavailable => some 503

/-- A request reaches the mutex only with evidence unexpired at its own reading. -/
theorem nowMs_lt_of_checkEvidence {path : String} {resolved : Option FinancialAuthContext}
    {integrity : FinancialAuthContext → FinancialDeviceIntegrityDecision} {clock : Option ℕ}
    {p : PendingConsume} (h : checkEvidence path resolved integrity clock = .ok p) :
    p.nowMs < p.expiresAtMs := by
  unfold checkEvidence at h
  cases resolved with
  | none => cases h
  | some context =>
    simp only at h
    split at h
    · cases h
    · split at h
      · cases h
      · cases h
      · cases clock with
        | none => cases h
        | some nowMs =>
          simp only at h
          split at h
          · cases h
          · rename_i hvalid
            cases h
            exact expiresAtMs_gt_of_isValidFinancialEvidence (by simpa using hvalid)

/-! ## The router under interleaving -/

/-- One financial router: real time in milliseconds, the requests between their evidence check
    and their consume, and the shared replay map. -/
structure FinancialRouter where
  clockMs : ℕ
  inFlight : List PendingConsume
  consumed : Mutex ReplayMap

/-- One scheduled moment of the router. -/
inductive RouterAction where
  /-- `elapsedMs` later a request reads the clock (which may be unusable) and checks its
      evidence at that reading. -/
  | arrive (elapsedMs : ℕ) (clockUsable : Bool) (path : String)
      (resolved : Option FinancialAuthContext)
      (integrity : FinancialAuthContext → FinancialDeviceIntegrityDecision)
  /-- The waiting request at `index` takes the mutex and consumes its evidence. -/
  | commit (index : ℕ)
  /-- Some holder of the mutex panics. -/
  | poison

/-- What the router answered at that moment. -/
inductive RouterAnswer where
  | refused (status : ℕ)
  | waiting (request : PendingConsume)
  | decided (request : PendingConsume) (decision : ReplayDecision)
  | idle
deriving DecidableEq

def FinancialRouter.new (clockMs : ℕ) : FinancialRouter :=
  { clockMs, inFlight := [], consumed := Mutex.new ∅ }

/-- One moment of the router. -/
def FinancialRouter.step (router : FinancialRouter) : RouterAction → RouterAnswer × FinancialRouter
  | .arrive elapsedMs clockUsable path resolved integrity =>
    let clockMs := router.clockMs + elapsedMs
    let clock := if clockUsable then some clockMs else none
    match checkEvidence path resolved integrity clock with
    | .error status => (.refused status, { router with clockMs })
    | .ok request =>
      (.waiting request, { router with clockMs, inFlight := router.inFlight ++ [request] })
  | .commit index =>
    match router.inFlight[index]? with
    | none => (.idle, router)
    | some request =>
      let (decision, consumed) :=
        consume router.consumed request.context request.expiresAtMs request.nowMs
      (.decided request decision,
        { router with inFlight := router.inFlight.eraseIdx index, consumed })
  | .poison => (.idle, { router with consumed := router.consumed.poison })

/-- Only a commit decides, with `consume` on the request that was waiting. -/
theorem FinancialRouter.step_eq_decided {router : FinancialRouter} {action : RouterAction}
    {request : PendingConsume} {decision : ReplayDecision}
    (h : (router.step action).1 = .decided request decision) :
    request ∈ router.inFlight ∧
      decision = (consume router.consumed request.context request.expiresAtMs request.nowMs).1 ∧
      (router.step action).2.consumed =
        (consume router.consumed request.context request.expiresAtMs request.nowMs).2 := by
  cases action with
  | arrive elapsedMs clockUsable path resolved integrity =>
    simp only [step] at h
    split at h <;> cases h
  | commit index =>
    simp only [step] at h ⊢
    cases hget : router.inFlight[index]? with
    | none => simp [hget] at h
    | some waiting =>
      simp only [hget, RouterAnswer.decided.injEq] at h
      obtain ⟨rfl, rfl⟩ := h
      exact ⟨List.mem_of_getElem? hget, rfl, rfl⟩
  | poison => cases h

/-- A moment that decides nothing leaves the replay map alone. -/
theorem FinancialRouter.step_value_of_not_decided {router : FinancialRouter} {action : RouterAction}
    (h : ∀ request decision, (router.step action).1 ≠ .decided request decision) :
    (router.step action).2.consumed.value = router.consumed.value := by
  cases action with
  | arrive elapsedMs clockUsable path resolved integrity =>
    simp only [step]
    split <;> rfl
  | commit index =>
    cases hget : router.inFlight[index]? with
    | none => simp [step, hget]
    | some waiting =>
      refine absurd ?_ (h waiting
        (consume router.consumed waiting.context waiting.expiresAtMs waiting.nowMs).1)
      simp [step, hget]
  | poison => rfl

/-- Every waiting request holds a reading at which its evidence was unexpired. -/
def FinancialRouter.Fresh (router : FinancialRouter) : Prop :=
  ∀ request ∈ router.inFlight, request.nowMs < request.expiresAtMs

theorem FinancialRouter.step_fresh (router : FinancialRouter) (action : RouterAction)
    (h : router.Fresh) : (router.step action).2.Fresh := by
  cases action with
  | arrive elapsedMs clockUsable path resolved integrity =>
    simp only [step]
    split
    · exact h
    · rename_i request hok
      intro p hp
      rcases List.mem_append.mp hp with hp | hp
      · exact h p hp
      · rw [List.mem_singleton.mp hp]
        exact nowMs_lt_of_checkEvidence hok
  | commit index =>
    simp only [step]
    split
    · exact h
    · intro p hp
      exact h p (List.mem_of_mem_eraseIdx hp)
  | poison => exact h

theorem FinancialRouter.new_fresh (clockMs : ℕ) : (FinancialRouter.new clockMs).Fresh := by
  intro p hp
  cases hp

/-! ## At most one `Consumed` per evidence -/

/-- The answers of a run of one router started at `clockMs`. -/
def routerTrace (clockMs : ℕ) (actions : List RouterAction) : List (RouterAction × RouterAnswer) :=
  Machine.trace FinancialRouter.step (FinancialRouter.new clockMs) actions

/-- The moment `j` of a run was a consume of `request`, answered `decision`. -/
def DecidedAt (answers : List (RouterAction × RouterAnswer)) (j : ℕ) (request : PendingConsume)
    (decision : ReplayDecision) : Prop :=
  ∃ action, answers[j]? = some (action, .decided request decision)

/-- The same evidence: same context, same expiry. -/
def SameEvidence (p q : PendingConsume) : Prop :=
  p.context = q.context ∧ p.expiresAtMs = q.expiresAtMs

/-- No evidence is answered `Consumed` at two moments of the run. -/
def ConsumesOnce (answers : List (RouterAction × RouterAnswer)) : Prop :=
  ∀ i j p q, i < j → DecidedAt answers i p .consumed → DecidedAt answers j q .consumed →
    ¬ SameEvidence p q

/-- Between two consumes of one evidence no consume holds a reading at or past its expiry. -/
def NoExpiredReadingBetween (answers : List (RouterAction × RouterAnswer)) : Prop :=
  ∀ i k j p r q d d' d'', i < k → k < j → DecidedAt answers i p d → DecidedAt answers k r d' →
    DecidedAt answers j q d'' → SameEvidence p q → r.nowMs < q.expiresAtMs

/-- The replay attempt an answer reports. -/
def RouterAnswer.attempt : RouterAnswer → Option (ReplayGuard.Attempt String ℕ)
  | .decided request decision =>
    some { key := replayKey request.context, expiresAt := request.expiresAtMs,
           now := request.nowMs, decision }
  | _ => none

private theorem attempt_eq_some {answer : RouterAnswer} {a : ReplayGuard.Attempt String ℕ}
    (h : answer.attempt = some a) :
    ∃ request, answer = .decided request a.decision ∧ a.now = request.nowMs ∧
      a.key = replayKey request.context ∧ a.expiresAt = request.expiresAtMs := by
  cases answer with
  | decided request decision =>
    cases h
    exact ⟨request, rfl, rfl, rfl, rfl⟩
  | _ => cases h

private theorem attemptAt_of_decidedAt {answers : List (RouterAction × RouterAnswer)} {j : ℕ}
    {request : PendingConsume} {decision : ReplayDecision}
    (h : DecidedAt answers j request decision) :
    ReplayGuard.AttemptAt RouterAnswer.attempt answers j
      { key := replayKey request.context, expiresAt := request.expiresAtMs,
        now := request.nowMs, decision } := by
  obtain ⟨action, hget⟩ := h
  exact ⟨action, _, hget, rfl⟩

/-- The router keeps a replay map: it changes only by consumes. -/
theorem router_keeps_replayMap :
    ReplayGuard.Keeps FinancialRouter.step (fun router => router.consumed.value)
      RouterAnswer.attempt where
  quiet := by
    intro router action hquiet
    apply FinancialRouter.step_value_of_not_decided
    intro request decision hdec
    rw [hdec] at hquiet
    cases hquiet
  attempt := by
    intro router action a hattempt
    obtain ⟨request, hans, hnow, hkey, hexp⟩ := attempt_eq_some hattempt
    obtain ⟨_, hdec, hnext⟩ := FinancialRouter.step_eq_decided hans
    rw [hnext, hdec, hnow, hkey, hexp]
    rcases consume_cases router.consumed request.context request.expiresAtMs request.nowMs with
      hfail | ⟨hfst, hsnd⟩
    · rw [hfail]
      refine .inl ⟨?_, rfl⟩
      intro hconsumed
      cases hconsumed
    · exact .inr ⟨maxFinancialReplayEntries, hfst, hsnd⟩

/-- The replay map never outgrows `MAX_FINANCIAL_REPLAY_ENTRIES`. -/
theorem router_replayMap_bounded (clockMs : ℕ) (actions : List RouterAction) :
    KeyedMap.size (Machine.run FinancialRouter.step (.new clockMs) actions).consumed.value ≤
      maxFinancialReplayEntries := by
  apply Machine.run_invariant FinancialRouter.step
    (P := fun router => KeyedMap.size router.consumed.value ≤ maxFinancialReplayEntries)
  · intro router action hsize
    by_cases hdec : ∃ request decision, (router.step action).1 = .decided request decision
    · obtain ⟨request, decision, hans⟩ := hdec
      rw [(FinancialRouter.step_eq_decided hans).2.2]
      rcases consume_cases router.consumed request.context request.expiresAtMs request.nowMs with
        hfail | ⟨_, hsnd⟩
      · rw [hfail]
        exact hsize
      · rw [hsnd]
        exact ReplayGuard.size_attemptOnce_le _ _ _ hsize
    · rw [FinancialRouter.step_value_of_not_decided
        (fun request decision hans => hdec ⟨request, decision, hans⟩)]
      exact hsize
  · exact Nat.zero_le _

/-- **Replay guard**: in every interleaving in which no consume with a reading at or past an
    evidence's expiry comes between two consumes of that evidence, the evidence is answered
    `Consumed` at most once. -/
theorem router_consumes_evidence_once (clockMs : ℕ) (actions : List RouterAction)
    (h : NoExpiredReadingBetween (routerTrace clockMs actions)) :
    ConsumesOnce (routerTrace clockMs actions) := by
  intro i j p q hij hi hj hsame
  obtain ⟨k, c, hik, hkj, hk, hlate⟩ :=
    ReplayGuard.readmission_needs_expired_reading router_keeps_replayMap hij
      (attemptAt_of_decidedAt hi) rfl (attemptAt_of_decidedAt hj) rfl
      (congrArg replayKey hsame.1)
  obtain ⟨action, answer, hget, hobs⟩ := hk
  obtain ⟨r, rfl, hnow, _, _⟩ := attempt_eq_some hobs
  have hread : r.nowMs < q.expiresAtMs := by
    rcases Nat.lt_or_eq_of_le hkj with hlt | rfl
    · exact h i k j p r q _ _ _ hik hlt hi ⟨action, hget⟩ hj hsame
    · -- The second request's own reading passed the evidence check.
      obtain ⟨_, hout⟩ := Machine.trace_getElem?_eq_some FinancialRouter.step hget
      obtain ⟨_, hq⟩ := hj
      rw [routerTrace, hget, Option.some.injEq, Prod.mk.injEq, RouterAnswer.decided.injEq] at hq
      obtain ⟨_, rfl, _⟩ := hq
      exact Machine.run_invariant FinancialRouter.step FinancialRouter.step_fresh
        (FinancialRouter.new_fresh clockMs) (actions.take k) r
        (FinancialRouter.step_eq_decided hout.symm).1
  have hexpired : q.expiresAtMs ≤ r.nowMs := by
    rw [← hsame.2, ← hnow]
    exact hlate
  omega

/-! ### Concrete runs

One account presents the same evidence, expiring at 1000 ms, in two requests; another account
presents evidence of its own. -/

def aliceContext : FinancialAuthContext :=
  { subject := "alice", operation := .login, nonce := "nonce-0123456789", deploymentId := "prod" }

def bobContext : FinancialAuthContext :=
  { subject := "bob", operation := .login, nonce := "nonce-9876543210", deploymentId := "prod" }

def evidenceFor (context : FinancialAuthContext) (issuedAtMs expiresAtMs : ℕ) :
    DeviceIntegrityEvidence :=
  { subject := context.subject, operation := context.operation, nonce := context.nonce,
    deploymentId := context.deploymentId, provider := .iosAppAttest, issuedAtMs, expiresAtMs }

def arriveWith (elapsedMs : ℕ) (context : FinancialAuthContext)
    (issuedAtMs expiresAtMs : ℕ) : RouterAction :=
  .arrive elapsedMs true loginStartPath (some context)
    (fun c => .evidence (evidenceFor c issuedAtMs expiresAtMs))

def aliceRequest : PendingConsume :=
  { context := aliceContext, expiresAtMs := 1000, nowMs := 900 }

/-- Alice's two requests read 900 ms; Bob reads `900 + elapsedMs` and consumes between the
    consumes of Alice's requests. -/
def interleaving (elapsedMs : ℕ) : List RouterAction :=
  [arriveWith 0 aliceContext 500 1000, arriveWith 0 aliceContext 500 1000, .commit 0,
    arriveWith elapsedMs bobContext 900 2000, .commit 1, .commit 0]

/-- Bob's purge at 1000 ms drops Alice's entry while her second request still holds the reading
    900 ms, and the same evidence is answered `Consumed` twice. -/
theorem router_consumes_evidence_twice :
    ¬ ∀ clockMs actions, ConsumesOnce (routerTrace clockMs actions) := by
  intro h
  exact h 900 (interleaving 100) 2 5 aliceRequest aliceRequest (by decide) ⟨_, rfl⟩ ⟨_, rfl⟩
    ⟨rfl, rfl⟩

/-- With Bob reading 950 ms instead, the same schedule answers Alice's second request
    `Replayed`. -/
theorem router_consumes_evidence_once_interleaved :
    NoExpiredReadingBetween (routerTrace 900 (interleaving 50)) ∧
      DecidedAt (routerTrace 900 (interleaving 50)) 2 aliceRequest .consumed ∧
      DecidedAt (routerTrace 900 (interleaving 50)) 5 aliceRequest .replayed ∧
      ConsumesOnce (routerTrace 900 (interleaving 50)) := by
  have hbetween : NoExpiredReadingBetween (routerTrace 900 (interleaving 50)) := by
    intro i k j p r q d d' d'' hik hkj hi hk hj hsame
    obtain ⟨_, hk⟩ := hk
    obtain ⟨_, hj⟩ := hj
    -- Six moments, of which the third, the fifth and the last decide.
    have hdecides : ∀ n : Fin 6, ((routerTrace 900 (interleaving 50))[n.val]?.map
        fun answer => match answer.2 with
          | .decided request _ => some (request.nowMs, request.expiresAtMs)
          | _ => none) = [none, none, some (900, 1000), none, some (950, 2000),
            some (900, 1000)][n.val]? := by
      decide
    have hj6 : j < 6 := (List.getElem?_eq_some_iff.mp hj).1
    have hk' := hdecides ⟨k, by omega⟩
    have hj' := hdecides ⟨j, hj6⟩
    simp only [hk, hj, Option.map_some] at hk' hj'
    interval_cases j <;> interval_cases k <;> simp_all
  exact ⟨hbetween, ⟨_, rfl⟩, ⟨_, rfl⟩, router_consumes_evidence_once 900 (interleaving 50) hbetween⟩

end SecureKeypad.Http
