import SecureKeypad.Library.ReplayGuard
import SecureKeypad.Library.Unicode

/-!
# The Financial Evidence Gate of the Node Handler

Embeds the financial part of `createOpaqueHandler` in `packages/server-node`: the context check,
`isFreshBoundEvidence` and `consumeFinancialEvidence`. Both of the last two default their
`nowMs` to `Date.now()`, so one request reads the clock twice, in one synchronous block: once to
test freshness and once to purge and consume.

Numbers are JavaScript numbers of which only the safe integers pass; strings that pass
`isBoundedBinding` contain no lone surrogate (category `Cs` is part of `\p{C}`), so they are
modelled by `String`. Membership in `\p{C}` depends on the engine's Unicode version and is the
parameter `otherCategory`.

## Main results

- `handler_admits_evidence_once`: if no request that presents evidence again reads the clock
  across that evidence's expiry, the evidence is admitted at most once
- `handler_admits_evidence_twice`: a second request whose two readings straddle the expiry
  purges the entry it is about to look up and is admitted again
-/

namespace SecureKeypad.Node

/-! ## Evidence and context -/

/-- `NodeFinancialAuthOperation`. -/
inductive NodeFinancialAuthOperation where
  | registration
  | login
deriving DecidableEq

/-- The four `OPAQUE_ROUTE_PATHS`. -/
inductive OpaqueRoutePath where
  | registrationStart
  | registrationFinish
  | loginStart
  | loginFinish
deriving DecidableEq

/-- `NodeFinancialAuthContext`. -/
structure NodeFinancialAuthContext where
  subject : String
  operation : NodeFinancialAuthOperation
  nonce : String
  deploymentId : String
deriving DecidableEq

/-- `NodeDeviceIntegrityProvider`. -/
inductive NodeDeviceIntegrityProvider where
  | androidPlayIntegrity
  | iosAppAttest
  | iosDeviceCheck
  | custom
deriving DecidableEq

/-- A JavaScript number; `other` is a fraction, an infinity or `NaN`. -/
inductive JsNumber where
  | integer (n : ℤ)
  | other
deriving DecidableEq

/-- `Number.isSafeInteger`, with the integer it vouches for. -/
def JsNumber.safeInteger? : JsNumber → Option ℤ
  | .integer n => if n.natAbs ≤ 2 ^ 53 - 1 then some n else none
  | .other => none

/-- A candidate `NodeDeviceIntegrityEvidence` as the host verifier returned it; `provider` is
    `none` for a value outside `DEVICE_INTEGRITY_PROVIDERS`. -/
structure NodeDeviceIntegrityEvidence where
  subject : String
  operation : NodeFinancialAuthOperation
  nonce : String
  deploymentId : String
  provider : Option NodeDeviceIntegrityProvider
  issuedAtMs : JsNumber
  expiresAtMs : JsNumber
deriving DecidableEq

/-- What `deviceIntegrityVerifier` resolved to: one of the three decision words, an object, or
    something that is not an object at all. -/
inductive NodeVerification where
  | verified
  | rejected
  | unavailable
  | evidence (candidate : NodeDeviceIntegrityEvidence)
  | nonObject
deriving DecidableEq

/-- `isBoundedBinding` on a string. -/
def isBoundedBinding (otherCategory : Char → Bool) (value : String)
    (minimumLength maximumLength : ℕ) : Bool :=
  if value.toList.any fun c => otherCategory c || Unicode.isWhiteSpace c then false
  else decide (minimumLength ≤ value.utf8ByteSize) && decide (value.utf8ByteSize ≤ maximumLength)

/-- The operation a path stands for: `path.includes("registration")`. -/
def OpaqueRoutePath.operation : OpaqueRoutePath → NodeFinancialAuthOperation
  | .registrationStart | .registrationFinish => .registration
  | .loginStart | .loginFinish => .login

/-- `isValidFinancialContext`; `none` is a context that is not an object. -/
def isValidFinancialContext (otherCategory : Char → Bool)
    (context : Option NodeFinancialAuthContext) (path : OpaqueRoutePath) : Bool :=
  match context with
  | none => false
  | some candidate =>
    decide (candidate.operation = path.operation) &&
      isBoundedBinding otherCategory candidate.subject 1 256 &&
      isBoundedBinding otherCategory candidate.nonce 16 512 &&
      isBoundedBinding otherCategory candidate.deploymentId 1 128

/-- `isFreshBoundEvidence`, with the expiry it accepted. -/
def isFreshBoundEvidence (candidate : NodeDeviceIntegrityEvidence)
    (context : NodeFinancialAuthContext) (nowMs : ℤ) : Option ℤ :=
  if candidate.provider.isNone then none
  else if candidate.subject ≠ context.subject ∨ candidate.operation ≠ context.operation ∨
      candidate.nonce ≠ context.nonce ∨ candidate.deploymentId ≠ context.deploymentId then none
  else
    match candidate.issuedAtMs.safeInteger?, candidate.expiresAtMs.safeInteger? with
    | some issuedAtMs, some expiresAtMs =>
      if issuedAtMs ≤ nowMs + 30000 ∧ expiresAtMs > nowMs ∧ expiresAtMs > issuedAtMs ∧
          expiresAtMs - issuedAtMs ≤ 300000 then some expiresAtMs
      else none
    | _, _ => none

/-- Accepted evidence has not expired at the first reading. -/
theorem nowMs_lt_of_isFreshBoundEvidence {candidate : NodeDeviceIntegrityEvidence}
    {context : NodeFinancialAuthContext} {nowMs expiresAtMs : ℤ}
    (h : isFreshBoundEvidence candidate context nowMs = some expiresAtMs) :
    nowMs < expiresAtMs := by
  unfold isFreshBoundEvidence at h
  split at h
  · cases h
  · split at h
    · cases h
    · split at h
      · split at h
        · rename_i hfresh
          cases h
          exact hfresh.2.1
        · cases h
      · cases h

/-! ## The replay map -/

def maxFinancialReplayEntries : ℕ := 4096

/-- `FinancialReplayDecision`. -/
abbrev FinancialReplayDecision := ReplayGuard.Decision

/-- The operation word of the replay key. -/
def NodeFinancialAuthOperation.word : NodeFinancialAuthOperation → String
  | .registration => "registration"
  | .login => "login"

/-- The template literal `consumeFinancialEvidence` files a context under. -/
def replayKey (context : NodeFinancialAuthContext) : String :=
  context.deploymentId ++ "\x00" ++ context.subject ++ "\x00" ++ context.operation.word ++
    "\x00" ++ context.nonce

/-- `consumeFinancialEvidence`: delete every entry with `expiresAt <= nowMs`, refuse a key that
    is still there, refuse past the entry bound, else set it. Nothing in it throws. -/
def consumeFinancialEvidence (consumedEvidence : KeyedMap String ℤ)
    (context : NodeFinancialAuthContext) (expiresAtMs nowMs : ℤ) :
    FinancialReplayDecision × KeyedMap String ℤ :=
  ReplayGuard.attemptOnce maxFinancialReplayEntries consumedEvidence (replayKey context) expiresAtMs
    nowMs

/-! ## The handler -/

/-- A request that reached `consumeFinancialEvidence`, with both of its clock readings. -/
structure Presented where
  context : NodeFinancialAuthContext
  expiresAtMs : ℤ
  freshMs : ℤ
  consumeMs : ℤ
deriving DecidableEq

/-- A handler returned by `createOpaqueHandler`: the clock and its replay map. -/
structure OpaqueHandler where
  clockMs : ℤ
  consumedFinancialEvidence : KeyedMap String ℤ

/-- One request of the financial profile as its synchronous block sees it: the resolved context,
    the awaited verification, and how far the clock advanced before each of the two readings. -/
structure FinancialRequest where
  path : OpaqueRoutePath
  context : Option NodeFinancialAuthContext
  verification : NodeVerification
  beforeFreshMs : ℕ
  beforeConsumeMs : ℕ

/-- The outcome of the financial gate: a generic error response, or a replay decision. -/
inductive GateAnswer where
  | refused (status : ℕ)
  | decided (request : Presented) (decision : FinancialReplayDecision)
deriving DecidableEq

def OpaqueHandler.new (clockMs : ℤ) : OpaqueHandler :=
  { clockMs, consumedFinancialEvidence := ∅ }

/-- The financial gate of one request. -/
def OpaqueHandler.step (otherCategory : Char → Bool) (handler : OpaqueHandler)
    (request : FinancialRequest) : GateAnswer × OpaqueHandler :=
  let freshMs := handler.clockMs + request.beforeFreshMs
  let consumeMs := freshMs + request.beforeConsumeMs
  let waited := { handler with clockMs := consumeMs }
  match request.context with
  | none => (.refused 503, waited)
  | some context =>
    if isValidFinancialContext otherCategory (some context) request.path = false then
      (.refused 503, waited)
    else
      match request.verification with
      | .rejected => (.refused 403, waited)
      | .unavailable | .verified => (.refused 503, waited)
      | .nonObject => (.refused 403, waited)
      | .evidence candidate =>
        match isFreshBoundEvidence candidate context freshMs with
        | none => (.refused 403, waited)
        | some expiresAtMs =>
          let (decision, consumed) := consumeFinancialEvidence handler.consumedFinancialEvidence
            context expiresAtMs consumeMs
          (.decided { context, expiresAtMs, freshMs, consumeMs } decision,
            { clockMs := consumeMs, consumedFinancialEvidence := consumed })

/-- The response that follows a replay decision; `none` means the handler goes on to the body. -/
def replayResponse : FinancialReplayDecision → Option ℕ
  | .consumed => none
  | .replayed => some 403
  | .unavailable => some 503

variable {otherCategory : Char → Bool}

/-- The gate ends in a refusal that leaves the map alone, or in a replay decision on evidence
    that was fresh at the first reading. The clock ends at the second reading either way. -/
theorem OpaqueHandler.step_cases (otherCategory : Char → Bool) (handler : OpaqueHandler)
    (request : FinancialRequest) :
    (∃ status, handler.step otherCategory request = (.refused status,
      { handler with clockMs :=
          handler.clockMs + request.beforeFreshMs + request.beforeConsumeMs })) ∨
    ∃ p : Presented, p.freshMs = handler.clockMs + request.beforeFreshMs ∧
      p.consumeMs = p.freshMs + request.beforeConsumeMs ∧ p.freshMs < p.expiresAtMs ∧
      handler.step otherCategory request =
        (.decided p (consumeFinancialEvidence handler.consumedFinancialEvidence p.context
            p.expiresAtMs p.consumeMs).1,
          { clockMs := p.consumeMs,
            consumedFinancialEvidence := (consumeFinancialEvidence
              handler.consumedFinancialEvidence p.context p.expiresAtMs p.consumeMs).2 }) := by
  -- A request that is refused on the way moves the clock and nothing else.
  unfold step
  cases hcontext : request.context with
  | none => exact .inl ⟨503, rfl⟩
  | some context =>
    simp only
    split
    · exact .inl ⟨503, rfl⟩
    · cases request.verification with
      | rejected => exact .inl ⟨403, rfl⟩
      | unavailable => exact .inl ⟨503, rfl⟩
      | verified => exact .inl ⟨503, rfl⟩
      | nonObject => exact .inl ⟨403, rfl⟩
      | evidence candidate =>
        simp only
        cases hfresh : isFreshBoundEvidence candidate context
            (handler.clockMs + request.beforeFreshMs) with
        | none => exact .inl ⟨403, rfl⟩
        | some expiresAtMs =>
          exact .inr ⟨⟨context, expiresAtMs, handler.clockMs + request.beforeFreshMs, _⟩, rfl, rfl,
            nowMs_lt_of_isFreshBoundEvidence hfresh, rfl⟩

/-! ## At most one admission per evidence -/

/-- The answers of one handler to a sequence of requests, started at `clockMs`. -/
def handlerTrace (otherCategory : Char → Bool) (clockMs : ℤ) (requests : List FinancialRequest) :
    List (FinancialRequest × GateAnswer) :=
  Machine.trace (OpaqueHandler.step otherCategory) (OpaqueHandler.new clockMs) requests

/-- The request `j` of a run reached the replay gate as `presented`, answered `decision`. -/
def DecidedAt (answers : List (FinancialRequest × GateAnswer)) (j : ℕ) (presented : Presented)
    (decision : FinancialReplayDecision) : Prop :=
  ∃ request, answers[j]? = some (request, .decided presented decision)

/-- The same evidence: same context, same expiry. -/
def SameEvidence (p q : Presented) : Prop :=
  p.context = q.context ∧ p.expiresAtMs = q.expiresAtMs

/-- No evidence passes the replay gate twice in the run. -/
def AdmitsOnce (answers : List (FinancialRequest × GateAnswer)) : Prop :=
  ∀ i j p q, i < j → DecidedAt answers i p .consumed → DecidedAt answers j q .consumed →
    ¬ SameEvidence p q

/-- A request that presents evidence an earlier request presented takes its second reading
    before that evidence's expiry. -/
def NoStraddlingRepeat (answers : List (FinancialRequest × GateAnswer)) : Prop :=
  ∀ i j p q d d', i < j → DecidedAt answers i p d → DecidedAt answers j q d' →
    SameEvidence p q → q.consumeMs < q.expiresAtMs

/-- The replay attempt an answer reports. -/
def GateAnswer.attempt : GateAnswer → Option (ReplayGuard.Attempt String ℤ)
  | .refused _ => none
  | .decided presented decision =>
    some { key := replayKey presented.context, expiresAt := presented.expiresAtMs,
           now := presented.consumeMs, decision }

/-- The handler keeps a replay map: it changes only by consumes. -/
theorem handler_keeps_replayMap :
    ReplayGuard.Keeps (OpaqueHandler.step otherCategory)
      OpaqueHandler.consumedFinancialEvidence GateAnswer.attempt where
  quiet := by
    intro handler request hquiet
    rcases handler.step_cases otherCategory request with
      ⟨status, hstep⟩ | ⟨p, _, _, _, hstep⟩
    · rw [hstep]
    · rw [hstep] at hquiet
      cases hquiet
  attempt := by
    intro handler request a hattempt
    rcases handler.step_cases otherCategory request with
      ⟨status, hstep⟩ | ⟨p, _, _, _, hstep⟩
    · rw [hstep] at hattempt
      cases hattempt
    · rw [hstep] at hattempt ⊢
      cases hattempt
      exact .inr ⟨maxFinancialReplayEntries, rfl, rfl⟩

/-- A decision of a run, at the state the earlier requests led to: its first reading is not
    before that state's clock and was before the expiry, its second one becomes the clock. -/
private theorem decidedAt_readings {clockMs : ℤ} {requests : List FinancialRequest} {j : ℕ}
    {p : Presented} {d : FinancialReplayDecision}
    (h : DecidedAt (handlerTrace otherCategory clockMs requests) j p d) :
    (Machine.run (OpaqueHandler.step otherCategory) (.new clockMs) (requests.take j)).clockMs ≤
        p.freshMs ∧
      p.freshMs < p.expiresAtMs ∧
      (Machine.run (OpaqueHandler.step otherCategory) (.new clockMs)
        (requests.take (j + 1))).clockMs = p.consumeMs := by
  obtain ⟨request, hget⟩ := h
  obtain ⟨hreq, hout⟩ := Machine.trace_getElem?_eq_some _ hget
  rw [Machine.run_take_succ _ hreq]
  generalize Machine.run (OpaqueHandler.step otherCategory) (.new clockMs) (requests.take j) =
    handler at hout ⊢
  rcases handler.step_cases otherCategory request with
    ⟨status, hstep⟩ | ⟨q, hfresh, hconsume, hlt, hstep⟩
  · rw [hstep] at hout
    cases hout
  · rw [hstep] at hout ⊢
    cases hout
    exact ⟨by omega, hlt, rfl⟩

/-- The handler's clock never runs backwards. -/
private theorem step_clockMs_le (handler : OpaqueHandler) (request : FinancialRequest) :
    handler.clockMs ≤ (handler.step otherCategory request).2.clockMs := by
  rcases handler.step_cases otherCategory request with
    ⟨status, hstep⟩ | ⟨q, hfresh, hconsume, _, hstep⟩
  · rw [hstep]
    simp only
    omega
  · rw [hstep]
    simp only
    omega

/-- **Replay guard**: if no request that presents evidence again reads the clock across that
    evidence's expiry, then over the whole run the evidence passes the replay gate at most once,
    whatever else is processed in between. -/
theorem handler_admits_evidence_once (otherCategory : Char → Bool) (clockMs : ℤ)
    (requests : List FinancialRequest)
    (h : NoStraddlingRepeat (handlerTrace otherCategory clockMs requests)) :
    AdmitsOnce (handlerTrace otherCategory clockMs requests) := by
  intro i j p q hij hi hj hsame
  obtain ⟨ri, hgeti⟩ := id hi
  obtain ⟨rj, hgetj⟩ := id hj
  -- A key that is admitted again was purged by a reading behind its expiry.
  obtain ⟨k, c, hik, hkj, ⟨rk, answer, hgetk, hobs⟩, hlate⟩ :=
    ReplayGuard.readmission_needs_expired_reading handler_keeps_replayMap hij
      ⟨ri, _, hgeti, rfl⟩ rfl ⟨rj, _, hgetj, rfl⟩ rfl (congrArg replayKey hsame.1)
  cases answer with
  | refused status => cases hobs
  | decided r d =>
    cases hobs
    have hk : DecidedAt (handlerTrace otherCategory clockMs requests) k r d := ⟨rk, hgetk⟩
    have hread : r.consumeMs < q.expiresAtMs := by
      rcases Nat.lt_or_eq_of_le hkj with hlt | rfl
      · -- A reading taken before request `j` is at most `j`'s first one, which found it fresh.
        obtain ⟨_, _, hclock⟩ := decidedAt_readings hk
        obtain ⟨hclockj, hfresh, _⟩ := decidedAt_readings hj
        have hmono := Machine.run_take_mono (OpaqueHandler.step otherCategory)
          (f := OpaqueHandler.clockMs) step_clockMs_le (OpaqueHandler.new clockMs) requests
          (show k + 1 ≤ j from hlt)
        omega
      · rw [handlerTrace] at hk
        obtain ⟨rk', hgetk'⟩ := hk
        rw [handlerTrace, hgetk', Option.some.injEq, Prod.mk.injEq,
          GateAnswer.decided.injEq] at hgetj
        obtain ⟨_, rfl, _⟩ := hgetj
        exact h i k p r _ _ hij hi hj hsame
    have hexpired : q.expiresAtMs ≤ r.consumeMs := by
      rw [← hsame.2]
      exact hlate
    omega

/-! ### Concrete runs

One account presents evidence that expires at 1000 ms, twice. On these ASCII bindings `\p{C}` is
the control characters. -/

def sampleContext : NodeFinancialAuthContext :=
  { subject := "alice", operation := .login, nonce := "nonce-0123456789", deploymentId := "prod" }

/-- The sample evidence, presented after the clock advanced by the two given amounts. -/
def sampleRequest (beforeFreshMs beforeConsumeMs : ℕ) : FinancialRequest :=
  { path := .loginFinish, context := some sampleContext,
    verification := .evidence
      { subject := "alice", operation := .login, nonce := "nonce-0123456789",
        deploymentId := "prod", provider := some .androidPlayIntegrity,
        issuedAtMs := .integer 500, expiresAtMs := .integer 1000 },
    beforeFreshMs, beforeConsumeMs }

/-- The second request reads 999 ms for freshness and 1000 ms for the purge: it deletes the entry
    it is about to look up, and the same evidence is admitted again. -/
theorem handler_admits_evidence_twice :
    ¬ ∀ clockMs requests, AdmitsOnce (handlerTrace Unicode.isControl clockMs requests) := by
  intro h
  exact h 900 [sampleRequest 0 0, sampleRequest 99 1] 0 1 ⟨sampleContext, 1000, 900, 900⟩
    ⟨sampleContext, 1000, 999, 1000⟩ (by decide) ⟨_, rfl⟩ ⟨_, rfl⟩ ⟨rfl, rfl⟩

/-- With both readings of the second request at 999 ms it is answered `replayed`. -/
theorem handler_admits_evidence_once_repeated :
    NoStraddlingRepeat (handlerTrace Unicode.isControl 900 [sampleRequest 0 0, sampleRequest 99 0]) ∧
      DecidedAt (handlerTrace Unicode.isControl 900 [sampleRequest 0 0, sampleRequest 99 0]) 1
        ⟨sampleContext, 1000, 999, 999⟩ .replayed ∧
      AdmitsOnce
        (handlerTrace Unicode.isControl 900 [sampleRequest 0 0, sampleRequest 99 0]) := by
  have hsecond : (handlerTrace Unicode.isControl 900 [sampleRequest 0 0, sampleRequest 99 0])[1]? =
      some (sampleRequest 99 0, .decided ⟨sampleContext, 1000, 999, 999⟩ .replayed) := by
    rfl
  have hstraddle : NoStraddlingRepeat
      (handlerTrace Unicode.isControl 900 [sampleRequest 0 0, sampleRequest 99 0]) := by
    intro i j p q d d' hij _ hj _
    obtain ⟨request, hj⟩ := hj
    have hlt : j < 2 := (List.getElem?_eq_some_iff.mp hj).1
    obtain rfl : j = 1 := by omega
    rw [hsecond] at hj
    cases hj
    decide
  exact ⟨hstraddle, ⟨_, hsecond⟩, handler_admits_evidence_once Unicode.isControl 900 _ hstraddle⟩

end SecureKeypad.Node
