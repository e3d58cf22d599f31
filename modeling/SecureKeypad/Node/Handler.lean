import SecureKeypad.Http.AuthRouter
import SecureKeypad.Node.Agreement
import SecureKeypad.Node.BodyReader
import SecureKeypad.Node.ContentLength

/-!
# The Node Handler (`packages/server-node`)

Embeds the function `createOpaqueHandler` returns, with `isReady`, `routePath`, `isJsonContentType`
and `responseFromDelegate`. The function is asynchronous: it runs from one `await` to the next, and
each of these stretches is one step, taken when what it waits for has settled. `readBoundedBody` is
run one `read()` at a time.

The options are what one request reads of them, a getter that throws included. The memory of the
chunks is the host's; what the reader clears there is the subject of `BodyReader`.

## Main results

- `advanced_of_advance`: everything a settled event can do
- `admission_of_gate`: what the synchronous part of a call has checked
-/

namespace SecureKeypad.Node

open ByteViews DecimalText Rust

/-! ## Options and requests -/

def maxHttpBodyBytes : ℕ := 128 * 1024
def jsonContentType : String := "application/json; charset=utf-8"

/-- `RESPONSE_SECURITY_HEADERS`. -/
def responseSecurityHeaders : List (String × String) :=
  [("cache-control", "no-store"), ("pragma", "no-cache"), ("x-content-type-options", "nosniff"),
    ("referrer-policy", "no-referrer"),
    ("content-security-policy", "default-src 'none'; frame-ancestors 'none'; base-uri 'none'")]

/-- `OPAQUE_ROUTE_PATHS`. -/
def opaqueRoutePaths : List OpaqueRoutePath :=
  [.registrationStart, .registrationFinish, .loginStart, .loginFinish]

/-- `STATUS_CODES`. -/
def statusCodes : List ℤ := [200, 400, 401, 403, 404, 405, 413, 415, 429, 503]

/-- `NodeTransportSecurity`. -/
inductive NodeTransportSecurity where
  | directTls
  | trustedProxyTls
  | plaintext
deriving DecidableEq

/-- `NodeSecurityProfile`. -/
inductive NodeSecurityProfile where
  | standard
  | financial
deriving DecidableEq

/-- `NodeRateLimitDecision`. -/
inductive NodeRateLimitDecision where
  | allowed
  | rateLimited
  | unavailable
deriving DecidableEq

/-- `NodeDeploymentContext`; the transport is `none` for a value outside the type. -/
structure NodeDeploymentContext where
  transport : Option NodeTransportSecurity
  upstreamBodyLimitBytes : JsNumber
  connectionLimitsEnforced : Bool

/-- `CreateOpaqueHandlerOptions`, by what a request reads of it. A profile is absent, one of the two
    or another value; of the three optional callbacks it is told whether they are there. -/
structure HandlerOptions where
  /-- `none` throws when a property of it is read. -/
  deploymentContext : Option NodeDeploymentContext
  securityProfile : Option (Option NodeSecurityProfile)
  financialContext : Bool
  deviceIntegrityVerifier : Bool
  rateLimitDecision : Bool

/-- The parts of `new URL(request.url)` that `routePath` reads. -/
structure RequestUrl where
  pathname : String
  search : String
  hash : String

/-- A Fetch `Request`, by what the handler reads of it; `none` is a read that throws. A header is
    the list of its values. -/
structure FetchRequest where
  url : Option RequestUrl
  method : Option String
  contentType : Option (List Bytes)
  contentLength : Option (List Bytes)
  hasBody : Bool

/-- A call of the handler; `options` is `none` when a getter of it throws. -/
structure Arrival where
  options : Option HandlerOptions
  request : FetchRequest

/-! ## Responses -/

/-- The codes of the error bodies. -/
inductive ErrorCode where
  | invalidRequest
  | rateLimited
  | temporarilyUnavailable
deriving DecidableEq

def ErrorCode.asStr : ErrorCode → String
  | .invalidRequest => "invalid_request"
  | .rateLimited => "rate_limited"
  | .temporarilyUnavailable => "temporarily_unavailable"

/-- A Fetch `Response`. -/
structure FetchResponse where
  status : ℤ
  headers : List (String × String)
  body : Bytes
deriving DecidableEq

/-- `responseHeaders`. -/
def responseHeaders : List (String × String) :=
  ("content-type", jsonContentType) :: responseSecurityHeaders

/-- `errorBody`. -/
def errorBody (code : ErrorCode) : Bytes := Http.toVec (.obj [("error", .str code.asStr)])

/-- `genericResponse`. -/
def genericResponse (status : ℤ) (code : ErrorCode) : FetchResponse :=
  ⟨status, responseHeaders, errorBody code⟩

/-- The response to everything that fails or throws. -/
def unavailableResponse : FetchResponse := genericResponse 503 .temporarilyUnavailable

/-- What a delegate returned; the status is `none` when it is no number, the body when it is no
    `Uint8Array`. -/
structure DelegateResponse where
  status : Option JsNumber
  body : Option Bytes

/-- `responseFromDelegate`; `none` is a value that is no object. -/
def responseFromDelegate (value : Option DelegateResponse) : FetchResponse :=
  match value with
  | none => unavailableResponse
  | some candidate =>
    match candidate.status with
    | some (.integer status) =>
      if status ∉ statusCodes then unavailableResponse
      else
        match candidate.body with
        | none => unavailableResponse
        | some body =>
          if body.length > maxHttpBodyBytes then unavailableResponse
          else ⟨status, responseHeaders, body⟩
    | _ => unavailableResponse

/-! ## The synchronous part -/

/-- What `isReady` returns: a limit within the contract's own. -/
structure BodyLimit where
  bytes : ℕ
  pos : 0 < bytes
  le : bytes ≤ maxHttpBodyBytes

/-- A limit that `isReady` lets through. -/
def NodeDeploymentContext.Allows (context : NodeDeploymentContext) (limit : ℤ) : Prop :=
  limit > 0 ∧ limit ≤ maxHttpBodyBytes ∧ context.connectionLimitsEnforced = true

instance (context : NodeDeploymentContext) (limit : ℤ) : Decidable (context.Allows limit) :=
  inferInstanceAs (Decidable (_ ∧ _ ∧ _))

theorem NodeDeploymentContext.Allows.pos {context : NodeDeploymentContext} {limit : ℤ}
    (h : context.Allows limit) : 0 < limit.toNat := by
  have hpos := h.1
  omega

theorem NodeDeploymentContext.Allows.le {context : NodeDeploymentContext} {limit : ℤ}
    (h : context.Allows limit) : limit.toNat ≤ maxHttpBodyBytes := by
  have hle := h.2.1
  omega

/-- `isReady`. -/
def isReady (context : NodeDeploymentContext) : Option BodyLimit :=
  if context.transport = some .directTls ∨ context.transport = some .trustedProxyTls then
    match context.upstreamBodyLimitBytes.safeInteger? with
    | none => none
    | some limit =>
      if h : context.Allows limit then some ⟨limit.toNat, h.pos, h.le⟩ else none
  else none

/-- `routePath`. -/
def routePath (request : FetchRequest) : Option OpaqueRoutePath :=
  match request.url with
  | none => none
  | some url =>
    if url.search ≠ "" ∨ url.hash ≠ "" then none
    else opaqueRoutePaths.find? fun path => path.path == url.pathname

/-- `isJsonContentType`. A header value has no character beyond U+00FF, where the ASCII letters are
    the only ones with an ASCII lower case. -/
def isJsonContentType (value : String) : Bool :=
  (jsTrim (String.ofList (value.toList.takeWhile (· ≠ ';')))).toList.map Char.toLower =
    "application/json".toList

/-- `securityProfile ?? "standard"`. -/
def HandlerOptions.profile (options : HandlerOptions) : Option NodeSecurityProfile :=
  options.securityProfile.getD (some .standard)

/-- The variables of a call that has passed its synchronous part. -/
structure Admission where
  options : HandlerOptions
  deploymentContext : NodeDeploymentContext
  profile : NodeSecurityProfile
  limit : BodyLimit
  path : OpaqueRoutePath
  contentType : String

/-- The `try` block between `isReady` and the first `await`. -/
def requestGate (roundUp : ℕ → Bool) (request : FetchRequest) (limit : BodyLimit) :
    Except FetchResponse (OpaqueRoutePath × String) :=
  match routePath request with
  | none => .error (genericResponse 404 .invalidRequest)
  | some path =>
    match request.method with
    | none => .error unavailableResponse
    | some method =>
      if method ≠ "POST" then .error (genericResponse 405 .invalidRequest)
      else
        match request.contentType with
        | none => .error unavailableResponse
        | some values =>
          match headersGet values with
          | none => .error (genericResponse 415 .invalidRequest)
          | some contentType =>
            if isJsonContentType contentType = false then
              .error (genericResponse 415 .invalidRequest)
            else
              match request.contentLength with
              | none => .error unavailableResponse
              | some lengths =>
                match lengthGate roundUp lengths limit.bytes with
                | some status => .error (genericResponse status .invalidRequest)
                | none => .ok (path, contentType)

/-- The handler up to its first `await`. -/
def gate (roundUp : ℕ → Bool) (arrival : Arrival) : Except FetchResponse Admission :=
  match arrival.options with
  | none => .error unavailableResponse
  | some options =>
    match options.profile with
    | none => .error (genericResponse 400 .invalidRequest)
    | some profile =>
      match options.deploymentContext with
      | none => .error (genericResponse 400 .invalidRequest)
      | some deploymentContext =>
        match isReady deploymentContext with
        | none => .error (genericResponse 400 .invalidRequest)
        | some limit =>
          match requestGate roundUp arrival.request limit with
          | .error response => .error response
          | .ok (path, contentType) =>
            .ok { options, deploymentContext, profile, limit, path, contentType }

/-! ## The stretches between two waits -/

/-- `NodeHttpRequest`, with the deployment that goes with it. The method and the CSRF flag are
    literals of its type. -/
structure NodeHttpRequest where
  path : OpaqueRoutePath
  contentType : String
  body : Bytes
  context : NodeDeploymentContext

/-- What a call waits for, or that it is over. -/
inductive Phase where
  | arrived
  | awaitsCsrf (call : Admission)
  | awaitsRateLimit (call : Admission)
  | awaitsContext (call : Admission)
  | awaitsIntegrity (call : Admission) (context : NodeFinancialAuthContext)
  | awaitsBody (call : Admission) (chunks : List View) (total : ℕ)
  | awaitsDelegate (call : Admission)
  | answered

variable {ε : Type}

/-- What a host does: it calls the handler, and settles what a call waits for. -/
inductive HostEvent (ε : Type) where
  | called
  /-- The callback threw, or its promise was rejected. -/
  | threw
  | csrfValidated (passed : Bool)
  /-- `none` is none of the three words. -/
  | rateLimitDecision (decision : Option NodeRateLimitDecision)
  /-- `none` is a value that is no object. -/
  | financialContext (context : Option NodeFinancialAuthContext)
  /-- How far the clock advanced before each of the two readings that follow. -/
  | deviceIntegrity (verification : NodeVerification) (beforeFreshMs beforeConsumeMs : ℕ)
  /-- What a `read()` settled with, and the host's memory then. -/
  | read (memory : Memory) (result : StreamResult ε) (cancel : Except ε Unit)
  | delegated (response : Option DelegateResponse)

/-- What a stretch ends with: the next thing to wait for, or the response. -/
inductive Effect where
  | csrfValidated
  | rateLimitDecision
  | financialContext (path : OpaqueRoutePath)
  | deviceIntegrityVerifier (context : NodeFinancialAuthContext)
  | read
  | delegate (request : NodeHttpRequest)
  | respond (response : FetchResponse)

/-- How a call goes on. -/
structure Move where
  effect : Effect
  phase : Phase
  /-- The outcome of the financial gate, when the stretch runs through it. -/
  gate : Option GateAnswer
  handler : OpaqueHandler

/-- The call is over. -/
def Move.answer (handler : OpaqueHandler) (response : FetchResponse) (gate : Option GateAnswer) :
    Move := ⟨.respond response, .answered, gate, handler⟩

/-- The delegate is called. -/
def Move.delegate (handler : OpaqueHandler) (call : Admission) (body : Bytes)
    (gate : Option GateAnswer) : Move :=
  ⟨.delegate ⟨call.path, call.contentType, body, call.deploymentContext⟩, .awaitsDelegate call,
    gate, handler⟩

/-- The body is read; a request without one has an empty body. -/
def Move.readBody (handler : OpaqueHandler) (request : FetchRequest) (call : Admission)
    (gate : Option GateAnswer) : Move :=
  if request.hasBody then ⟨.read, .awaitsBody call [] 0, gate, handler⟩
  else .delegate handler call [] gate

/-- The code a financial refusal comes with. -/
def ErrorCode.ofStatus (status : ℕ) : ErrorCode :=
  if status = 403 then .invalidRequest else .temporarilyUnavailable

/-- After `rateLimitDecision`. -/
def afterRateLimit (handler : OpaqueHandler) (request : FetchRequest) (call : Admission) :
    Option NodeRateLimitDecision → Move
  | some .rateLimited => .answer handler (genericResponse 429 .rateLimited) none
  | some .allowed =>
    match call.profile with
    | .standard => .readBody handler request call none
    | .financial =>
      if call.options.financialContext && call.options.deviceIntegrityVerifier then
        ⟨.financialContext call.path, .awaitsContext call, none, handler⟩
      else .answer handler unavailableResponse none
  | some .unavailable | none => .answer handler unavailableResponse none

/-- After `financialContext`. -/
def afterContext (otherCategory : Char → Bool) (handler : OpaqueHandler) (call : Admission)
    (context : Option NodeFinancialAuthContext) : Move :=
  if isValidFinancialContext otherCategory context call.path then
    match context with
    | some context =>
      ⟨.deviceIntegrityVerifier context, .awaitsIntegrity call context, none, handler⟩
    | none => .answer handler unavailableResponse none
  else .answer handler unavailableResponse none

/-- After `deviceIntegrityVerifier`: the financial gate, on the context that was validated. -/
def afterIntegrity (otherCategory : Char → Bool) (handler : OpaqueHandler)
    (request : FetchRequest) (call : Admission) (presented : FinancialRequest) : Move :=
  let (gate, handler) := handler.step otherCategory presented
  match gate with
  | .refused status => .answer handler (genericResponse status (.ofStatus status)) (some gate)
  | .decided _ decision =>
    match replayResponse decision with
    | some status => .answer handler (genericResponse status (.ofStatus status)) (some gate)
    | none => .readBody handler request call (some gate)

/-- After one `read()`. -/
def afterRead (handler : OpaqueHandler) (call : Admission) (chunks : List View) (total : ℕ)
    (memory : Memory) (result : StreamResult ε) (cancel : Except ε Unit) : Move :=
  match readLoop call.limit.bytes cancel [result] ⟨memory, chunks, total, []⟩ with
  | (none, state) => ⟨.read, .awaitsBody call state.chunks state.total, none, handler⟩
  | (some (.error .bodyTooLarge), _) =>
    .answer handler (genericResponse 413 .invalidRequest) none
  | (some (.error _), _) => .answer handler unavailableResponse none
  | (some (.ok ()), state) =>
    .delegate handler call
      (copyChunks state.memory state.chunks 0 (List.replicate state.total 0)) none

/-- One stretch of the handler; `none` is an event the call does not wait for. -/
def advance (otherCategory : Char → Bool) (roundUp : ℕ → Bool) (arrival : Arrival)
    (handler : OpaqueHandler) (phase : Phase) (event : HostEvent ε) : Option Move :=
  match phase, event with
  | .arrived, .called =>
    match gate roundUp arrival with
    | .error response => some (.answer handler response none)
    | .ok call => some ⟨.csrfValidated, .awaitsCsrf call, none, handler⟩
  | .awaitsCsrf call, .csrfValidated passed =>
    if passed = false then some (.answer handler (genericResponse 403 .invalidRequest) none)
    else if call.options.rateLimitDecision = false then
      some (.answer handler unavailableResponse none)
    else some ⟨.rateLimitDecision, .awaitsRateLimit call, none, handler⟩
  | .awaitsRateLimit call, .rateLimitDecision decision =>
    some (afterRateLimit handler arrival.request call decision)
  | .awaitsContext call, .financialContext context =>
    some (afterContext otherCategory handler call context)
  | .awaitsIntegrity call context, .deviceIntegrity verification beforeFreshMs beforeConsumeMs =>
    some (afterIntegrity otherCategory handler arrival.request call
      ⟨call.path, some context, verification, beforeFreshMs, beforeConsumeMs⟩)
  | .awaitsBody call chunks total, .read memory result cancel =>
    some (afterRead handler call chunks total memory result cancel)
  | .awaitsDelegate _, .delegated response =>
    some (.answer handler (responseFromDelegate response) none)
  | .arrived, _ | .answered, _ => none
  | _, .threw => some (.answer handler unavailableResponse none)
  | _, _ => none

/-! ## What the synchronous part checks -/

/-- A generic error response. -/
def IsRefusal (response : FetchResponse) : Prop :=
  ∃ status code, status ∈ statusCodes ∧ status ≠ 200 ∧ response = genericResponse status code

theorem isRefusal_generic {status : ℤ} (h : status ∈ statusCodes ∧ status ≠ 200)
    (code : ErrorCode) : IsRefusal (genericResponse status code) :=
  ⟨status, code, h.1, h.2, rfl⟩

theorem isRefusal_unavailable : IsRefusal unavailableResponse := isRefusal_generic (by decide) _

theorem lengthGate_status {roundUp : ℕ → Bool} {values : List Bytes} {limit status : ℕ}
    (h : lengthGate roundUp values limit = some status) : status = 400 ∨ status = 413 := by
  unfold lengthGate at h
  split at h
  · cases h
  · cases h
    exact .inl rfl
  · split at h
    · cases h
      exact .inr rfl
    · cases h

/-- What the `try` block has checked of a request it lets through. -/
structure RequestAccepted (roundUp : ℕ → Bool) (request : FetchRequest) (limit : BodyLimit)
    (path : OpaqueRoutePath) (contentType : String) : Prop where
  url : request.url = some ⟨path.path, "", ""⟩
  method : request.method = some "POST"
  header : request.contentType.bind headersGet = some contentType
  json : isJsonContentType contentType = true
  length : request.contentLength.map (lengthGate roundUp · limit.bytes) = some none

theorem routePath_eq_some {request : FetchRequest} {path : OpaqueRoutePath}
    (h : routePath request = some path) : request.url = some ⟨path.path, "", ""⟩ := by
  unfold routePath at h
  split at h
  · cases h
  · next url hurl =>
    split at h
    · cases h
    · next hclean =>
      rw [not_or, not_not, not_not] at hclean
      have hpath := List.find?_some h
      rw [beq_iff_eq] at hpath
      obtain ⟨hsearch, hhash⟩ := hclean
      cases url
      subst hsearch hhash hpath
      exact hurl

section Gate

variable {roundUp : ℕ → Bool} {request : FetchRequest} {limit : BodyLimit}

theorem isRefusal_of_requestGate {response : FetchResponse}
    (h : requestGate roundUp request limit = .error response) : IsRefusal response := by
  -- The exits of the gate in their order, each of them a refusal.
  unfold requestGate at h
  split at h
  · rw [← Except.error.inj h]
    exact isRefusal_generic (by decide) _
  · split at h
    · rw [← Except.error.inj h]
      exact isRefusal_unavailable
    · split at h
      · rw [← Except.error.inj h]
        exact isRefusal_generic (by decide) _
      · split at h
        · rw [← Except.error.inj h]
          exact isRefusal_unavailable
        · split at h
          · rw [← Except.error.inj h]
            exact isRefusal_generic (by decide) _
          · split at h
            · rw [← Except.error.inj h]
              exact isRefusal_generic (by decide) _
            · split at h
              · rw [← Except.error.inj h]
                exact isRefusal_unavailable
              · split at h
                · next status hstatus =>
                  rw [← Except.error.inj h]
                  apply isRefusal_generic
                  rcases lengthGate_status hstatus with rfl | rfl <;> decide
                · cases h

/-- **What the `try` block lets through** it has checked. -/
theorem accepted_of_requestGate {path : OpaqueRoutePath} {contentType : String}
    (h : requestGate roundUp request limit = .ok (path, contentType)) :
    RequestAccepted roundUp request limit path contentType := by
  -- Every check of the gate leaves on its own failure; what is left has passed them all.
  unfold requestGate at h
  split at h
  · cases h
  · next route hroute =>
    split at h
    · cases h
    · next method hmethod =>
      split at h
      · cases h
      · next hpost =>
        split at h
        · cases h
        · next values hvalues =>
          split at h
          · cases h
          · next value hvalue =>
            split at h
            · cases h
            · next hjson =>
              split at h
              · cases h
              · next lengths hlengths =>
                split at h
                · cases h
                · next hlength =>
                  obtain ⟨rfl, rfl⟩ := Prod.mk.inj (Except.ok.inj h)
                  rw [Bool.not_eq_false] at hjson
                  refine ⟨routePath_eq_some hroute, ?_, ?_, hjson, ?_⟩
                  · rw [hmethod, not_not.mp hpost]
                  · rw [hvalues, Option.bind_some, hvalue]
                  · rw [hlengths, Option.map_some, hlength]

/-- What the synchronous part has checked of a call it lets through. -/
structure Accepted (roundUp : ℕ → Bool) (arrival : Arrival) (call : Admission) : Prop where
  options : arrival.options = some call.options
  profile : call.options.profile = some call.profile
  deployed : call.options.deploymentContext = some call.deploymentContext
  ready : isReady call.deploymentContext = some call.limit
  request : RequestAccepted roundUp arrival.request call.limit call.path call.contentType

variable {arrival : Arrival}

theorem isRefusal_of_gate {response : FetchResponse}
    (h : gate roundUp arrival = .error response) : IsRefusal response := by
  unfold gate at h
  split at h
  · rw [← Except.error.inj h]
    exact isRefusal_unavailable
  · split at h
    · rw [← Except.error.inj h]
      exact isRefusal_generic (by decide) _
    · split at h
      · rw [← Except.error.inj h]
        exact isRefusal_generic (by decide) _
      · split at h
        · rw [← Except.error.inj h]
          exact isRefusal_generic (by decide) _
        · split at h
          · next refused hrefused =>
            rw [← Except.error.inj h]
            exact isRefusal_of_requestGate hrefused
          · cases h

/-- **What the synchronous part lets through** it has checked. -/
theorem accepted_of_gate {call : Admission} (h : gate roundUp arrival = .ok call) :
    Accepted roundUp arrival call := by
  unfold gate at h
  split at h
  · cases h
  · next options hoptions =>
    split at h
    · cases h
    · next profile hprofile =>
      split at h
      · cases h
      · next context hcontext =>
        split at h
        · cases h
        · next limit hready =>
          split at h
          · cases h
          · next path contentType hrequest =>
            rw [← Except.ok.inj h]
            exact ⟨hoptions, hprofile, hcontext, hready, accepted_of_requestGate hrequest⟩

end Gate

/-! ## What a settled event can do -/

section Steps

variable {otherCategory : Char → Bool} {roundUp : ℕ → Bool} {arrival : Arrival}
  {handler : OpaqueHandler}

theorem OpaqueHandler.refused_status {request : FinancialRequest} {status : ℕ}
    (h : (handler.step otherCategory request).1 = .refused status) :
    status = 403 ∨ status = 503 := by
  unfold OpaqueHandler.step at h
  simp only at h
  split at h
  · exact .inr (GateAnswer.refused.inj h).symm
  · split at h
    · exact .inr (GateAnswer.refused.inj h).symm
    · split at h
      · exact .inl (GateAnswer.refused.inj h).symm
      · exact .inr (GateAnswer.refused.inj h).symm
      · exact .inr (GateAnswer.refused.inj h).symm
      · exact .inl (GateAnswer.refused.inj h).symm
      · split at h
        · exact .inl (GateAnswer.refused.inj h).symm
        · cases h

/-- What stood before a replay decision: the context it is about and the evidence bound to it. -/
theorem OpaqueHandler.bound_of_decided {request : FinancialRequest} {presented : Presented}
    {decision : FinancialReplayDecision}
    (h : (handler.step otherCategory request).1 = .decided presented decision) :
    request.context = some presented.context ∧ ∃ candidate,
      request.verification = .evidence candidate ∧
      isFreshBoundEvidence candidate presented.context presented.freshMs =
        some presented.expiresAtMs := by
  unfold OpaqueHandler.step at h
  simp only at h
  split at h
  · cases h
  · next context hcontext =>
    split at h
    · cases h
    · split at h
      · cases h
      · cases h
      · cases h
      · cases h
      · next candidate hverification =>
        split at h
        · cases h
        · next expiresAtMs hfresh =>
          rw [← (GateAnswer.decided.inj h).1]
          exact ⟨hcontext, candidate, hverification, hfresh⟩

/-- Everything a settled event can do to a call. -/
inductive Advanced (otherCategory : Char → Bool) (roundUp : ℕ → Bool) (arrival : Arrival)
    (handler : OpaqueHandler) : Phase → HostEvent ε → Move → Prop where
  | refused {phase : Phase} {event : HostEvent ε} {response : FetchResponse} :
      phase ≠ .answered → IsRefusal response →
      Advanced otherCategory roundUp arrival handler phase event (.answer handler response none)
  | started {call : Admission} : gate roundUp arrival = .ok call →
      Advanced otherCategory roundUp arrival handler .arrived .called
        ⟨.csrfValidated, .awaitsCsrf call, none, handler⟩
  | passed {call : Admission} :
      Advanced otherCategory roundUp arrival handler (.awaitsCsrf call) (.csrfValidated true)
        ⟨.rateLimitDecision, .awaitsRateLimit call, none, handler⟩
  | allowed {call : Admission} : call.profile = .standard →
      Advanced otherCategory roundUp arrival handler (.awaitsRateLimit call)
        (.rateLimitDecision (some .allowed)) (.readBody handler arrival.request call none)
  | asked {call : Admission} : call.profile = .financial →
      Advanced otherCategory roundUp arrival handler (.awaitsRateLimit call)
        (.rateLimitDecision (some .allowed))
        ⟨.financialContext call.path, .awaitsContext call, none, handler⟩
  | bound {call : Admission} {context : NodeFinancialAuthContext} :
      isValidFinancialContext otherCategory (some context) call.path = true →
      Advanced otherCategory roundUp arrival handler (.awaitsContext call)
        (.financialContext (some context))
        ⟨.deviceIntegrityVerifier context, .awaitsIntegrity call context, none, handler⟩
  /-- The financial gate refuses; the replay map may have been purged. -/
  | denied {call : Admission} {context : NodeFinancialAuthContext}
      {verification : NodeVerification} {beforeFreshMs beforeConsumeMs : ℕ} {answer : GateAnswer}
      {next : OpaqueHandler} {response : FetchResponse} :
      handler.step otherCategory
        ⟨call.path, some context, verification, beforeFreshMs, beforeConsumeMs⟩ = (answer, next) →
      (∀ presented, answer ≠ .decided presented .consumed) → IsRefusal response →
      Advanced otherCategory roundUp arrival handler (.awaitsIntegrity call context)
        (.deviceIntegrity verification beforeFreshMs beforeConsumeMs)
        (.answer next response (some answer))
  | consumed {call : Admission} {context : NodeFinancialAuthContext}
      {verification : NodeVerification} {beforeFreshMs beforeConsumeMs : ℕ}
      {presented : Presented} {next : OpaqueHandler} :
      handler.step otherCategory
        ⟨call.path, some context, verification, beforeFreshMs, beforeConsumeMs⟩ =
          (.decided presented .consumed, next) →
      Advanced otherCategory roundUp arrival handler (.awaitsIntegrity call context)
        (.deviceIntegrity verification beforeFreshMs beforeConsumeMs)
        (.readBody next arrival.request call (some (.decided presented .consumed)))
  | chunk {call : Admission} {chunks : List View} {total : ℕ} {memory : Memory}
      {value : StreamChunk} {view : View} {cancel : Except ε Unit} :
      byteView value = some view → total + view.byteLength ≤ call.limit.bytes →
      Advanced otherCategory roundUp arrival handler (.awaitsBody call chunks total)
        (.read memory (.chunk value) cancel)
        ⟨.read, .awaitsBody call (chunks ++ [view]) (total + view.byteLength), none, handler⟩
  | done {call : Admission} {chunks : List View} {total : ℕ} {memory : Memory}
      {cancel : Except ε Unit} :
      Advanced otherCategory roundUp arrival handler (.awaitsBody call chunks total)
        (.read memory .done cancel)
        (.delegate handler call (copyChunks memory chunks 0 (List.replicate total 0)) none)
  | delegated {call : Admission} {response : Option DelegateResponse} :
      Advanced otherCategory roundUp arrival handler (.awaitsDelegate call) (.delegated response)
        (.answer handler (responseFromDelegate response) none)

theorem advanced_afterRateLimit (call : Admission) (decision : Option NodeRateLimitDecision) :
    Advanced (ε := ε) otherCategory roundUp arrival handler (.awaitsRateLimit call)
      (.rateLimitDecision decision) (afterRateLimit handler arrival.request call decision) := by
  unfold afterRateLimit
  split
  · exact .refused Phase.noConfusion (isRefusal_generic (by decide) _)
  · split
    · next hprofile => exact .allowed hprofile
    · next hprofile =>
      split
      · exact .asked hprofile
      · exact .refused Phase.noConfusion isRefusal_unavailable
  · exact .refused Phase.noConfusion isRefusal_unavailable
  · exact .refused Phase.noConfusion isRefusal_unavailable

theorem advanced_afterContext (call : Admission) (context : Option NodeFinancialAuthContext) :
    Advanced (ε := ε) otherCategory roundUp arrival handler (.awaitsContext call)
      (.financialContext context) (afterContext otherCategory handler call context) := by
  unfold afterContext
  split
  · next hvalid =>
    cases context with
    | some context => exact .bound hvalid
    | none => exact .refused Phase.noConfusion isRefusal_unavailable
  · exact .refused Phase.noConfusion isRefusal_unavailable

theorem advanced_afterIntegrity (call : Admission) (context : NodeFinancialAuthContext)
    (verification : NodeVerification) (beforeFreshMs beforeConsumeMs : ℕ) :
    Advanced (ε := ε) otherCategory roundUp arrival handler (.awaitsIntegrity call context)
      (.deviceIntegrity verification beforeFreshMs beforeConsumeMs)
      (afterIntegrity otherCategory handler arrival.request call
        ⟨call.path, some context, verification, beforeFreshMs, beforeConsumeMs⟩) := by
  unfold afterIntegrity
  generalize hstep : handler.step otherCategory
    ⟨call.path, some context, verification, beforeFreshMs, beforeConsumeMs⟩ = stepped
  obtain ⟨answer, next⟩ := stepped
  cases answer with
  | refused status =>
    refine .denied hstep nofun (isRefusal_generic ?_ _)
    rcases OpaqueHandler.refused_status (congrArg Prod.fst hstep) with rfl | rfl <;> decide
  | decided presented decision =>
    cases decision with
    | consumed => exact .consumed hstep
    | replayed => exact .denied hstep nofun (isRefusal_generic (by decide) _)
    | unavailable => exact .denied hstep nofun (isRefusal_generic (by decide) _)

theorem advanced_afterRead (call : Admission) (chunks : List View) (total : ℕ) (memory : Memory)
    (result : StreamResult ε) (cancel : Except ε Unit) :
    Advanced otherCategory roundUp arrival handler (.awaitsBody call chunks total)
      (.read memory result cancel)
      (afterRead handler call chunks total memory result cancel) := by
  cases result with
  | done => exact .done
  | failed error => exact .refused Phase.noConfusion isRefusal_unavailable
  | chunk value =>
    cases hvalue : byteView value with
    | none =>
      simp only [afterRead, readLoop, hvalue]
      exact .refused Phase.noConfusion isRefusal_unavailable
    | some view =>
      rcases Nat.lt_or_ge call.limit.bytes (total + view.byteLength) with hlarge | hfits
      · simp only [afterRead, readLoop, hvalue, gt_iff_lt, if_pos hlarge]
        exact .refused Phase.noConfusion (isRefusal_generic (by decide) _)
      · simp only [afterRead, readLoop, hvalue, gt_iff_lt, if_neg (Nat.not_lt.mpr hfits)]
        exact .chunk hvalue hfits

/-- **Step lemma**: everything an event can do that a call waits for. -/
theorem advanced_of_advance {phase : Phase} {event : HostEvent ε} {move : Move}
    (h : advance otherCategory roundUp arrival handler phase event = some move) :
    Advanced otherCategory roundUp arrival handler phase event move := by
  -- By the point the handler has reached.
  unfold advance at h
  split at h
  · split at h
    · next response hgate =>
      rw [← Option.some.inj h]
      exact .refused Phase.noConfusion (isRefusal_of_gate hgate)
    · next call hgate =>
      rw [← Option.some.inj h]
      exact .started hgate
  · next call passed =>
    split at h
    · rw [← Option.some.inj h]
      exact .refused Phase.noConfusion (isRefusal_generic (by decide) _)
    · next hpassed =>
      rw [Bool.not_eq_false] at hpassed
      subst hpassed
      split at h
      · rw [← Option.some.inj h]
        exact .refused Phase.noConfusion isRefusal_unavailable
      · rw [← Option.some.inj h]
        exact .passed
  · rw [← Option.some.inj h]
    exact advanced_afterRateLimit _ _
  · rw [← Option.some.inj h]
    exact advanced_afterContext _ _
  · rw [← Option.some.inj h]
    exact advanced_afterIntegrity _ _ _ _ _
  · rw [← Option.some.inj h]
    exact advanced_afterRead _ _ _ _ _ _
  · rw [← Option.some.inj h]
    exact .delegated
  · cases h
  · cases h
  · next hanswered =>
    rw [← Option.some.inj h]
    exact .refused hanswered isRefusal_unavailable
  · cases h

end Steps

end SecureKeypad.Node
