import SecureKeypad.Http.Authentications
import SecureKeypad.Node.HandlerRuns

/-!
# The Node Handler in Front of the Rust Routes

The delegate of the Node handler is a bridge to `HttpAuthRouter`. With a bridge that hands on the
fields of a request under their names, and with them the method and what the host has decided about
the request, both sides have gates of their own for the same things. Here a run of the handler is
followed into the router and back.

## Main results

- `json_of_isJsonContentType`: the media types the handler lets through, the router takes
- `handle_passable`: what the router answers, the handler passes on
- `delegated_reaches_route`: a delegated request reaches its route, and the answer the client
-/

namespace SecureKeypad

open Auth DecimalText Rust Server

/-! ## What the router answers -/

namespace Http

/-- A response that the handler passes on. -/
structure HttpResponse.Passable (response : HttpResponse) : Prop where
  status : (response.status : ℤ) ∈ Node.statusCodes
  contentType : response.contentType = jsonContentType
  headers : response.headers = responseSecurityHeaders
  body : response.body.length ≤ maxHttpBodyBytes

theorem passable_static {status : ℕ} {body : Bytes} (hstatus : (status : ℤ) ∈ Node.statusCodes)
    (hbody : body.length ≤ maxHttpBodyBytes) : (staticResponse status body).Passable :=
  ⟨hstatus, rfl, rfl, hbody⟩

theorem passable_json {status : ℕ} (hstatus : (status : ℤ) ∈ Node.statusCodes) (value : Json) :
    (jsonResponseWithStatus status value).Passable := by
  unfold jsonResponseWithStatus
  simp only
  split
  · exact passable_static (by decide) (by decide)
  · next hbody => exact ⟨hstatus, rfl, rfl, Nat.le_of_not_lt hbody⟩

theorem passable_error {status : ℕ} (hstatus : (status : ℤ) ∈ Node.statusCodes)
    (code : PublicAuthCode) : (errorResponse status code).Passable := passable_json hstatus _

theorem passable_code (code : PublicAuthCode) : (errorResponse code.status code).Passable :=
  passable_error (by cases code <;> decide) code

theorem passable_repositoryError (error : RepositoryError) :
    (repositoryErrorResponse error).Passable := passable_code _

theorem passable_parseJson {α : Type} {read : Option α} {response : HttpResponse}
    (h : parseJson read = .error response) : response.Passable := by
  cases read with
  | none =>
    rw [← Except.error.inj h]
    exact passable_error (by decide) _
  | some value => cases h

namespace HttpAuthRouter

variable {ke : OpaqueKe} (registration : OpaqueRegistration ke) (serde : SerdeJson)
  {S Context R : Type} [BoundOneTimeLoginStateStore S Context] [CredentialRepository R]
  {router : HttpAuthRouter S R} {environment : RequestEnvironment ke Context} {body : Bytes}
  {response : HttpResponse}

omit [CredentialRepository R] in
theorem passable_registrationStart
    (h : (router.registrationStart registration serde body).response = some response) :
    response.Passable := by
  unfold registrationStart at h
  split at h
  · next refused hparse =>
    rw [← Option.some.inj h]
    exact passable_parseJson hparse
  · split at h
    · rw [← Option.some.inj h]
      exact passable_error (by decide) _
    · split at h
      · rw [← Option.some.inj h]
        exact passable_code _
      · rw [← Option.some.inj h]
        exact passable_json (by decide) _

theorem passable_registrationFinish
    (h : (router.registrationFinish registration serde body).response = some response) :
    response.Passable := by
  unfold registrationFinish at h
  split at h
  · next refused hparse =>
    rw [← Option.some.inj h]
    exact passable_parseJson hparse
  · split at h
    · rw [← Option.some.inj h]
      exact passable_error (by decide) _
    · split at h
      · rw [← Option.some.inj h]
        exact passable_code _
      · simp only at h
        split at h
        · rw [← Option.some.inj h]
          exact passable_repositoryError _
        · rw [← Option.some.inj h]
          exact passable_static (by decide) (by decide)

theorem passable_loginStart
    (h : (router.loginStart ke serde environment body).response = some response) :
    response.Passable := by
  unfold loginStart at h
  split at h
  · next refused hparse =>
    rw [← Option.some.inj h]
    exact passable_parseJson hparse
  · simp only at h
    split at h
    · rw [← Option.some.inj h]
      exact passable_error (by decide) _
    · split at h
      · rw [← Option.some.inj h]
        exact passable_repositoryError _
      · split at h
        · cases h
        · rw [← Option.some.inj h]
          exact passable_code _
        · rw [← Option.some.inj h]
          exact passable_json (by decide) _

omit [CredentialRepository R] in
theorem passable_loginFinish
    (h : (router.loginFinish ke serde environment body).response = some response) :
    response.Passable := by
  unfold loginFinish at h
  split at h
  · next refused hparse =>
    rw [← Option.some.inj h]
    exact passable_parseJson hparse
  · split at h
    · rw [← Option.some.inj h]
      exact passable_error (by decide) _
    · simp only at h
      split at h
      · rw [← Option.some.inj h]
        exact passable_code _
      · rw [← Option.some.inj h]
        exact passable_static (by decide) (by decide)

end HttpAuthRouter

end Http

/-! ## Media types -/

namespace Node

/-- White space is what it is in lower case. -/
theorem toLower_of_isWhiteSpace {c : Char} (h : Unicode.isWhiteSpace c = true) : c.toLower = c := by
  rw [Char.toLower, dif_neg]
  rintro ⟨hlower, hupper⟩
  have hlow : 0x41 ≤ c.toNat := hlower
  have hup : c.toNat ≤ 0x5A := hupper
  simp only [Unicode.isWhiteSpace, Bool.or_eq_true, Bool.and_eq_true, decide_eq_true_eq,
    beq_iff_eq, UInt32.le_iff_toNat_le, ← UInt32.toNat_inj] at h
  simp at h
  omega

/-- What lower case makes of a text without white space had none. -/
theorem isWhiteSpace_of_map_toLower {text lowered : List Char}
    (h : text.map Char.toLower = lowered)
    (hlowered : ∀ c ∈ lowered, Unicode.isWhiteSpace c = false) :
    ∀ c ∈ text, Unicode.isWhiteSpace c = false := by
  intro c hc
  rw [← Bool.not_eq_true]
  intro hblank
  have hmem : c ∈ lowered := by
    rw [← h, List.mem_map]
    exact ⟨c, hc, toLower_of_isWhiteSpace hblank⟩
  rw [hlowered c hmem] at hblank
  cases hblank

/-- **The router takes every media type the handler lets through.** -/
theorem json_of_isJsonContentType {values : List Bytes} {contentType : String}
    (hheader : headersGet values = some contentType)
    (hjson : isJsonContentType contentType = true) :
    Http.isJsonContentType (some contentType) = true := by
  have htype : ∃ bytes, contentType = ofBytes bytes := by
    unfold headersGet at hheader
    split at hheader
    · cases hheader
    · exact ⟨_, (Option.some.inj hheader).symm⟩
  obtain ⟨bytes, rfl⟩ := htype
  rw [isJsonContentType, decide_eq_true_eq, jsTrim, String.toList_ofList,
    String.toList_ofList] at hjson
  -- A byte that `trim` removes is white space.
  have hbytes : ∀ n < 256, isTrimmed (Char.ofNat n) = true →
      Unicode.isWhiteSpace (Char.ofNat n) = true := by
    decide +kernel
  have hblank : ∀ c ∈ (ofBytes bytes).toList.takeWhile (· ≠ ';'), isTrimmed c = true →
      Unicode.isWhiteSpace c = true := by
    intro c hc
    have hmem := (List.takeWhile_sublist _).subset hc
    rw [toList_ofBytes, List.mem_map] at hmem
    obtain ⟨b, _, rfl⟩ := hmem
    exact hbytes b.toNat b.toNat_lt
  have hplain : "application/json".toList.all (fun c => !Unicode.isWhiteSpace c) = true := by
    decide
  have hcore := isWhiteSpace_of_map_toLower hjson fun c hc => by
    simpa using List.all_eq_true.mp hplain c hc
  have hdrop : ∀ text : List Char, (∀ c ∈ text, Unicode.isWhiteSpace c = false) →
      text.dropWhile Unicode.isWhiteSpace = text := by
    intro text htext
    rw [List.dropWhile_eq_self_iff]
    intro hlength hhead
    rw [htext _ (List.getElem_mem hlength)] at hhead
    cases hhead
  have htrim := trim_of_trim rfl hblank (hdrop _ hcore)
    (hdrop _ fun c hc => hcore c (List.mem_reverse.mp hc))
  rw [Http.isJsonContentType, decide_eq_true_eq]
  rw [trim] at htrim
  rw [htrim]
  exact hjson

/-! ## The bridge -/

/-- The deployment on the Rust side. -/
def NodeDeploymentContext.toHttp (context : NodeDeploymentContext) :
    Http.HttpDeploymentContext where
  transport :=
    if context.transport = some .directTls then .directTls
    else if context.transport = some .trustedProxyTls then .trustedProxyTls
    else .plaintext
  upstreamBodyLimitBytes := (context.upstreamBodyLimitBytes.safeInteger?.getD 0).toNat
  connectionLimitsEnforced := context.connectionLimitsEnforced

/-- The first answer of the CSRF check among what a request waited for. -/
def csrfAnswer {ε : Type} : List (HostEvent ε) → Bool
  | [] => false
  | .csrfValidated passed :: _ => passed
  | _ :: events => csrfAnswer events

/-- The first decision of the rate limiter among what a request waited for. -/
def rateLimitAnswer {ε : Type} : List (HostEvent ε) → Option NodeRateLimitDecision
  | [] => none
  | .rateLimitDecision decision :: _ => decision
  | _ :: events => rateLimitAnswer events

/-- An admission on the Rust side; what is no decision is none there either. -/
def admissionToHttp : Option NodeRateLimitDecision → Http.RequestAdmission
  | some .allowed => .allowed
  | some .rateLimited => .rateLimited
  | some .unavailable | none => .unavailable

/-- The request on the Rust side: the fields of the handler's request, with the method that came in
    and with what the host decided among the events that the request waited for. -/
def NodeHttpRequest.toHttp {ε : Type} (request : NodeHttpRequest) (arrival : Arrival)
    (events : List (HostEvent ε)) : Http.HttpRequest where
  method := arrival.request.method.getD ""
  path := request.path.path
  contentType := some request.contentType
  csrfValidated := csrfAnswer events
  admission := admissionToHttp (rateLimitAnswer events)
  body := request.body

/-- The response of the router as the delegate returns it. -/
def DelegateResponse.ofHttp (response : Http.HttpResponse) : DelegateResponse :=
  ⟨some (.integer response.status), some response.body⟩

/-- A deployment that is ready is one the router accepts, with the same limit. -/
theorem toHttp_of_isReady {context : NodeDeploymentContext} {limit : BodyLimit}
    (h : isReady context = some limit) :
    context.toHttp.transport.isEncrypted = true ∧ context.toHttp.hasValidLimits = true ∧
      context.toHttp.upstreamBodyLimitBytes = limit.bytes := by
  unfold isReady at h
  split at h
  · next htransport =>
    split at h
    · cases h
    · next bytes hbytes =>
      split at h
      · next hlimit =>
        rw [← Option.some.inj h]
        have hsome : context.toHttp.upstreamBodyLimitBytes = bytes.toNat := by
          simp only [NodeDeploymentContext.toHttp, hbytes, Option.getD_some]
        refine ⟨?_, ?_, hsome⟩
        · rcases htransport with htransport | htransport <;>
            simp [NodeDeploymentContext.toHttp, htransport, Http.TransportSecurity.isEncrypted]
        · simp only [Http.HttpDeploymentContext.hasValidLimits, hsome, Bool.and_eq_true,
            decide_eq_true_eq]
          exact ⟨⟨hlimit.pos, hlimit.le⟩, hlimit.2.2⟩
      · cases h
  · cases h

/-- What the router answers comes out of the handler unchanged. -/
theorem responseFromDelegate_ofHttp {response : Http.HttpResponse} (h : response.Passable) :
    responseFromDelegate (some (.ofHttp response)) =
      ⟨response.status, ("content-type", response.contentType) :: response.headers,
        response.body⟩ := by
  have hbody : ¬ response.body.length > maxHttpBodyBytes := Nat.not_lt.mpr h.body
  rw [h.contentType, h.headers]
  simp only [responseFromDelegate, DelegateResponse.ofHttp, h.status, not_true_eq_false, if_false,
    hbody]
  rfl

section Routes

variable {ke : OpaqueKe} (registration : Http.OpaqueRegistration ke) (serde : Http.SerdeJson)
  {S Context R : Type} [BoundOneTimeLoginStateStore S Context] [Http.CredentialRepository R]

/-- The route of a path. -/
def OpaqueRoutePath.route (path : OpaqueRoutePath) (router : Http.HttpAuthRouter S R)
    (environment : Http.RequestEnvironment ke Context) (body : Bytes) : Http.Handled S R :=
  match path with
  | .registrationStart => router.registrationStart registration serde body
  | .registrationFinish => router.registrationFinish registration serde body
  | .loginStart => router.loginStart ke serde environment body
  | .loginFinish => router.loginFinish ke serde environment body

theorem passable_route {path : OpaqueRoutePath} {router : Http.HttpAuthRouter S R}
    {environment : Http.RequestEnvironment ke Context} {body : Bytes}
    {response : Http.HttpResponse}
    (h : (path.route registration serde router environment body).response = some response) :
    response.Passable := by
  cases path with
  | registrationStart => exact Http.HttpAuthRouter.passable_registrationStart registration serde h
  | registrationFinish => exact Http.HttpAuthRouter.passable_registrationFinish registration serde h
  | loginStart => exact Http.HttpAuthRouter.passable_loginStart serde h
  | loginFinish => exact Http.HttpAuthRouter.passable_loginFinish serde h

/-- Behind a passage both answers let the request through. -/
theorem answers_of_passage {otherCategory : Char → Bool} {ε : Type} {answers : Answers ε} {n : ℕ}
    {call : Admission} {passage : List (HostEvent ε)}
    (h : Passage otherCategory answers n call passage) (reads : List (HostEvent ε)) :
    csrfAnswer (passage ++ reads) = true ∧
      rateLimitAnswer (passage ++ reads) = some .allowed := by
  cases h with
  | standard => exact ⟨rfl, rfl⟩
  | financial => exact ⟨rfl, rfl⟩

/-- **A delegated request passes the gates of the router** and is handled by its route. -/
theorem handle_toHttp {roundUp : ℕ → Bool} {arrival : Arrival} {call : Admission} {ε : Type}
    {events : List (HostEvent ε)} (haccepted : Accepted roundUp arrival call)
    (hcsrf : csrfAnswer events = true) (hadmission : rateLimitAnswer events = some .allowed)
    {body : Bytes} (hbody : body.length ≤ call.limit.bytes) (router : Http.HttpAuthRouter S R)
    (environment : Http.RequestEnvironment ke Context) :
    router.handle registration serde environment
        ((NodeHttpRequest.mk call.path call.contentType body call.deploymentContext).toHttp arrival
          events)
        call.deploymentContext.toHttp =
      call.path.route registration serde router environment body := by
  obtain ⟨hencrypted, hlimits, hlimit⟩ := toHttp_of_isReady haccepted.ready
  obtain ⟨values, _, hheader⟩ := Option.bind_eq_some_iff.mp haccepted.request.header
  have hjson := json_of_isJsonContentType hheader haccepted.request.json
  have hroom : ¬ body.length > call.deploymentContext.toHttp.upstreamBodyLimitBytes := by
    rw [hlimit]
    exact Nat.not_lt.mpr hbody
  -- the gates of the router, in their order
  unfold Http.HttpAuthRouter.handle
  simp only [NodeHttpRequest.toHttp, hencrypted, hlimits, hjson, hcsrf, hadmission,
    haccepted.request.method, admissionToHttp, Option.getD_some, Http.requestAdmissionResponse,
    hroom, Bool.not_true, Bool.false_eq_true, if_false, ne_eq, not_true_eq_false]
  -- the path is one of four different ones
  cases call.path with
  | registrationStart => exact if_pos rfl
  | registrationFinish =>
    have hfirst : OpaqueRoutePath.registrationFinish.path ≠ Http.registrationStartPath := by decide
    exact (if_neg hfirst).trans (if_pos rfl)
  | loginStart =>
    have hfirst : OpaqueRoutePath.loginStart.path ≠ Http.registrationStartPath := by decide
    have hsecond : OpaqueRoutePath.loginStart.path ≠ Http.registrationFinishPath := by decide
    exact (if_neg hfirst).trans ((if_neg hsecond).trans (if_pos rfl))
  | loginFinish =>
    have hfirst : OpaqueRoutePath.loginFinish.path ≠ Http.registrationStartPath := by decide
    have hsecond : OpaqueRoutePath.loginFinish.path ≠ Http.registrationFinishPath := by decide
    have hthird : OpaqueRoutePath.loginFinish.path ≠ Http.loginStartPath := by decide
    exact (if_neg hfirst).trans ((if_neg hsecond).trans ((if_neg hthird).trans (if_pos rfl)))

/-- **From the handler to the route and back.** Whatever else a run of the handler does, a request
    it delegates, handed on with its method and with what the host was heard to decide about it,
    passes every gate of the router, in any state of it, and reaches the route of its path with the
    body that was read; and what this route answers, the handler answers. -/
theorem delegated_reaches_route (otherCategory : Char → Bool) (roundUp : ℕ → Bool)
    (arrivals : ℕ → Arrival) (clockMs : ℤ) {ε : Type} (inputs : List (ℕ × HostEvent ε))
    (j n : ℕ) (request : NodeHttpRequest)
    (hdelegates : DelegatesAt (Machine.trace (HandlerWorld.step otherCategory roundUp arrivals)
      (.new clockMs) inputs) j n request)
    (router : Http.HttpAuthRouter S R) (environment : Http.RequestEnvironment ke Context) :
    let events := heard n ((Machine.trace (HandlerWorld.step otherCategory roundUp arrivals)
      (.new clockMs) inputs).take (j + 1))
    let handled := router.handle registration serde environment
      (request.toHttp (arrivals n) events) request.context.toHttp
    handled = request.path.route registration serde router environment request.body ∧
      ∀ response, handled.response = some response →
        responseFromDelegate (some (.ofHttp response)) =
          ⟨response.status, ("content-type", response.contentType) :: response.headers,
            response.body⟩ := by
  intro events handled
  obtain ⟨hdelegation, _⟩ := delegation_of_delegatesAt hdelegates
  obtain ⟨call, passage, reads, body, haccepted, hpassage, hreads, hevents, rfl⟩ := hdelegation
  obtain ⟨hcsrf, hadmission⟩ := answers_of_passage hpassage reads
  rw [← hevents] at hcsrf hadmission
  have hhandle := handle_toHttp registration serde haccepted hcsrf hadmission hreads.length_le
    router environment
  refine ⟨hhandle, ?_⟩
  intro response hresponse
  have hroute := (congrArg Http.Handled.response hhandle).symm.trans hresponse
  exact responseFromDelegate_ofHttp (passable_route registration serde hroute)

end Routes

/-- What the host of a sample request does up to the end of its body. -/
def sampleBody : List (HostEvent Unit) :=
  sampleGates .standard ++
    [.read (fun _ index => .ofNat index) (.chunk (.uint8Array ⟨0, 2, 1⟩)) (.ok ()),
      .read (fun _ index => .ofNat index) .done (.ok ())]

/-- The end of a login that was not begun. -/
theorem delegated_reaches_route_sample :
    let store : InMemoryOneTimeLoginStore := { entries := Mutex.new ∅, maxEntries := 2, ttl := 10 }
    let router : Http.HttpAuthRouter InMemoryOneTimeLoginStore Http.InMemoryRepository :=
      ⟨⟨⟨[9]⟩, "k1", ["k1"], store⟩, ⟨[]⟩⟩
    let request : NodeHttpRequest := ⟨.loginFinish, "Application/JSON; charset=utf-8", [2],
      ⟨some .directTls, .integer 1024, true⟩⟩
    let response := Http.errorResponse 401 .authenticationFailed
    (router.handle Http.RequestWorld.sampleRegistration Http.RequestWorld.sampleSerde
        ⟨⟨1000, 7, []⟩, ()⟩ (request.toHttp (sampleArrival .standard) sampleBody)
        request.context.toHttp).response = some response ∧
      responseFromDelegate (some (.ofHttp response)) = ⟨401, responseHeaders, response.body⟩ := by
  intro store router request response
  obtain ⟨hroute, hanswer⟩ := delegated_reaches_route Http.RequestWorld.sampleRegistration
    Http.RequestWorld.sampleSerde Unicode.isControl (fun _ => false)
    (fun _ => sampleArrival .standard) 900 (sampleBody.map fun event => (0, event))
    4 0 request ⟨_, _, rfl⟩ router ⟨⟨1000, 7, []⟩, ()⟩
  have hresponse : (router.handle Http.RequestWorld.sampleRegistration
      Http.RequestWorld.sampleSerde ⟨⟨1000, 7, []⟩, ()⟩
      (request.toHttp (sampleArrival .standard) sampleBody) request.context.toHttp).response =
        some response := by
    refine (congrArg Http.Handled.response hroute).trans ?_
    rfl
  exact ⟨hresponse, hanswer _ hresponse⟩

end Node

end SecureKeypad
