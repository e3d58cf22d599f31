import SecureKeypad.Http.Enumeration
import SecureKeypad.Http.EnvelopeRoundTrip

/-!
# Requests in Flight (`secure-auth-http`)

`HttpAuthRouter::handle` takes the router by shared reference, so a host runs any number of requests
at once. A request touches what they share in one call to the credential repository or to the state
store, except `login_start`, which first loads the credential file and then stores the login state:
between the two, other requests go on.

A run is therefore a list of resumed requests, and a request that is resumed until it is answered
comes to what `handle` comes to.

## Main results

- `resumes_eq_handle`: a request by itself is `handle`
- `resume_moved`: everything a resumed request can do
-/

namespace SecureKeypad.Http

open Rust Auth Server Machine

/-! ## The two halves of `login_start` -/

section Halves

variable {S Context R : Type} [BoundOneTimeLoginStateStore S Context] [CredentialRepository R]

/-- `login_start` until its credential file is loaded. -/
def HttpAuthRouter.loginStartLoad (serde : SerdeJson) (router : HttpAuthRouter S R) (body : Bytes) :
    Except HttpResponse (LoginStartRequest AuthEnvelope × Option CredentialFile) :=
  match parseJson (serde.readLoginStart body) with
  | .error response => .error response
  | .ok request =>
    if !validIdentifier (asBytes request.credentialIdentifier) ||
        !validIdentifier (asBytes request.clientIdentifier) ||
        !validIdentifier (asBytes request.serverIdentifier) then
      .error (errorResponse 400 .invalidRequest)
    else
      match CredentialRepository.load router.repository (asBytes request.credentialIdentifier) with
      | .error error => .error (repositoryErrorResponse error)
      | .ok credential => .ok (request, credential)

/-- The response of `login_start` to what `begin_login` returned. -/
def begunResponse : Option (Except ServerAuthError (AuthEnvelope × LoginStateHandle)) →
    Option HttpResponse
  | none => none
  | some (.error error) => some (authErrorResponse error)
  | some (.ok (response, handle)) =>
    some (jsonResponse (loginStartJson response (encodeHandle handle)))

/-- `begin_login` on what `login_start` read and loaded. -/
def HttpAuthRouter.beginLoaded (ke : OpaqueKe) (router : HttpAuthRouter S R)
    (environment : RequestEnvironment ke Context) (request : LoginStartRequest AuthEnvelope)
    (credential : Option CredentialFile) :
    Option (Except ServerAuthError (AuthEnvelope × LoginStateHandle)) × ServerAuthService S :=
  router.service.beginLogin ke environment.context environment.rng request.envelope credential
    (asBytes request.credentialIdentifier) (asBytes request.clientIdentifier)
    (asBytes request.serverIdentifier)

/-- `login_start` is its two halves, one after the other. -/
theorem HttpAuthRouter.loginStart_eq (ke : OpaqueKe) (serde : SerdeJson)
    (router : HttpAuthRouter S R) (environment : RequestEnvironment ke Context) (body : Bytes) :
    (∃ response, router.loginStartLoad serde body = .error response ∧
        (router.loginStart ke serde environment body).response = some response ∧
        (router.loginStart ke serde environment body).router = router) ∨
      ∃ request credential, router.loginStartLoad serde body = .ok (request, credential) ∧
        (router.loginStart ke serde environment body).response =
          begunResponse (router.beginLoaded ke environment request credential).1 ∧
        (router.loginStart ke serde environment body).router =
          { router with service := (router.beginLoaded ke environment request credential).2 } := by
  unfold loginStartLoad loginStart beginLoaded
  cases parseJson (serde.readLoginStart body) with
  | error response => exact .inl ⟨response, rfl, rfl, rfl⟩
  | ok request =>
    dsimp only
    split_ifs with hvalid
    · exact .inl ⟨_, rfl, rfl, rfl⟩
    · cases CredentialRepository.load router.repository (asBytes request.credentialIdentifier) with
      | error error => exact .inl ⟨_, rfl, rfl, rfl⟩
      | ok credential =>
        refine .inr ⟨request, credential, rfl, ?_⟩
        dsimp only
        cases (router.service.beginLogin ke environment.context environment.rng request.envelope
            credential (asBytes request.credentialIdentifier) (asBytes request.clientIdentifier)
            (asBytes request.serverIdentifier)).1 with
        | none => exact ⟨rfl, rfl⟩
        | some result => cases result <;> exact ⟨rfl, rfl⟩

/-- What a loaded request was read from and what was loaded for it. -/
theorem HttpAuthRouter.loginStartLoad_eq_ok {serde : SerdeJson} {router : HttpAuthRouter S R}
    {body : Bytes} {request : LoginStartRequest AuthEnvelope} {credential : Option CredentialFile}
    (h : router.loginStartLoad serde body = .ok (request, credential)) :
    serde.readLoginStart body = some request ∧
      CredentialRepository.load router.repository (asBytes request.credentialIdentifier) =
        .ok credential := by
  unfold loginStartLoad at h
  cases hread : serde.readLoginStart body with
  | none =>
    rw [hread] at h
    cases h
  | some read =>
    rw [hread] at h
    simp only [parseJson, Option.elim_some] at h
    split_ifs at h
    cases hload : CredentialRepository.load router.repository
        (asBytes read.credentialIdentifier) with
    | error error =>
      rw [hload] at h
      cases h
    | ok loaded =>
      rw [hload] at h
      cases h
      exact ⟨rfl, hload⟩

end Halves

theorem authErrorResponse_status_ne (error : ServerAuthError) :
    (authErrorResponse error).status ≠ 200 := by
  refine errorResponse_status_ne ?_ _
  cases publicCode error <;> decide

theorem repositoryErrorResponse_status_ne (error : RepositoryError) :
    (repositoryErrorResponse error).status ≠ 200 := by
  unfold repositoryErrorResponse
  refine errorResponse_status_ne ?_ _
  cases error <;> decide

/-! ## Requests and their steps -/

/-- A request with the deployment it arrived through. -/
structure Arrival where
  request : HttpRequest
  context : HttpDeploymentContext

/-- The request passes the gates, with this path. -/
def Arrival.reaches (arrival : Arrival) (path : String) : Bool :=
  arrival.context.transport.isEncrypted && arrival.context.hasValidLimits &&
    arrival.request.csrfValidated && decide (arrival.request.admission = .allowed) &&
    decide (arrival.request.body.length ≤ arrival.context.upstreamBodyLimitBytes) &&
    decide (arrival.request.method = "POST") && isJsonContentType arrival.request.contentType &&
    decide (arrival.request.path = path)

theorem Arrival.reaches_iff {arrival : Arrival} {path : String}
    (hroute : path ∈ [registrationStartPath, registrationFinishPath, loginStartPath,
      loginFinishPath]) :
    arrival.reaches path = true ↔
      PassesGates arrival.request arrival.context ∧ arrival.request.path = path := by
  simp only [reaches, Bool.and_eq_true, decide_eq_true_eq]
  constructor
  · rintro ⟨⟨⟨⟨⟨⟨⟨htransport, hlimits⟩, hcsrf⟩, hadmission⟩, hsize⟩, hmethod⟩, hcontent⟩, hpath⟩
    exact ⟨⟨htransport, hlimits, hcsrf, hadmission, hsize, hmethod, hcontent, hpath ▸ hroute⟩,
      hpath⟩
  · rintro ⟨h, hpath⟩
    exact ⟨⟨⟨⟨⟨⟨⟨h.transport, h.limits⟩, h.csrf⟩, h.admission⟩, h.size⟩, h.method⟩, h.contentType⟩,
      hpath⟩

theorem Arrival.reaches_loginStart {arrival : Arrival} :
    arrival.reaches loginStartPath = true ↔
      PassesGates arrival.request arrival.context ∧ arrival.request.path = loginStartPath :=
  reaches_iff (.tail _ (.tail _ (.head _)))

theorem Arrival.reaches_loginFinish {arrival : Arrival} :
    arrival.reaches loginFinishPath = true ↔
      PassesGates arrival.request arrival.context ∧ arrival.request.path = loginFinishPath :=
  reaches_iff (.tail _ (.tail _ (.tail _ (.head _))))

/-- Where a request stands. -/
inductive Progress where
  | arrived
  /-- A `login_start` between its two halves. -/
  | loaded (request : LoginStartRequest AuthEnvelope) (credential : Option CredentialFile)
  /-- The thread is done; there is no response when it panicked. -/
  | answered (response : Option HttpResponse)

/-- The router that all requests share, and where each of them stands. -/
structure RequestWorld (S R : Type) where
  router : HttpAuthRouter S R
  progress : ℕ → Progress

namespace RequestWorld

/-- A request is done. -/
def answer {S R : Type} (world : RequestWorld S R) (n : ℕ) (response : Option HttpResponse)
    (router : HttpAuthRouter S R) : Option (Option HttpResponse) × RequestWorld S R :=
  (some response, ⟨router, Function.update world.progress n (.answered response)⟩)

section Steps

variable {ke : OpaqueKe} {S Context R : Type} [BoundOneTimeLoginStateStore S Context]
  [CredentialRepository R]

variable (registration : OpaqueRegistration ke) (serde : SerdeJson) (arrivals : ℕ → Arrival)

/-- Request `n` goes on up to its next call to what the requests share, and answers if that was its
    last. -/
def resume (world : RequestWorld S R) (input : ℕ × RequestEnvironment ke Context) :
    Option (Option HttpResponse) × RequestWorld S R :=
  match world.progress input.1 with
  | .answered _ => (none, world)
  | .loaded request credential =>
    let (result, service) := world.router.beginLoaded ke input.2 request credential
    world.answer input.1 (begunResponse result) { world.router with service }
  | .arrived =>
    if (arrivals input.1).reaches loginStartPath then
      match world.router.loginStartLoad serde (arrivals input.1).request.body with
      | .error response => world.answer input.1 (some response) world.router
      | .ok (request, credential) =>
        (none, { world with
          progress := Function.update world.progress input.1 (.loaded request credential) })
    else
      let handled := world.router.handle registration serde input.2 (arrivals input.1).request
        (arrivals input.1).context
      world.answer input.1 handled.response handled.router

variable {registration serde arrivals}

/-- **A request by itself**: resumed until it is answered, it comes to what `handle` comes to. -/
theorem resumes_eq_handle (world : RequestWorld S R) (n : ℕ) (hnew : world.progress n = .arrived)
    (environment : RequestEnvironment ke Context) :
    let handled := world.router.handle registration serde environment (arrivals n).request
      (arrivals n).context
    run (resume registration serde arrivals) world [(n, environment), (n, environment)] =
      ⟨handled.router, Function.update world.progress n (.answered handled.response)⟩ := by
  intro handled
  rw [run_cons, run_cons, run_nil]
  cases hstarts : (arrivals n).reaches loginStartPath with
  -- Such a request is answered by its first step.
  | false =>
    have hfirst : resume registration serde arrivals world (n, environment) =
        world.answer n handled.response handled.router := by
      simp only [resume, hnew, hstarts, Bool.false_eq_true, if_false]
      rfl
    rw [hfirst]
    simp only [answer, resume, Function.update_self]
  | true =>
    obtain ⟨hpasses, hpath⟩ := Arrival.reaches_loginStart.mp hstarts
    have hhandled : handled =
        world.router.loginStart ke serde environment (arrivals n).request.body := by
      rw [show handled = _ from handle_of_passes hpasses world.router environment, hpath]
      rfl
    -- A login start loads the record in its first step and goes on in the second.
    rcases world.router.loginStart_eq ke serde environment (arrivals n).request.body with
      ⟨response, hload, hresponse, hrouter⟩ | ⟨request, credential, hload, hresponse, hrouter⟩
    · have hfirst : resume registration serde arrivals world (n, environment) =
          world.answer n (some response) world.router := by
        simp only [resume, hnew, hstarts, if_true, hload]
      rw [hfirst, hhandled, hresponse, hrouter]
      simp only [answer, resume, Function.update_self]
    · have hfirst : resume registration serde arrivals world (n, environment) =
          (none, { world with
            progress := Function.update world.progress n (.loaded request credential) }) := by
        simp only [resume, hnew, hstarts, if_true, hload]
      rw [hfirst, hhandled, hresponse, hrouter]
      simp only [resume, Function.update_self, answer, Function.update_idem]

end Steps

/-! ## What a step can do -/

section Inversion

variable {ke : OpaqueKe} {S Context R : Type} [BoundOneTimeLoginStateStore S Context]
  [CredentialRepository R] (registration : OpaqueRegistration ke) (serde : SerdeJson)
  (arrivals : ℕ → Arrival)

/-- The response to what `create` returned. -/
def createdResponse : Except RepositoryError Unit → HttpResponse
  | .error error => repositoryErrorResponse error
  | .ok () => staticResponse 200 registrationStoredResponse

/-- The response to what `finish_login` returned. -/
def finishedResponse : Except ServerAuthError SecretOutput → HttpResponse
  | .error error => authErrorResponse error
  | .ok _ => staticResponse 200 authenticatedResponse

/-- Everything a resumed request can do. -/
inductive Moved (world : RequestWorld S R) (n : ℕ) (environment : RequestEnvironment ke Context) :
    Option (Option HttpResponse) × RequestWorld S R → Prop
  /-- It was done before. -/
  | idle : Moved world n environment (none, world)
  /-- It is answered without a change to what the requests share, and not with the success of one of
      the two `finish` routes. -/
  | kept (response : HttpResponse) :
      ((arrivals n).request.path ∈ [registrationFinishPath, loginFinishPath] →
        response.status ≠ 200) →
      Moved world n environment (world.answer n (some response) world.router)
  /-- A `login_start` has its credential file. -/
  | loaded (request : LoginStartRequest AuthEnvelope) (credential : Option CredentialFile) :
      (arrivals n).request.path = loginStartPath →
      serde.readLoginStart (arrivals n).request.body = some request →
      CredentialRepository.load world.router.repository (asBytes request.credentialIdentifier) =
        .ok credential →
      Moved world n environment (none, { world with
        progress := Function.update world.progress n (.loaded request credential) })
  /-- A `login_start` stores its state. -/
  | begun (request : LoginStartRequest AuthEnvelope) (credential : Option CredentialFile) :
      world.progress n = .loaded request credential →
      Moved world n environment (world.answer n
        (begunResponse (world.router.beginLoaded ke environment request credential).1)
        { world.router with
          service := (world.router.beginLoaded ke environment request credential).2 })
  /-- A `registration_finish` creates its record. -/
  | created (request : EnvelopeRequest AuthEnvelope) (file : CredentialFile) :
      world.progress n = .arrived →
      (arrivals n).request.path = registrationFinishPath →
      serde.readEnvelopeRequest (arrivals n).request.body = some request →
      finishRegistration registration world.router.service request.envelope = .ok file →
      Moved world n environment (world.answer n
        (some (createdResponse (CredentialRepository.create world.router.repository
          (asBytes request.identifier) file).1))
        { world.router with
          repository := (CredentialRepository.create world.router.repository
            (asBytes request.identifier) file).2 })
  /-- A `login_finish` takes its state. -/
  | finished (request : LoginFinishRequest AuthEnvelope) (handle : LoginStateHandle) :
      world.progress n = .arrived →
      (arrivals n).reaches loginFinishPath = true →
      serde.readLoginFinish (arrivals n).request.body = some request →
      decodeHandle request.handle = some handle →
      Moved world n environment (world.answer n
        (some (finishedResponse (world.router.service.finishLogin ke environment.context
          request.envelope handle).1.result))
        { world.router with
          service := (world.router.service.finishLogin ke environment.context request.envelope
            handle).2 })

variable {registration serde arrivals}

/-- What a request that is not a `login_start` behind the gates comes to. -/
theorem handle_moved (world : RequestWorld S R) (n : ℕ)
    (environment : RequestEnvironment ke Context)
    (hnew : world.progress n = .arrived) (hstarts : (arrivals n).reaches loginStartPath = false) :
    let handled := world.router.handle registration serde environment (arrivals n).request
      (arrivals n).context
    Moved registration serde arrivals world n environment
      (world.answer n handled.response handled.router) := by
  intro handled
  -- A request that does not pass is answered with another status, and moves nothing.
  rcases @handle_cases ke registration serde S Context R _ _ (arrivals n).request
    (arrivals n).context with hpasses | ⟨response, hstatus, hrefused⟩
  swap
  · rw [show handled = _ from hrefused world.router environment]
    exact .kept response fun _ => hstatus
  have hhandled : handled = _ := handle_of_passes hpasses world.router environment
  have hlogin : (arrivals n).request.path ≠ loginStartPath := by
    intro hpath
    rw [Arrival.reaches_loginStart.mpr ⟨hpasses, hpath⟩] at hstarts
    cases hstarts
  -- By route.
  rw [hhandled, if_neg hlogin]
  split_ifs with hstart hfinish hloginFinish
  · have hother : ∀ response : HttpResponse,
        (arrivals n).request.path ∈ [registrationFinishPath, loginFinishPath] →
          response.status ≠ 200 := by
      intro response hmem
      rw [hstart] at hmem
      exact absurd hmem (by decide)
    unfold HttpAuthRouter.registrationStart
    cases parseJson (serde.readEnvelopeRequest (arrivals n).request.body) with
    | error response => exact .kept response (hother response)
    | ok request =>
      dsimp only
      split_ifs
      · exact .kept _ (hother _)
      · cases beginRegistration registration world.router.service request.envelope
          (asBytes request.identifier) with
        | error error => exact .kept _ (hother _)
        | ok response => exact .kept _ (hother _)
  -- Only a credential that was made is given to the repository.
  · unfold HttpAuthRouter.registrationFinish
    cases hread : serde.readEnvelopeRequest (arrivals n).request.body with
    | none => exact .kept _ fun _ => errorResponse_status_ne (by decide) _
    | some request =>
      simp only [parseJson, Option.elim_some]
      split_ifs
      · exact .kept _ fun _ => errorResponse_status_ne (by decide) _
      · cases hfile : finishRegistration registration world.router.service request.envelope with
        | error error => exact .kept _ fun _ => authErrorResponse_status_ne error
        | ok file =>
          have hcreated : Moved registration serde arrivals world n environment _ :=
            .created request file hnew hfinish hread hfile
          dsimp only
          cases hcreate : (CredentialRepository.create world.router.repository
              (asBytes request.identifier) file).1 with
          | error error =>
            rw [hcreate] at hcreated
            exact hcreated
          | ok created =>
            rw [hcreate] at hcreated
            exact hcreated
  -- Only a handle that decodes reaches the login service.
  · unfold HttpAuthRouter.loginFinish
    cases hread : serde.readLoginFinish (arrivals n).request.body with
    | none => exact .kept _ fun _ => errorResponse_status_ne (by decide) _
    | some request =>
      simp only [parseJson, Option.elim_some]
      cases hhandle : decodeHandle request.handle with
      | none => exact .kept _ fun _ => errorResponse_status_ne (by decide) _
      | some handle =>
        have hfinished : Moved registration serde arrivals world n environment _ :=
          .finished request handle hnew
            (Arrival.reaches_loginFinish.mpr ⟨hpasses, hloginFinish⟩) hread hhandle
        dsimp only
        cases hresult : (world.router.service.finishLogin ke environment.context request.envelope
            handle).1.result with
        | error error =>
          rw [hresult] at hfinished
          exact hfinished
        | ok key =>
          rw [hresult] at hfinished
          exact hfinished
  · exact .kept _ fun _ => errorResponse_status_ne (by decide) _

/-- **The step inversion** of requests in flight. -/
theorem resume_moved (registration : OpaqueRegistration ke) (serde : SerdeJson)
    (arrivals : ℕ → Arrival) (world : RequestWorld S R) (n : ℕ)
    (environment : RequestEnvironment ke Context) :
    Moved registration serde arrivals world n environment
      (resume registration serde arrivals world (n, environment)) := by
  unfold resume
  cases hprogress : world.progress n with
  | answered response => exact .idle
  | loaded request credential => exact .begun request credential hprogress
  | arrived =>
    cases hstarts : (arrivals n).reaches loginStartPath with
    | false =>
      simp only [Bool.false_eq_true, if_false]
      exact handle_moved world n environment hprogress hstarts
    | true =>
      obtain ⟨-, hpath⟩ := Arrival.reaches_loginStart.mp hstarts
      simp only [if_true]
      cases hload : world.router.loginStartLoad serde (arrivals n).request.body with
      | error response =>
        refine .kept response fun hmem => ?_
        rw [hpath] at hmem
        exact absurd hmem (by decide)
      | ok loaded =>
        obtain ⟨request, credential⟩ := loaded
        obtain ⟨hread, hfile⟩ := HttpAuthRouter.loginStartLoad_eq_ok hload
        exact .loaded request credential hpath hread hfile

end Inversion

end RequestWorld

end SecureKeypad.Http
