import SecureKeypad.Http.AuthRouter
import SecureKeypad.Webauthn.Service

/-!
# The Passkey Routes (`secure-webauthn-example`)

Embeds `WebAuthnHttpRouter`: the gates of `handle`, the four routes behind them, and the mapping of
the service's answers to responses. A route is what it answers by itself, or the one call it makes
to the service together with the response to each answer of that call.

`serde_json` is the parameter `WebauthnJson`, at the types the routes read and write.

## Main results

- `meets_handle`: which requests reach the service, and with what
- `webauthnServiceError_status_ne`: no failure of the service is answered as a success
-/

namespace SecureKeypad.Webauthn

open Rust Server

/-- `WEBAUTHN_JSON_CONTENT_TYPE`. -/
def webauthnJsonContentType : String := "application/json; charset=utf-8"

/-- `WEBAUTHN_RESPONSE_SECURITY_HEADERS`. -/
def webauthnResponseSecurityHeaders : List (String × String) :=
  [("cache-control", "no-store"), ("pragma", "no-cache"), ("x-content-type-options", "nosniff"),
    ("referrer-policy", "no-referrer"),
    ("content-security-policy", "default-src 'none'; frame-ancestors 'none'; base-uri 'none'")]

/-! ## Requests and responses -/

/-- `WebAuthnTransportSecurity`. -/
inductive WebAuthnTransportSecurity where
  | directTls
  | trustedProxyTls
  | plaintext
deriving DecidableEq

def WebAuthnTransportSecurity.isEncrypted : WebAuthnTransportSecurity → Bool
  | .plaintext => false
  | .directTls | .trustedProxyTls => true

/-- `WebAuthnDeploymentContext`. -/
structure WebAuthnDeploymentContext where
  transport : WebAuthnTransportSecurity
  upstreamBodyLimitBytes : ℕ
  connectionLimitsEnforced : Bool

def WebAuthnDeploymentContext.hasValidLimits (context : WebAuthnDeploymentContext) : Bool :=
  context.upstreamBodyLimitBytes > 0 &&
    context.upstreamBodyLimitBytes ≤ maxClientResponseBytes && context.connectionLimitsEnforced

/-- `WebAuthnHttpRequest`. The principal is the account of the host's session. -/
structure WebAuthnHttpRequest where
  method : String
  path : String
  contentType : Option String
  principal : Option Uuid
  csrfValidated : Bool
  body : Bytes

/-- `WebAuthnHttpResponse`. -/
structure WebAuthnHttpResponse where
  status : ℕ
  contentType : String
  headers : List (String × String)
  body : Bytes
deriving DecidableEq

/-- A response with the headers that all of them carry. -/
def webauthnResponse (status : ℕ) (body : Bytes) : WebAuthnHttpResponse :=
  ⟨status, webauthnJsonContentType, webauthnResponseSecurityHeaders, body⟩

/-- The codes of the error responses. -/
inductive WebauthnErrorCode where
  | invalidRequest
  | unauthenticated
  | authenticationFailed
  | temporarilyUnavailable

def WebauthnErrorCode.asStr : WebauthnErrorCode → String
  | .invalidRequest => "invalid_request"
  | .unauthenticated => "unauthenticated"
  | .authenticationFailed => "authentication_failed"
  | .temporarilyUnavailable => "temporarily_unavailable"

/-- `webauthn_http_error`. -/
def webauthnHttpError (status : ℕ) (code : WebauthnErrorCode) : WebAuthnHttpResponse :=
  webauthnResponse status (Http.toVec (.obj [("error", .str code.asStr)]))

/-- `webauthn_json_response`, on what `serde_json::to_vec` made of the value. -/
def webauthnJsonResponse (status : ℕ) (body : Option Bytes) : WebAuthnHttpResponse :=
  match body with
  | none => webauthnHttpError 500 .temporarilyUnavailable
  | some body =>
    if body.length ≤ maxClientResponseBytes then webauthnResponse status body
    else webauthnHttpError 500 .temporarilyUnavailable

/-- `webauthn_service_error`. -/
def webauthnServiceError : WebAuthnExampleError → WebAuthnHttpResponse
  | .replay => webauthnHttpError 401 .authenticationFailed
  | .storeUnavailable | .capacityReached | .stateTooLarge =>
    webauthnHttpError 503 .temporarilyUnavailable
  | .credentialLimit => webauthnHttpError 409 .invalidRequest
  | .invalidConfiguration | .invalidRequest => webauthnHttpError 400 .invalidRequest

/-- An error response is a JSON response whose value is small enough. -/
theorem webauthnHttpError_eq (status : ℕ) (code : WebauthnErrorCode) :
    webauthnHttpError status code =
      webauthnJsonResponse status (some (Http.toVec (.obj [("error", .str code.asStr)]))) := by
  have hsmall : (Http.toVec (.obj [("error", .str code.asStr)])).length ≤ 64 := by
    cases code <;> decide
  rw [webauthnJsonResponse, if_pos (hsmall.trans (by decide))]
  rfl

theorem webauthnHttpError_status_ne {status : ℕ} (h : status ≠ 200) (code : WebauthnErrorCode) :
    (webauthnHttpError status code).status ≠ 200 := h

theorem webauthnJsonResponse_of_status {status : ℕ} {body : Option Bytes} (hstatus : status ≠ 500)
    (h : (webauthnJsonResponse status body).status = status) :
    ∃ bytes, body = some bytes ∧ webauthnJsonResponse status body = webauthnResponse status bytes :=
    by
  cases body with
  | none => exact absurd h.symm hstatus
  | some bytes =>
    rw [webauthnJsonResponse] at h ⊢
    split at h
    · next hsmall => exact ⟨bytes, rfl, if_pos hsmall⟩
    · exact absurd h.symm hstatus

theorem webauthnServiceError_status_ne (error : WebAuthnExampleError) :
    (webauthnServiceError error).status ≠ 200 := by
  cases error <;> exact webauthnHttpError_status_ne (by decide) _

/-! ## Bodies -/

/-- `RegistrationStartBody`. -/
structure RegistrationStartBody where
  userName : String
  displayName : String

/-- `CeremonyFinishBody`. -/
structure CeremonyFinishBody (w : WebauthnEngine) where
  handle : String
  response : w.Value

/-- `serde_json::from_slice` and `serde_json::to_vec` at the types of the routes. -/
structure WebauthnJson (w : WebauthnEngine) where
  registrationStartBody : Bytes → Option RegistrationStartBody
  ceremonyFinishBody : Bytes → Option (CeremonyFinishBody w)
  /-- `from_slice::<EmptyBody>`. -/
  emptyBody : Bytes → Option Unit
  valueToVec : w.Value → Option Bytes
  startToVec : CeremonyStart w → Option Bytes

/-- `parse_webauthn_json`, on what is read of the body. -/
def parseWebauthnJson {α : Type} (read : Option α) : Except WebAuthnHttpResponse α :=
  read.elim (.error (webauthnHttpError 400 .invalidRequest)) .ok

def credentialRegisteredBody : Bytes :=
  Http.toVec (.obj [("credentialRegistered", .bool true)])

def authenticatedBody : Bytes := Http.toVec (.obj [("authenticated", .bool true)])

/-- The body of a finish that succeeded. -/
def finishedBody : CeremonyKind → Bytes
  | .registration => credentialRegisteredBody
  | .authentication => authenticatedBody

/-! ## Routes -/

/-- What a request comes to: a response, or a call to the service and the response to what it
    returns. -/
inductive Route (w : WebauthnEngine) where
  | answer (response : WebAuthnHttpResponse)
  | call (request : ServiceRequest) (respond : ServiceResult w → WebAuthnHttpResponse)

section Routes

variable {w : WebauthnEngine} (serde : WebauthnJson w)

/-- The response to a call that starts a ceremony. -/
def respondStart : ServiceResult w → WebAuthnHttpResponse
  | .ok (.started start) => webauthnJsonResponse 200 (serde.startToVec start)
  -- No starting call returns another outcome.
  | .ok _ => webauthnHttpError 500 .temporarilyUnavailable
  | .error error => webauthnServiceError error

/-- The response gives out the handle of a start. -/
def GivesOut (start : CeremonyStart w) (response : WebAuthnHttpResponse) : Prop :=
  ∃ body, serde.startToVec start = some body ∧ body.length ≤ maxClientResponseBytes ∧
    response = webauthnResponse 200 body

/-- The start is not written within the limit of a response, which is an error without it. -/
def Withholds (start : CeremonyStart w) (response : WebAuthnHttpResponse) : Prop :=
  (∀ body, serde.startToVec start = some body → maxClientResponseBytes < body.length) ∧
    response = webauthnHttpError 500 .temporarilyUnavailable

/-- A stored ceremony is answered in one of these ways. -/
theorem respondStart_started (start : CeremonyStart w) :
    GivesOut serde start (respondStart serde (.ok (.started start))) ∨
      Withholds serde start (respondStart serde (.ok (.started start))) := by
  rw [respondStart, GivesOut, Withholds]
  cases serde.startToVec start with
  | none => exact .inr ⟨by simp, rfl⟩
  | some body =>
    rw [webauthnJsonResponse]
    by_cases hsmall : body.length ≤ maxClientResponseBytes
    · exact .inl ⟨body, rfl, hsmall, if_pos hsmall⟩
    · refine .inr ⟨?_, if_neg hsmall⟩
      rintro _ ⟨⟩
      exact Nat.lt_of_not_le hsmall

/-- The response to a call that finishes a ceremony. -/
def respondFinish (kind : CeremonyKind) : ServiceResult w → WebAuthnHttpResponse
  | .ok _ => webauthnJsonResponse 200 (some (finishedBody kind))
  | .error error => webauthnServiceError error

/-- `registration_start`. -/
def registrationStart (principal : Option Uuid) (body : Bytes) : Route w :=
  match principal with
  | none => .answer (webauthnHttpError 401 .unauthenticated)
  | some principal =>
    match parseWebauthnJson (serde.registrationStartBody body) with
    | .error response => .answer response
    | .ok request =>
      .call (.startRegistration principal request.userName request.displayName)
        (respondStart serde)

/-- `registration_finish`. -/
def registrationFinish (principal : Option Uuid) (body : Bytes) : Route w :=
  match principal with
  | none => .answer (webauthnHttpError 401 .unauthenticated)
  | some principal =>
    match parseWebauthnJson (serde.ceremonyFinishBody body) with
    | .error response => .answer response
    | .ok request =>
      match serde.valueToVec request.response with
      | none => .answer (webauthnHttpError 400 .invalidRequest)
      | some responseBody =>
        .call (.finishRegistration request.handle (some principal) responseBody)
          (respondFinish .registration)

/-- `authentication_start`. -/
def authenticationStart (principal : Option Uuid) (body : Bytes) : Route w :=
  match principal with
  | none => .answer (webauthnHttpError 401 .unauthenticated)
  | some principal =>
    match parseWebauthnJson (serde.emptyBody body) with
    | .error _ => .answer (webauthnHttpError 400 .invalidRequest)
    | .ok () => .call (.startAuthentication principal) (respondStart serde)

/-- `authentication_finish`. -/
def authenticationFinish (principal : Option Uuid) (body : Bytes) : Route w :=
  match principal with
  | none => .answer (webauthnHttpError 401 .unauthenticated)
  | some principal =>
    match parseWebauthnJson (serde.ceremonyFinishBody body) with
    | .error response => .answer response
    | .ok request =>
      match serde.valueToVec request.response with
      | none => .answer (webauthnHttpError 400 .invalidRequest)
      | some responseBody =>
        .call (.finishAuthentication request.handle (some principal) responseBody)
          (respondFinish .authentication)

/-- `handle`, up to the service's answer. -/
def WebAuthnHttpRequest.handle (request : WebAuthnHttpRequest)
    (context : WebAuthnDeploymentContext) : Route w :=
  if !context.transport.isEncrypted then .answer (webauthnHttpError 400 .invalidRequest)
  else if !context.hasValidLimits then .answer (webauthnHttpError 503 .temporarilyUnavailable)
  else if !request.csrfValidated then .answer (webauthnHttpError 403 .invalidRequest)
  else if request.body.length > context.upstreamBodyLimitBytes then
    .answer (webauthnHttpError 413 .invalidRequest)
  else if request.method ≠ "POST" then .answer (webauthnHttpError 405 .invalidRequest)
  else if !Http.isJsonContentType request.contentType then
    .answer (webauthnHttpError 415 .invalidRequest)
  else if request.path = "/v1/webauthn/registration/start" then
    registrationStart serde request.principal request.body
  else if request.path = "/v1/webauthn/registration/finish" then
    registrationFinish serde request.principal request.body
  else if request.path = "/v1/webauthn/authentication/start" then
    authenticationStart serde request.principal request.body
  else if request.path = "/v1/webauthn/authentication/finish" then
    authenticationFinish serde request.principal request.body
  else .answer (webauthnHttpError 404 .invalidRequest)

/-! ## What reaches the service -/

/-- The request passes the gates of `handle`. -/
structure WebAuthnHttpRequest.Passes (request : WebAuthnHttpRequest)
    (context : WebAuthnDeploymentContext) : Prop where
  transport : context.transport.isEncrypted = true
  limits : context.hasValidLimits = true
  csrf : request.csrfValidated = true
  size : request.body.length ≤ context.upstreamBodyLimitBytes
  method : request.method = "POST"
  contentType : Http.isJsonContentType request.contentType = true

def startPath : CeremonyKind → String
  | .registration => "/v1/webauthn/registration/start"
  | .authentication => "/v1/webauthn/authentication/start"

def finishPath : CeremonyKind → String
  | .registration => "/v1/webauthn/registration/finish"
  | .authentication => "/v1/webauthn/authentication/finish"

/-- The call a route makes for a principal, and how it responds. -/
inductive Calls (request : WebAuthnHttpRequest) (principal : Uuid) :
    ServiceRequest → (ServiceResult w → WebAuthnHttpResponse) → Prop where
  /-- A start is for the account of the principal. -/
  | starting (call : ServiceRequest) (hpath : request.path = startPath call.kind)
      (hstarts : call.starts = some principal) (hfinishes : call.finishes = none) :
      Calls request principal call (respondStart serde)
  /-- A finish has the handle of the body, and the principal with it. -/
  | finishing (call : ServiceRequest) (body : CeremonyFinishBody w)
      (hpath : request.path = finishPath call.kind)
      (hbody : serde.ceremonyFinishBody request.body = some body)
      (hstarts : call.starts = none)
      (hfinishes : call.finishes = some (body.handle, some principal)) :
      Calls request principal call (respondFinish call.kind)

/-- What a route answers by itself is no success, and what it calls has the property `P`. -/
def Route.Meets (P : ServiceRequest → (ServiceResult w → WebAuthnHttpResponse) → Prop) :
    Route w → Prop
  | .answer response => response.status ≠ 200
  | .call request respond => P request respond

variable {serde}

theorem Route.Meets.imp {P Q : ServiceRequest → (ServiceResult w → WebAuthnHttpResponse) → Prop}
    {route : Route w} (h : route.Meets P) (hPQ : ∀ call respond, P call respond → Q call respond) :
    route.Meets Q := by
  cases route with
  | answer response => exact h
  | call request respond => exact hPQ request respond h

theorem Route.Meets.error {P : ServiceRequest → (ServiceResult w → WebAuthnHttpResponse) → Prop}
    {status : ℕ} {code : WebauthnErrorCode} (h : status ≠ 200) :
    (Route.answer (webauthnHttpError status code)).Meets P := h

/-- The calls for the principal of a request. -/
def CallsOwn (serde : WebauthnJson w) (request : WebAuthnHttpRequest) (call : ServiceRequest)
    (respond : ServiceResult w → WebAuthnHttpResponse) : Prop :=
  ∃ principal, request.principal = some principal ∧ Calls serde request principal call respond

theorem meets_registrationStart {request : WebAuthnHttpRequest}
    (hpath : request.path = startPath .registration) :
    (registrationStart serde request.principal request.body).Meets (CallsOwn serde request) := by
  unfold registrationStart
  cases hprincipal : request.principal with
  | none => exact .error (by decide)
  | some principal =>
    cases serde.registrationStartBody request.body with
    | none => exact .error (by decide)
    | some read => exact ⟨principal, hprincipal, .starting _ hpath rfl rfl⟩

theorem meets_registrationFinish {request : WebAuthnHttpRequest}
    (hpath : request.path = finishPath .registration) :
    (registrationFinish serde request.principal request.body).Meets (CallsOwn serde request) := by
  unfold registrationFinish
  cases hprincipal : request.principal with
  | none => exact .error (by decide)
  | some principal =>
    cases hread : serde.ceremonyFinishBody request.body with
    | none => exact .error (by decide)
    | some read =>
      dsimp only [parseWebauthnJson, Option.elim_some]
      cases serde.valueToVec read.response with
      | none => exact .error (by decide)
      | some body => exact ⟨principal, hprincipal, .finishing _ read hpath hread rfl rfl⟩

theorem meets_authenticationStart {request : WebAuthnHttpRequest}
    (hpath : request.path = startPath .authentication) :
    (authenticationStart serde request.principal request.body).Meets (CallsOwn serde request) := by
  unfold authenticationStart
  cases hprincipal : request.principal with
  | none => exact .error (by decide)
  | some principal =>
    cases serde.emptyBody request.body with
    | none => exact .error (by decide)
    | some read => exact ⟨principal, hprincipal, .starting _ hpath rfl rfl⟩

theorem meets_authenticationFinish {request : WebAuthnHttpRequest}
    (hpath : request.path = finishPath .authentication) :
    (authenticationFinish serde request.principal request.body).Meets (CallsOwn serde request) := by
  unfold authenticationFinish
  cases hprincipal : request.principal with
  | none => exact .error (by decide)
  | some principal =>
    cases hread : serde.ceremonyFinishBody request.body with
    | none => exact .error (by decide)
    | some read =>
      dsimp only [parseWebauthnJson, Option.elim_some]
      cases serde.valueToVec read.response with
      | none => exact .error (by decide)
      | some body => exact ⟨principal, hprincipal, .finishing _ read hpath hread rfl rfl⟩

/-- **What reaches the service**: the calls of requests that pass the gates, each for the principal
    of its request. -/
theorem meets_handle (request : WebAuthnHttpRequest) (context : WebAuthnDeploymentContext) :
    (request.handle serde context).Meets fun call respond =>
      request.Passes context ∧ CallsOwn serde request call respond := by
  unfold WebAuthnHttpRequest.handle
  split_ifs with htransport hlimits hcsrf hsize hmethod hcontent hstart hfinish hstart' hfinish'
  case pos | pos | pos | pos | pos | pos => exact .error (by decide)
  all_goals
    have hpasses : request.Passes context :=
      ⟨by simpa using htransport, by simpa using hlimits, by simpa using hcsrf, not_lt.mp hsize,
        not_not.mp hmethod, by simpa using hcontent⟩
  · exact (meets_registrationStart hstart).imp fun _ _ h => ⟨hpasses, h⟩
  · exact (meets_registrationFinish hfinish).imp fun _ _ h => ⟨hpasses, h⟩
  · exact (meets_authenticationStart hstart').imp fun _ _ h => ⟨hpasses, h⟩
  · exact (meets_authenticationFinish hfinish').imp fun _ _ h => ⟨hpasses, h⟩
  · exact .error (by decide)

end Routes

end SecureKeypad.Webauthn
