import SecureKeypad.Http.Financial
import SecureKeypad.Library.Bytes
import SecureKeypad.Library.JsonText
import SecureKeypad.Server.Service

/-!
# The OPAQUE Routes (`secure-auth-http`)

Embeds `HttpAuthRouter`: the gates of `handle`, the four routes behind them, and the mapping of
failures to responses. The registration half of `ServerAuthService`, which only the routes use,
stands here as well.

`serde_json` reads a body to the wire form of a request; what the repository adds to that, the
validation of an envelope, is embedded. What it writes is embedded as a whole.
-/

namespace SecureKeypad.Http

open Rust Auth Server

def maxHttpBodyBytes : ℕ := 128 * 1024
def jsonContentType : String := "application/json; charset=utf-8"

/-- `RESPONSE_SECURITY_HEADERS`. -/
def responseSecurityHeaders : List (String × String) :=
  [("cache-control", "no-store"), ("pragma", "no-cache"), ("x-content-type-options", "nosniff"),
    ("referrer-policy", "no-referrer"),
    ("content-security-policy", "default-src 'none'; frame-ancestors 'none'; base-uri 'none'")]

def authenticatedResponse : Bytes := asBytes "\x7b\"authenticated\":true\x7d"
def registrationStoredResponse : Bytes := asBytes "\x7b\"credentialStored\":true\x7d"
def rateLimitedResponse : Bytes := asBytes "\x7b\"error\":\"rate_limited\"\x7d"
def unavailableResponse : Bytes := asBytes "\x7b\"error\":\"temporarily_unavailable\"\x7d"

/-! ## Requests and responses -/

/-- `TransportSecurity`. -/
inductive TransportSecurity where
  | directTls
  | trustedProxyTls
  | plaintext
deriving DecidableEq

def TransportSecurity.isEncrypted : TransportSecurity → Bool
  | .plaintext => false
  | _ => true

/-- `RequestAdmission`. -/
inductive RequestAdmission where
  | allowed
  | rateLimited
  | unavailable
deriving DecidableEq

/-- `HttpDeploymentContext`. -/
structure HttpDeploymentContext where
  transport : TransportSecurity
  upstreamBodyLimitBytes : ℕ
  connectionLimitsEnforced : Bool

def HttpDeploymentContext.hasValidLimits (context : HttpDeploymentContext) : Bool :=
  context.upstreamBodyLimitBytes > 0 && context.upstreamBodyLimitBytes ≤ maxHttpBodyBytes &&
    context.connectionLimitsEnforced

/-- `HttpRequest`. -/
structure HttpRequest where
  method : String
  path : String
  contentType : Option String
  csrfValidated : Bool
  admission : RequestAdmission
  body : Bytes

/-- `HttpResponse`. -/
structure HttpResponse where
  status : ℕ
  contentType : String
  headers : List (String × String)
  body : Bytes
deriving DecidableEq

/-- `static_response`. -/
def staticResponse (status : ℕ) (body : Bytes) : HttpResponse :=
  ⟨status, jsonContentType, responseSecurityHeaders, body⟩

/-- `serde_json::to_vec`. -/
def toVec (value : Json) : Bytes := asBytes (String.ofList value.stringify)

/-- `json_response_with_status`. -/
def jsonResponseWithStatus (status : ℕ) (value : Json) : HttpResponse :=
  let body := toVec value
  if body.length > maxHttpBodyBytes then staticResponse 503 unavailableResponse
  else ⟨status, jsonContentType, responseSecurityHeaders, body⟩

/-- `json_response`. -/
def jsonResponse (value : Json) : HttpResponse := jsonResponseWithStatus 200 value

/-- `PublicAuthCode`. -/
inductive PublicAuthCode where
  | invalidRequest
  | authenticationFailed
  | temporarilyUnavailable
deriving DecidableEq

/-- `PublicAuthCode::as_str`. -/
def PublicAuthCode.asStr : PublicAuthCode → String
  | .invalidRequest => "invalid_request"
  | .authenticationFailed => "authentication_failed"
  | .temporarilyUnavailable => "temporarily_unavailable"

/-- The status of a code, which the two error mappings share. -/
def PublicAuthCode.status : PublicAuthCode → ℕ
  | .invalidRequest => 400
  | .authenticationFailed => 401
  | .temporarilyUnavailable => 503

/-- `error_response`. -/
def errorResponse (status : ℕ) (code : PublicAuthCode) : HttpResponse :=
  jsonResponseWithStatus status (.obj [("error", .str code.asStr)])

/-- `ServerAuthError::public_code`. -/
def publicCode : ServerAuthError → PublicAuthCode
  | .auth .invalidSetup | .auth .invalidCredentialFile => .temporarilyUnavailable
  | .auth .invalidLogin | .auth .protocol => .authenticationFailed
  | .auth _ => .invalidRequest
  | .store .unavailable | .store .capacityReached | .store .handleCollision =>
    .temporarilyUnavailable
  | .store _ => .authenticationFailed
  | .missingLoginState => .authenticationFailed
  | .invalidServerKeyId | .invalidServerKeySet => .temporarilyUnavailable

/-- `auth_error_response`. -/
def authErrorResponse (error : ServerAuthError) : HttpResponse :=
  errorResponse (publicCode error).status (publicCode error)

/-- `request_admission_response`. -/
def requestAdmissionResponse : RequestAdmission → Option HttpResponse
  | .allowed => none
  | .rateLimited => some (staticResponse 429 rateLimitedResponse)
  | .unavailable => some (errorResponse 503 .temporarilyUnavailable)

/-- `is_json_content_type`. -/
def isJsonContentType : Option String → Bool
  | none => false
  | some value =>
    let mediaType := value.toList.takeWhile (· ≠ ';')
    let trimmed := ((mediaType.dropWhile Unicode.isWhiteSpace).reverse.dropWhile
      Unicode.isWhiteSpace).reverse
    trimmed.map Char.toLower = "application/json".toList

/-- `valid_identifier`. -/
def validIdentifier (identifier : Bytes) : Bool :=
  !identifier.isEmpty && identifier.length ≤ maxIdentifierBytes

/-! ## Bodies -/

/-- `AuthEnvelopeWire`. -/
structure AuthEnvelopeWire where
  protocolVersion : ℕ
  suiteId : String
  messageKind : AuthMessageKind
  serverKeyId : String
  payload : Bytes

/-- `AuthEnvelope::deserialize`, with the bound of `BoundedPayload`. -/
def AuthEnvelopeWire.deserialize (wire : AuthEnvelopeWire) : Option AuthEnvelope :=
  if wire.payload.length > maxMessageBytes then none
  else
    (AuthEnvelope.fromParts wire.protocolVersion wire.suiteId wire.messageKind wire.serverKeyId
      wire.payload).toOption

/-- `RegistrationStartRequest` and `EnvelopeRequest`, which have the same fields. -/
structure EnvelopeRequest (Envelope : Type) where
  identifier : String
  envelope : Envelope

/-- `LoginStartRequest`. -/
structure LoginStartRequest (Envelope : Type) where
  credentialIdentifier : String
  clientIdentifier : String
  serverIdentifier : String
  envelope : Envelope

/-- `LoginFinishRequest`. -/
structure LoginFinishRequest (Envelope : Type) where
  handle : String
  envelope : Envelope

/-- `serde_json::from_slice` at the types of the routes, up to their envelopes. -/
structure SerdeJson where
  envelopeRequest : Bytes → Option (EnvelopeRequest AuthEnvelopeWire)
  loginStartRequest : Bytes → Option (LoginStartRequest AuthEnvelopeWire)
  loginFinishRequest : Bytes → Option (LoginFinishRequest AuthEnvelopeWire)

/-- `from_slice::<RegistrationStartRequest>` and `from_slice::<EnvelopeRequest>`. -/
def SerdeJson.readEnvelopeRequest (serde : SerdeJson) (body : Bytes) :
    Option (EnvelopeRequest AuthEnvelope) := do
  let wire ← serde.envelopeRequest body
  let envelope ← wire.envelope.deserialize
  some { identifier := wire.identifier, envelope }

/-- `from_slice::<LoginStartRequest>`. -/
def SerdeJson.readLoginStart (serde : SerdeJson) (body : Bytes) :
    Option (LoginStartRequest AuthEnvelope) := do
  let wire ← serde.loginStartRequest body
  let envelope ← wire.envelope.deserialize
  some
    { credentialIdentifier := wire.credentialIdentifier, clientIdentifier := wire.clientIdentifier
      serverIdentifier := wire.serverIdentifier, envelope }

/-- `from_slice::<LoginFinishRequest>`. -/
def SerdeJson.readLoginFinish (serde : SerdeJson) (body : Bytes) :
    Option (LoginFinishRequest AuthEnvelope) := do
  let wire ← serde.loginFinishRequest body
  let envelope ← wire.envelope.deserialize
  some { handle := wire.handle, envelope }

/-- `parse_json`, on what is read of the body. -/
def parseJson {α : Type} (read : Option α) : Except HttpResponse α :=
  read.elim (.error (errorResponse 400 .invalidRequest)) .ok

/-- `AuthMessageKind`, as it is written. -/
def messageKindName : AuthMessageKind → String
  | .registrationRequest => "RegistrationRequest"
  | .registrationResponse => "RegistrationResponse"
  | .registrationUpload => "RegistrationUpload"
  | .credentialRequest => "CredentialRequest"
  | .credentialResponse => "CredentialResponse"
  | .credentialFinalization => "CredentialFinalization"

/-- `AuthEnvelope`, as it is written: its payload is an array of numbers. -/
def envelopeJson (envelope : AuthEnvelope) : Json :=
  .obj [("protocol_version", .number (.ofNat envelope.protocolVersion)),
    ("suite_id", .str envelope.suiteId),
    ("message_kind", .str (messageKindName envelope.messageKind)),
    ("server_key_id", .str envelope.serverKeyId),
    ("payload", .arr (envelope.payload.map fun byte => .number (.ofNat byte.toNat)))]

/-- `RegistrationStartResponse`. -/
def registrationStartJson (envelope : AuthEnvelope) : Json :=
  .obj [("envelope", envelopeJson envelope)]

/-- `LoginStartResponse`. -/
def loginStartJson (envelope : AuthEnvelope) (handle : String) : Json :=
  .obj [("envelope", envelopeJson envelope), ("handle", .str handle)]

/-- `encode_handle`. -/
def encodeHandle (handle : LoginStateHandle) : String := hexEncode handle.bytes

/-- The bytes of the pairs of digits. -/
def decodePairs : Bytes → Option Bytes
  | [] => some []
  | [_] => none
  | high :: low :: rest => do
    let byte ← fromStrRadix16 [high, low]
    let bytes ← decodePairs rest
    some (byte :: bytes)

/-- `decode_handle`, with the length `LoginStateHandle::from_bytes` checks. -/
def decodeHandle (value : String) : Option LoginStateHandle :=
  if (asBytes value).length ≠ handleBytes * 2 ||
      !(asBytes value).all fun byte => (hexDigitValue byte).isSome then none
  else do
    let bytes ← decodePairs (asBytes value)
    if h : bytes.length = handleBytes then some ⟨bytes, h⟩ else none

/-! ## Registration -/

/-- The `opaque_ke` operations of registration. -/
structure OpaqueRegistration (ke : OpaqueKe) where
  Request : Type
  Upload : Type
  /-- `RegistrationRequest::deserialize`. -/
  deserializeRequest : Bytes → Option Request
  /-- `ServerRegistration::start` on the credential identifier, with the serialized message. -/
  start : ke.Setup → Request → Bytes → Option Bytes
  /-- `RegistrationUpload::deserialize`. -/
  deserializeUpload : Bytes → Option Upload
  /-- `ServerRegistration::finish`, serialized. -/
  finish : Upload → Bytes

def maxCredentialFileBytes : ℕ := maxMessageBytes

section Registration

variable {ke : OpaqueKe} (registration : OpaqueRegistration ke) {S : Type}

/-- `server_registration_start`. -/
def serverRegistrationStart (setup : ServerSetupBytes) (request : Message)
    (credentialIdentifier : Bytes) : Except AuthError Message := do
  validateIdentifier credentialIdentifier
  let setup ← setup.decode ke
  let request ← (registration.deserializeRequest request.bytes).elim (.error .protocol) .ok
  let message ← (registration.start setup request credentialIdentifier).elim (.error .protocol) .ok
  messageFromSerialized message

/-- `server_registration_finish`. -/
def serverRegistrationFinish (upload : Message) : Except AuthError CredentialFile := do
  let upload ← (registration.deserializeUpload upload.bytes).elim (.error .protocol) .ok
  let bytes := registration.finish upload
  if bytes.isEmpty || bytes.length > maxCredentialFileBytes then .error .invalidCredentialFile
  else .ok ⟨bytes⟩

/-- `begin_registration`. -/
def beginRegistration (service : ServerAuthService S) (request : AuthEnvelope)
    (credentialIdentifier : Bytes) : Except ServerAuthError AuthEnvelope := do
  let request ← (request.intoMessageForServerKeys .registrationRequest
    service.acceptedServerKeyIds).mapError .auth
  let response ←
    (serverRegistrationStart registration service.setup request credentialIdentifier).mapError .auth
  (AuthEnvelope.new .registrationResponse service.serverKeyId response).mapError .auth

/-- `finish_registration`. -/
def finishRegistration (service : ServerAuthService S) (upload : AuthEnvelope) :
    Except ServerAuthError CredentialFile := do
  let upload ← (upload.intoMessage .registrationUpload service.serverKeyId).mapError .auth
  (serverRegistrationFinish registration upload).mapError .auth

end Registration

/-! ## The router -/

/-- `RepositoryError`. -/
inductive RepositoryError where
  | unavailable
  | invalidIdentifier
  | alreadyExists
deriving DecidableEq

/-- `CredentialRepository`. -/
class CredentialRepository (R : Type) where
  /-- `load`, which leaves the stored record. -/
  load : R → Bytes → Except RepositoryError (Option CredentialFile)
  /-- `create`. -/
  create : R → Bytes → CredentialFile → Except RepositoryError Unit × R

/-- `repository_error_response`. -/
def repositoryErrorResponse (error : RepositoryError) : HttpResponse :=
  let code : PublicAuthCode :=
    match error with
    | .unavailable => .temporarilyUnavailable
    | .invalidIdentifier | .alreadyExists => .invalidRequest
  errorResponse code.status code

/-- `HttpAuthRouter`. -/
structure HttpAuthRouter (S R : Type) where
  service : ServerAuthService S
  repository : R

/-- The calls a request makes to the fields of the router. Only the service has the state store. -/
inductive RouterCall where
  | load (identifier : Bytes)
  | create (identifier : Bytes)
  | beginRegistration
  | finishRegistration
  | beginLogin
  | finishLogin
deriving DecidableEq

/-- What a request comes to: the response, which is `none` when the thread panicked, the router
    behind it and the calls that were made, in their order. -/
structure Handled (S R : Type) where
  response : Option HttpResponse
  router : HttpAuthRouter S R
  calls : List RouterCall

/-- What a request takes from its environment. -/
structure RequestEnvironment (ke : OpaqueKe) (Context : Type) where
  context : Context
  rng : ke.Rng

namespace HttpAuthRouter

section Routes

variable {ke : OpaqueKe} (registration : OpaqueRegistration ke) (serde : SerdeJson)
  {S Context R : Type} [BoundOneTimeLoginStateStore S Context] [CredentialRepository R]

/-- A response without any call. -/
def refuse (router : HttpAuthRouter S R) (response : HttpResponse) : Handled S R :=
  ⟨some response, router, []⟩

/-- `registration_start`. -/
def registrationStart (router : HttpAuthRouter S R) (body : Bytes) : Handled S R :=
  match parseJson (serde.readEnvelopeRequest body) with
  | .error response => router.refuse response
  | .ok request =>
    if !validIdentifier (asBytes request.identifier) then
      router.refuse (errorResponse 400 .invalidRequest)
    else
      match Http.beginRegistration registration router.service request.envelope
          (asBytes request.identifier) with
      | .error error => ⟨some (authErrorResponse error), router, [.beginRegistration]⟩
      | .ok response =>
        ⟨some (jsonResponse (registrationStartJson response)), router, [.beginRegistration]⟩

/-- `registration_finish`. -/
def registrationFinish (router : HttpAuthRouter S R) (body : Bytes) : Handled S R :=
  match parseJson (serde.readEnvelopeRequest body) with
  | .error response => router.refuse response
  | .ok request =>
    if !validIdentifier (asBytes request.identifier) then
      router.refuse (errorResponse 400 .invalidRequest)
    else
      match Http.finishRegistration registration router.service request.envelope with
      | .error error => ⟨some (authErrorResponse error), router, [.finishRegistration]⟩
      | .ok credential =>
        let (created, repository) :=
          CredentialRepository.create router.repository (asBytes request.identifier) credential
        let calls := [.finishRegistration, .create (asBytes request.identifier)]
        match created with
        | .error error => ⟨some (repositoryErrorResponse error), { router with repository }, calls⟩
        | .ok () =>
          ⟨some (staticResponse 200 registrationStoredResponse), { router with repository }, calls⟩

variable (ke)

/-- `login_start`. -/
def loginStart (router : HttpAuthRouter S R) (environment : RequestEnvironment ke Context)
    (body : Bytes) : Handled S R :=
  match parseJson (serde.readLoginStart body) with
  | .error response => router.refuse response
  | .ok request =>
    let credentialIdentifier := asBytes request.credentialIdentifier
    let clientIdentifier := asBytes request.clientIdentifier
    let serverIdentifier := asBytes request.serverIdentifier
    if !validIdentifier credentialIdentifier || !validIdentifier clientIdentifier ||
        !validIdentifier serverIdentifier then
      router.refuse (errorResponse 400 .invalidRequest)
    else
      match CredentialRepository.load router.repository credentialIdentifier with
      | .error error =>
        ⟨some (repositoryErrorResponse error), router, [.load credentialIdentifier]⟩
      | .ok credential =>
        let (result, service) := router.service.beginLogin ke environment.context environment.rng
          request.envelope credential credentialIdentifier clientIdentifier serverIdentifier
        let router := { router with service }
        let calls := [.load credentialIdentifier, .beginLogin]
        match result with
        | none => ⟨none, router, calls⟩
        | some (.error error) => ⟨some (authErrorResponse error), router, calls⟩
        | some (.ok (response, handle)) =>
          ⟨some (jsonResponse (loginStartJson response (encodeHandle handle))), router, calls⟩

/-- `login_finish`. -/
def loginFinish (router : HttpAuthRouter S R) (environment : RequestEnvironment ke Context)
    (body : Bytes) : Handled S R :=
  match parseJson (serde.readLoginFinish body) with
  | .error response => router.refuse response
  | .ok request =>
    match decodeHandle request.handle with
    | none => router.refuse (errorResponse 400 .invalidRequest)
    | some handle =>
      let (outcome, service) :=
        router.service.finishLogin ke environment.context request.envelope handle
      let router := { router with service }
      match outcome.result with
      | .error error => ⟨some (authErrorResponse error), router, [.finishLogin]⟩
      | .ok _ => ⟨some (staticResponse 200 authenticatedResponse), router, [.finishLogin]⟩

variable {ke}

/-- `handle`. -/
def handle (router : HttpAuthRouter S R) (environment : RequestEnvironment ke Context)
    (request : HttpRequest) (context : HttpDeploymentContext) : Handled S R :=
  if !context.transport.isEncrypted then router.refuse (errorResponse 400 .invalidRequest)
  else if !context.hasValidLimits then router.refuse (errorResponse 503 .temporarilyUnavailable)
  else if !request.csrfValidated then router.refuse (errorResponse 403 .invalidRequest)
  else
    match requestAdmissionResponse request.admission with
    | some response => router.refuse response
    | none =>
      if request.body.length > context.upstreamBodyLimitBytes then
        router.refuse (errorResponse 413 .invalidRequest)
      else if request.method ≠ "POST" then router.refuse (errorResponse 405 .invalidRequest)
      else if !isJsonContentType request.contentType then
        router.refuse (errorResponse 415 .invalidRequest)
      else if request.path = registrationStartPath then
        router.registrationStart registration serde request.body
      else if request.path = registrationFinishPath then
        router.registrationFinish registration serde request.body
      else if request.path = loginStartPath then router.loginStart ke serde environment request.body
      else if request.path = loginFinishPath then
        router.loginFinish ke serde environment request.body
      else router.refuse (errorResponse 404 .invalidRequest)

end Routes

end HttpAuthRouter

end SecureKeypad.Http
