import SecureKeypad.Library.Unicode
import SecureKeypad.Webauthn.CeremonyStore

/-!
# The WebAuthn Service (`secure-webauthn-example`)

Embeds `WebAuthnService`: two calls that start a ceremony and two that finish one. A call is a
program over the calls it makes to its stores, so that the calls of different clients interleave
between any two of them.

The operations of `webauthn-rs` and the `serde_json` conversions are the parameter
`WebauthnEngine`, the credential repository is any `CredentialStore`.

## Main results

- `decodeHandle_eq_ok`: the text of a handle is the only text that is read as this handle
- `Point.code`: a call reaches its points in order, the credential operation behind a take
-/

namespace SecureKeypad.Webauthn

open Rust Server

def maxClientResponseBytes : ℕ := 128 * 1024
def webauthnCeremonyStateVersion : ℕ := 1
def maxUserFieldBytes : ℕ := 256

/-! ## What the service is built from -/

/-- The types and operations of `webauthn-rs` the service uses, with the `serde_json` conversions
    of its values. An operation that fails is `none`. -/
structure WebauthnEngine where
  Passkey : Type
  AuthenticationResult : Type
  CreationOptions : Type
  RequestOptions : Type
  PasskeyRegistration : Type
  PasskeyAuthentication : Type
  RegisterPublicKeyCredential : Type
  PublicKeyCredential : Type
  Value : Type
  /-- What the operations draw from the random number generator. -/
  Randomness : Type
  /-- `Passkey::cred_id`. -/
  credId : Passkey → Bytes
  startPasskeyRegistration : Randomness → Uuid → String → String → Option (List Bytes) →
    Option (CreationOptions × PasskeyRegistration)
  finishPasskeyRegistration : RegisterPublicKeyCredential → PasskeyRegistration → Option Passkey
  startPasskeyAuthentication : Randomness → List Passkey →
    Option (RequestOptions × PasskeyAuthentication)
  finishPasskeyAuthentication : PublicKeyCredential → PasskeyAuthentication →
    Option AuthenticationResult
  creationToValue : CreationOptions → Option Value
  requestToValue : RequestOptions → Option Value
  /-- `serde_json::to_vec` of an envelope with its version. -/
  registrationToVec : ℕ → PasskeyRegistration → Option Bytes
  authenticationToVec : ℕ → PasskeyAuthentication → Option Bytes
  /-- `serde_json::from_slice` of an envelope with its version. -/
  registrationFromSlice : Bytes → Option (ℕ × PasskeyRegistration)
  authenticationFromSlice : Bytes → Option (ℕ × PasskeyAuthentication)
  attestationFromSlice : Bytes → Option RegisterPublicKeyCredential
  assertionFromSlice : Bytes → Option PublicKeyCredential

/-- `CredentialStore`: a backend with the records `C`. What an answer depends on besides them, such
    as a lost connection, is the argument of type `Outside`. -/
structure CredentialStore (w : WebauthnEngine) (C Outside : Type) where
  load : Outside → C → Uuid → Except CredentialStoreError (List w.Passkey)
  insert : Outside → C → Uuid → w.Passkey → Except CredentialStoreError Unit × C
  updateAfterAuth : Outside → C → Uuid → w.AuthenticationResult →
    Except CredentialStoreError Bool × C

/-- The in-memory store is such a backend. -/
def InMemoryCredentialStore.backend {w : WebauthnEngine}
    (api : WebauthnRs w.Passkey w.AuthenticationResult) :
    CredentialStore w (InMemoryCredentialStore w.Passkey) Unit where
  load _ store userId := store.load userId
  insert _ store userId passkey := store.insert api userId passkey
  updateAfterAuth _ store userId result := store.updateAfterAuth api userId result

/-- `WebAuthnService`, with the names its two ceremony stores go by. One name for both is a store
    that the kinds share. -/
structure WebAuthnService (σ : Type) where
  registrationStates : σ
  authenticationStates : σ
  ceremonyTtl : ℕ

/-- The store that holds the ceremonies of a kind. -/
def WebAuthnService.states {σ : Type} (service : WebAuthnService σ) : CeremonyKind → σ
  | .registration => service.registrationStates
  | .authentication => service.authenticationStates

/-! ## Errors and checks -/

/-- `WebAuthnExampleError`. -/
inductive WebAuthnExampleError where
  | invalidConfiguration
  | invalidRequest
  | replay
  | storeUnavailable
  | capacityReached
  | stateTooLarge
  | credentialLimit
deriving DecidableEq, Repr

/-- `map_ceremony_error`. -/
def mapCeremonyError : CeremonyStoreError → WebAuthnExampleError
  | .capacityReached | .handleCollision => .capacityReached
  | .stateTooLarge => .stateTooLarge
  | .invalidCapacity | .invalidTtl | .invalidState | .unavailable => .storeUnavailable

/-- `map_credential_error`. -/
def mapCredentialError : CredentialStoreError → WebAuthnExampleError
  | .unavailable => .storeUnavailable
  | .capacityReached => .credentialLimit
  | .duplicate | .invalidRecord => .invalidRequest

/-- `ok_or(error)`, and `map_err(|_| error)` on an operation of the parameters. -/
def okOr {α : Type} (error : WebAuthnExampleError) : Option α → Except WebAuthnExampleError α
  | none => .error error
  | some value => .ok value

/-- `validate_user_field`. -/
def validateUserField (value : String) : Except WebAuthnExampleError Unit :=
  if value.isEmpty ∨ (asBytes value).length > maxUserFieldBytes ∨
      value.toList.any Unicode.isControl then
    .error .invalidRequest
  else .ok ()

/-- `serialize_state`, with the `serde_json::to_vec` of its type. -/
def serializeState {α : Type} (toVec : ℕ → α → Option Bytes) (state : α) :
    Except WebAuthnExampleError Bytes :=
  match toVec webauthnCeremonyStateVersion state with
  | none => .error .storeUnavailable
  | some bytes =>
    if bytes.length > maxCeremonyStateBytes then .error .stateTooLarge else .ok bytes

/-- `deserialize_state`, with the `serde_json::from_slice` of its type. -/
def deserializeState {α : Type} (fromSlice : Bytes → Option (ℕ × α)) (state : Bytes) :
    Except WebAuthnExampleError α :=
  if state.isEmpty ∨ state.length > maxCeremonyStateBytes then .error .storeUnavailable
  else
    match fromSlice state with
    | none => .error .storeUnavailable
    | some (version, state) =>
      if version ≠ webauthnCeremonyStateVersion then .error .storeUnavailable else .ok state

/-- `parse_response`, with the `serde_json::from_slice` of its type. -/
def parseResponse {α : Type} (fromSlice : Bytes → Option α) (body : Bytes) :
    Except WebAuthnExampleError α :=
  if body.isEmpty ∨ body.length > maxClientResponseBytes then .error .invalidRequest
  else okOr .invalidRequest (fromSlice body)

/-! ## Handles as text -/

/-- `encode_handle`. -/
def encodeHandle (handle : LoginStateHandle) : String := hexEncode handle.bytes

/-- The loop of `decode_handle`: one byte from each two digits. -/
def decodePairs : Bytes → Option Bytes
  | high :: low :: rest => do
    let byte ← fromStrRadix16 [high, low]
    let bytes ← decodePairs rest
    some (byte :: bytes)
  | _ => some []

/-- `decode_handle`. -/
def decodeHandle (value : String) : Except WebAuthnExampleError LoginStateHandle :=
  if (asBytes value).length ≠ handleBytes * 2 ∨ !(asBytes value).all isLowerHexDigit then
    .error .invalidRequest
  else
    match decodePairs (asBytes value) with
    | none => .error .invalidRequest
    | some bytes =>
      if hlength : bytes.length = handleBytes then .ok ⟨bytes, hlength⟩
      else .error .invalidRequest

theorem decodePairs_flatMap (bytes : Bytes) : decodePairs (bytes.flatMap hexCodes) = some bytes := by
  induction bytes with
  | nil => rfl
  | cons byte bytes ih =>
    have hpair := fromStrRadix16_hexCodes byte
    rw [hexCodes] at hpair
    rw [List.flatMap_cons, hexCodes, List.cons_append, List.cons_append, List.nil_append,
      decodePairs, hpair, ih]
    rfl

theorem flatMap_of_decodePairs {digits bytes : Bytes} (heven : Even digits.length)
    (hdigits : digits.all isLowerHexDigit = true) (h : decodePairs digits = some bytes) :
    bytes.flatMap hexCodes = digits := by
  fun_induction decodePairs digits generalizing bytes with
  | case1 high low rest ih =>
    obtain ⟨byte, hbyte, bytes', hrest, rfl⟩ : ∃ byte, fromStrRadix16 [high, low] = some byte ∧
        ∃ bytes', decodePairs rest = some bytes' ∧ byte :: bytes' = bytes := by
      simpa [Option.bind_eq_some_iff] using h
    rw [List.all_cons, List.all_cons, Bool.and_eq_true, Bool.and_eq_true] at hdigits
    have heven' : Even rest.length := by
      rw [List.length_cons, List.length_cons, Nat.even_add_one, Nat.even_add_one, not_not] at heven
      exact heven
    rw [List.flatMap_cons, hexCodes_of_fromStrRadix16 hdigits.1 hdigits.2.1 hbyte,
      ih heven' hdigits.2.2 hrest]
    rfl
  | case2 digits hshort =>
    cases h
    match digits with
    | [] => rfl
    | [digit] => exact absurd heven Nat.not_even_one
    | high :: low :: rest => exact absurd rfl (hshort high low rest)

/-- The text of a handle is read as this handle, and no other text is. -/
theorem decodeHandle_eq_ok {value : String} {handle : LoginStateHandle} :
    decodeHandle value = .ok handle ↔ value = encodeHandle handle := by
  constructor
  · intro h
    unfold decodeHandle at h
    split at h
    · cases h
    · next hchecked =>
      rw [not_or, not_not, Bool.not_eq_true, Bool.not_eq_false'] at hchecked
      cases hpairs : decodePairs (asBytes value) with
      | none =>
        rw [hpairs] at h
        cases h
      | some bytes =>
        simp only [hpairs] at h
        split at h
        · cases h
          apply asBytes_injective
          rw [encodeHandle, asBytes_hexEncode]
          -- The text is as long as a handle, so its digits pair up.
          have heven : Even (asBytes value).length := by
            rw [hchecked.1]
            exact even_two.mul_left handleBytes
          exact (flatMap_of_decodePairs heven hchecked.2 hpairs).symm
        · cases h
  · rintro rfl
    have hlength : (asBytes (encodeHandle handle)).length = handleBytes * 2 := by
      rw [encodeHandle, asBytes_hexEncode, List.length_flatMap]
      simp [hexCodes, handle.length_eq]
    have hdigits : (asBytes (encodeHandle handle)).all isLowerHexDigit = true := by
      rw [encodeHandle, asBytes_hexEncode, List.all_eq_true]
      intro code hcode
      obtain ⟨byte, -, hcode⟩ := List.mem_flatMap.mp hcode
      exact isLowerHexDigit_of_mem_hexCodes hcode
    rw [decodeHandle, if_neg (by simp [hlength, hdigits])]
    rw [encodeHandle, asBytes_hexEncode, decodePairs_flatMap]
    exact dif_pos handle.length_eq

/-! ## Calls -/

/-- `CeremonyStart`. -/
structure CeremonyStart (w : WebauthnEngine) where
  handle : String
  options : w.Value

/-- What a call returns: `CeremonyStart`, `RegistrationOutcome` or `AuthenticationOutcome`. -/
inductive ServiceOutcome (w : WebauthnEngine) where
  | started (start : CeremonyStart w)
  | registered (userId : Uuid)
  | authenticated (userId : Uuid) (credentialUpdated : Bool)

abbrev ServiceResult (w : WebauthnEngine) := Except WebAuthnExampleError (ServiceOutcome w)

/-- The rest of a call: it returns, or calls one of its stores and goes on with the answer. -/
inductive ServiceCode (w : WebauthnEngine) (σ : Type) where
  | done (result : ServiceResult w)
  | load (userId : Uuid)
      (next : w.Randomness → Except CredentialStoreError (List w.Passkey) → ServiceCode w σ)
  | insertState (store : σ) (kind : CeremonyKind) (userId : Uuid) (state : Bytes) (ttl : ℕ)
      (next : Except CeremonyStoreError LoginStateHandle → ServiceCode w σ)
  | takeState (store : σ) (kind : CeremonyKind) (handle : LoginStateHandle)
      (next : Except CeremonyStoreError (Option CeremonyState) → ServiceCode w σ)
  | insertCredential (userId : Uuid) (passkey : w.Passkey)
      (next : Except CredentialStoreError Unit → ServiceCode w σ)
  | updateCredential (userId : Uuid) (result : w.AuthenticationResult)
      (next : Except CredentialStoreError Bool → ServiceCode w σ)

/-- `value?`, followed by `next`. -/
def ServiceCode.andThen {w : WebauthnEngine} {σ α : Type} (value : Except WebAuthnExampleError α)
    (next : α → ServiceCode w σ) : ServiceCode w σ :=
  match value with
  | .error error => .done (.error error)
  | .ok value => next value

section Calls

open ServiceCode (andThen)

variable (w : WebauthnEngine) {σ : Type} (service : WebAuthnService σ)

/-- `start_registration`. -/
def startRegistration (userId : Uuid) (userName displayName : String) : ServiceCode w σ :=
  andThen (validateUserField userName) fun _ =>
  andThen (validateUserField displayName) fun _ =>
  .load userId fun randomness existing =>
  andThen (existing.mapError mapCredentialError) fun existing =>
  if existing.length > maxCredentialsPerUser then .done (.error .credentialLimit)
  else
    let excludeCredentials := if existing.isEmpty then none else some (existing.map w.credId)
    andThen (okOr .invalidRequest (w.startPasskeyRegistration randomness userId userName
      displayName excludeCredentials)) fun (options, state) =>
    andThen (okOr .invalidRequest (w.creationToValue options)) fun options =>
    andThen (serializeState w.registrationToVec state) fun state =>
    .insertState service.registrationStates .registration userId state service.ceremonyTtl
      fun handle =>
    andThen (handle.mapError mapCeremonyError) fun handle =>
    .done (.ok (.started ⟨encodeHandle handle, options⟩))

/-- `finish_registration_bound`. -/
def finishRegistrationBound (handle : String) (expectedPrincipal : Option Uuid)
    (responseBody : Bytes) : ServiceCode w σ :=
  andThen (decodeHandle handle) fun handle =>
  .takeState service.registrationStates .registration handle fun pending =>
  andThen (pending.mapError mapCeremonyError) fun pending =>
  andThen (okOr .replay pending) fun pending =>
  if expectedPrincipal.any (· ≠ pending.userId) then .done (.error .invalidRequest)
  else
    andThen (deserializeState w.registrationFromSlice pending.state) fun state =>
    andThen (parseResponse w.attestationFromSlice responseBody) fun response =>
    andThen (okOr .invalidRequest (w.finishPasskeyRegistration response state)) fun passkey =>
    .insertCredential pending.userId passkey fun inserted =>
    andThen (inserted.mapError mapCredentialError) fun _ =>
    .done (.ok (.registered pending.userId))

/-- `start_authentication`. -/
def startAuthentication (userId : Uuid) : ServiceCode w σ :=
  .load userId fun randomness credentials =>
  andThen (credentials.mapError mapCredentialError) fun credentials =>
  if credentials.length > maxCredentialsPerUser then .done (.error .credentialLimit)
  else if credentials.isEmpty then .done (.error .invalidRequest)
  else
    andThen (okOr .invalidRequest (w.startPasskeyAuthentication randomness credentials))
      fun (options, state) =>
    andThen (okOr .invalidRequest (w.requestToValue options)) fun options =>
    andThen (serializeState w.authenticationToVec state) fun state =>
    .insertState service.authenticationStates .authentication userId state service.ceremonyTtl
      fun handle =>
    andThen (handle.mapError mapCeremonyError) fun handle =>
    .done (.ok (.started ⟨encodeHandle handle, options⟩))

/-- `finish_authentication_bound`. -/
def finishAuthenticationBound (handle : String) (expectedPrincipal : Option Uuid)
    (responseBody : Bytes) : ServiceCode w σ :=
  andThen (decodeHandle handle) fun handle =>
  .takeState service.authenticationStates .authentication handle fun pending =>
  andThen (pending.mapError mapCeremonyError) fun pending =>
  andThen (okOr .replay pending) fun pending =>
  if expectedPrincipal.any (· ≠ pending.userId) then .done (.error .invalidRequest)
  else
    andThen (deserializeState w.authenticationFromSlice pending.state) fun state =>
    andThen (parseResponse w.assertionFromSlice responseBody) fun response =>
    andThen (okOr .invalidRequest (w.finishPasskeyAuthentication response state)) fun result =>
    .updateCredential pending.userId result fun updated =>
    andThen (updated.mapError mapCredentialError) fun updated =>
    .done (.ok (.authenticated pending.userId updated))

/-- A call of a client. The finishing calls come without a principal from `finish_registration`
    and `finish_authentication`, with one from their `…_for_principal` forms. -/
inductive ServiceRequest where
  | startRegistration (userId : Uuid) (userName displayName : String)
  | finishRegistration (handle : String) (expectedPrincipal : Option Uuid) (responseBody : Bytes)
  | startAuthentication (userId : Uuid)
  | finishAuthentication (handle : String) (expectedPrincipal : Option Uuid) (responseBody : Bytes)
deriving DecidableEq

namespace ServiceRequest

/-- The call as a program. -/
def code : ServiceRequest → ServiceCode w σ
  | .startRegistration userId userName displayName =>
    Webauthn.startRegistration w service userId userName displayName
  | .finishRegistration handle expectedPrincipal responseBody =>
    finishRegistrationBound w service handle expectedPrincipal responseBody
  | .startAuthentication userId => Webauthn.startAuthentication w service userId
  | .finishAuthentication handle expectedPrincipal responseBody =>
    finishAuthenticationBound w service handle expectedPrincipal responseBody

/-- The kind of ceremony a call starts or finishes. -/
def kind : ServiceRequest → CeremonyKind
  | .startRegistration .. | .finishRegistration .. => .registration
  | .startAuthentication _ | .finishAuthentication .. => .authentication

/-- The account of a starting call. -/
def starts : ServiceRequest → Option Uuid
  | .startRegistration userId _ _ | .startAuthentication userId => some userId
  | .finishRegistration .. | .finishAuthentication .. => none

/-- The handle and the principal of a finishing call. -/
def finishes : ServiceRequest → Option (String × Option Uuid)
  | .finishRegistration handle principal _ | .finishAuthentication handle principal _ =>
    some (handle, principal)
  | .startRegistration .. | .startAuthentication _ => none

end ServiceRequest

end Calls

/-! ## The points of a call -/

section Points

open ServiceCode (andThen)

variable {w : WebauthnEngine} {σ : Type} {service : WebAuthnService σ} {request : ServiceRequest}

/-- What a call can go on with once it has taken a ceremony of an account: nothing but an error, or
    one credential operation of this account, whose answer it returns. -/
inductive Credits (request : ServiceRequest) (userId : Uuid) : ServiceCode w σ → Prop where
  | rejected (error : WebAuthnExampleError) : Credits request userId (.done (.error error))
  | enrolling (passkey : w.Passkey)
      (next : Except CredentialStoreError Unit → ServiceCode w σ)
      (hkind : request.kind = .registration)
      (herror : ∀ error, next (.error error) = .done (.error (mapCredentialError error)))
      (hok : next (.ok ()) = .done (.ok (.registered userId))) :
      Credits request userId (.insertCredential userId passkey next)
  | updating (result : w.AuthenticationResult)
      (next : Except CredentialStoreError Bool → ServiceCode w σ)
      (hkind : request.kind = .authentication)
      (herror : ∀ error, next (.error error) = .done (.error (mapCredentialError error)))
      (hok : ∀ updated, next (.ok updated) = .done (.ok (.authenticated userId updated))) :
      Credits request userId (.updateCredential userId result next)

/-- Where a call can be until it has taken a ceremony. -/
inductive Point (service : WebAuthnService σ) (request : ServiceRequest) :
    ServiceCode w σ → Prop where
  | rejected (error : WebAuthnExampleError) : Point service request (.done (.error error))
  | loading (userId : Uuid)
      (next : w.Randomness → Except CredentialStoreError (List w.Passkey) → ServiceCode w σ)
      (hstarts : request.starts = some userId)
      (hnext : ∀ randomness loaded, Point service request (next randomness loaded)) :
      Point service request (.load userId next)
  | storing (userId : Uuid) (state : Bytes)
      (next : Except CeremonyStoreError LoginStateHandle → ServiceCode w σ)
      (hstarts : request.starts = some userId)
      (herror : ∀ error, next (.error error) = .done (.error (mapCeremonyError error)))
      (hok : ∃ options, ∀ handle,
        next (.ok handle) = .done (.ok (.started ⟨encodeHandle handle, options⟩))) :
      Point service request (.insertState (service.states request.kind) request.kind userId state
        service.ceremonyTtl next)
  | taking (handle : LoginStateHandle) (principal : Option Uuid)
      (next : Except CeremonyStoreError (Option CeremonyState) → ServiceCode w σ)
      (hfinishes : request.finishes = some (encodeHandle handle, principal))
      (herror : ∀ error, next (.error error) = .done (.error (mapCeremonyError error)))
      (hmiss : next (.ok none) = .done (.error .replay))
      (hother : ∀ state : CeremonyState, (∃ other, principal = some other ∧ other ≠ state.userId) →
        next (.ok (some state)) = .done (.error .invalidRequest))
      (hown : ∀ state : CeremonyState, Credits request state.userId (next (.ok (some state)))) :
      Point service request (.takeState (service.states request.kind) request.kind handle next)

theorem Point.andThen {α : Type} {value : Except WebAuthnExampleError α}
    {next : α → ServiceCode w σ} (h : ∀ a, value = .ok a → Point service request (next a)) :
    Point service request (andThen value next) := by
  cases value with
  | error error => exact .rejected error
  | ok a => exact h a rfl

theorem Credits.andThen {α : Type} {userId : Uuid} {value : Except WebAuthnExampleError α}
    {next : α → ServiceCode w σ} (h : ∀ a, Credits request userId (next a)) :
    Credits request userId (andThen value next) := by
  cases value with
  | error error => exact .rejected error
  | ok a => exact h a

private theorem principal_any {principal : Option Uuid} {userId : Uuid}
    (h : ∃ other, principal = some other ∧ other ≠ userId) :
    principal.any (· ≠ userId) = true := by
  obtain ⟨other, rfl, hne⟩ := h
  exact decide_eq_true hne

/-- Every call begins at one of its points. -/
theorem Point.code (request : ServiceRequest) :
    Point service request (request.code w service) := by
  -- The four requests up to their first store operation; behind it the code says what follows.
  cases request with
  | startRegistration userId userName displayName =>
    refine Point.andThen fun _ _ => Point.andThen fun _ _ => .loading userId _ rfl ?_
    intro randomness loaded
    refine Point.andThen fun existing _ => ?_
    split
    · exact .rejected _
    · refine Point.andThen fun started _ => Point.andThen fun options _ => Point.andThen ?_
      exact fun state _ => .storing userId state _ rfl (fun _ => rfl) ⟨options, fun _ => rfl⟩
  | startAuthentication userId =>
    refine .loading userId _ rfl fun randomness loaded => Point.andThen fun existing _ => ?_
    split
    · exact .rejected _
    · split
      · exact .rejected _
      · refine Point.andThen fun started _ => Point.andThen fun options _ => Point.andThen ?_
        exact fun state _ => .storing userId state _ rfl (fun _ => rfl) ⟨options, fun _ => rfl⟩
  | finishRegistration handle principal body =>
    refine Point.andThen fun handle hhandle => ?_
    obtain rfl := decodeHandle_eq_ok.mp hhandle
    refine .taking handle principal _ rfl (fun _ => rfl) rfl ?_ fun state => ?_
    · exact fun state hother => if_pos (principal_any hother)
    · change Credits _ _ (ite _ _ _)
      split
      · exact .rejected _
      · refine Credits.andThen fun _ => Credits.andThen fun _ => Credits.andThen fun passkey => ?_
        exact .enrolling passkey _ rfl (fun _ => rfl) rfl
  | finishAuthentication handle principal body =>
    refine Point.andThen fun handle hhandle => ?_
    obtain rfl := decodeHandle_eq_ok.mp hhandle
    refine .taking handle principal _ rfl (fun _ => rfl) rfl ?_ fun state => ?_
    · exact fun state hother => if_pos (principal_any hother)
    · change Credits _ _ (ite _ _ _)
      split
      · exact .rejected _
      · refine Credits.andThen fun _ => Credits.andThen fun _ => Credits.andThen fun result => ?_
        exact .updating result _ rfl (fun _ => rfl) fun _ => rfl

end Points

end SecureKeypad.Webauthn
