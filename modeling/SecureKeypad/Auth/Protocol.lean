import SecureKeypad.Library.Rust

/-!
# The OPAQUE Protocol Boundary (`secure-auth`)

Embeds the server half of `crates/secure-auth`: the versioned transport envelope with its
validation order, the serialized login-state container, and the two login operations. The
`opaque_ke` crate itself is not part of the repository; its operations are the fields of
`OpaqueKe`, about which nothing is assumed.

Values whose constructors validate (`AuthEnvelope::from_parts`) carry what was validated as
fields.
-/

namespace SecureKeypad.Auth

open Rust

/-! ## Constants and errors -/

def protocolVersion : ℕ := 1
def cipherSuiteId : String := "opaque-ke-4.0.1-ristretto255-tripledh-sha512-argon2"
def maxMessageBytes : ℕ := 16 * 1024
def maxIdentifierBytes : ℕ := 256
def serverLoginStateVersion : ℕ := 1
def maxServerLoginStateBytes : ℕ := maxMessageBytes + 6 + cipherSuiteId.utf8ByteSize
def maxServerKeyIdBytes : ℕ := 128
def maxSuiteIdBytes : ℕ := 128
def serverLoginStateMagic : Bytes := [0x53, 0x4B, 0x4C, 0x53]

/-- `AuthError`. -/
inductive AuthError where
  | protocol
  | invalidSetup
  | invalidCredentialFile
  | invalidLogin
  | invalidArgument
  | requestBodyTooLarge
  | malformedTransport
  | emptyMessage
  | messageTooLarge
  | unsupportedVersion
  | unsupportedSuite
  | unexpectedMessageKind
  | unexpectedServerKey
deriving DecidableEq

/-- `AuthMessageKind`. -/
inductive AuthMessageKind where
  | registrationRequest
  | registrationResponse
  | registrationUpload
  | credentialRequest
  | credentialResponse
  | credentialFinalization
deriving DecidableEq

/-! ## Messages and envelopes -/

/-- `Message`: an encoded OPAQUE message. -/
structure Message where
  bytes : Bytes
deriving DecidableEq

/-- `message_from_serialized`. -/
def messageFromSerialized (serialized : Bytes) : Except AuthError Message :=
  if serialized.isEmpty then .error .emptyMessage
  else if serialized.length > maxMessageBytes then .error .messageTooLarge
  else .ok ⟨serialized⟩

/-- `AuthEnvelope`; the last three fields are what `from_parts` checked. -/
structure AuthEnvelope where
  protocolVersion : ℕ
  suiteId : String
  messageKind : AuthMessageKind
  serverKeyId : String
  payload : Bytes
  suite_bounded : ¬ (suiteId.utf8ByteSize = 0 ∨ suiteId.utf8ByteSize > maxSuiteIdBytes)
  key_bounded : ¬ (serverKeyId.utf8ByteSize = 0 ∨ serverKeyId.utf8ByteSize > maxServerKeyIdBytes)
  payload_bounded : ¬ payload.isEmpty ∧ ¬ payload.length > maxMessageBytes
deriving DecidableEq

/-- `AuthEnvelope::from_parts`. -/
def AuthEnvelope.fromParts (protocolVersion : ℕ) (suiteId : String)
    (messageKind : AuthMessageKind) (serverKeyId : String) (payload : Bytes) :
    Except AuthError AuthEnvelope :=
  if hs : suiteId.utf8ByteSize = 0 ∨ suiteId.utf8ByteSize > maxSuiteIdBytes then
    .error .invalidArgument
  else if hk : serverKeyId.utf8ByteSize = 0 ∨ serverKeyId.utf8ByteSize > maxServerKeyIdBytes then
    .error .invalidArgument
  else if he : payload.isEmpty then .error .emptyMessage
  else if hl : payload.length > maxMessageBytes then .error .messageTooLarge
  else .ok ⟨protocolVersion, suiteId, messageKind, serverKeyId, payload, hs, hk, ⟨he, hl⟩⟩

/-- `AuthEnvelope::new`. -/
def AuthEnvelope.new (messageKind : AuthMessageKind) (serverKeyId : String) (message : Message) :
    Except AuthError AuthEnvelope :=
  fromParts Auth.protocolVersion cipherSuiteId messageKind serverKeyId message.bytes

theorem AuthEnvelope.new_serverKeyId {messageKind : AuthMessageKind} {serverKeyId : String}
    {message : Message} {envelope : AuthEnvelope}
    (h : AuthEnvelope.new messageKind serverKeyId message = .ok envelope) :
    envelope.serverKeyId = serverKeyId := by
  unfold AuthEnvelope.new fromParts at h
  split at h
  · cases h
  · split at h
    · cases h
    · split at h
      · cases h
      · split at h <;> cases h
        rfl

/-- `AuthEnvelope::into_message_for_server_keys`. -/
def AuthEnvelope.intoMessageForServerKeys (envelope : AuthEnvelope)
    (expectedKind : AuthMessageKind) (acceptedServerKeyIds : List String) :
    Except AuthError Message :=
  if envelope.protocolVersion ≠ Auth.protocolVersion then .error .unsupportedVersion
  else if envelope.suiteId ≠ cipherSuiteId then .error .unsupportedSuite
  else if envelope.messageKind ≠ expectedKind then .error .unexpectedMessageKind
  else if envelope.serverKeyId ∉ acceptedServerKeyIds then .error .unexpectedServerKey
  else .ok ⟨envelope.payload⟩

/-- `AuthEnvelope::into_message`. -/
def AuthEnvelope.intoMessage (envelope : AuthEnvelope) (expectedKind : AuthMessageKind)
    (expectedServerKeyId : String) : Except AuthError Message :=
  envelope.intoMessageForServerKeys expectedKind [expectedServerKeyId]

/-- The metadata an endpoint accepts. -/
def AuthEnvelope.Accepted (envelope : AuthEnvelope) (expectedKind : AuthMessageKind)
    (acceptedServerKeyIds : List String) : Prop :=
  envelope.protocolVersion = Auth.protocolVersion ∧ envelope.suiteId = cipherSuiteId ∧
    envelope.messageKind = expectedKind ∧ envelope.serverKeyId ∈ acceptedServerKeyIds

/-- An envelope opens exactly when its metadata is accepted, and then yields its payload. -/
theorem AuthEnvelope.intoMessageForServerKeys_eq_ok {envelope : AuthEnvelope}
    {expectedKind : AuthMessageKind} {acceptedServerKeyIds : List String} {message : Message} :
    envelope.intoMessageForServerKeys expectedKind acceptedServerKeyIds = .ok message ↔
      envelope.Accepted expectedKind acceptedServerKeyIds ∧ message = ⟨envelope.payload⟩ := by
  unfold intoMessageForServerKeys Accepted
  split
  · simp_all
  · split
    · simp_all
    · split
      · simp_all
      · split
        · simp_all
        · simp_all [eq_comm]

/-! ## `opaque_ke` and the stored blobs -/

/-- The `opaque_ke` operations the server calls, over their own opaque types. -/
structure OpaqueKe where
  Rng : Type
  Setup : Type
  Registration : Type
  CredentialRequest : Type
  CredentialFinalization : Type
  ServerLogin : Type
  /-- `ServerSetup::deserialize`. -/
  deserializeSetup : Bytes → Option Setup
  /-- `ServerRegistration::deserialize`. -/
  deserializeRegistration : Bytes → Option Registration
  /-- `CredentialRequest::deserialize`. -/
  deserializeCredentialRequest : Bytes → Option CredentialRequest
  /-- `CredentialFinalization::deserialize`. -/
  deserializeCredentialFinalization : Bytes → Option CredentialFinalization
  /-- `ServerLogin::start` on the credential identifier and the client and server identifiers,
      with the serialized response message. -/
  start : Rng → Setup → Option Registration → CredentialRequest → Bytes → Bytes → Bytes →
    Option (Bytes × ServerLogin)
  /-- `ServerLogin::finish` on the client and server identifiers, with the session key. -/
  finish : ServerLogin → CredentialFinalization → Bytes → Bytes → Option Bytes
  /-- `ServerLogin::serialize`. -/
  serializeLogin : ServerLogin → Bytes
  /-- `ServerLogin::deserialize`. -/
  deserializeLogin : Bytes → Option ServerLogin

/-- `ServerSetupBytes`. -/
structure ServerSetupBytes where
  bytes : Bytes

/-- `CredentialFile`. -/
structure CredentialFile where
  bytes : Bytes

/-- `SecretOutput`. -/
structure SecretOutput where
  bytes : Bytes
deriving DecidableEq

/-- `ServerLoginStateBytes`. -/
structure ServerLoginStateBytes where
  bytes : Bytes
deriving DecidableEq

/-- `ServerLoginStateBytes::from_bytes`. -/
def ServerLoginStateBytes.fromBytes (bytes : Bytes) : Except AuthError ServerLoginStateBytes :=
  if bytes.isEmpty then .error .emptyMessage
  else if bytes.length > maxServerLoginStateBytes then .error .messageTooLarge
  else .ok ⟨bytes⟩

variable (ke : OpaqueKe)

/-- `ServerSetupBytes::decode`. -/
def ServerSetupBytes.decode (setup : ServerSetupBytes) : Except AuthError ke.Setup :=
  (ke.deserializeSetup setup.bytes).elim (.error .invalidSetup) .ok

/-- `CredentialFile::decode`. -/
def CredentialFile.decode (file : CredentialFile) : Except AuthError ke.Registration :=
  (ke.deserializeRegistration file.bytes).elim (.error .invalidCredentialFile) .ok

/-- `package_server_login_state`; `SERVER_LOGIN_STATE_VERSION` is written little endian. -/
def packageServerLoginState (serialized : Bytes) : ServerLoginStateBytes :=
  ⟨serverLoginStateMagic ++
    [UInt8.ofNat (serverLoginStateVersion % 256), UInt8.ofNat (serverLoginStateVersion / 256)] ++
    asBytes cipherSuiteId ++ serialized⟩

/-- `ServerLoginState::into_bytes`. -/
def intoBytes (state : ke.ServerLogin) : ServerLoginStateBytes :=
  packageServerLoginState (ke.serializeLogin state)

/-- `decode_server_login_state`. -/
def decodeServerLoginState (bytes : Bytes) : Except AuthError Bytes :=
  let headerLength := 6 + cipherSuiteId.utf8ByteSize
  if bytes.length < headerLength ∨ bytes.take 4 ≠ serverLoginStateMagic then .error .protocol
  else if (bytes[4]!).toNat + 256 * (bytes[5]!).toNat ≠ serverLoginStateVersion then
    .error .unsupportedVersion
  else if (bytes.take headerLength).drop 6 ≠ asBytes cipherSuiteId then
    .error .unsupportedSuite
  else
    let state := bytes.drop headerLength
    if state.isEmpty then .error .emptyMessage
    else if state.length > maxMessageBytes then .error .messageTooLarge
    else .ok state

/-- `ServerLoginStateBytes::into_state`. -/
def ServerLoginStateBytes.intoState (state : ServerLoginStateBytes) :
    Except AuthError ke.ServerLogin := do
  let bytes ← decodeServerLoginState state.bytes
  (ke.deserializeLogin bytes).elim (.error .protocol) .ok

/-! ## The login operations -/

/-- `validate_identifier`. -/
def validateIdentifier (identifier : Bytes) : Except AuthError Unit :=
  if identifier.isEmpty ∨ identifier.length > maxIdentifierBytes then .error .invalidArgument
  else .ok ()

/-- `validate_identifiers`. -/
def validateIdentifiers (identifiers : List Bytes) : Except AuthError Unit :=
  identifiers.forM validateIdentifier

/-- `server_login_start`; `rng` is what the call draws from `OsRng`. -/
def serverLoginStart (rng : ke.Rng) (setup : ServerSetupBytes)
    (credentialFile : Option CredentialFile) (request : Message)
    (credentialIdentifier clientIdentifier serverIdentifier : Bytes) :
    Except AuthError (Message × ke.ServerLogin) := do
  validateIdentifiers [credentialIdentifier, clientIdentifier, serverIdentifier]
  let setup ← setup.decode ke
  let credentialFile ← match credentialFile with
    | none => .ok none
    | some file => (file.decode ke).map some
  let request ← (ke.deserializeCredentialRequest request.bytes).elim (.error .protocol) .ok
  let result ← (ke.start rng setup credentialFile request credentialIdentifier clientIdentifier
    serverIdentifier).elim (.error .protocol) .ok
  let message ← messageFromSerialized result.1
  .ok (message, result.2)

/-- `server_login_finish`. -/
def serverLoginFinish (state : ke.ServerLogin) (finalization : Message)
    (clientIdentifier serverIdentifier : Bytes) : Except AuthError SecretOutput := do
  validateIdentifiers [clientIdentifier, serverIdentifier]
  let finalization ←
    (ke.deserializeCredentialFinalization finalization.bytes).elim (.error .protocol) .ok
  let sessionKey ← (ke.finish state finalization clientIdentifier serverIdentifier).elim
    (.error .invalidLogin) .ok
  .ok ⟨sessionKey⟩

end SecureKeypad.Auth
