import SecureKeypad.Http.EnvelopeText

/-!
# Envelopes Read Back (`secure-auth`)

Embeds `AuthEnvelope::from_json`: the limit on bodies, the derived deserialization of
`AuthEnvelopeWire`, which knows no other field, the visitor of `BoundedPayload`, and `from_parts`.
How `serde_json` reads a text to a value is a parameter; an object is read to all its fields, in
their order.

## Main results

- `visitSeq_eq`: the bounded loop accepts exactly what fits
- `fromJson_toVec`: an envelope is read back from its own text
- `envelope_roundTrip_and_response`: and no response of a login is too long to be sent
-/

namespace SecureKeypad.Http

open Rust Auth Server

def maxJsonBodyBytes : ℕ := 128 * 1024

/-! ## Reading -/

/-- An unsigned integer up to `max`: a number without sign, fraction and exponent. -/
def readUnsigned (max : ℕ) : Json → Option ℕ
  | .number number =>
    if number.text.toList.all Char.isDigit then
      let value := Nat.ofDigitChars 10 number.text.toList 0
      if value ≤ max then some value else none
    else none
  | _ => none

/-- `next_element::<u8>` on an element of an array. -/
def readByte (value : Json) : Option UInt8 := (readUnsigned 255 value).map UInt8.ofNat

/-- The derived `AuthMessageKind::deserialize`: the name of a variant, or an object of it. -/
def readMessageKind (value : Json) : Option AuthMessageKind :=
  let kinds : List AuthMessageKind := [.registrationRequest, .registrationResponse,
    .registrationUpload, .credentialRequest, .credentialResponse, .credentialFinalization]
  match value with
  | .str name => kinds.find? fun kind => messageKindName kind == name
  | .obj [(name, .null)] => kinds.find? fun kind => messageKindName kind == name
  | _ => none

/-- `visit_seq`, behind the bytes that were pushed. -/
def visitSeq (bytes : Bytes) : List Json → Option Bytes
  | [] => some bytes
  | element :: sequence =>
    match readByte element with
    | none => none
    | some byte =>
      if bytes.length = maxMessageBytes then none else visitSeq (bytes ++ [byte]) sequence

/-- `visit_bytes`. -/
def visitBytes (bytes : Bytes) : Option Bytes :=
  if bytes.length > maxMessageBytes then none else some bytes

/-- `BoundedPayload::deserialize`. -/
def readBoundedPayload : Json → Option Bytes
  | .str text => visitBytes (asBytes text)
  | .arr sequence => visitSeq [] sequence
  | _ => none

/-- The fields of `AuthEnvelopeWire` that were read. -/
structure WireFields where
  protocolVersion : Option ℕ
  suiteId : Option String
  messageKind : Option AuthMessageKind
  serverKeyId : Option String
  payload : Option Bytes

/-- A field that is read for the first time. -/
def readOnce {α : Type} (field : Option α) (value : Option α) : Option (Option α) :=
  if field.isSome then none else value.map some

/-- The derived `visit_map`, which refuses what it does not know and what it has. -/
def visitMap (fields : WireFields) : List (String × Json) → Option WireFields
  | [] => some fields
  | (key, value) :: rest => do
    let fields ←
      if key = "protocol_version" then do
        let field ← readOnce fields.protocolVersion (readUnsigned 65535 value)
        some { fields with protocolVersion := field }
      else if key = "suite_id" then do
        let field ← readOnce fields.suiteId value.asString?
        some { fields with suiteId := field }
      else if key = "message_kind" then do
        let field ← readOnce fields.messageKind (readMessageKind value)
        some { fields with messageKind := field }
      else if key = "server_key_id" then do
        let field ← readOnce fields.serverKeyId value.asString?
        some { fields with serverKeyId := field }
      else if key = "payload" then do
        let field ← readOnce fields.payload (readBoundedPayload value)
        some { fields with payload := field }
      else none
    visitMap fields rest

/-- The derived `AuthEnvelopeWire::deserialize`, of an object or of an array of the fields. -/
def AuthEnvelopeWire.read : Json → Option AuthEnvelopeWire
  | .obj entries => do
    let fields ← visitMap ⟨none, none, none, none, none⟩ entries
    some ⟨← fields.protocolVersion, ← fields.suiteId, ← fields.messageKind, ← fields.serverKeyId,
      ← fields.payload⟩
  | .arr [version, suite, kind, key, payload] => do
    some ⟨← readUnsigned 65535 version, ← suite.asString?, ← readMessageKind kind,
      ← key.asString?, ← readBoundedPayload payload⟩
  | _ => none

/-- `AuthEnvelope::deserialize`. -/
def readEnvelope (value : Json) : Option AuthEnvelope := do
  let wire ← AuthEnvelopeWire.read value
  (AuthEnvelope.fromParts wire.protocolVersion wire.suiteId wire.messageKind wire.serverKeyId
    wire.payload).toOption

/-- `AuthEnvelope::from_json`. -/
def fromJson (parse : Bytes → Option Json) (bytes : Bytes) : Except AuthError AuthEnvelope :=
  if bytes.length > maxJsonBodyBytes then .error .requestBodyTooLarge
  else
    match (parse bytes).bind readEnvelope with
    | none => .error .malformedTransport
    | some envelope => .ok envelope

/-! ## What is read of what was written -/

theorem readUnsigned_ofNat {n max : ℕ} (h : n ≤ max) :
    readUnsigned max (.number (.ofNat n)) = some n := by
  have hdigits : (Nat.toDigits 10 n).all Char.isDigit = true := by
    rw [List.all_eq_true]
    exact fun c hc => Nat.isDigit_of_mem_toDigits (by decide) (by decide) hc
  simp only [readUnsigned, Json.toList_ofNat, hdigits, if_true, Nat.ofDigitChars_ten_toDigits, h]

theorem readByte_ofNat (byte : UInt8) : readByte (.number (.ofNat byte.toNat)) = some byte := by
  rw [readByte, readUnsigned_ofNat (Nat.le_of_lt_succ byte.toNat_lt), Option.map_some,
    UInt8.ofNat_toNat]

theorem readMessageKind_name (kind : AuthMessageKind) :
    readMessageKind (.str (messageKindName kind)) = some kind := by
  cases kind <;> decide +kernel

/-- **The bounded loop** accepts what fits behind the bytes it has, up to the last byte. -/
theorem visitSeq_eq (bytes payload : Bytes) (hbytes : bytes.length ≤ maxMessageBytes) :
    visitSeq bytes (payload.map fun byte => .number (.ofNat byte.toNat)) =
      if bytes.length + payload.length ≤ maxMessageBytes then some (bytes ++ payload)
      else none := by
  induction payload generalizing bytes with
  | nil =>
    rw [List.map_nil, visitSeq, List.length_nil, Nat.add_zero, if_pos hbytes, List.append_nil]
  | cons byte payload ih =>
    rw [List.map_cons, visitSeq, readByte_ofNat]
    simp only
    by_cases hfull : bytes.length = maxMessageBytes
    · rw [if_pos hfull, if_neg]
      rw [hfull, List.length_cons]
      omega
    · have hroom : (bytes ++ [byte]).length ≤ maxMessageBytes := by
        rw [List.length_append]
        exact Nat.lt_of_le_of_ne hbytes hfull
      rw [if_neg hfull, ih _ hroom, List.length_append, List.length_singleton, List.length_cons,
        List.append_assoc, Nat.add_assoc, Nat.add_comm 1]
      rfl

theorem readBoundedPayload_payload (envelope : AuthEnvelope) :
    readBoundedPayload (.arr (envelope.payload.map fun byte => .number (.ofNat byte.toNat))) =
      some envelope.payload := by
  have hfits : ([] : Bytes).length + envelope.payload.length ≤ maxMessageBytes := by
    rw [List.length_nil, Nat.zero_add]
    exact Nat.le_of_not_lt envelope.payload_bounded.2
  rw [readBoundedPayload, visitSeq_eq [] envelope.payload (Nat.zero_le _), if_pos hfits,
    List.nil_append]

theorem fromParts_self (envelope : AuthEnvelope) :
    AuthEnvelope.fromParts envelope.protocolVersion envelope.suiteId envelope.messageKind
      envelope.serverKeyId envelope.payload = .ok envelope := by
  rw [AuthEnvelope.fromParts, dif_neg envelope.suite_bounded, dif_neg envelope.key_bounded,
    dif_neg envelope.payload_bounded.1, dif_neg envelope.payload_bounded.2]

theorem readEnvelope_envelopeJson {envelope : AuthEnvelope}
    (hversion : envelope.protocolVersion < 2 ^ 16) :
    readEnvelope (envelopeJson envelope) = some envelope := by
  have hwire : AuthEnvelopeWire.read (envelopeJson envelope) =
      some ⟨envelope.protocolVersion, envelope.suiteId, envelope.messageKind,
        envelope.serverKeyId, envelope.payload⟩ := by
    simp [AuthEnvelopeWire.read, envelopeJson, visitMap, readOnce, Json.asString?,
      readUnsigned_ofNat (Nat.le_of_lt_succ hversion), readMessageKind_name,
      readBoundedPayload_payload]
  rw [readEnvelope, hwire]
  simp only [Option.bind_eq_bind, Option.bind_some, fromParts_self]
  rfl

/-- **An envelope is read back** from its own text, which is within the limit. -/
theorem fromJson_toVec {parse : Bytes → Option Json} {envelope : AuthEnvelope}
    (hversion : envelope.protocolVersion < 2 ^ 16)
    (hparse : parse (toVec (envelopeJson envelope)) = some (envelopeJson envelope)) :
    (toVec (envelopeJson envelope)).length ≤ maxJsonBodyBytes ∧
      fromJson parse (toVec (envelopeJson envelope)) = .ok envelope := by
  have hlength : (toVec (envelopeJson envelope)).length ≤ maxJsonBodyBytes := by
    rw [toVec, Json.length_asBytes_ofList]
    exact (envelopeJson_width hversion).trans (by decide)
  refine ⟨hlength, ?_⟩
  rw [fromJson, if_neg (Nat.not_lt.mpr hlength), hparse, Option.bind_some,
    readEnvelope_envelopeJson hversion]

/-! ## The response of a login -/

theorem prepareLogin_protocolVersion {ke : OpaqueKe} {S : Type} {service : ServerAuthService S}
    {rng : ke.Rng} {request : AuthEnvelope} {credentialFile : Option CredentialFile}
    {credentialIdentifier clientIdentifier serverIdentifier : Bytes} {response : AuthEnvelope}
    {bound : BoundLoginState}
    (h : service.prepareLogin ke rng request credentialFile credentialIdentifier clientIdentifier
      serverIdentifier = .ok (response, bound)) : response.protocolVersion = protocolVersion := by
  unfold ServerAuthService.prepareLogin at h
  obtain ⟨message, _, h⟩ := tryOp_eq_ok.mp h
  obtain ⟨⟨responseMessage, loginState⟩, _, h⟩ := tryOp_eq_ok.mp h
  obtain ⟨envelope, henvelope, h⟩ := tryOp_eq_ok.mp h
  obtain ⟨state, _, h⟩ := tryOp_eq_ok.mp h
  cases h
  have hnew := mapErr_eq_ok.mp henvelope
  unfold AuthEnvelope.new AuthEnvelope.fromParts at hnew
  split_ifs at hnew
  cases hnew
  rfl

section Response

variable {ke : OpaqueKe} {serde : SerdeJson} {S Context R : Type}
  [BoundOneTimeLoginStateStore S Context] [CredentialRepository R]

theorem beginLogin_protocolVersion {service service' : ServerAuthService S} {context : Context}
    {rng : ke.Rng} {request : AuthEnvelope} {credentialFile : Option CredentialFile}
    {credentialIdentifier clientIdentifier serverIdentifier : Bytes} {response : AuthEnvelope}
    {handle : LoginStateHandle}
    (h : service.beginLogin ke context rng request credentialFile credentialIdentifier
      clientIdentifier serverIdentifier = (some (.ok (response, handle)), service')) :
    response.protocolVersion = protocolVersion := by
  unfold ServerAuthService.beginLogin at h
  split at h
  · cases h
  · next envelope bound hprepare =>
    simp only at h
    split at h
    · cases h
    · cases h
    · cases h
      exact prepareLogin_protocolVersion hprepare

variable (ke serde)

/-- Once `begin_login` has stored a state and returned its handle, `login_start` sends both: its
    response is the body that `serde_json` made of them, which is within the limit. -/
def SendsWhatBegan (router : HttpAuthRouter S R) (environment : RequestEnvironment ke Context)
    (body : Bytes) : Prop :=
  ∀ request credential response handle service,
    serde.readLoginStart body = some request →
    validIdentifier (asBytes request.credentialIdentifier) = true →
    validIdentifier (asBytes request.clientIdentifier) = true →
    validIdentifier (asBytes request.serverIdentifier) = true →
    CredentialRepository.load router.repository (asBytes request.credentialIdentifier) =
      .ok credential →
    router.service.beginLogin ke environment.context environment.rng request.envelope credential
      (asBytes request.credentialIdentifier) (asBytes request.clientIdentifier)
      (asBytes request.serverIdentifier) = (some (.ok (response, handle)), service) →
    (toVec (loginStartJson response (encodeHandle handle))).length ≤ maxHttpBodyBytes ∧
      (router.loginStart ke serde environment body).response =
        some ⟨200, jsonContentType, responseSecurityHeaders,
          toVec (loginStartJson response (encodeHandle handle))⟩

theorem sendsWhatBegan (router : HttpAuthRouter S R) (environment : RequestEnvironment ke Context)
    (body : Bytes) : SendsWhatBegan ke serde router environment body := by
  intro request credential response handle service hread hcredential hclient hserver hload hbegin
  have hversion := beginLogin_protocolVersion hbegin
  have hwidth := @loginStartJson_width response (hversion ▸ (by decide : protocolVersion < 2 ^ 16))
    handle
  refine ⟨hwidth, ?_⟩
  simp only [HttpAuthRouter.loginStart, hread, parseJson, Option.elim_some, hcredential, hclient,
    hserver, Bool.not_true, Bool.or_self, Bool.false_eq_true, if_false, hload, hbegin,
    jsonResponse_loginStart hversion]

end Response

/-- **Envelopes fit**: the text of an envelope is within the limit on bodies and read back as it
    was, and every login that began is answered with its handle, never with a 503. -/
theorem envelope_roundTrip_and_response (parse : Bytes → Option Json) (envelope : AuthEnvelope)
    (hversion : envelope.protocolVersion < 2 ^ 16)
    (hparse : parse (toVec (envelopeJson envelope)) = some (envelopeJson envelope)) :
    (toVec (envelopeJson envelope)).length ≤ 131072 ∧
      fromJson parse (toVec (envelopeJson envelope)) = .ok envelope ∧
      ∀ (ke : OpaqueKe) (serde : SerdeJson) (S Context R : Type)
        [BoundOneTimeLoginStateStore S Context] [CredentialRepository R]
        (router : HttpAuthRouter S R) (environment : RequestEnvironment ke Context) (body : Bytes),
        SendsWhatBegan ke serde router environment body := by
  obtain ⟨hlength, hread⟩ := fromJson_toVec hversion hparse
  exact ⟨hlength, hread, fun ke serde _ _ _ _ _ => sendsWhatBegan ke serde⟩

/-- An envelope of a future version. -/
def futureEnvelope : AuthEnvelope :=
  ⟨65535, "suite", .credentialRequest, "key", [0xFF], by decide, by decide, by decide⟩

/-- A reader of its text. -/
def readFuture (text : Bytes) : Option Json :=
  if text = toVec (envelopeJson futureEnvelope) then some (envelopeJson futureEnvelope) else none

theorem envelope_roundTrip_future :
    fromJson readFuture (toVec (envelopeJson futureEnvelope)) = .ok futureEnvelope := by
  have hread : readFuture (toVec (envelopeJson futureEnvelope)) =
      some (envelopeJson futureEnvelope) := by
    rw [readFuture, if_pos rfl]
  exact (envelope_roundTrip_and_response readFuture futureEnvelope (by decide) hread).2.1

end SecureKeypad.Http
