import SecureKeypad.Server.StateCodec
import SecureKeypad.Webauthn.CredentialStore

/-!
# WebAuthn Ceremony States (`secure-webauthn-example::storage`)

The state a started ceremony leaves behind, with its kind and its account, the bounds every
backend checks, and the two formats the durable backends wrap it in: a record with a 22-byte
header, and AES-256-GCM around that record.

## Main results

- `decodeCeremonyRecord_encode`: the record round trips
- `length_le_of_sealRecord`: what is sealed fits the bound the backends read with
- `openRecord_sealRecord`: and opens to the record it was made of
-/

namespace SecureKeypad.Webauthn

open Rust Server

/-! ## Bounds and errors -/

def maxPendingCeremonies : ℕ := 100000
def maxCeremonyStateBytes : ℕ := 128 * 1024
def maxCeremonyTtl : ℕ := durationFromSecs (15 * 60)

/-- `CeremonyStoreError`. -/
inductive CeremonyStoreError where
  | invalidCapacity
  | invalidTtl
  | capacityReached
  | stateTooLarge
  | invalidState
  | handleCollision
  | unavailable
deriving DecidableEq, Repr

/-- `CeremonyKind`. -/
inductive CeremonyKind where
  | registration
  | authentication
deriving DecidableEq, Repr

/-- `validate_state`. -/
def validateState (state : Bytes) : Except CeremonyStoreError Unit :=
  if state.isEmpty then .error .invalidState
  else if state.length > maxCeremonyStateBytes then .error .stateTooLarge
  else .ok ()

/-- `validate_ceremony_ttl`, at a reading of a clock that ends at `instantMax`. -/
def validateCeremonyTtl (instantMax now ttl : ℕ) : Except CeremonyStoreError Unit :=
  if ttl = 0 ∨ ttl > maxCeremonyTtl ∨ (checkedAddInstant instantMax now ttl).isNone then
    .error .invalidTtl
  else .ok ()

/-- `validate_backend_ttl`: the milliseconds of a duration. -/
def validateBackendTtl (instantMax now ttl : ℕ) : Except CeremonyStoreError ℕ := do
  validateCeremonyTtl instantMax now ttl
  let millis := ttl / 1000000
  if millis < 2 ^ 63 then .ok millis else .error .invalidTtl

/-- `CeremonyState`. -/
structure CeremonyState where
  kind : CeremonyKind
  userId : Uuid
  state : Bytes
  nonempty : state ≠ []
  bounded : state.length ≤ maxCeremonyStateBytes
deriving DecidableEq

/-- `CeremonyState::new`. -/
def CeremonyState.new (kind : CeremonyKind) (userId : Uuid) (state : Bytes) :
    Except CeremonyStoreError CeremonyState :=
  if hempty : state = [] then .error .invalidState
  else if hbound : state.length ≤ maxCeremonyStateBytes then
    .ok ⟨kind, userId, state, hempty, hbound⟩
  else .error .stateTooLarge

/-- What `validate_state` accepts is what a `CeremonyState` holds. -/
theorem validateState_eq_ok {state : Bytes} :
    validateState state = .ok () ↔ state ≠ [] ∧ state.length ≤ maxCeremonyStateBytes := by
  unfold validateState
  split_ifs with hempty hlarge
  · exact ⟨nofun, fun h => absurd (List.isEmpty_iff.mp hempty) h.1⟩
  · exact ⟨nofun, fun h => absurd hlarge (not_lt.mpr h.2)⟩
  · rw [List.isEmpty_iff] at hempty
    exact ⟨fun _ => ⟨hempty, not_lt.mp hlarge⟩, fun _ => rfl⟩

/-! ## The record -/

def ceremonyRecordVersion : UInt8 := 1
def ceremonyRecordHeaderBytes : ℕ := 1 + 1 + 16 + 4

/-- `ceremony_kind_tag`. -/
def ceremonyKindTag : CeremonyKind → UInt8
  | .registration => 1
  | .authentication => 2

/-- `ceremony_kind_from_tag`. -/
def ceremonyKindFromTag (tag : UInt8) : Option CeremonyKind :=
  if tag = 1 then some .registration
  else if tag = 2 then some .authentication
  else none

theorem ceremonyKindFromTag_tag (kind : CeremonyKind) :
    ceremonyKindFromTag (ceremonyKindTag kind) = some kind := by
  cases kind <;> rfl

/-- `Uuid::as_bytes`. -/
def uuidBytes (userId : Uuid) : Bytes := toBeBytes 16 userId.toNat

/-- `Uuid`'s text, in groups of 8, 4, 4, 4 and 12 digits. -/
def uuidText (userId : Uuid) : String :=
  let digits := (hexEncode (uuidBytes userId)).toList
  String.ofList (digits.take 8 ++ '-' :: ((digits.drop 8).take 4 ++ '-' ::
    ((digits.drop 12).take 4 ++ '-' :: ((digits.drop 16).take 4 ++ '-' :: digits.drop 20))))

/-- `Uuid::from_slice` on 16 bytes. -/
def uuidFromBytes (bytes : Bytes) : Uuid := BitVec.ofNat 128 (fromBeBytes bytes)

theorem uuidFromBytes_uuidBytes (userId : Uuid) : uuidFromBytes (uuidBytes userId) = userId := by
  have hlt : userId.toNat < 256 ^ 16 := userId.isLt
  rw [uuidFromBytes, uuidBytes, fromBeBytes_toBeBytes hlt, BitVec.ofNat_toNat,
    BitVec.setWidth_eq]

/-- `encode_ceremony_record`. -/
def encodeCeremonyRecord (kind : CeremonyKind) (userId : Uuid) (state : Bytes) :
    Except CeremonyStoreError Bytes := do
  validateState state
  match tryFromLen 4 state.length with
  | none => .error .stateTooLarge
  | some length =>
    .ok (ceremonyRecordVersion :: ceremonyKindTag kind ::
      (uuidBytes userId ++ (toBeBytes 4 length ++ state)))

/-- `decode_ceremony_record`. The first test leaves every index below in range. -/
def decodeCeremonyRecord (encoded : Bytes) : Except CeremonyStoreError CeremonyState :=
  if encoded.length < ceremonyRecordHeaderBytes ∨
      encoded.length > ceremonyRecordHeaderBytes + maxCeremonyStateBytes then
    .error .invalidState
  else if encoded.getD 0 0 ≠ ceremonyRecordVersion then .error .invalidState
  else
    match ceremonyKindFromTag (encoded.getD 1 0) with
    | none => .error .invalidState
    | some kind =>
      let userId := uuidFromBytes ((encoded.drop 2).take 16)
      let stateLen := fromBeBytes ((encoded.drop 18).take 4)
      if stateLen = 0 ∨ stateLen > maxCeremonyStateBytes ∨
          encoded.length ≠ ceremonyRecordHeaderBytes + stateLen then
        .error .invalidState
      else CeremonyState.new kind userId (encoded.drop 22)

/-- The record of a ceremony state. -/
def recordOfCeremony (ceremony : CeremonyState) : Bytes :=
  ceremonyRecordVersion :: ceremonyKindTag ceremony.kind ::
    (uuidBytes ceremony.userId ++ (toBeBytes 4 ceremony.state.length ++ ceremony.state))

theorem length_recordOfCeremony (ceremony : CeremonyState) :
    (recordOfCeremony ceremony).length = ceremonyRecordHeaderBytes + ceremony.state.length := by
  simp only [recordOfCeremony, uuidBytes, ceremonyRecordHeaderBytes, List.length_cons,
    List.length_append, length_toBeBytes]
  omega

theorem encodeCeremonyRecord_eq (ceremony : CeremonyState) :
    encodeCeremonyRecord ceremony.kind ceremony.userId ceremony.state =
      .ok (recordOfCeremony ceremony) := by
  have hfits : ceremony.state.length < 256 ^ 4 := by
    have hbound : ceremony.state.length ≤ 131072 := ceremony.bounded
    omega
  rw [encodeCeremonyRecord, validateState_eq_ok.mpr ⟨ceremony.nonempty, ceremony.bounded⟩,
    tryFromLen, if_pos hfits]
  rfl

/-- **Decoding the record of a ceremony gives the ceremony back.** -/
theorem decodeCeremonyRecord_encode (ceremony : CeremonyState) :
    decodeCeremonyRecord (recordOfCeremony ceremony) = .ok ceremony := by
  have hlength := length_recordOfCeremony ceremony
  have hbound : ceremony.state.length ≤ 131072 := ceremony.bounded
  have hpos : 0 < ceremony.state.length := List.length_pos_iff.mpr ceremony.nonempty
  have huuid : (uuidBytes ceremony.userId).length = 16 := length_toBeBytes 16 _
  -- The fields, by what stands before each.
  have hdrop2 : (recordOfCeremony ceremony).drop 2 =
      uuidBytes ceremony.userId ++ (toBeBytes 4 ceremony.state.length ++ ceremony.state) := rfl
  have hdrop18 : (recordOfCeremony ceremony).drop 18 =
      toBeBytes 4 ceremony.state.length ++ ceremony.state := by
    have hsplit : (recordOfCeremony ceremony).drop 18 =
        ((recordOfCeremony ceremony).drop 2).drop 16 := by rw [List.drop_drop]
    rw [hsplit, hdrop2, ← huuid, List.drop_left]
  have hdrop22 : (recordOfCeremony ceremony).drop 22 = ceremony.state := by
    have hsplit : (recordOfCeremony ceremony).drop 22 =
        ((recordOfCeremony ceremony).drop 18).drop 4 := by rw [List.drop_drop]
    rw [hsplit, hdrop18]
    exact List.drop_left' (length_toBeBytes 4 _)
  have huser : uuidFromBytes (((recordOfCeremony ceremony).drop 2).take 16) =
      ceremony.userId := by
    rw [hdrop2, List.take_left' huuid, uuidFromBytes_uuidBytes]
  have hlen : fromBeBytes (((recordOfCeremony ceremony).drop 18).take 4) =
      ceremony.state.length := by
    rw [hdrop18, List.take_left' (length_toBeBytes 4 _), fromBeBytes_toBeBytes (by omega)]
  have hversion : (recordOfCeremony ceremony).getD 0 0 = ceremonyRecordVersion := rfl
  have htag : (recordOfCeremony ceremony).getD 1 0 = ceremonyKindTag ceremony.kind := rfl
  have hsize : ¬ ((recordOfCeremony ceremony).length < ceremonyRecordHeaderBytes ∨
      (recordOfCeremony ceremony).length >
        ceremonyRecordHeaderBytes + maxCeremonyStateBytes) := by
    rw [hlength]
    have hmax : ceremony.state.length ≤ maxCeremonyStateBytes := ceremony.bounded
    omega
  have hfields : ¬ (ceremony.state.length = 0 ∨ ceremony.state.length > maxCeremonyStateBytes ∨
      (recordOfCeremony ceremony).length ≠
        ceremonyRecordHeaderBytes + ceremony.state.length) := by
    rintro (hzero | hlarge | hdiffers)
    · omega
    · exact absurd ceremony.bounded (not_le.mpr hlarge)
    · exact hdiffers hlength
  rw [decodeCeremonyRecord, if_neg hsize, hversion, if_neg (not_not.mpr rfl), htag,
    ceremonyKindFromTag_tag]
  simp only [huser, hlen, hdrop22]
  rw [if_neg hfields, CeremonyState.new, dif_neg ceremony.nonempty, dif_pos ceremony.bounded]

/-! ## Encryption at rest -/

def ceremonyProtectedMagic : Bytes := asBytes "SKWP"
def ceremonyProtectedVersion : ℕ := 1
def ceremonyProtectedHeaderBytes : ℕ := 4 + 2 + 12
def ceremonyProtectedTagBytes : ℕ := 16
def ceremonyProtectedAad : Bytes := asBytes "secure-keypad:webauthn-ceremony-state:v1"
def maxCeremonyRecordBytes : ℕ := ceremonyRecordHeaderBytes + maxCeremonyStateBytes
def maxProtectedCeremonyRecordBytes : ℕ :=
  ceremonyProtectedHeaderBytes + ceremonyProtectedTagBytes + maxCeremonyRecordBytes

/-- `WebAuthnStateProtector`. -/
structure WebAuthnStateProtector where
  key : Bytes
  storageNamespace : String
  key_length : key.length = 32

namespace WebAuthnStateProtector

variable (aes : Aes256Gcm) (protector : WebAuthnStateProtector)

/-- `associated_data`. -/
def associatedData : Bytes :=
  ceremonyProtectedAad ++ asBytes ":" ++ asBytes protector.storageNamespace

/-- `seal`, with the nonce drawn from `OsRng`. -/
def sealRecord (nonce : GcmNonce) (plaintext : Bytes) : Except CeremonyStoreError Bytes :=
  if plaintext.isEmpty ∨ plaintext.length > maxCeremonyRecordBytes then .error .stateTooLarge
  else
    match aes.encrypt protector.key nonce.bytes protector.associatedData plaintext with
    | none => .error .unavailable
    | some ciphertext =>
      match checkedAddUsize ceremonyProtectedHeaderBytes ciphertext.length with
      | none => .error .stateTooLarge
      | some total =>
        if total > maxProtectedCeremonyRecordBytes then .error .stateTooLarge
        else
          .ok (ceremonyProtectedMagic ++ (toLeBytes 2 ceremonyProtectedVersion ++
            (nonce.bytes ++ ciphertext)))

/-- `open`. The first test leaves every index below in range. -/
def openRecord (sealedBytes : Bytes) : Except CeremonyStoreError Bytes :=
  if sealedBytes.length < ceremonyProtectedHeaderBytes + ceremonyProtectedTagBytes ∨
      sealedBytes.length > maxProtectedCeremonyRecordBytes ∨
      sealedBytes.take 4 ≠ ceremonyProtectedMagic ∨
      fromLeBytes ((sealedBytes.drop 4).take 2) ≠ ceremonyProtectedVersion then
    .error .invalidState
  else
    match aes.decrypt protector.key ((sealedBytes.drop 6).take 12) protector.associatedData
        (sealedBytes.drop 18) with
    | none => .error .invalidState
    | some plaintext => .ok plaintext

/-- What is sealed fits the bound the backends read with. -/
theorem length_le_of_sealRecord {nonce : GcmNonce} {plaintext sealedBytes : Bytes}
    (h : protector.sealRecord aes nonce plaintext = .ok sealedBytes) :
    sealedBytes.length ≤ maxProtectedCeremonyRecordBytes := by
  unfold sealRecord at h
  split at h
  · cases h
  · split at h
    · cases h
    · next ciphertext _ =>
      split at h
      · cases h
      · next total htotal =>
        split at h
        · cases h
        · next hfits =>
          cases h
          have hsum : total = ceremonyProtectedHeaderBytes + ciphertext.length := by
            unfold checkedAddUsize at htotal
            split at htotal
            · exact (Option.some.inj htotal).symm
            · cases htotal
          have hmagic : ceremonyProtectedMagic.length = 4 := by decide +kernel
          rw [hsum, ceremonyProtectedHeaderBytes] at hfits
          simp only [List.length_append, hmagic, length_toLeBytes, nonce.length_eq]
          omega

/-- **What is sealed opens to what it was made of.** -/
theorem openRecord_sealRecord {aes : Aes256Gcm} (haes : aes.Correct) (nonce : GcmNonce)
    {plaintext : Bytes} (hnonempty : plaintext ≠ [])
    (hlength : plaintext.length ≤ maxCeremonyRecordBytes)
    (haad : protector.associatedData.length ≤ 2 ^ 36) :
    ∃ sealedBytes, protector.sealRecord aes nonce plaintext = .ok sealedBytes ∧
      protector.openRecord aes sealedBytes = .ok plaintext := by
  have hmax : maxCeremonyRecordBytes = 131094 := by decide
  obtain ⟨ciphertext, hencrypt, hciphertext, hdecrypt⟩ := haes protector.key nonce.bytes
    protector.associatedData plaintext protector.key_length nonce.length_eq haad (by omega)
  have hmagic : ceremonyProtectedMagic.length = 4 := by decide +kernel
  refine ⟨ceremonyProtectedMagic ++ (toLeBytes 2 ceremonyProtectedVersion ++
    (nonce.bytes ++ ciphertext)), ?_, ?_⟩
  -- Sealing: neither guard nor the checked sum of the lengths fails.
  · have hguard : ¬ (plaintext.isEmpty ∨ plaintext.length > maxCeremonyRecordBytes) := by
      rintro (hempty | hlarge)
      · exact hnonempty (List.isEmpty_iff.mp hempty)
      · omega
    have hadd : checkedAddUsize ceremonyProtectedHeaderBytes ciphertext.length =
        some (ceremonyProtectedHeaderBytes + ciphertext.length) := by
      rw [checkedAddUsize, ceremonyProtectedHeaderBytes, if_pos (by omega)]
    have hfits : ¬ ceremonyProtectedHeaderBytes + ciphertext.length >
        maxProtectedCeremonyRecordBytes := by
      rw [maxProtectedCeremonyRecordBytes, ceremonyProtectedHeaderBytes,
        ceremonyProtectedTagBytes]
      omega
    rw [sealRecord, if_neg hguard, hencrypt]
    simp only [hadd, if_neg hfits]
  · -- The fields, by what stands before each.
    generalize hsealed : ceremonyProtectedMagic ++ (toLeBytes 2 ceremonyProtectedVersion ++
      (nonce.bytes ++ ciphertext)) = sealedBytes
    have htake : sealedBytes.take 4 = ceremonyProtectedMagic := by
      rw [← hsealed]
      exact List.take_left' hmagic
    have hdrop4 : sealedBytes.drop 4 =
        toLeBytes 2 ceremonyProtectedVersion ++ (nonce.bytes ++ ciphertext) := by
      rw [← hsealed]
      exact List.drop_left' hmagic
    have hdrop6 : sealedBytes.drop 6 = nonce.bytes ++ ciphertext := by
      have hsplit : sealedBytes.drop 6 = (sealedBytes.drop 4).drop 2 := by rw [List.drop_drop]
      rw [hsplit, hdrop4]
      exact List.drop_left' (length_toLeBytes 2 _)
    have hdrop18 : sealedBytes.drop 18 = ciphertext := by
      have hsplit : sealedBytes.drop 18 = (sealedBytes.drop 6).drop 12 := by rw [List.drop_drop]
      rw [hsplit, hdrop6]
      exact List.drop_left' nonce.length_eq
    have hversion : fromLeBytes (toLeBytes 2 ceremonyProtectedVersion) =
        ceremonyProtectedVersion := fromLeBytes_toLeBytes (by decide)
    have hguard : ¬ (sealedBytes.length <
          ceremonyProtectedHeaderBytes + ceremonyProtectedTagBytes ∨
        sealedBytes.length > maxProtectedCeremonyRecordBytes) := by
      simp only [← hsealed, List.length_append, hmagic, length_toLeBytes, nonce.length_eq,
        hciphertext, maxProtectedCeremonyRecordBytes, ceremonyProtectedHeaderBytes,
        ceremonyProtectedTagBytes]
      omega
    rw [openRecord, if_neg]
    · rw [hdrop6, hdrop18, List.take_left' nonce.length_eq, hdecrypt]
    · rw [hdrop4, htake, List.take_left' (length_toLeBytes 2 _), hversion]
      rintro (hshort | hlong | hmagic | hversion)
      · exact hguard (.inl hshort)
      · exact hguard (.inr hlong)
      · exact hmagic rfl
      · exact hversion rfl

end WebAuthnStateProtector

end SecureKeypad.Webauthn
