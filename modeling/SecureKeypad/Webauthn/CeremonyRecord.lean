import SecureKeypad.Webauthn.Ceremony

/-!
# The Durable Ceremony Record

What the Redis and Postgres backends rely on when they write a ceremony: it encodes and seals into
the column's size bound, comes back as it was, and nothing but such a record decodes.

The decoders index and slice the bytes they are given. They are written here a second time with
every one of these a checked operation, so that a panic would show as `none`.

## Main results

- `decodeCeremonyRecordChecked_eq`, `openRecordChecked_eq`: no index or slice is out of range
- `recordOfCeremony_of_decode`: only canonical records decode
- `durable_ceremony_record`: all of it together
-/

namespace SecureKeypad.Webauthn

open Rust Server

/-! ## Checked decoders -/

/-- `Uuid::from_slice`. -/
def uuidFromSlice (bytes : Bytes) : Option Uuid :=
  if bytes.length = 16 then some (uuidFromBytes bytes) else none

/-- `u32::from_be_bytes` of a slice that has to be four bytes. -/
def u32FromBeSlice (bytes : Bytes) : Option ℕ :=
  if bytes.length = 4 then some (fromBeBytes bytes) else none

/-- `u16::from_le_bytes` of a slice that has to be two bytes. -/
def u16FromLeSlice (bytes : Bytes) : Option ℕ :=
  if bytes.length = 2 then some (fromLeBytes bytes) else none

/-- `decode_ceremony_record` with its panics. -/
def decodeCeremonyRecordChecked (encoded : Bytes) :
    Option (Except CeremonyStoreError CeremonyState) :=
  if encoded.length < ceremonyRecordHeaderBytes ∨
      encoded.length > ceremonyRecordHeaderBytes + maxCeremonyStateBytes then
    some (.error .invalidState)
  else do
    let version ← encoded[0]?
    if version ≠ ceremonyRecordVersion then some (.error .invalidState)
    else do
      let tag ← encoded[1]?
      match ceremonyKindFromTag tag with
      | none => some (.error .invalidState)
      | some kind =>
        let userBytes ← slice encoded 2 18
        match uuidFromSlice userBytes with
        | none => some (.error .invalidState)
        | some userId =>
          let lengthBytes ← slice encoded 18 22
          match u32FromBeSlice lengthBytes with
          | none => some (.error .invalidState)
          | some stateLen =>
            if stateLen = 0 ∨ stateLen > maxCeremonyStateBytes ∨
                encoded.length ≠ ceremonyRecordHeaderBytes + stateLen then
              some (.error .invalidState)
            else do
              let state ← slice encoded 22 encoded.length
              some (CeremonyState.new kind userId state)

/-- `WebAuthnStateProtector::open` with its panics; `Nonce::from_slice` panics on a slice that is
    not 12 bytes long. -/
def WebAuthnStateProtector.openRecordChecked (aes : Aes256Gcm)
    (protector : WebAuthnStateProtector) (sealedBytes : Bytes) :
    Option (Except CeremonyStoreError Bytes) :=
  if sealedBytes.length < ceremonyProtectedHeaderBytes + ceremonyProtectedTagBytes ∨
      sealedBytes.length > maxProtectedCeremonyRecordBytes then
    some (.error .invalidState)
  else do
    let magic ← slice sealedBytes 0 4
    if magic ≠ ceremonyProtectedMagic then some (.error .invalidState)
    else do
      let versionBytes ← slice sealedBytes 4 6
      match u16FromLeSlice versionBytes with
      | none => some (.error .invalidState)
      | some version =>
        if version ≠ ceremonyProtectedVersion then some (.error .invalidState)
        else do
          let nonce ← slice sealedBytes 6 ceremonyProtectedHeaderBytes
          if nonce.length ≠ 12 then none
          else do
            let ciphertext ← slice sealedBytes ceremonyProtectedHeaderBytes sealedBytes.length
            match aes.decrypt protector.key nonce protector.associatedData ciphertext with
            | none => some (.error .invalidState)
            | some plaintext => some (.ok plaintext)

/-- **No index or slice of the record decoder is out of range.** -/
theorem decodeCeremonyRecordChecked_eq (encoded : Bytes) :
    decodeCeremonyRecordChecked encoded = some (decodeCeremonyRecord encoded) := by
  unfold decodeCeremonyRecordChecked decodeCeremonyRecord
  split
  · rfl
  · next hlength =>
    -- The header that was checked first covers every access below.
    have hheader : 22 ≤ encoded.length := by
      rw [not_or, not_lt] at hlength
      exact hlength.1
    have hversion : encoded[0]? = some (encoded.getD 0 0) := by
      rw [List.getD_eq_getElem?_getD, List.getElem?_eq_getElem (by omega), Option.getD_some]
    have htag : encoded[1]? = some (encoded.getD 1 0) := by
      rw [List.getD_eq_getElem?_getD, List.getElem?_eq_getElem (by omega), Option.getD_some]
    have huser : uuidFromSlice ((encoded.drop 2).take 16) =
        some (uuidFromBytes ((encoded.drop 2).take 16)) := by
      rw [uuidFromSlice, if_pos]
      rw [List.length_take, List.length_drop]
      omega
    have hlen : u32FromBeSlice ((encoded.drop 18).take 4) =
        some (fromBeBytes ((encoded.drop 18).take 4)) := by
      rw [u32FromBeSlice, if_pos]
      rw [List.length_take, List.length_drop]
      omega
    have hrest : slice encoded 22 encoded.length = some (encoded.drop 22) := by
      rw [slice_eq_take_drop hheader le_rfl, List.take_of_length_le (by rw [List.length_drop])]
    rw [hversion, htag, slice_eq_take_drop (by omega) (by omega : 18 ≤ encoded.length),
      slice_eq_take_drop (by omega) hheader, hrest]
    simp only [Option.bind_eq_bind, Option.bind_some]
    split
    · rfl
    · cases ceremonyKindFromTag (encoded.getD 1 0) with
      | none => rfl
      | some kind =>
        simp only [huser, hlen]
        split <;> rfl

/-- **No index or slice of `open` is out of range.** -/
theorem WebAuthnStateProtector.openRecordChecked_eq (aes : Aes256Gcm)
    (protector : WebAuthnStateProtector) (sealedBytes : Bytes) :
    protector.openRecordChecked aes sealedBytes = some (protector.openRecord aes sealedBytes) := by
  unfold openRecordChecked openRecord
  split
  · next hlength => rw [if_pos (hlength.elim .inl fun h => .inr (.inl h))]
  · next hlength =>
    -- The length that was checked first covers every slice below.
    have hheader : 34 ≤ sealedBytes.length := by
      rw [not_or, not_lt] at hlength
      exact hlength.1
    have hmagic : slice sealedBytes 0 4 = some (sealedBytes.take 4) :=
      slice_eq_take_drop (by omega) (by omega)
    have hversion : u16FromLeSlice ((sealedBytes.drop 4).take 2) =
        some (fromLeBytes ((sealedBytes.drop 4).take 2)) := by
      rw [u16FromLeSlice, if_pos]
      rw [List.length_take, List.length_drop]
      omega
    have hnonce : ((sealedBytes.drop 6).take 12).length = 12 := by
      rw [List.length_take, List.length_drop]
      omega
    have hheaderBytes : slice sealedBytes 6 ceremonyProtectedHeaderBytes =
        some ((sealedBytes.drop 6).take 12) := slice_eq_take_drop (by decide) (by
      rw [ceremonyProtectedHeaderBytes]
      omega)
    have hrest : slice sealedBytes ceremonyProtectedHeaderBytes sealedBytes.length =
        some (sealedBytes.drop 18) := by
      rw [slice_eq_take_drop (by rw [ceremonyProtectedHeaderBytes]; omega) le_rfl,
        List.take_of_length_le (by rw [List.length_drop])]
      rfl
    rw [hmagic, slice_eq_take_drop (by omega) (by omega : 6 ≤ sealedBytes.length), hheaderBytes,
      hrest]
    simp only [Option.bind_eq_bind, Option.bind_some]
    rw [not_or] at hlength
    by_cases hmagicEq : sealedBytes.take 4 = ceremonyProtectedMagic
    · simp only [hmagicEq, ne_eq, not_true_eq_false, if_false, hversion, hnonce, hlength.1,
        hlength.2, false_or]
      split
      · rfl
      · cases aes.decrypt protector.key ((sealedBytes.drop 6).take 12) protector.associatedData
          (sealedBytes.drop 18) <;> rfl
    · simp only [hmagicEq, ne_eq, not_false_eq_true, if_true, true_or, or_true]

/-! ## Strictness -/

theorem ceremonyKindTag_of_fromTag {tag : UInt8} {kind : CeremonyKind}
    (h : ceremonyKindFromTag tag = some kind) : ceremonyKindTag kind = tag := by
  unfold ceremonyKindFromTag at h
  split at h
  · next htag =>
    cases h
    exact htag.symm
  · split at h
    · next htag =>
      cases h
      exact htag.symm
    · cases h

theorem uuidBytes_uuidFromBytes {bytes : Bytes} (h : bytes.length = 16) :
    uuidBytes (uuidFromBytes bytes) = bytes := by
  have hlt : fromBeBytes bytes < 2 ^ 128 := by
    rw [fromBeBytes]
    refine (fromLeBytes_lt bytes.reverse).trans_eq ?_
    rw [List.length_reverse, h]
    norm_num
  rw [uuidBytes, uuidFromBytes, BitVec.toNat_ofNat, Nat.mod_eq_of_lt hlt, toBeBytes, fromBeBytes,
    toLeBytes_fromLeBytes (by rw [List.length_reverse, h]), List.reverse_reverse]

theorem CeremonyState.new_eq_ok {kind : CeremonyKind} {userId : Uuid} {state : Bytes}
    {ceremony : CeremonyState} (h : CeremonyState.new kind userId state = .ok ceremony) :
    ceremony.kind = kind ∧ ceremony.userId = userId ∧ ceremony.state = state := by
  unfold CeremonyState.new at h
  split_ifs at h
  cases h
  exact ⟨rfl, rfl, rfl⟩

/-- A vector of at least 22 bytes is its record fields, one after the other. -/
theorem record_fields {encoded : Bytes} (h : 22 ≤ encoded.length) :
    encoded = encoded.getD 0 0 :: encoded.getD 1 0 ::
      ((encoded.drop 2).take 16 ++ ((encoded.drop 18).take 4 ++ encoded.drop 22)) := by
  obtain ⟨version, tail, rfl⟩ := List.exists_cons_of_length_pos (by omega : 0 < encoded.length)
  rw [List.length_cons] at h
  obtain ⟨tag, tail, rfl⟩ := List.exists_cons_of_length_pos (by omega : 0 < tail.length)
  have hlast : (version :: tag :: tail).drop 22 = ((version :: tag :: tail).drop 18).drop 4 := by
    rw [List.drop_drop]
  have hmiddle : (version :: tag :: tail).drop 18 = ((version :: tag :: tail).drop 2).drop 16 := by
    rw [List.drop_drop]
  rw [hlast, List.take_append_drop, hmiddle, List.take_append_drop]
  rfl

/-- **Decoding is strict**: a record that decodes is the record of what it decodes to. -/
theorem recordOfCeremony_of_decode {encoded : Bytes} {ceremony : CeremonyState}
    (h : decodeCeremonyRecord encoded = .ok ceremony) : recordOfCeremony ceremony = encoded := by
  unfold decodeCeremonyRecord at h
  split at h
  · cases h
  · next hlength =>
    have hheader : 22 ≤ encoded.length := by
      rw [not_or, not_lt] at hlength
      exact hlength.1
    split at h
    · cases h
    · next hversion =>
      split at h
      · cases h
      · next kind hkind =>
        dsimp only at h
        split at h
        · cases h
        · next hfields =>
          obtain ⟨hk, huser, hstate⟩ := CeremonyState.new_eq_ok h
          have huserBytes : ((encoded.drop 2).take 16).length = 16 := by
            rw [List.length_take, List.length_drop]
            omega
          have hlenBytes : ((encoded.drop 18).take 4).length = 4 := by
            rw [List.length_take, List.length_drop]
            omega
          -- The length field is the length of what follows it.
          have hlen : (encoded.drop 22).length = fromBeBytes ((encoded.drop 18).take 4) := by
            rw [not_or, not_or, not_not, ceremonyRecordHeaderBytes] at hfields
            rw [List.length_drop, hfields.2.2]
            omega
          rw [recordOfCeremony, hk, huser, hstate, ceremonyKindTag_of_fromTag hkind,
            uuidBytes_uuidFromBytes huserBytes, hlen, toBeBytes_fromBeBytes hlenBytes,
            ← not_not.mp hversion]
          exact (record_fields hheader).symm

/-! ## The record through encryption -/

/-- The namespace of a backend is checked before its protector is made, so the associated data is
    short. -/
theorem WebAuthnStateProtector.length_associatedData_le {ε : Type} {error : ε}
    {protector : WebAuthnStateProtector}
    (h : validateNamespaceOr error protector.storageNamespace = .ok ()) :
    protector.associatedData.length ≤ 2 ^ 36 := by
  have hnamespace : (asBytes protector.storageNamespace).length ≤ 64 :=
    (validateNamespaceOr_eq_ok h).2.1
  have haad : ceremonyProtectedAad.length = 40 := by decide +kernel
  have hcolon : (asBytes ":").length = 1 := by decide +kernel
  rw [associatedData, List.length_append, List.length_append, haad, hcolon]
  omega

/-- **Durable ceremony record.** Every ceremony a backend writes encodes, seals within the bound of
    the SQL column, and opens and decodes to the ceremony it was; a record that decodes is the
    encoding of what it decodes to; and neither decoder panics on any bytes. -/
theorem durable_ceremony_record {aes : Aes256Gcm} (haes : aes.Correct)
    (protector : WebAuthnStateProtector)
    (hnamespace : validateNamespaceOr () protector.storageNamespace = .ok ()) :
    (∀ (kind : CeremonyKind) (userId : Uuid) (state : Bytes) (nonce : GcmNonce), state ≠ [] →
      state.length ≤ maxCeremonyStateBytes →
      ∃ record sealedBytes ceremony, encodeCeremonyRecord kind userId state = .ok record ∧
        protector.sealRecord aes nonce record = .ok sealedBytes ∧
        (1 ≤ sealedBytes.length ∧ sealedBytes.length ≤ maxProtectedCeremonyRecordBytes) ∧
        protector.openRecordChecked aes sealedBytes = some (.ok record) ∧
        decodeCeremonyRecordChecked record = some (.ok ceremony) ∧
        ceremony.kind = kind ∧ ceremony.userId = userId ∧ ceremony.state = state) ∧
    maxProtectedCeremonyRecordBytes = 131128 ∧
    (∀ encoded ceremony, decodeCeremonyRecordChecked encoded = some (.ok ceremony) →
      encodeCeremonyRecord ceremony.kind ceremony.userId ceremony.state = .ok encoded) ∧
    (∀ encoded, decodeCeremonyRecordChecked encoded ≠ none) ∧
    (∀ sealedBytes, protector.openRecordChecked aes sealedBytes ≠ none) := by
  refine ⟨?roundTrip, by decide, ?strict, ?decodes, ?opens⟩
  case roundTrip =>
    intro kind userId state nonce hnonempty hbound
    let ceremony : CeremonyState := ⟨kind, userId, state, hnonempty, hbound⟩
    have hlength := length_recordOfCeremony ceremony
    have hrecord : recordOfCeremony ceremony ≠ [] := List.cons_ne_nil _ _
    obtain ⟨sealedBytes, hseal, hopen⟩ := protector.openRecord_sealRecord haes nonce hrecord
      (hlength.trans_le (Nat.add_le_add_left hbound _))
      (WebAuthnStateProtector.length_associatedData_le hnamespace)
    have hpositive : 1 ≤ sealedBytes.length := by
      -- An empty envelope does not open.
      by_contra hshort
      rw [WebAuthnStateProtector.openRecord, if_pos (.inl (by
        rw [ceremonyProtectedHeaderBytes]
        omega))] at hopen
      cases hopen
    refine ⟨recordOfCeremony ceremony, sealedBytes, ceremony, encodeCeremonyRecord_eq ceremony,
      hseal, ⟨hpositive, protector.length_le_of_sealRecord aes hseal⟩, ?_, ?_, rfl, rfl, rfl⟩
    · rw [WebAuthnStateProtector.openRecordChecked_eq, hopen]
    · rw [decodeCeremonyRecordChecked_eq, decodeCeremonyRecord_encode]
  case strict =>
    intro encoded ceremony hdecode
    rw [decodeCeremonyRecordChecked_eq, Option.some.injEq] at hdecode
    rw [encodeCeremonyRecord_eq, recordOfCeremony_of_decode hdecode]
  case decodes =>
    intro encoded
    rw [decodeCeremonyRecordChecked_eq]
    exact Option.some_ne_none _
  case opens =>
    intro sealedBytes
    rw [WebAuthnStateProtector.openRecordChecked_eq]
    exact Option.some_ne_none _

/-! ### One real record

The AES-256-GCM output for one record under the key of 32 sevens, in a scheme that appends a zero
tag everywhere else. -/

/-- The registration of account 1 with the state `abc`. -/
def sampleCeremonyRecord : Bytes :=
  [1, 1, 0, 0, 0, 0, 0, 0, 0, 0, 0, 0, 0, 0, 0, 0, 0, 1, 0, 0, 0, 3, 0x61, 0x62, 0x63]

/-- Its ciphertext and tag for the sample key, nonce and namespace. -/
def sampleCeremonyCiphertext : Bytes :=
  [0x19, 0x80, 0xE9, 0x70, 0x1D, 0x09, 0xD9, 0x49, 0x77, 0xB2, 0xE5, 0x9C, 0xE2, 0x58, 0x6C, 0xFA,
    0xE1, 0x3D, 0xB6, 0x8E, 0x18, 0x61, 0x16, 0x53, 0x75, 0xF9, 0x69, 0x9B, 0x97, 0x24, 0x63, 0x95,
    0xCE, 0xE8, 0x79, 0x4B, 0x07, 0x9D, 0xC2, 0xEB, 0x83]

def sampleCeremonyProtector : WebAuthnStateProtector :=
  ⟨sampleProtector.key, "tenant-a", sampleProtector.key_length⟩

/-- The call that sealed the sample record. -/
def IsSampleSealing (key nonce aad : Bytes) : Prop :=
  key = sampleCeremonyProtector.key ∧ nonce = sampleNonce.bytes ∧
    aad = sampleCeremonyProtector.associatedData

instance (key nonce aad : Bytes) : Decidable (IsSampleSealing key nonce aad) :=
  inferInstanceAs (Decidable (_ ∧ _))

def sampleCeremonyAes : Aes256Gcm where
  encrypt key nonce aad plaintext :=
    if IsSampleSealing key nonce aad ∧ plaintext = sampleCeremonyRecord then
      some sampleCeremonyCiphertext
    else some (plaintext ++ List.replicate 16 0)
  decrypt key nonce aad ciphertext :=
    if IsSampleSealing key nonce aad ∧ ciphertext = sampleCeremonyCiphertext then
      some sampleCeremonyRecord
    else if ciphertext.drop (ciphertext.length - 16) = List.replicate 16 0 then
      some (ciphertext.take (ciphertext.length - 16))
    else none

theorem sampleCeremonyAes_correct : sampleCeremonyAes.Correct := by
  intro key nonce aad plaintext _ _ _ _
  by_cases hsample : IsSampleSealing key nonce aad ∧ plaintext = sampleCeremonyRecord
  · refine ⟨sampleCeremonyCiphertext, if_pos hsample, ?_, ?_⟩
    · rw [hsample.2]
      rfl
    · rw [hsample.2]
      exact if_pos ⟨hsample.1, rfl⟩
  · refine ⟨plaintext ++ List.replicate 16 0, if_neg hsample, by simp, ?_⟩
    have hlength : (plaintext ++ List.replicate 16 0).length - 16 = plaintext.length := by simp
    have hne : plaintext ++ List.replicate 16 0 ≠ sampleCeremonyCiphertext := by
      intro heq
      have hdrop := congrArg (fun l : Bytes => l.drop (l.length - 16)) heq
      simp only [hlength, List.drop_left] at hdrop
      exact absurd hdrop (by decide)
    simp only [sampleCeremonyAes]
    rw [if_neg fun h => hne h.2, hlength, if_pos List.drop_left, List.take_left]

/-- The sample record through its round trip, with the real ciphertext in storage. -/
theorem durable_ceremony_record_sample :
    sampleCeremonyAes.Correct ∧
      encodeCeremonyRecord .registration 1 [0x61, 0x62, 0x63] = .ok sampleCeremonyRecord ∧
      sampleCeremonyProtector.sealRecord sampleCeremonyAes sampleNonce sampleCeremonyRecord =
        .ok ([0x53, 0x4B, 0x57, 0x50, 1, 0] ++ sampleNonce.bytes ++ sampleCeremonyCiphertext) ∧
      ∃ sealedBytes ceremony, sampleCeremonyProtector.sealRecord sampleCeremonyAes sampleNonce
          sampleCeremonyRecord = .ok sealedBytes ∧
        sealedBytes.length ≤ maxProtectedCeremonyRecordBytes ∧
        sampleCeremonyProtector.openRecordChecked sampleCeremonyAes sealedBytes =
          some (.ok sampleCeremonyRecord) ∧
        decodeCeremonyRecordChecked sampleCeremonyRecord = some (.ok ceremony) ∧
        ceremony.state = [0x61, 0x62, 0x63] := by
  have hencode : encodeCeremonyRecord .registration 1 [0x61, 0x62, 0x63] =
      .ok sampleCeremonyRecord := by
    decide +kernel
  obtain ⟨hround, _⟩ := durable_ceremony_record sampleCeremonyAes_correct sampleCeremonyProtector
    (by decide +kernel)
  obtain ⟨record, sealedBytes, ceremony, hencoded, hseal, hbound, hopen, hdecode, _, _, hstate⟩ :=
    hround .registration 1 [0x61, 0x62, 0x63] sampleNonce (by decide) (by decide)
  rw [hencode, Except.ok.injEq] at hencoded
  subst hencoded
  exact ⟨sampleCeremonyAes_correct, hencode, rfl, sealedBytes, ceremony, hseal, hbound.2, hopen,
    hdecode, hstate⟩

end SecureKeypad.Webauthn
