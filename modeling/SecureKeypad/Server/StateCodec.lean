import SecureKeypad.Library.Bytes
import SecureKeypad.Server.LoginStore
import SecureKeypad.Server.StorageNames

/-!
# The Durable Login-State Record (`secure-auth-server::opaque_state_codec`)

Embeds the three nested formats of a stored login state: the record with its length fields, the
encrypted envelope around it, and the size bound of the SQL column. AES-256-GCM comes from the
`aes_gcm` crate and is a parameter; what the code relies on is `Aes256Gcm.Correct`.

A slice out of range panics, so the decoders answer an `Option`; the size computations of the
source are checked on a 64-bit `usize`.

## Main results

- `decodeBoundState_fields`: the decoder on a record given by its fields
- `decodeBoundState_encode`: decoding inverts encoding
- `encode_of_decodeBoundState`: only canonical records decode
- `durable_record`: the round trip through encryption, its size, and strictness
-/

namespace SecureKeypad.Server

open Rust Auth

/-! ## Constants -/

def recordMagic : Bytes := [0x53, 0x4B, 0x42, 0x53]
def recordVersion : ℕ := 1
def recordHeaderBytes : ℕ := 4 + 2 + 4 + 2 + 2
def protectedMagic : Bytes := [0x53, 0x4B, 0x50, 0x45]
def protectedVersion : ℕ := 2
def protectedHeaderBytes : ℕ := 4 + 2 + 12
def protectedTagBytes : ℕ := 16
def protectedAad : Bytes := asBytes "secure-keypad:opaque-login-state:v2"
def maxDistributedLoginStateRecordBytes : ℕ := 32 * 1024
def maxDistributedLoginStateStorageBytes : ℕ :=
  protectedHeaderBytes + protectedTagBytes + maxDistributedLoginStateRecordBytes
def maxProtectedRecordBytes : ℕ := maxDistributedLoginStateStorageBytes

/-- `CHECK (octet_length(state) BETWEEN 1 AND 32802)` of the Postgres schema. -/
def sqlStateLengthCheck (state : Bytes) : Prop := 1 ≤ state.length ∧ state.length ≤ 32802

/-! ## The record -/

/-- `encode_bound_state`. -/
def encodeBoundState (state : BoundLoginState) : Except StoreError Bytes :=
  let stateBytes := state.state.bytes
  match tryFromLen 2 state.clientIdentifier.length, tryFromLen 2 state.serverIdentifier.length with
  | none, _ | some _, none => .error .stateTooLarge
  | some clientLen, some serverLen =>
    match ((checkedAddUsize recordHeaderBytes stateBytes.length).bind
        (checkedAddUsize · state.clientIdentifier.length)).bind
        (checkedAddUsize · state.serverIdentifier.length) with
    | none => .error .stateTooLarge
    | some total =>
      if stateBytes.length > maxStoredStateBytes ∨ total > maxDistributedLoginStateRecordBytes then
        .error .stateTooLarge
      else
        match tryFromLen 4 stateBytes.length with
        | none => .error .stateTooLarge
        | some stateLen =>
          .ok (recordMagic ++ (toLeBytes 2 recordVersion ++ (toLeBytes 4 stateLen ++
            (toLeBytes 2 clientLen ++ (toLeBytes 2 serverLen ++
            (stateBytes ++ (state.clientIdentifier ++ state.serverIdentifier)))))))

/-- `decode_bound_state_inner` once the length fields are read. -/
def decodeBody (encoded : Bytes) (stateLen clientLen serverLen : ℕ) :
    Option (Except StoreError BoundLoginState) :=
  match ((checkedAddUsize recordHeaderBytes stateLen).bind (checkedAddUsize · clientLen)).bind
      (checkedAddUsize · serverLen) with
  | none => some (.error .unavailable)
  | some expectedLen =>
    if stateLen = 0 ∨ stateLen > maxStoredStateBytes ∨ expectedLen ≠ encoded.length then
      some (.error .unavailable)
    else do
      let stateStart := recordHeaderBytes
      let clientStart := stateStart + stateLen
      let serverStart := clientStart + clientLen
      let state ← slice encoded stateStart clientStart
      match ServerLoginStateBytes.fromBytes state with
      | .error _ => some (.error .unavailable)
      | .ok state =>
        let clientIdentifier ← slice encoded clientStart serverStart
        let serverIdentifier ← slice encoded serverStart encoded.length
        some ((BoundLoginState.new state clientIdentifier serverIdentifier).mapError
          fun _ => .unavailable)

/-- `decode_bound_state_inner`; `decode_bound_state` wraps it and zeroizes its argument. -/
def decodeBoundState (encoded : Bytes) : Option (Except StoreError BoundLoginState) :=
  if encoded.length < recordHeaderBytes ∨ encoded.length > maxDistributedLoginStateRecordBytes then
    some (.error .unavailable)
  else do
    let magic ← slice encoded 0 4
    if magic ≠ recordMagic then some (.error .unavailable)
    else
      let version ← slice encoded 4 6
      if fromLeBytes version ≠ recordVersion then some (.error .unavailable)
      else
        let stateLen ← slice encoded 6 10
        let clientLen ← slice encoded 10 12
        let serverLen ← slice encoded 12 14
        decodeBody encoded (fromLeBytes stateLen) (fromLeBytes clientLen) (fromLeBytes serverLen)

/-! ## Encryption at rest -/

/-- The `aes_gcm` operations on key, nonce, associated data and text. -/
structure Aes256Gcm where
  /-- `encrypt_in_place`: the ciphertext with its tag. -/
  encrypt : Bytes → Bytes → Bytes → Bytes → Option Bytes
  /-- `decrypt_in_place`; `none` for a ciphertext that does not authenticate. -/
  decrypt : Bytes → Bytes → Bytes → Bytes → Option Bytes

/-- What AES-256-GCM promises on inputs within its limits of `2^36` bytes: encryption succeeds,
    adds a 16-byte tag, and is inverted by decryption under the same key, nonce and associated
    data. -/
def Aes256Gcm.Correct (aes : Aes256Gcm) : Prop :=
  ∀ key nonce aad plaintext : Bytes, key.length = 32 → nonce.length = 12 → aad.length ≤ 2 ^ 36 →
    plaintext.length ≤ 2 ^ 36 →
    ∃ ciphertext, aes.encrypt key nonce aad plaintext = some ciphertext ∧
      ciphertext.length = plaintext.length + 16 ∧
      aes.decrypt key nonce aad ciphertext = some plaintext

/-- `StateProtector`: a 32-byte key and a validated namespace. -/
structure StateProtector where
  key : Bytes
  storageNamespace : String
  key_length : key.length = 32
  namespace_bounded : (asBytes storageNamespace).length ≤ maxNamespaceBytes

/-- The 12 bytes `seal` draws from `OsRng`. -/
structure GcmNonce where
  bytes : Bytes
  length_eq : bytes.length = 12

namespace StateProtector

variable (aes : Aes256Gcm) (protector : StateProtector)

/-- `StateProtector::associated_data`. -/
def associatedData : Bytes := protectedAad ++ asBytes ":" ++ asBytes protector.storageNamespace

/-- `StateProtector::seal`. -/
def sealPlaintext (nonce : GcmNonce) (plaintext : Bytes) : Except StoreError Bytes :=
  if plaintext.isEmpty ∨ plaintext.length > maxDistributedLoginStateRecordBytes then
    .error .stateTooLarge
  else
    match aes.encrypt protector.key nonce.bytes protector.associatedData plaintext with
    | none => .error .unavailable
    | some ciphertext =>
      match checkedAddUsize protectedHeaderBytes ciphertext.length with
      | none => .error .stateTooLarge
      | some total =>
        if total > maxProtectedRecordBytes then .error .stateTooLarge
        else
          .ok (protectedMagic ++ (toLeBytes 2 protectedVersion ++ (nonce.bytes ++ ciphertext)))

/-- `StateProtector::open`. -/
def openProtected (sealedBytes : Bytes) : Option (Except StoreError Bytes) :=
  if sealedBytes.length < protectedHeaderBytes + protectedTagBytes ∨
      sealedBytes.length > maxProtectedRecordBytes then
    some (.error .unavailable)
  else do
    let magic ← slice sealedBytes 0 4
    if magic ≠ protectedMagic then some (.error .unavailable)
    else do
      let version ← slice sealedBytes 4 6
      if fromLeBytes version ≠ protectedVersion then some (.error .unavailable)
      else do
        let nonce ← slice sealedBytes 6 protectedHeaderBytes
        let ciphertext ← slice sealedBytes protectedHeaderBytes sealedBytes.length
        match aes.decrypt protector.key nonce protector.associatedData ciphertext with
        | none => some (.error .unavailable)
        | some plaintext => some (.ok plaintext)

end StateProtector

/-! ## The decoder on fields -/

private theorem bind_checkedAdd {a b c d : ℕ} (h : a + b + c + d < 2 ^ 64) :
    ((checkedAddUsize a b).bind (checkedAddUsize · c)).bind (checkedAddUsize · d) =
      some (a + b + c + d) := by
  rw [checkedAddUsize, if_pos (by omega), Option.bind_some, checkedAddUsize, if_pos (by omega),
    Option.bind_some, checkedAddUsize, if_pos h]

/-- The last step of the decoder: check the state and the identifiers. -/
def finishDecode (state client server : Bytes) : Except StoreError BoundLoginState :=
  match ServerLoginStateBytes.fromBytes state with
  | .error _ => .error .unavailable
  | .ok state => (BoundLoginState.new state client server).mapError fun _ => .unavailable

/-- Length fields that describe a body of `total` bytes. -/
def LengthsMatch (stateLen clientLen serverLen total : ℕ) : Prop :=
  0 < stateLen ∧ stateLen ≤ maxStoredStateBytes ∧ stateLen + clientLen + serverLen = total

/-- The body of a record whose lengths do not match is refused; otherwise its slices are in
    range and are the three byte strings of those lengths. -/
theorem decodeBody_cases {header rest : Bytes} {stateLen clientLen serverLen : ℕ}
    (hheader : header.length = recordHeaderBytes)
    (hlengths : stateLen < 2 ^ 32 ∧ clientLen < 2 ^ 16 ∧ serverLen < 2 ^ 16) :
    (¬ LengthsMatch stateLen clientLen serverLen rest.length ∧
        ∃ e, decodeBody (header ++ rest) stateLen clientLen serverLen = some (.error e)) ∨
      (LengthsMatch stateLen clientLen serverLen rest.length ∧
        ∃ state client server, rest = state ++ (client ++ server) ∧ state.length = stateLen ∧
          client.length = clientLen ∧ server.length = serverLen ∧
          decodeBody (header ++ rest) stateLen clientLen serverLen =
            some (finishDecode state client server)) := by
  obtain ⟨hs, hc, hv⟩ := hlengths
  generalize hresult : decodeBody (header ++ rest) stateLen clientLen serverLen = result
  rw [decodeBody, bind_checkedAdd (by unfold recordHeaderBytes; omega)] at hresult
  simp only [List.length_append, hheader] at hresult
  split at hresult
  · next hbad =>
    refine .inl ⟨?_, _, hresult.symm⟩
    -- The lengths do not add up to the rest, which the code checks before it slices.
    rintro ⟨hpos, hmax, htotal⟩
    omega
  · next hgood =>
    push Not at hgood
    obtain ⟨hpos, hmax, htotal⟩ := hgood
    -- They do: the rest splits into the three fields, and the slices are these.
    obtain ⟨state, tail, hrest, hstate, htail⟩ := exists_split rest stateLen (by omega)
    obtain ⟨client, server, hsplit, hclient, hserver⟩ := exists_split tail clientLen (by omega)
    subst hrest hsplit
    have hstateSlice : slice (header ++ (state ++ (client ++ server))) recordHeaderBytes
        (recordHeaderBytes + stateLen) = some state :=
      slice_eq_some header _ rfl hheader.symm (by omega)
    have hclientSlice : slice (header ++ (state ++ (client ++ server)))
        (recordHeaderBytes + stateLen) (recordHeaderBytes + stateLen + clientLen) =
          some client :=
      slice_eq_some (header ++ state) server (by simp only [List.append_assoc])
        (by rw [List.length_append]; omega) (by omega)
    have hserverSlice : slice (header ++ (state ++ (client ++ server)))
        (recordHeaderBytes + stateLen + clientLen)
        (recordHeaderBytes + (state ++ (client ++ server)).length) = some server :=
      slice_eq_some (header ++ state ++ client) []
        (by simp only [List.append_assoc, List.append_nil])
        (by simp only [List.length_append]; omega) (by simp only [List.length_append]; omega)
    rw [hstateSlice, hclientSlice, hserverSlice] at hresult
    refine .inr ⟨⟨Nat.pos_of_ne_zero hpos, hmax, by omega⟩, state, client, server, rfl, hstate,
      hclient, by rw [List.length_append] at htail; omega, ?_⟩
    rw [← hresult, finishDecode]
    cases hfrom : ServerLoginStateBytes.fromBytes state with
    | error e => simp only [Option.bind_eq_bind, Option.bind_some, hfrom]
    | ok bytes => simp only [Option.bind_eq_bind, Option.bind_some, hfrom]

/-- The record fields the decoder lets through to the body. -/
def FieldsAccepted (magic version stateLen clientLen serverLen rest : Bytes) : Prop :=
  magic = recordMagic ∧ fromLeBytes version = recordVersion ∧
    recordHeaderBytes + rest.length ≤ maxDistributedLoginStateRecordBytes ∧
    LengthsMatch (fromLeBytes stateLen) (fromLeBytes clientLen) (fromLeBytes serverLen) rest.length

/-- **The decoder on a record given by its fields**: it never panics, and it goes on to the body
    exactly when the fields are accepted. -/
theorem decodeBoundState_fields {magic version stateLen clientLen serverLen : Bytes}
    (rest : Bytes) (hmagic : magic.length = 4) (hversion : version.length = 2)
    (hstate : stateLen.length = 4) (hclient : clientLen.length = 2)
    (hserver : serverLen.length = 2) :
    (¬ FieldsAccepted magic version stateLen clientLen serverLen rest ∧
        ∃ e, decodeBoundState
          (magic ++ (version ++ (stateLen ++ (clientLen ++ (serverLen ++ rest))))) =
            some (.error e)) ∨
      (FieldsAccepted magic version stateLen clientLen serverLen rest ∧
        ∃ state client server, rest = state ++ (client ++ server) ∧
          state.length = fromLeBytes stateLen ∧ client.length = fromLeBytes clientLen ∧
          server.length = fromLeBytes serverLen ∧
          decodeBoundState
            (magic ++ (version ++ (stateLen ++ (clientLen ++ (serverLen ++ rest))))) =
              some (finishDecode state client server)) := by
  have hbody := @decodeBody_cases (magic ++ version ++ stateLen ++ clientLen ++ serverLen) rest
    (fromLeBytes stateLen) (fromLeBytes clientLen) (fromLeBytes serverLen)
    (by simp only [List.length_append, hmagic, hversion, hstate, hclient, hserver]; rfl)
    ⟨by have := fromLeBytes_lt stateLen; rw [hstate] at this; omega,
      by have := fromLeBytes_lt clientLen; rw [hclient] at this; omega,
      by have := fromLeBytes_lt serverLen; rw [hserver] at this; omega⟩
  simp only [List.append_assoc] at hbody
  -- The fields are read by position, and stand where the header puts them.
  generalize hencoded : magic ++ (version ++ (stateLen ++ (clientLen ++ (serverLen ++ rest)))) =
    encoded at hbody ⊢
  have hlength : encoded.length = recordHeaderBytes + rest.length := by
    rw [← hencoded]
    simp only [List.length_append, hmagic, hversion, hstate, hclient, hserver, recordHeaderBytes]
    omega
  have h0 : slice encoded 0 4 = some magic :=
    slice_eq_some [] _ hencoded.symm rfl (by omega)
  have h4 : slice encoded 4 6 = some version :=
    slice_eq_some magic _ hencoded.symm hmagic.symm (by omega)
  have h6 : slice encoded 6 10 = some stateLen := by
    refine slice_eq_some (magic ++ version) (clientLen ++ (serverLen ++ rest)) ?_ ?_ (by omega)
    · simp only [← hencoded, List.append_assoc]
    · simp only [List.length_append, hmagic, hversion]
  have h10 : slice encoded 10 12 = some clientLen := by
    refine slice_eq_some (magic ++ version ++ stateLen) (serverLen ++ rest) ?_ ?_ (by omega)
    · simp only [← hencoded, List.append_assoc]
    · simp only [List.length_append, hmagic, hversion, hstate]
  have h12 : slice encoded 12 14 = some serverLen := by
    refine slice_eq_some (magic ++ version ++ stateLen ++ clientLen) rest ?_ ?_ (by omega)
    · simp only [← hencoded, List.append_assoc]
    · simp only [List.length_append, hmagic, hversion, hstate, hclient]
  generalize hresult : decodeBoundState encoded = result
  -- The checks in the order of the code: size, magic, version, lengths.
  unfold decodeBoundState at hresult
  rw [h0, h4, h6, h10, h12] at hresult
  split at hresult
  · next hbounds =>
    refine .inl ⟨?_, _, hresult.symm⟩
    rintro ⟨_, _, hmax, _⟩
    omega
  · next hbounds =>
    simp only [Option.bind_eq_bind, Option.bind_some] at hresult
    split at hresult
    · next hmagicEq => exact .inl ⟨fun h => hmagicEq h.1, _, hresult.symm⟩
    · next hmagicEq =>
      split at hresult
      · next hversionEq => exact .inl ⟨fun h => hversionEq h.2.1, _, hresult.symm⟩
      · next hversionEq =>
        rw [← hresult]
        rcases hbody with ⟨hbad, herror⟩ | ⟨hlengths, hparts⟩
        · exact .inl ⟨fun h => hbad h.2.2.2, herror⟩
        · exact .inr ⟨⟨not_not.mp hmagicEq, not_not.mp hversionEq, by rw [← hlength]; omega,
            hlengths⟩, hparts⟩

/-! ## Round trip and strictness -/

theorem maxStoredStateBytes_eq : maxStoredStateBytes = 16441 := by decide

/-- The record of a state and two identifiers. -/
def recordOf (state client server : Bytes) : Bytes :=
  recordMagic ++ (toLeBytes 2 recordVersion ++ (toLeBytes 4 state.length ++
    (toLeBytes 2 client.length ++ (toLeBytes 2 server.length ++ (state ++ (client ++ server))))))

theorem length_recordOf (state client server : Bytes) :
    (recordOf state client server).length =
      recordHeaderBytes + state.length + client.length + server.length := by
  simp only [recordOf, recordMagic, recordHeaderBytes, List.length_append, List.length_cons,
    List.length_nil, length_toLeBytes]
  omega

theorem IsBoundedIdentifier.length_le {identifier : Bytes} (h : IsBoundedIdentifier identifier) :
    identifier.length ≤ 256 :=
  Nat.le_of_not_lt fun hlt => h (.inr hlt)

/-- A state within its bound is encoded as its record, which is within the record bound. -/
theorem encodeBoundState_eq {state : BoundLoginState}
    (hsize : state.state.bytes.length ≤ maxStoredStateBytes) :
    encodeBoundState state =
        .ok (recordOf state.state.bytes state.clientIdentifier state.serverIdentifier) ∧
      recordHeaderBytes + state.state.bytes.length + state.clientIdentifier.length +
        state.serverIdentifier.length ≤ maxDistributedLoginStateRecordBytes := by
  have hc := state.client_bounded.length_le
  have hs := state.server_bounded.length_le
  have hmax := maxStoredStateBytes_eq
  have htotal : recordHeaderBytes + state.state.bytes.length + state.clientIdentifier.length +
      state.serverIdentifier.length ≤ maxDistributedLoginStateRecordBytes := by
    unfold recordHeaderBytes maxDistributedLoginStateRecordBytes
    omega
  refine ⟨?_, htotal⟩
  unfold maxDistributedLoginStateRecordBytes at htotal
  rw [encodeBoundState, tryFromLen, if_pos (by omega), tryFromLen, if_pos (by omega)]
  simp only
  rw [bind_checkedAdd (by omega)]
  simp only
  rw [if_neg (by unfold maxDistributedLoginStateRecordBytes; omega), tryFromLen,
    if_pos (by omega)]
  rfl

/-- The last step of the decoder accepts the parts of a bound state and nothing else. -/
theorem finishDecode_eq_ok {state client server : Bytes} {bound : BoundLoginState} :
    finishDecode state client server = .ok bound ↔
      (state ≠ [] ∧ state.length ≤ maxStoredStateBytes) ∧ bound.state.bytes = state ∧
        bound.clientIdentifier = client ∧ bound.serverIdentifier = server := by
  unfold finishDecode ServerLoginStateBytes.fromBytes
  constructor
  · intro h
    split at h
    · cases h
    · next bytes hfrom =>
      split at hfrom
      · cases hfrom
      · next hempty =>
        split at hfrom
        · cases hfrom
        · next hlarge =>
          cases hfrom
          obtain ⟨hbytes, hclient, hserver⟩ := BoundLoginState.new_eq_ok (mapErr_eq_ok.mp h)
          rw [List.isEmpty_iff] at hempty
          exact ⟨⟨hempty, Nat.le_of_not_lt hlarge⟩, by rw [hbytes], hclient, hserver⟩
  · rintro ⟨⟨hempty, hsize⟩, rfl, rfl, rfl⟩
    have hfits : ¬ bound.state.bytes.length > maxServerLoginStateBytes := Nat.not_lt_of_le hsize
    rw [if_neg (by rwa [List.isEmpty_iff]), if_neg hfits]
    simp only
    rw [BoundLoginState.new, dif_pos bound.client_bounded, dif_pos bound.server_bounded]
    rfl

/-- Decoding the record of a bound state gives the state back. -/
theorem decodeBoundState_recordOf {state : BoundLoginState} (hnonempty : state.state.bytes ≠ [])
    (hsize : state.state.bytes.length ≤ maxStoredStateBytes) :
    decodeBoundState (recordOf state.state.bytes state.clientIdentifier state.serverIdentifier) =
      some (.ok state) := by
  have hc := state.client_bounded.length_le
  have hs := state.server_bounded.length_le
  have hmax := maxStoredStateBytes_eq
  have hpos : 0 < state.state.bytes.length := List.length_pos_iff.mpr hnonempty
  -- The lengths fit their fields, so they read back.
  have hstateLen : fromLeBytes (toLeBytes 4 state.state.bytes.length) = state.state.bytes.length :=
    fromLeBytes_toLeBytes (by omega)
  have hclientLen : fromLeBytes (toLeBytes 2 state.clientIdentifier.length) =
      state.clientIdentifier.length := fromLeBytes_toLeBytes (by omega)
  have hserverLen : fromLeBytes (toLeBytes 2 state.serverIdentifier.length) =
      state.serverIdentifier.length := fromLeBytes_toLeBytes (by omega)
  have haccepted : FieldsAccepted recordMagic (toLeBytes 2 recordVersion)
      (toLeBytes 4 state.state.bytes.length) (toLeBytes 2 state.clientIdentifier.length)
      (toLeBytes 2 state.serverIdentifier.length)
      (state.state.bytes ++ (state.clientIdentifier ++ state.serverIdentifier)) := by
    refine ⟨rfl, fromLeBytes_toLeBytes (by decide), ?_, ?_⟩
    · have htotal := (encodeBoundState_eq hsize).2
      simp only [List.length_append]
      omega
    · rw [hstateLen, hclientLen, hserverLen]
      exact ⟨hpos, hsize, by simp only [List.length_append]; omega⟩
  rcases decodeBoundState_fields (state.state.bytes ++ (state.clientIdentifier ++
      state.serverIdentifier)) (show recordMagic.length = 4 from rfl)
      (length_toLeBytes 2 recordVersion) (length_toLeBytes 4 state.state.bytes.length)
      (length_toLeBytes 2 state.clientIdentifier.length)
      (length_toLeBytes 2 state.serverIdentifier.length) with
    ⟨hrefused, _⟩ | ⟨_, bytes, client, server, hrest, hbytes, hclient, _, hdecode⟩
  · exact absurd haccepted hrefused
  · rw [hstateLen] at hbytes
    rw [hclientLen] at hclient
    -- The fields have the lengths of the ones that were written, so they are the same.
    obtain ⟨rfl, htail⟩ := List.append_inj hrest hbytes.symm
    obtain ⟨rfl, rfl⟩ := List.append_inj htail hclient.symm
    rw [recordOf, hdecode, finishDecode_eq_ok.mpr ⟨⟨hnonempty, hsize⟩, rfl, rfl, rfl⟩]

/-- Every record long enough for a header is given by its fields. -/
private theorem exists_fields {encoded : Bytes} (h : recordHeaderBytes ≤ encoded.length) :
    ∃ magic version stateLen clientLen serverLen rest : Bytes,
      encoded = magic ++ (version ++ (stateLen ++ (clientLen ++ (serverLen ++ rest)))) ∧
      magic.length = 4 ∧ version.length = 2 ∧ stateLen.length = 4 ∧ clientLen.length = 2 ∧
      serverLen.length = 2 := by
  unfold recordHeaderBytes at h
  obtain ⟨magic, rest, rfl, hmagic, h1⟩ := exists_split encoded 4 (by omega)
  obtain ⟨version, rest, rfl, hversion, h2⟩ := exists_split rest 2 (by omega)
  obtain ⟨stateLen, rest, rfl, hstate, h3⟩ := exists_split rest 4 (by omega)
  obtain ⟨clientLen, rest, rfl, hclient, h4⟩ := exists_split rest 2 (by omega)
  obtain ⟨serverLen, rest, rfl, hserver, _⟩ := exists_split rest 2 (by omega)
  exact ⟨magic, version, stateLen, clientLen, serverLen, rest, rfl, hmagic, hversion, hstate,
    hclient, hserver⟩

private theorem decodeBoundState_short {encoded : Bytes}
    (h : ¬ recordHeaderBytes ≤ encoded.length) :
    decodeBoundState encoded = some (.error .unavailable) := by
  rw [decodeBoundState, if_pos (.inl (Nat.lt_of_not_le h))]

/-- No slice of the decoder is out of range. -/
theorem decodeBoundState_ne_none (encoded : Bytes) : decodeBoundState encoded ≠ none := by
  by_cases hlength : recordHeaderBytes ≤ encoded.length
  · obtain ⟨magic, version, stateLen, clientLen, serverLen, rest, rfl, hmagic, hversion, hstate,
      hclient, hserver⟩ := exists_fields hlength
    rcases decodeBoundState_fields rest hmagic hversion hstate hclient hserver with
      ⟨_, e, h⟩ | ⟨_, _, _, _, _, _, _, _, h⟩
    · rw [h]
      exact Option.some_ne_none _
    · rw [h]
      exact Option.some_ne_none _
  · rw [decodeBoundState_short hlength]
    exact Option.some_ne_none _

/-- **Decoding is strict**: a record that decodes is the encoding of what it decodes to. -/
theorem encode_of_decodeBoundState {encoded : Bytes} {state : BoundLoginState}
    (h : decodeBoundState encoded = some (.ok state)) : encodeBoundState state = .ok encoded := by
  by_cases hlength : recordHeaderBytes ≤ encoded.length
  · obtain ⟨magic, version, stateLen, clientLen, serverLen, rest, rfl, hmagic, hversion, hstate,
      hclient, hserver⟩ := exists_fields hlength
    rcases decodeBoundState_fields rest hmagic hversion hstate hclient hserver with
      ⟨_, e, herror⟩ | ⟨⟨hmagicEq, hversionEq, _, _, hmax, _⟩, bytes, client, server, hrest, hbytes,
        hclientLen, hserverLen, hdecode⟩
    · rw [h] at herror
      cases herror
    · rw [h, Option.some.injEq] at hdecode
      obtain ⟨⟨_, hsize⟩, rfl, rfl, rfl⟩ := finishDecode_eq_ok.mp hdecode.symm
      rw [(encodeBoundState_eq hsize).1, recordOf, hbytes, hclientLen, hserverLen,
        toLeBytes_fromLeBytes hstate, toLeBytes_fromLeBytes hclient, toLeBytes_fromLeBytes hserver,
        ← hversionEq, toLeBytes_fromLeBytes hversion, hmagicEq, hrest]
  · rw [decodeBoundState_short hlength] at h
    cases h

/-! ## The envelope -/

namespace StateProtector

variable {aes : Aes256Gcm} {protector : StateProtector}

/-- The envelope on its fields: no slice is out of range, and an envelope of the right size,
    magic and version is decrypted. -/
theorem openProtected_fields {magic version nonce : Bytes} (ciphertext : Bytes)
    (hmagic : magic.length = 4) (hversion : version.length = 2) (hnonce : nonce.length = 12) :
    let sealedBytes := magic ++ (version ++ (nonce ++ ciphertext))
    let accepted := protectedTagBytes ≤ ciphertext.length ∧
      protectedHeaderBytes + ciphertext.length ≤ maxProtectedRecordBytes ∧
      magic = protectedMagic ∧ fromLeBytes version = protectedVersion
    (¬ accepted ∧ ∃ e, protector.openProtected aes sealedBytes = some (.error e)) ∨
      (accepted ∧ protector.openProtected aes sealedBytes =
        some (match aes.decrypt protector.key nonce protector.associatedData ciphertext with
          | none => .error .unavailable
          | some plaintext => .ok plaintext)) := by
  intro sealedBytes accepted
  have hlength : sealedBytes.length = protectedHeaderBytes + ciphertext.length := by
    simp only [sealedBytes, List.length_append, hmagic, hversion, hnonce, protectedHeaderBytes]
    omega
  -- The fields are read by position.
  have h0 : slice sealedBytes 0 4 = some magic := slice_eq_some [] _ rfl rfl (by omega)
  have h4 : slice sealedBytes 4 6 = some version :=
    slice_eq_some magic _ rfl hmagic.symm (by omega)
  have h6 : slice sealedBytes 6 protectedHeaderBytes = some nonce := by
    refine slice_eq_some (magic ++ version) ciphertext ?_ ?_ ?_
    · simp only [sealedBytes, List.append_assoc]
    · simp only [List.length_append, hmagic, hversion]
    · rw [hnonce]
      rfl
  have h18 : slice sealedBytes protectedHeaderBytes sealedBytes.length = some ciphertext := by
    refine slice_eq_some (magic ++ version ++ nonce) [] ?_ ?_ hlength
    · simp only [sealedBytes, List.append_assoc, List.append_nil]
    · simp only [List.length_append, hmagic, hversion, hnonce]
      rfl
  generalize hresult : protector.openProtected aes sealedBytes = result
  -- The checks in the order of the code: size, magic, version, and then the cipher.
  unfold openProtected at hresult
  rw [h0, h4, h6, h18] at hresult
  split at hresult
  · next hbounds =>
    refine .inl ⟨?_, _, hresult.symm⟩
    rintro ⟨htag, hmax, _⟩
    omega
  · next hbounds =>
    simp only [Option.bind_eq_bind, Option.bind_some] at hresult
    split at hresult
    · next hmagicEq => exact .inl ⟨fun h => hmagicEq h.2.2.1, _, hresult.symm⟩
    · next hmagicEq =>
      split at hresult
      · next hversionEq => exact .inl ⟨fun h => hversionEq h.2.2.2, _, hresult.symm⟩
      · next hversionEq =>
        refine .inr ⟨⟨by omega, by omega, not_not.mp hmagicEq, not_not.mp hversionEq⟩, ?_⟩
        rw [← hresult]
        cases aes.decrypt protector.key nonce protector.associatedData ciphertext <;> rfl

/-- No slice of `open` is out of range. -/
theorem openProtected_ne_none (sealedBytes : Bytes) :
    protector.openProtected aes sealedBytes ≠ none := by
  by_cases hlength : protectedHeaderBytes ≤ sealedBytes.length
  · unfold protectedHeaderBytes at hlength
    obtain ⟨magic, rest, rfl, hmagic, h1⟩ := exists_split sealedBytes 4 (by omega)
    obtain ⟨version, rest, rfl, hversion, h2⟩ := exists_split rest 2 (by omega)
    obtain ⟨nonce, ciphertext, rfl, hnonce, _⟩ := exists_split rest 12 (by omega)
    rcases openProtected_fields ciphertext hmagic hversion hnonce with ⟨_, e, h⟩ | ⟨_, h⟩
    · rw [h]
      exact Option.some_ne_none _
    · rw [h]
      exact Option.some_ne_none _
  · rw [openProtected, if_pos (.inl (by omega))]
    exact Option.some_ne_none _

theorem length_associatedData_le (protector : StateProtector) :
    protector.associatedData.length ≤ 100 := by
  have hnamespace := protector.namespace_bounded
  have hfixed : (protectedAad ++ asBytes ":").length = 36 := by decide +kernel
  unfold maxNamespaceBytes at hnamespace
  rw [associatedData, List.length_append, hfixed]
  omega

/-- Sealing a record within its bound succeeds, stays within the storage bound, and opening it
    gives the record back. -/
theorem seal_then_open (haes : aes.Correct) (nonce : GcmNonce) {plaintext : Bytes}
    (hnonempty : plaintext ≠ [])
    (hsize : plaintext.length ≤ maxDistributedLoginStateRecordBytes) :
    ∃ sealedBytes, protector.sealPlaintext aes nonce plaintext = .ok sealedBytes ∧
      sealedBytes.length = protectedHeaderBytes + plaintext.length + protectedTagBytes ∧
      protector.openProtected aes sealedBytes = some (.ok plaintext) := by
  have haad := protector.length_associatedData_le
  obtain ⟨ciphertext, hencrypt, hlength, hdecrypt⟩ := haes protector.key nonce.bytes
    protector.associatedData plaintext protector.key_length nonce.length_eq (by omega)
    (by unfold maxDistributedLoginStateRecordBytes at hsize; omega)
  -- The limit of the record leaves room for the header and the tag.
  have htotal : protectedHeaderBytes + ciphertext.length ≤ maxProtectedRecordBytes := by
    simp only [maxProtectedRecordBytes, maxDistributedLoginStateStorageBytes, protectedTagBytes,
      maxDistributedLoginStateRecordBytes] at *
    omega
  have hseal : protector.sealPlaintext aes nonce plaintext =
      .ok (protectedMagic ++ (toLeBytes 2 protectedVersion ++ (nonce.bytes ++ ciphertext))) := by
    have hsmall : protectedHeaderBytes + ciphertext.length < 2 ^ 64 :=
      htotal.trans_lt (by decide)
    rw [sealPlaintext, if_neg (by rw [List.isEmpty_iff]; exact not_or.mpr ⟨hnonempty, by omega⟩),
      hencrypt]
    simp only
    rw [checkedAddUsize, if_pos hsmall]
    simp only
    rw [if_neg (Nat.not_lt_of_le htotal)]
  refine ⟨_, hseal, ?_, ?_⟩
  · simp only [List.length_append, length_toLeBytes, nonce.length_eq, hlength, protectedMagic,
      protectedHeaderBytes, protectedTagBytes, List.length_cons, List.length_nil]
    omega
  · rcases openProtected_fields ciphertext (show protectedMagic.length = 4 from rfl)
      (length_toLeBytes 2 protectedVersion) nonce.length_eq with ⟨hrefused, _⟩ | ⟨_, hopen⟩
    · refine absurd ⟨?_, htotal, rfl, fromLeBytes_toLeBytes (by decide)⟩ hrefused
      rw [hlength]
      exact Nat.le_add_left _ _
    · rw [hopen, hdecrypt]

end StateProtector

/-! ## The durable record -/

/-- **The durable login-state record.** For every bound state with a nonempty serialized state
    within its bound, encoding succeeds, sealing the record succeeds within the storage bound of
    the SQL column, and opening and decoding give exactly the state back. Decoding is strict, and
    neither `open` nor `decode` slices out of range on any bytes. -/
theorem durable_record (aes : Aes256Gcm) (haes : aes.Correct) (protector : StateProtector)
    (nonce : GcmNonce) (state : BoundLoginState) (hnonempty : state.state.bytes ≠ [])
    (hsize : state.state.bytes.length ≤ maxStoredStateBytes) :
    (∃ encoded sealedBytes, encodeBoundState state = .ok encoded ∧
      protector.sealPlaintext aes nonce encoded = .ok sealedBytes ∧
      sealedBytes.length ≤ maxDistributedLoginStateStorageBytes ∧
      maxDistributedLoginStateStorageBytes = 32802 ∧ sqlStateLengthCheck sealedBytes ∧
      protector.openProtected aes sealedBytes = some (.ok encoded) ∧
      decodeBoundState encoded = some (.ok state)) ∧
    (∀ encoded decoded, decodeBoundState encoded = some (.ok decoded) →
      encodeBoundState decoded = .ok encoded) ∧
    (∀ encoded, decodeBoundState encoded ≠ none) ∧
    ∀ sealedBytes, protector.openProtected aes sealedBytes ≠ none := by
  obtain ⟨hencode, htotal⟩ := encodeBoundState_eq hsize
  have hlength := length_recordOf state.state.bytes state.clientIdentifier state.serverIdentifier
  have hheader : 0 < recordHeaderBytes := by decide
  have hrecord : recordOf state.state.bytes state.clientIdentifier state.serverIdentifier ≠ [] := by
    rw [← List.length_pos_iff, hlength]
    omega
  obtain ⟨sealedBytes, hseal, hsealed, hopen⟩ :=
    protector.seal_then_open haes nonce hrecord (hlength ▸ htotal)
  -- The record within its limit gives a sealed text within the limit of the column.
  have hbound : sealedBytes.length ≤ maxDistributedLoginStateStorageBytes := by
    rw [hsealed, hlength]
    unfold maxDistributedLoginStateStorageBytes
    omega
  refine ⟨⟨_, sealedBytes, hencode, hseal, hbound, rfl, ⟨?_, hbound⟩, hopen,
    decodeBoundState_recordOf hnonempty hsize⟩, fun _ _ => encode_of_decodeBoundState,
    decodeBoundState_ne_none, StateProtector.openProtected_ne_none⟩
  rw [hsealed, hlength]
  omega

/-! ### One real record

The AES-256-GCM output for one record under the key of 32 sevens, with an arbitrary correct
scheme (append a zero tag) everywhere else. -/

/-- The record of the state `abc` with the identifiers `c` and `s`. -/
def sampleRecord : Bytes :=
  [0x53, 0x4B, 0x42, 0x53, 1, 0, 3, 0, 0, 0, 1, 0, 1, 0, 0x61, 0x62, 0x63, 0x63, 0x73]

/-- Its AES-256-GCM ciphertext and tag for the sample key, nonce and namespace. -/
def sampleCiphertext : Bytes :=
  [0x4B, 0xCA, 0xAB, 0x23, 0x1C, 0x09, 0xDA, 0x49, 0x77, 0xB2, 0xE4, 0x9C, 0xE3, 0x58, 0x0D, 0x98,
    0x82, 0x5F, 0xC5, 0xA2, 0x5A, 0xCF, 0xA8, 0x09, 0x46, 0x52, 0xA4, 0x58, 0x29, 0x92, 0xA8, 0x57,
    0x27, 0x76, 0x29]

def sampleNonce : GcmNonce := ⟨[0, 1, 2, 3, 4, 5, 6, 7, 8, 9, 10, 11], rfl⟩

def sampleProtector : StateProtector :=
  ⟨List.replicate 32 7, "tenant-a", rfl, by decide +kernel⟩

/-- The call parameters of the sample record. -/
def IsSampleCall (key nonce aad : Bytes) : Prop :=
  key = sampleProtector.key ∧ nonce = sampleNonce.bytes ∧ aad = sampleProtector.associatedData

instance (key nonce aad : Bytes) : Decidable (IsSampleCall key nonce aad) :=
  inferInstanceAs (Decidable (_ ∧ _))

def sampleAes : Aes256Gcm where
  encrypt key nonce aad plaintext :=
    if IsSampleCall key nonce aad ∧ plaintext = sampleRecord then some sampleCiphertext
    else some (plaintext ++ List.replicate 16 0)
  decrypt key nonce aad ciphertext :=
    if IsSampleCall key nonce aad ∧ ciphertext = sampleCiphertext then some sampleRecord
    else if ciphertext.drop (ciphertext.length - 16) = List.replicate 16 0 then
      some (ciphertext.take (ciphertext.length - 16))
    else none

theorem sampleAes_correct : sampleAes.Correct := by
  intro key nonce aad plaintext _ _ _ _
  by_cases hsample : IsSampleCall key nonce aad ∧ plaintext = sampleRecord
  · refine ⟨sampleCiphertext, if_pos hsample, ?_, ?_⟩
    · rw [hsample.2]
      rfl
    · rw [hsample.2]
      exact if_pos ⟨hsample.1, rfl⟩
  · refine ⟨plaintext ++ List.replicate 16 0, if_neg hsample, by simp, ?_⟩
    have hlength : (plaintext ++ List.replicate 16 0).length - 16 = plaintext.length := by simp
    have hne : plaintext ++ List.replicate 16 0 ≠ sampleCiphertext := by
      intro heq
      have hdrop := congrArg (fun l : Bytes => l.drop (l.length - 16)) heq
      simp only [hlength, List.drop_left] at hdrop
      exact absurd hdrop (by decide)
    simp only [sampleAes]
    rw [if_neg fun h => hne h.2, hlength, if_pos List.drop_left, List.take_left]

/-- The sample record through its round trip, with the real ciphertext in storage. -/
theorem durable_record_sample :
    let state : BoundLoginState := ⟨⟨[0x61, 0x62, 0x63]⟩, [0x63], [0x73], by decide, by decide⟩
    state.state.bytes ≠ [] ∧ state.state.bytes.length ≤ maxStoredStateBytes ∧
      sampleAes.Correct ∧ encodeBoundState state = .ok sampleRecord ∧
      sampleProtector.sealPlaintext sampleAes sampleNonce sampleRecord =
        .ok ([0x53, 0x4B, 0x50, 0x45, 2, 0] ++ sampleNonce.bytes ++ sampleCiphertext) ∧
      ∃ sealedBytes, sampleProtector.sealPlaintext sampleAes sampleNonce sampleRecord =
          .ok sealedBytes ∧ sealedBytes.length ≤ 32802 ∧
        sampleProtector.openProtected sampleAes sealedBytes = some (.ok sampleRecord) := by
  intro state
  have hnonempty : state.state.bytes ≠ [] := by decide
  have hsize : state.state.bytes.length ≤ maxStoredStateBytes := by decide
  have hrecord : recordOf [0x61, 0x62, 0x63] [0x63] [0x73] = sampleRecord := by decide +kernel
  have hencode : encodeBoundState state = .ok sampleRecord := by
    rw [(encodeBoundState_eq hsize).1]
    exact congrArg _ hrecord
  obtain ⟨⟨encoded, sealedBytes, hencoded, hseal, hbound, _, _, hopen, _⟩, _⟩ :=
    durable_record sampleAes sampleAes_correct sampleProtector sampleNonce state hnonempty hsize
  rw [hencode, Except.ok.injEq] at hencoded
  subst hencoded
  exact ⟨hnonempty, hsize, sampleAes_correct, hencode, rfl, sealedBytes, hseal, hbound, hopen⟩

end SecureKeypad.Server
