import SecureKeypad.Library.Separated
import SecureKeypad.Server.RedisLoginStore
import SecureKeypad.Server.RedisRateLimit
import SecureKeypad.Webauthn.CeremonyRecord
import SecureKeypad.Webauthn.RedisCeremonies

/-!
# Isolation of Storage Namespaces

The login store, the rate limiter and the WebAuthn store may share one Redis server and one
encryption key. Their keys are texts joined with colons under a configured namespace, and their
records are sealed with the record type and the namespace as associated data. This module shows
that neither runs into the other: no two different things have one key name, and a record opens
for the store and the namespace it was sealed for only.

## Main results

- `StorageKey.name_inj`: a key name tells the namespace, the purpose and the identifier
- `Protector.associatedData_inj`: the associated data tells the record type and the namespace
- `storage_isolation`: both, with what an ideal AEAD makes of the second
-/

namespace SecureKeypad.Webauthn

open Rust Server

/-! ## Key names -/

/-- `credential_key`. -/
def credentialKey (storageNamespace : String) (userId : Uuid) : String :=
  storageNamespace ++ ":webauthn:v1:credentials:" ++ uuidText userId

/-- A key one of the stores uses. -/
inductive StorageKey where
  | loginState (store : LoginKeyspace) (handle : LoginStateHandle)
  | loginPending (store : LoginKeyspace)
  | rateCounter (limiter : RedisRateLimiter) (key : Bytes)
  | rateIndex (limiter : RedisRateLimiter)
  | ceremony (storageNamespace : String) (kind : CeremonyKind) (handle : LoginStateHandle)
  | ceremonyPending (storageNamespace : String)
  | credentials (storageNamespace : String) (userId : Uuid)

/-- What a key is for: its purpose with its identifier. -/
inductive KeyPurpose where
  | loginState (handle : LoginStateHandle)
  | loginPending
  | rateCounter (key : Bytes)
  | rateIndex
  | ceremony (kind : CeremonyKind) (handle : LoginStateHandle)
  | ceremonyPending
  | credentials (userId : Uuid)

namespace StorageKey

/-- The name of the key, as the store formats it. -/
def name (sha256 : Bytes → Bytes) : StorageKey → String
  | loginState store handle => store.stateKey (hashHandle sha256 handle)
  | loginPending store => store.pendingIndexKey
  | rateCounter limiter key => limiter.keyName (hashKey sha256 key)
  | rateIndex limiter => limiter.indexName
  | ceremony storageNamespace kind handle => ceremonyKey storageNamespace kind handle
  | ceremonyPending storageNamespace => pendingIndexKey storageNamespace
  | credentials storageNamespace userId => credentialKey storageNamespace userId

/-- The namespace the key is under. -/
def storageNamespace : StorageKey → String
  | loginState store _ | loginPending store => store.storageNamespace
  | rateCounter limiter _ | rateIndex limiter => limiter.storageNamespace
  | ceremony storageNamespace _ _ | ceremonyPending storageNamespace
  | credentials storageNamespace _ => storageNamespace

/-- What the key is for. -/
def purpose : StorageKey → KeyPurpose
  | loginState _ handle => .loginState handle
  | loginPending _ => .loginPending
  | rateCounter _ key => .rateCounter key
  | rateIndex _ => .rateIndex
  | ceremony _ kind handle => .ceremony kind handle
  | ceremonyPending _ => .ceremonyPending
  | credentials _ userId => .credentials userId

/-- The value SHA-256 is used on. -/
def hashed : StorageKey → Option Bytes
  | loginState _ handle => some handle.bytes
  | rateCounter _ key => some key
  | _ => none

end StorageKey

/-- The segments of a key name behind the namespace. -/
def KeyPurpose.segments (sha256 : Bytes → Bytes) : KeyPurpose → List String
  | .loginState handle => ["opaque", "v1", "login", hashHandle sha256 handle]
  | .loginPending => ["opaque", "v1", "login", "pending"]
  | .rateCounter key => ["ratelimit", "v1", "key", hashKey sha256 key]
  | .rateIndex => ["ratelimit", "v1", "index"]
  | .ceremony kind handle => ["webauthn", "v1", kind.word, hexEncode handle.bytes]
  | .ceremonyPending => ["webauthn", "v1", "pending"]
  | .credentials userId => ["webauthn", "v1", "credentials", uuidText userId]

/-- A key name is its namespace and its segments, joined with colons. -/
theorem StorageKey.toList_name (sha256 : Bytes → Bytes) (key : StorageKey) :
    (key.name sha256).toList =
      Separated.joined ':' (key.storageNamespace :: key.purpose.segments sha256) := by
  cases key <;>
    simp [name, storageNamespace, purpose, KeyPurpose.segments, Separated.joined,
      List.intercalate, LoginKeyspace.stateKey, LoginKeyspace.pendingIndexKey,
      RedisRateLimiter.keyName, RedisRateLimiter.indexName, ceremonyKey, pendingIndexKey,
      credentialKey]

/-! ## Segments -/

theorem colon_notMem_hexEncode (bytes : Bytes) : ':' ∉ (hexEncode bytes).toList := by
  intro h
  exact absurd (mem_hexEncode h) (by decide)

theorem hyphen_notMem_hexEncode (bytes : Bytes) : '-' ∉ (hexEncode bytes).toList := by
  intro h
  exact absurd (mem_hexEncode h) (by decide)

/-- The hexadecimal parts of a UUID's text. -/
theorem toList_uuidText (userId : Uuid) :
    (uuidText userId).toList = Separated.joined '-'
      [hexEncode ((uuidBytes userId).take 4), hexEncode (((uuidBytes userId).drop 4).take 2),
        hexEncode (((uuidBytes userId).drop 6).take 2),
        hexEncode (((uuidBytes userId).drop 8).take 2),
        hexEncode ((uuidBytes userId).drop 10)] := by
  simp only [Separated.joined, List.map_cons, List.map_nil, toList_hexEncode_take,
    toList_hexEncode_drop]
  simp [uuidText, List.intercalate]

theorem colon_notMem_uuidText (userId : Uuid) : ':' ∉ (uuidText userId).toList := by
  have hparts := toList_uuidText userId
  simp only [Separated.joined, List.intercalate] at hparts
  rw [hparts]
  simp [colon_notMem_hexEncode]

theorem uuidText_injective {a b : Uuid} (h : uuidText a = uuidText b) : a = b := by
  have hparts := congrArg String.toList h
  rw [toList_uuidText, toList_uuidText] at hparts
  have heq := Separated.joined_inj (List.cons_ne_nil _ _) (List.cons_ne_nil _ _)
    (by simp [hyphen_notMem_hexEncode]) (by simp [hyphen_notMem_hexEncode]) hparts
  simp only [List.cons.injEq, and_true] at heq
  obtain ⟨h0, h4, h6, h8, h10⟩ := heq
  have hbytes : uuidBytes a = uuidBytes b := by
    rw [← List.take_append_drop 4 (uuidBytes a), ← List.take_append_drop 4 (uuidBytes b),
      ← List.take_append_drop 2 ((uuidBytes a).drop 4),
      ← List.take_append_drop 2 ((uuidBytes b).drop 4), List.drop_drop, List.drop_drop,
      ← List.take_append_drop 2 ((uuidBytes a).drop 6),
      ← List.take_append_drop 2 ((uuidBytes b).drop 6), List.drop_drop, List.drop_drop,
      ← List.take_append_drop 2 ((uuidBytes a).drop 8),
      ← List.take_append_drop 2 ((uuidBytes b).drop 8), List.drop_drop, List.drop_drop,
      hexEncode_injective h0, hexEncode_injective h4, hexEncode_injective h6,
      hexEncode_injective h8, hexEncode_injective h10]
  rw [← uuidFromBytes_uuidBytes a, hbytes, uuidFromBytes_uuidBytes]

/-- An accepted namespace has no colon. -/
theorem colon_notMem_of_validateNamespace {ε : Type} {error : ε} {storageNamespace : String}
    (h : validateNamespaceOr error storageNamespace = .ok ()) :
    ':' ∉ storageNamespace.toList := by
  intro hmem
  have hbyte : (0x3A : UInt8) ∈ asBytes storageNamespace := by
    have hutf8 := asBytes_ofList storageNamespace.toList
    rw [String.ofList_toList] at hutf8
    rw [hutf8]
    exact List.mem_flatMap.mpr ⟨':', hmem, by decide⟩
  have hall := List.all_eq_true.mp (validateNamespaceOr_eq_ok h).2.2 _ hbyte
  exact absurd hall (by decide)

theorem KeyPurpose.colon_notMem_segments (sha256 : Bytes → Bytes) (purpose : KeyPurpose) :
    ∀ segment ∈ purpose.segments sha256, ':' ∉ segment.toList := by
  cases purpose with
  | ceremony kind handle =>
    cases kind <;> simp [segments, CeremonyKind.word, colon_notMem_hexEncode]
  | _ => simp [segments, hashHandle, hashKey, colon_notMem_hexEncode, colon_notMem_uuidText]

/-- A hash is never the word `pending`. -/
theorem hexEncode_ne_pending (bytes : Bytes) : hexEncode bytes ≠ "pending" := by
  intro h
  have hmem : 'p' ∈ (hexEncode bytes).toList := by
    rw [h]
    decide
  exact absurd (mem_hexEncode hmem) (by decide)

theorem LoginStateHandle.ext_bytes {a b : LoginStateHandle} (h : a.bytes = b.bytes) : a = b := by
  cases a
  cases b
  cases h
  rfl

/-- The segments tell the purpose and the identifier, where SHA-256 has no collision. -/
theorem StorageKey.purpose_eq_of_segments {sha256 : Bytes → Bytes} {key key' : StorageKey}
    (hsha : ∀ a ∈ key.hashed, ∀ b ∈ key'.hashed, sha256 a = sha256 b → a = b)
    (h : key.purpose.segments sha256 = key'.purpose.segments sha256) :
    key.purpose = key'.purpose := by
  cases key with
  | loginState store handle =>
    cases key' with
    | loginState store' handle' =>
      simp only [purpose, KeyPurpose.segments, List.cons.injEq, true_and, and_true] at h
      have hbytes := hsha _ rfl _ rfl (hexEncode_injective h)
      rw [purpose, purpose, LoginStateHandle.ext_bytes hbytes]
    -- The index has a word where a state has a digest in hexadecimal.
    | loginPending store' =>
      simp only [purpose, KeyPurpose.segments, List.cons.injEq, true_and, and_true] at h
      exact absurd h (hexEncode_ne_pending _)
    | _ => simp [purpose, KeyPurpose.segments] at h
  | loginPending store =>
    cases key' with
    | loginState store' handle' =>
      simp only [purpose, KeyPurpose.segments, List.cons.injEq, true_and, and_true] at h
      exact absurd h.symm (hexEncode_ne_pending _)
    | loginPending store' => rfl
    | _ => simp [purpose, KeyPurpose.segments] at h
  | rateCounter limiter key =>
    cases key' with
    | rateCounter limiter' key' =>
      simp only [purpose, KeyPurpose.segments, List.cons.injEq, true_and, and_true] at h
      rw [purpose, purpose, hsha _ rfl _ rfl (hexEncode_injective h)]
    | _ => simp [purpose, KeyPurpose.segments] at h
  | rateIndex limiter =>
    cases key' with
    | rateIndex limiter' => rfl
    | _ => simp [purpose, KeyPurpose.segments] at h
  | ceremony storageNamespace kind handle =>
    cases key' with
    | ceremony storageNamespace' kind' handle' =>
      simp only [purpose, KeyPurpose.segments, List.cons.injEq, true_and, and_true] at h
      -- The two kinds have different words.
      have hkind : kind = kind' := by
        cases kind <;> cases kind' <;> simp_all [CeremonyKind.word]
      rw [purpose, purpose, hkind, LoginStateHandle.ext_bytes (hexEncode_injective h.2)]
    -- Neither word is the word of the credentials.
    | credentials storageNamespace' userId =>
      cases kind <;> simp [purpose, KeyPurpose.segments, CeremonyKind.word] at h
    | _ => simp [purpose, KeyPurpose.segments] at h
  | ceremonyPending storageNamespace =>
    cases key' with
    | ceremonyPending storageNamespace' => rfl
    | _ => simp [purpose, KeyPurpose.segments] at h
  | credentials storageNamespace userId =>
    cases key' with
    | credentials storageNamespace' userId' =>
      simp only [purpose, KeyPurpose.segments, List.cons.injEq, true_and, and_true] at h
      rw [purpose, purpose, uuidText_injective h]
    | ceremony storageNamespace' kind handle =>
      cases kind <;> simp [purpose, KeyPurpose.segments, CeremonyKind.word] at h
    | _ => simp [purpose, KeyPurpose.segments] at h

/-- **Key names**: two keys under accepted namespaces have one name exactly when namespace, purpose
    and identifier are the same. -/
theorem StorageKey.name_inj {sha256 : Bytes → Bytes} {key key' : StorageKey}
    (hvalid : validateNamespaceOr () key.storageNamespace = .ok ())
    (hvalid' : validateNamespaceOr () key'.storageNamespace = .ok ())
    (hsha : ∀ a ∈ key.hashed, ∀ b ∈ key'.hashed, sha256 a = sha256 b → a = b) :
    key.name sha256 = key'.name sha256 ↔
      key.storageNamespace = key'.storageNamespace ∧ key.purpose = key'.purpose := by
  rw [← String.toList_inj, toList_name, toList_name]
  constructor
  · intro h
    have hparts := Separated.joined_inj (List.cons_ne_nil _ _) (List.cons_ne_nil _ _)
      (List.forall_mem_cons.mpr ⟨colon_notMem_of_validateNamespace hvalid,
        key.purpose.colon_notMem_segments sha256⟩)
      (List.forall_mem_cons.mpr ⟨colon_notMem_of_validateNamespace hvalid',
        key'.purpose.colon_notMem_segments sha256⟩) h
    obtain ⟨hnamespace, hsegments⟩ := List.cons.inj hparts
    exact ⟨hnamespace, purpose_eq_of_segments hsha hsegments⟩
  · intro ⟨hnamespace, hpurpose⟩
    rw [hnamespace, hpurpose]

/-! ## Associated data -/

/-- The two kinds of record the stores seal. -/
inductive RecordType where
  | loginState
  | ceremonyState
deriving DecidableEq

/-- The protector of a store. -/
inductive Protector where
  | login (protector : StateProtector)
  | ceremony (protector : WebAuthnStateProtector)

namespace Protector

def recordType : Protector → RecordType
  | login _ => .loginState
  | ceremony _ => .ceremonyState

def key : Protector → Bytes
  | login protector => protector.key
  | ceremony protector => protector.key

def storageNamespace : Protector → String
  | login protector => protector.storageNamespace
  | ceremony protector => protector.storageNamespace

def associatedData : Protector → Bytes
  | login protector => protector.associatedData
  | ceremony protector => protector.associatedData

/-- `seal`; `none` for every error. -/
def sealBytes (aes : Aes256Gcm) (nonce : GcmNonce) (plaintext : Bytes) : Protector → Option Bytes
  | login protector => (protector.sealPlaintext aes nonce plaintext).toOption
  | ceremony protector => (protector.sealRecord aes nonce plaintext).toOption

/-- `open`; `none` for every error. -/
def openBytes (aes : Aes256Gcm) (sealedBytes : Bytes) : Protector → Option Bytes
  | login protector => (protector.openProtected aes sealedBytes).bind Except.toOption
  | ceremony protector => (protector.openRecord aes sealedBytes).toOption

/-- The texts the two kinds of record start their associated data with do not start one
    another: they differ behind `secure-keypad:`. -/
theorem associatedData_inj {p q : Protector} (h : p.associatedData = q.associatedData) :
    p.recordType = q.recordType ∧ p.storageNamespace = q.storageNamespace := by
  -- The two prefixes differ in their byte 14, the first that tells them apart.
  have hlogin : protectedAad[14]? = some 0x6F := by decide +kernel
  have hceremony : ceremonyProtectedAad[14]? = some 0x77 := by decide +kernel
  have hloginLength : 14 < protectedAad.length := by decide +kernel
  have hceremonyLength : 14 < ceremonyProtectedAad.length := by decide +kernel
  cases p with
  | login p =>
    cases q with
    | login q =>
      refine ⟨rfl, asBytes_injective ?_⟩
      exact @List.append_cancel_left _ (protectedAad ++ asBytes ":") _ _ h
    | ceremony q =>
      have hbyte := congrArg (fun bytes : Bytes => bytes[14]?) h
      simp only [associatedData, StateProtector.associatedData,
        WebAuthnStateProtector.associatedData, List.append_assoc,
        List.getElem?_append_left hloginLength, List.getElem?_append_left hceremonyLength, hlogin,
        hceremony] at hbyte
      exact absurd hbyte (by decide)
  | ceremony p =>
    cases q with
    | login q =>
      have hbyte := congrArg (fun bytes : Bytes => bytes[14]?) h
      simp only [associatedData, StateProtector.associatedData,
        WebAuthnStateProtector.associatedData, List.append_assoc,
        List.getElem?_append_left hloginLength, List.getElem?_append_left hceremonyLength, hlogin,
        hceremony] at hbyte
      exact absurd hbyte (by decide)
    | ceremony q =>
      refine ⟨rfl, asBytes_injective ?_⟩
      exact @List.append_cancel_left _ (ceremonyProtectedAad ++ asBytes ":") _ _ h

theorem associatedData_congr {p q : Protector}
    (h : p.recordType = q.recordType ∧ p.storageNamespace = q.storageNamespace) :
    p.associatedData = q.associatedData := by
  obtain ⟨htype, hnamespace⟩ := h
  cases p with
  | login p =>
    cases q with
    | login q =>
      exact congrArg (fun name => protectedAad ++ asBytes ":" ++ asBytes name) hnamespace
    | ceremony q => cases htype
  | ceremony p =>
    cases q with
    | login q => cases htype
    | ceremony q =>
      exact congrArg (fun name => ceremonyProtectedAad ++ asBytes ":" ++ asBytes name) hnamespace

end Protector

/-! ## What opens where -/

/-- One encryption that was made: key, nonce and associated data, and the ciphertext it gave. -/
structure Encryption where
  key : Bytes
  nonce : Bytes
  aad : Bytes
  ciphertext : Bytes

/-- An ideal AEAD: a ciphertext that was made decrypts only under the key, the nonce and the
    associated data it was made under. -/
def Aes256Gcm.IdealOn (aes : Aes256Gcm) (made : Set Encryption) : Prop :=
  ∀ encryption ∈ made, ∀ key nonce aad plaintext,
    aes.decrypt key nonce aad encryption.ciphertext = some plaintext →
    key = encryption.key ∧ nonce = encryption.nonce ∧ aad = encryption.aad

/-- Every encryption of the plaintext a protector makes is recorded. -/
def Protector.Records (aes : Aes256Gcm) (made : Set Encryption) (p : Protector)
    (nonce : GcmNonce) (plaintext : Bytes) : Prop :=
  ∀ ciphertext, aes.encrypt p.key nonce.bytes p.associatedData plaintext = some ciphertext →
    ⟨p.key, nonce.bytes, p.associatedData, ciphertext⟩ ∈ made

/-- Behind the header of 18 bytes stands the ciphertext. -/
theorem drop_header {magic version ciphertext : Bytes} (nonce : GcmNonce) (hmagic : magic.length = 4)
    (hversion : version.length = 2) :
    (magic ++ (version ++ (nonce.bytes ++ ciphertext))).drop 18 = ciphertext := by
  rw [← List.append_assoc, ← List.append_assoc]
  apply List.drop_left'
  simp only [List.length_append, hmagic, hversion, nonce.length_eq]

theorem toOption_eq_some {ε α : Type} {result : Except ε α} {a : α} :
    result.toOption = some a ↔ result = .ok a := by
  cases result <;> simp [Except.toOption]

/-- What is sealed holds a ciphertext made under the own associated data. -/
theorem Protector.encrypt_of_sealBytes {aes : Aes256Gcm} {p : Protector} {nonce : GcmNonce}
    {plaintext sealedBytes : Bytes} (h : p.sealBytes aes nonce plaintext = some sealedBytes) :
    aes.encrypt p.key nonce.bytes p.associatedData plaintext = some (sealedBytes.drop 18) := by
  -- Both records put the ciphertext behind a header of the same length.
  cases p with
  | login protector =>
    have hseal : protector.sealPlaintext aes nonce plaintext = .ok sealedBytes :=
      toOption_eq_some.mp h
    unfold StateProtector.sealPlaintext at hseal
    split_ifs at hseal
    split at hseal
    · cases hseal
    · next ciphertext hencrypt =>
      split at hseal
      · cases hseal
      · split_ifs at hseal
        cases hseal
        rw [drop_header nonce rfl (length_toLeBytes 2 _)]
        exact hencrypt
  | ceremony protector =>
    have hseal : protector.sealRecord aes nonce plaintext = .ok sealedBytes :=
      toOption_eq_some.mp h
    unfold WebAuthnStateProtector.sealRecord at hseal
    split_ifs at hseal
    split at hseal
    · cases hseal
    · next ciphertext hencrypt =>
      split at hseal
      · cases hseal
      · split_ifs at hseal
        cases hseal
        rw [drop_header nonce (by decide +kernel) (length_toLeBytes 2 _)]
        exact hencrypt

/-- What opens was decrypted under the own associated data. -/
theorem Protector.decrypt_of_openBytes {aes : Aes256Gcm} {p : Protector}
    {sealedBytes plaintext : Bytes} (h : p.openBytes aes sealedBytes = some plaintext) :
    ∃ nonce, aes.decrypt p.key nonce p.associatedData (sealedBytes.drop 18) = some plaintext := by
  cases p with
  | login protector =>
    obtain ⟨result, hopen, hresult⟩ := Option.bind_eq_some_iff.mp h
    obtain rfl := toOption_eq_some.mp hresult
    unfold StateProtector.openProtected at hopen
    split_ifs at hopen with hlength
    · cases hopen
    -- The record is long enough for its header, so the slices are the ones of the fields.
    · have hheader : 34 ≤ sealedBytes.length := by
        rw [not_or, not_lt] at hlength
        exact hlength.1
      have hrest : slice sealedBytes protectedHeaderBytes sealedBytes.length =
          some (sealedBytes.drop 18) := by
        rw [slice_eq_take_drop (by rw [protectedHeaderBytes]; omega) le_rfl,
          List.take_of_length_le (by rw [List.length_drop])]
        rfl
      rw [hrest, slice_eq_take_drop (by omega) (by omega : 4 ≤ sealedBytes.length),
        slice_eq_take_drop (by omega) (by omega : 6 ≤ sealedBytes.length),
        slice_eq_take_drop (by decide) (by rw [protectedHeaderBytes]; omega)] at hopen
      simp only [Option.bind_eq_bind, Option.bind_some] at hopen
      split_ifs at hopen
      · cases hopen
      · cases hopen
      · split at hopen
        · cases hopen
        · next text hdecrypt =>
          cases hopen
          exact ⟨_, hdecrypt⟩
  | ceremony protector =>
    have hopen : protector.openRecord aes sealedBytes = .ok plaintext := toOption_eq_some.mp h
    unfold WebAuthnStateProtector.openRecord at hopen
    split_ifs at hopen
    split at hopen
    · cases hopen
    · next text hdecrypt =>
      cases hopen
      exact ⟨_, hdecrypt⟩

/-- **Records stay with their store**: with an ideal AEAD nothing that carries the ciphertext of a
    sealed record opens for another record type or another namespace, whatever its header and
    whatever the key. -/
theorem Protector.openBytes_of_other {aes : Aes256Gcm} {made : Set Encryption}
    (hideal : Aes256Gcm.IdealOn aes made) {p q : Protector} {nonce : GcmNonce}
    {plaintext sealedBytes envelope : Bytes} (hrecords : p.Records aes made nonce plaintext)
    (hseal : p.sealBytes aes nonce plaintext = some sealedBytes)
    (henvelope : envelope.drop 18 = sealedBytes.drop 18)
    (hother : ¬ (p.recordType = q.recordType ∧ p.storageNamespace = q.storageNamespace)) :
    q.openBytes aes envelope = none := by
  cases hopen : q.openBytes aes envelope with
  | none => rfl
  | some text =>
    obtain ⟨nonce', hdecrypt⟩ := Protector.decrypt_of_openBytes hopen
    rw [henvelope] at hdecrypt
    have hmade := hrecords _ (Protector.encrypt_of_sealBytes hseal)
    obtain ⟨_, _, haad⟩ := hideal _ hmade _ _ _ _ hdecrypt
    exact absurd (Protector.associatedData_inj haad.symm) hother

/-! ## Both -/

/-- **Namespace isolation.** Under accepted namespaces and a SHA-256 without collisions on the
    values used, two key names are equal exactly when namespace, purpose and identifier are; the
    associated data tells record type and namespace; and under an ideal AEAD a sealed record opens
    for no other record type and no other namespace, even with the same key. -/
theorem storage_isolation (sha256 : Bytes → Bytes) (aes : Aes256Gcm) (made : Set Encryption)
    (hideal : Aes256Gcm.IdealOn aes made) :
    (∀ key key' : StorageKey, validateNamespaceOr () key.storageNamespace = .ok () →
      validateNamespaceOr () key'.storageNamespace = .ok () →
      (∀ a ∈ key.hashed, ∀ b ∈ key'.hashed, sha256 a = sha256 b → a = b) →
      (key.name sha256 = key'.name sha256 ↔
        key.storageNamespace = key'.storageNamespace ∧ key.purpose = key'.purpose)) ∧
    (∀ p q : Protector, p.associatedData = q.associatedData ↔
      p.recordType = q.recordType ∧ p.storageNamespace = q.storageNamespace) ∧
    (∀ (p q : Protector) nonce plaintext sealedBytes, p.Records aes made nonce plaintext →
      p.sealBytes aes nonce plaintext = some sealedBytes →
      ¬ (p.recordType = q.recordType ∧ p.storageNamespace = q.storageNamespace) →
      ∀ envelope : Bytes, envelope.drop 18 = sealedBytes.drop 18 →
        q.openBytes aes envelope = none) := by
  refine ⟨?names, ?data, ?records⟩
  case names =>
    intro key key' hvalid hvalid' hsha
    exact StorageKey.name_inj hvalid hvalid' hsha
  case data =>
    intro p q
    exact ⟨Protector.associatedData_inj, Protector.associatedData_congr⟩
  case records =>
    intro p q nonce plaintext sealedBytes hrecords hseal hother envelope henvelope
    exact Protector.openBytes_of_other hideal hrecords hseal henvelope hother

/-! ### One sealed record -/

/-- A scheme that answers the sample call as AES-256-GCM does, and no other. -/
def oneCallAes : Aes256Gcm where
  encrypt key nonce aad plaintext :=
    if IsSampleSealing key nonce aad ∧ plaintext = sampleCeremonyRecord then
      some sampleCeremonyCiphertext
    else none
  decrypt key nonce aad ciphertext :=
    if IsSampleSealing key nonce aad ∧ ciphertext = sampleCeremonyCiphertext then
      some sampleCeremonyRecord
    else none

/-- The one encryption that was made. -/
def sampleEncryption : Encryption :=
  ⟨sampleCeremonyProtector.key, sampleNonce.bytes, sampleCeremonyProtector.associatedData,
    sampleCeremonyCiphertext⟩

theorem oneCallAes_idealOn : Aes256Gcm.IdealOn oneCallAes {sampleEncryption} := by
  intro encryption hmade key nonce aad plaintext hdecrypt
  rw [Set.mem_singleton_iff.mp hmade]
  simp only [oneCallAes] at hdecrypt
  split at hdecrypt
  · next hsample => exact hsample.1
  · cases hdecrypt

/-- The same key under the namespace `tenant-a`, for login states. -/
def sampleLoginProtector : StateProtector := sampleProtector

/-- One handle under one namespace keys a registration and an authentication apart, and the
    sample registration does not open as a login state of the same namespace and key. -/
theorem storage_isolation_sample :
    ceremonyKey "tenant-a" .registration ⟨List.replicate 32 0, rfl⟩ ≠
      ceremonyKey "tenant-a" .authentication ⟨List.replicate 32 0, rfl⟩ ∧
    ∃ sealedBytes, (Protector.ceremony sampleCeremonyProtector).sealBytes oneCallAes sampleNonce
        sampleCeremonyRecord = some sealedBytes ∧
      (Protector.login sampleLoginProtector).openBytes oneCallAes sealedBytes = none := by
  obtain ⟨hnames, _, hrecords⟩ := storage_isolation id oneCallAes _ oneCallAes_idealOn
  have hvalid : validateNamespaceOr () "tenant-a" = .ok () := by decide +kernel
  constructor
  · intro hsame
    have hpurpose := ((hnames (.ceremony "tenant-a" .registration ⟨List.replicate 32 0, rfl⟩)
      (.ceremony "tenant-a" .authentication ⟨List.replicate 32 0, rfl⟩) hvalid hvalid
      nofun).mp hsame).2
    cases hpurpose
  · refine ⟨_, rfl, hrecords (.ceremony sampleCeremonyProtector) (.login sampleLoginProtector)
      sampleNonce sampleCeremonyRecord _ ?_ rfl (fun h => by cases h.1) _ rfl⟩
    intro ciphertext hencrypt
    have hreal : oneCallAes.encrypt sampleCeremonyProtector.key sampleNonce.bytes
        sampleCeremonyProtector.associatedData sampleCeremonyRecord =
          some sampleCeremonyCiphertext := by
      simp only [oneCallAes]
      exact if_pos ⟨⟨rfl, rfl, rfl⟩, trivial⟩
    obtain rfl := Option.some.inj (hreal.symm.trans hencrypt)
    exact Set.mem_singleton _

end SecureKeypad.Webauthn
