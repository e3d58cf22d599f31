import SecureKeypad.Http.AuthRouter
import SecureKeypad.Library.JsonSize

/-!
# The Texts of Envelopes

How long the JSON text of an envelope is, and of the response of a login around it.

## Main results

- `envelopeJson_width`: the text of an envelope, whatever its fields are
- `loginStartJson_width`: the response of a login never reaches the limit on bodies
-/

namespace SecureKeypad.Http

open Rust Auth Server

/-! ## The size of a response -/

theorem utf8ByteSize_hexEncode (bytes : Bytes) :
    (hexEncode bytes).utf8ByteSize = 2 * bytes.length := by
  have hlength : (asBytes (hexEncode bytes)).length = 2 * bytes.length := by
    rw [asBytes_hexEncode]
    simp [hexCodes, List.length_flatMap, Nat.mul_comm]
  exact hlength

/-- The text of an envelope, whatever its fields are. -/
theorem envelopeJson_width {envelope : AuthEnvelope}
    (hversion : envelope.protocolVersion < 2 ^ 16) :
    Json.utf8Width (envelopeJson envelope).stringify ≤ 68000 := by
  have hnumber : Json.utf8Width
      (Json.stringify (.number (.ofNat envelope.protocolVersion))) ≤ 5 :=
    Json.utf8Width_number_le (by decide) (hversion.trans (by decide))
  have hsuite := Json.utf8Width_quote_le envelope.suiteId
  have hkey := Json.utf8Width_quote_le envelope.serverKeyId
  have hkind : Json.utf8Width (Json.quote (messageKindName envelope.messageKind)) ≤ 24 := by
    cases envelope.messageKind <;> decide
  -- a byte has three digits and a comma at most
  have hpayload := @Json.utf8Width_arr_le
    (envelope.payload.map fun byte => .number (.ofNat byte.toNat)) 3 (by
      intro item hitem
      obtain ⟨byte, -, rfl⟩ := List.mem_map.mp hitem
      exact Json.utf8Width_number_le (by decide) (byte.toNat_lt.trans (by decide)))
  rw [List.length_map] at hpayload
  have hsuiteBound := envelope.suite_bounded
  have hkeyBound := envelope.key_bounded
  have hpayloadBound := envelope.payload_bounded.2
  have hfields := Json.utf8Width_obj_le
    [("protocol_version", .number (.ofNat envelope.protocolVersion)),
      ("suite_id", .str envelope.suiteId),
      ("message_kind", .str (messageKindName envelope.messageKind)),
      ("server_key_id", .str envelope.serverKeyId),
      ("payload", .arr (envelope.payload.map fun byte => .number (.ofNat byte.toNat)))]
  have hnames : Json.utf8Width (Json.quote "protocol_version") = 18 ∧
      Json.utf8Width (Json.quote "suite_id") = 10 ∧
      Json.utf8Width (Json.quote "message_kind") = 14 ∧
      Json.utf8Width (Json.quote "server_key_id") = 15 ∧
      Json.utf8Width (Json.quote "payload") = 9 := by decide +kernel
  simp only [List.map_cons, List.map_nil, List.sum_cons, List.sum_nil, hnames,
    Json.stringify_str] at hfields
  rw [envelopeJson]
  simp only [maxSuiteIdBytes, maxServerKeyIdBytes, maxMessageBytes] at *
  omega

/-- **The response of a login** never reaches the limit on bodies. -/
theorem loginStartJson_width {envelope : AuthEnvelope}
    (hversion : envelope.protocolVersion < 2 ^ 16) (handle : LoginStateHandle) :
    (toVec (loginStartJson envelope (encodeHandle handle))).length ≤ maxHttpBodyBytes := by
  have henvelope := envelopeJson_width hversion
  have hhandle := Json.utf8Width_quote_le (encodeHandle handle)
  have hdigits : (encodeHandle handle).utf8ByteSize = 64 := by
    rw [encodeHandle, utf8ByteSize_hexEncode, handle.length_eq]
    rfl
  have hfields := Json.utf8Width_obj_le
    [("envelope", envelopeJson envelope), ("handle", .str (encodeHandle handle))]
  have hnames : Json.utf8Width (Json.quote "envelope") = 10 ∧
      Json.utf8Width (Json.quote "handle") = 8 := by decide +kernel
  simp only [List.map_cons, List.map_nil, List.sum_cons, List.sum_nil, hnames,
    Json.stringify_str] at hfields
  rw [toVec, Json.length_asBytes_ofList, loginStartJson, maxHttpBodyBytes]
  omega

/-- The response of a login that began is a 200, as its size stays below the limit. -/
theorem jsonResponse_loginStart {envelope : AuthEnvelope}
    (hversion : envelope.protocolVersion = protocolVersion) (handle : LoginStateHandle) :
    jsonResponse (loginStartJson envelope (encodeHandle handle)) =
      ⟨200, jsonContentType, responseSecurityHeaders,
        toVec (loginStartJson envelope (encodeHandle handle))⟩ := by
  have hwidth := @loginStartJson_width envelope (hversion ▸ (by decide : protocolVersion < 2 ^ 16))
    handle
  rw [jsonResponse, jsonResponseWithStatus]
  exact if_neg (Nat.not_lt.mpr hwidth)

end SecureKeypad.Http
