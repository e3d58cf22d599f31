import SecureKeypad.Library.BitStream
import SecureKeypad.Library.Rounding
import SecureKeypad.Library.Rust
import SecureKeypad.Web.PasskeyController

/-!
# Strict Base64url (`packages/web`)

Embeds `encodeBase64Url` and `decodeBase64Url`. Strings are lists of UTF-16 code units, since the
length a string is checked by counts these, and the loop of the decoder reads the string by code
points. The accumulator of that loop is a signed 32-bit integer that is shifted for every digit
and never masked; the model takes the number of its bits as a parameter, the source's being 32.

## Main results

- `encodeBase64Url_regroups`: an encoding has the bits of its bytes
- `decodeCharacters_step`, `decodeCharacters_run`: what the loop of the decoder has read and
  written after any number of digits
- `decodeBase64Url_strict`: the decoder accepts exactly the encodings
-/

namespace SecureKeypad.Web

open Rust BitStream

/-! ## Strings and numbers -/

/-- A string, as its UTF-16 code units. -/
abbrev JsString := List UInt16

/-- The code units of a text of the basic plane. -/
def codeUnits (text : String) : JsString := text.toList.map fun c => UInt16.ofNat c.toNat

/-- The code points a string is iterated by, each as a string of its own. -/
def characters : JsString → List JsString
  | [] => []
  | [unit] => [[unit]]
  | high :: low :: rest =>
    if 0xD800 ≤ high ∧ high ≤ 0xDBFF ∧ 0xDC00 ≤ low ∧ low ≤ 0xDFFF then
      [high, low] :: characters rest
    else [high] :: characters (low :: rest)

/-- `String.prototype.indexOf`; `none` for the index -1. -/
def indexOf (text searched : JsString) : Option ℕ :=
  (List.range (text.length + 1)).find? fun i => searched.isPrefixOf (text.drop i)

/-- Division of numbers. -/
def divideNumbers (a b : ℚ) : ℚ := Rounding.toBinary 53 (-1074) (a / b)

/-! ## The codec -/

def maxWebauthnBinaryBytes : ℕ := 8 * 1024

def base64UrlAlphabet : JsString :=
  codeUnits "ABCDEFGHIJKLMNOPQRSTUVWXYZabcdefghijklmnopqrstuvwxyz0123456789-_"

/-- The class of `BASE64URL_PATTERN`. -/
def inBase64UrlClass (unit : UInt16) : Bool :=
  (0x41 ≤ unit && unit ≤ 0x5A) || (0x61 ≤ unit && unit ≤ 0x7A) || (0x30 ≤ unit && unit ≤ 0x39) ||
    unit == 0x5F || unit == 0x2D

/-- `BASE64URL_PATTERN`: all of the string is in the class. -/
def base64UrlPattern (value : JsString) : Bool := value.all inBase64UrlClass

/-- `WebAuthnClientError`. -/
structure WebAuthnClientError where
  code : ErrorCode
  message : String
deriving DecidableEq

/-- `BASE64URL_ALPHABET[digit]` as it is appended to a string. -/
def alphabetAt (digit : ℕ) : JsString := base64UrlAlphabet[digit]?.elim (codeUnits "undefined") ([·])

/-- One round of the loop of `encodeBase64Url`. -/
def encodeGroup (first : UInt8) (second third : Option UInt8) : JsString :=
  alphabetAt (first.toNat >>> 2) ++
    alphabetAt (((first.toNat &&& 0x03) <<< 4) ||| ((second.elim 0 UInt8.toNat) >>> 4)) ++
    second.elim [] (fun second =>
      alphabetAt (((second.toNat &&& 0x0F) <<< 2) ||| ((third.elim 0 UInt8.toNat) >>> 6))) ++
    third.elim [] fun third => alphabetAt (third.toNat &&& 0x3F)

/-- The loop of `encodeBase64Url`, three bytes a round. -/
def encodeGroups : Bytes → JsString
  | [] => []
  | [first] => encodeGroup first none none
  | [first, second] => encodeGroup first (some second) none
  | first :: second :: third :: rest =>
    encodeGroup first (some second) (some third) ++ encodeGroups rest

/-- `encodeBase64Url`. -/
def encodeBase64Url (bytes : Bytes) : Except WebAuthnClientError JsString :=
  if bytes.length > maxWebauthnBinaryBytes then
    .error ⟨.invalidCredential, "WebAuthn binary data is too large"⟩
  else .ok (encodeGroups bytes)

def base64UrlInvalid : WebAuthnClientError :=
  ⟨.invalidOptions, "Base64url WebAuthn data is invalid"⟩

/-- The tests of `decodeBase64Url` in front of its loop. -/
def checkEncoded (value : JsString) (maxBytes : ℤ) : Except WebAuthnClientError Unit :=
  if maxBytes < 0 ∨ maxBytes > maxWebauthnBinaryBytes then .error base64UrlInvalid
  else
    let maxEncodedLength := ⌈divideNumbers (maxBytes * 8) 6⌉
    if (value.length : ℤ) > maxEncodedLength ∨ base64UrlPattern value = false then
      .error base64UrlInvalid
    else if value.length % 4 = 1 then .error base64UrlInvalid
    else .ok ()

/-- The variables of the loop of `decodeBase64Url`, with an accumulator of `width` bits. -/
structure DecodeState (width : ℕ) where
  output : Bytes
  accumulator : BitVec width
  bits : ℕ
  outputIndex : ℕ
  lastDigit : ℕ

/-- One round of the loop of `decodeBase64Url`. -/
def decodeCharacter {width : ℕ} (state : DecodeState width) (character : JsString) :
    Except WebAuthnClientError (DecodeState width) :=
  match indexOf base64UrlAlphabet character with
  | none => .error base64UrlInvalid
  | some digit =>
    let accumulator := state.accumulator <<< 6 ||| BitVec.ofNat width digit
    let bits := state.bits + 6
    if bits ≥ 8 then
      let bits := bits - 8
      -- The shift is arithmetic; what it fills in is masked out.
      let byte := UInt8.ofNat (accumulator.sshiftRight bits &&& BitVec.ofNat width 0xFF).toNat
      if state.outputIndex ≥ state.output.length then .error base64UrlInvalid
      else .ok { output := state.output.set state.outputIndex byte, accumulator, bits,
                 outputIndex := state.outputIndex + 1, lastDigit := digit }
    else .ok { state with accumulator, bits, lastDigit := digit }

/-- The loop of `decodeBase64Url`. -/
def decodeCharacters (width : ℕ) (value : JsString) (output : Bytes) :
    Except WebAuthnClientError (DecodeState width) :=
  (characters value).foldlM decodeCharacter ⟨output, 0, 0, 0, 0⟩

/-- The array `decodeBase64Url` writes to. -/
def decodeBuffer (value : JsString) : Bytes :=
  List.replicate ⌊divideNumbers (value.length * 6) 8⌋.toNat 0

/-- `decodeBase64Url` with an accumulator of `width` bits. -/
def decodeBase64UrlWith (width : ℕ) (value : JsString) (maxBytes : ℤ) :
    Except WebAuthnClientError Bytes := do
  checkEncoded value maxBytes
  let state ← decodeCharacters width value (decodeBuffer value)
  if state.bits > 0 ∧ state.lastDigit &&& (1 <<< state.bits - 1) ≠ 0 then
    throw ⟨.invalidOptions, "Base64url WebAuthn data is not canonical"⟩
  if (state.output.length : ℤ) > maxBytes then
    throw ⟨.invalidOptions, "WebAuthn binary data is too large"⟩
  return state.output

/-- `decodeBase64Url`. -/
def decodeBase64Url (value : JsString) (maxBytes : ℤ) : Except WebAuthnClientError Bytes :=
  decodeBase64UrlWith 32 value maxBytes

/-! ## Digits and their letters -/

/-- The letter of a digit. -/
def letterOf (digit : ℕ) : UInt16 := base64UrlAlphabet[digit]?.getD 0

theorem alphabetAt_eq {digit : ℕ} (h : digit < 64) : alphabetAt digit = [letterOf digit] := by
  have hsome : (base64UrlAlphabet[digit]?).isSome = true := by
    rw [List.getElem?_eq_getElem (by exact h)]
    rfl
  obtain ⟨unit, hunit⟩ := Option.isSome_iff_exists.mp hsome
  rw [alphabetAt, letterOf, hunit]
  rfl

theorem indexOf_letterOf {digit : ℕ} (h : digit < 64) :
    indexOf base64UrlAlphabet [letterOf digit] = some digit := by
  have hall : ∀ d < 64, indexOf base64UrlAlphabet [letterOf d] = some d := by decide +kernel
  exact hall digit h

theorem letterOf_injOn {d e : ℕ} (hd : d < 64) (he : e < 64) (h : letterOf d = letterOf e) :
    d = e := by
  have hindex := indexOf_letterOf hd
  rw [h, indexOf_letterOf he] at hindex
  exact (Option.some.inj hindex).symm

theorem letters_injOn {ds es : List ℕ} (hds : ∀ d ∈ ds, d < 64) (hes : ∀ e ∈ es, e < 64)
    (h : ds.map letterOf = es.map letterOf) : ds = es := by
  induction ds generalizing es with
  | nil => exact (List.map_eq_nil_iff.mp h.symm).symm
  | cons d ds ih =>
    cases es with
    | nil => cases h
    | cons e es =>
      rw [List.map_cons, List.map_cons, List.cons.injEq] at h
      rw [letterOf_injOn (hds d List.mem_cons_self) (hes e List.mem_cons_self) h.1,
        ih (fun x hx => hds x (List.mem_cons_of_mem _ hx))
          (fun x hx => hes x (List.mem_cons_of_mem _ hx)) h.2]

theorem mem_alphabet_iff {unit : UInt16} :
    unit ∈ base64UrlAlphabet ↔ ∃ d < 64, letterOf d = unit := by
  constructor
  · intro h
    obtain ⟨d, hd, rfl⟩ := List.getElem_of_mem h
    exact ⟨d, hd, by rw [letterOf, List.getElem?_eq_getElem hd]; rfl⟩
  · intro ⟨d, hd, hunit⟩
    have hall : ∀ d < 64, letterOf d ∈ base64UrlAlphabet := by decide +kernel
    exact hunit ▸ hall d hd

/-- The class of the pattern is the alphabet. -/
theorem inBase64UrlClass_iff {unit : UInt16} :
    inBase64UrlClass unit = true ↔ unit ∈ base64UrlAlphabet := by
  constructor
  · intro h
    have hsmall : ∀ n < 128, inBase64UrlClass (UInt16.ofNat n) = true →
        UInt16.ofNat n ∈ base64UrlAlphabet := by decide +kernel
    have hlt : unit.toNat < 128 := by
      simp only [inBase64UrlClass, Bool.or_eq_true, Bool.and_eq_true, decide_eq_true_eq,
        UInt16.le_iff_toNat_le, beq_iff_eq, ← UInt16.toNat_inj] at h
      have hbounds : UInt16.toNat 0x5A = 90 ∧ UInt16.toNat 0x7A = 122 ∧ UInt16.toNat 0x39 = 57 ∧
        UInt16.toNat 0x5F = 95 ∧ UInt16.toNat 0x2D = 45 := by decide
      omega
    have hunit := hsmall unit.toNat hlt
    rw [UInt16.ofNat_toNat] at hunit
    exact hunit h
  · have hall : base64UrlAlphabet.all inBase64UrlClass = true := by decide +kernel
    exact List.all_eq_true.mp hall unit

theorem base64UrlPattern_iff {value : JsString} :
    base64UrlPattern value = true ↔ ∃ digits : List ℕ, (∀ d ∈ digits, d < 64) ∧
      value = digits.map letterOf := by
  rw [base64UrlPattern, List.all_eq_true]
  constructor
  · intro h
    induction value with
    | nil => exact ⟨[], fun d hd => absurd hd List.not_mem_nil, rfl⟩
    | cons unit value ih =>
      obtain ⟨digits, hdigits, hvalue⟩ := ih fun u hu => h u (List.mem_cons_of_mem _ hu)
      obtain ⟨d, hd, hunit⟩ :=
        mem_alphabet_iff.mp (inBase64UrlClass_iff.mp (h unit List.mem_cons_self))
      refine ⟨d :: digits, ?_, by rw [List.map_cons, hunit, hvalue]⟩
      intro e he
      rcases List.mem_cons.mp he with rfl | he
      · exact hd
      · exact hdigits e he
  · intro ⟨digits, hdigits, hvalue⟩ unit hunit
    rw [hvalue, List.mem_map] at hunit
    obtain ⟨d, hd, rfl⟩ := hunit
    exact inBase64UrlClass_iff.mpr (mem_alphabet_iff.mpr ⟨d, hdigits d hd, rfl⟩)

/-- Letters are iterated one by one. -/
theorem characters_letters {digits : List ℕ} (h : ∀ d ∈ digits, d < 64) :
    characters (digits.map letterOf) = digits.map fun d => [letterOf d] := by
  induction digits with
  | nil => rfl
  | cons d digits ih =>
    have hd := h d List.mem_cons_self
    have hrest := ih fun e he => h e (List.mem_cons_of_mem _ he)
    -- No letter is a high surrogate.
    have hhigh : ¬ (0xD800 : UInt16) ≤ letterOf d := by
      have hall : ∀ d < 64, ¬ (0xD800 : UInt16) ≤ letterOf d := by decide +kernel
      exact hall d hd
    cases digits with
    | nil => rfl
    | cons e digits =>
      rw [List.map_cons, List.map_cons] at hrest ⊢
      rw [characters, if_neg fun hpair => hhigh hpair.1, hrest]
      rfl

/-! ## What is encoded -/

/-- The digits of one group of the encoder. -/
def groupDigits (first : UInt8) (second third : Option UInt8) : List ℕ :=
  [first.toNat >>> 2, ((first.toNat &&& 0x03) <<< 4) ||| ((second.elim 0 UInt8.toNat) >>> 4)] ++
    second.elim [] (fun second =>
      [((second.toNat &&& 0x0F) <<< 2) ||| ((third.elim 0 UInt8.toNat) >>> 6)]) ++
    third.elim [] fun third => [third.toNat &&& 0x3F]

private theorem shiftRight_lt {v m n : ℕ} (hv : v < 2 ^ (m + n)) : v >>> n < 2 ^ m := by
  rw [Nat.shiftRight_eq_div_pow]
  exact Nat.div_lt_of_lt_mul (by rwa [← Nat.pow_add, Nat.add_comm])

private theorem or_shift_lt {a b m n : ℕ} (ha : a < 2 ^ m) (hb : b < 2 ^ n) :
    a <<< n ||| b < 2 ^ (m + n) := by
  apply Nat.or_lt_two_pow
  · rw [Nat.shiftLeft_eq, Nat.pow_add]
    exact Nat.mul_lt_mul_of_pos_right ha (Nat.two_pow_pos n)
  · exact hb.trans_le (Nat.pow_le_pow_right Nat.two_pos (Nat.le_add_left n m))

theorem groupDigits_lt (first : UInt8) (second third : Option UInt8) :
    ∀ d ∈ groupDigits first second third, d < 64 := by
  have hbyte : ∀ byte : Option UInt8, byte.elim 0 UInt8.toNat < 2 ^ 8 := by
    intro byte
    cases byte with
    | none => exact Nat.two_pow_pos 8
    | some byte => exact byte.toNat_lt
  intro d hd
  simp only [groupDigits, List.mem_append, List.mem_cons, List.not_mem_nil, or_false] at hd
  rcases hd with ((rfl | rfl) | hd) | hd
  · exact @shiftRight_lt _ 6 2 first.toNat_lt
  · exact @or_shift_lt _ _ 2 4 (Nat.and_lt_two_pow _ (by decide : 0x03 < 2 ^ 2))
      (shiftRight_lt (hbyte second))
  · cases second with
    | none => cases hd
    | some second =>
      rw [Option.elim_some, List.mem_singleton] at hd
      rw [hd]
      exact @or_shift_lt _ _ 4 2 (Nat.and_lt_two_pow _ (by decide : 0x0F < 2 ^ 4))
        (shiftRight_lt (hbyte third))
  · cases third with
    | none => cases hd
    | some third =>
      rw [Option.elim_some, List.mem_singleton] at hd
      rw [hd]
      exact Nat.and_lt_two_pow _ (by decide : 0x3F < 2 ^ 6)

theorem encodeGroup_eq (first : UInt8) (second third : Option UInt8) :
    encodeGroup first second third = (groupDigits first second third).map letterOf := by
  have hlt := groupDigits_lt first second third
  have hflat : encodeGroup first second third =
      (groupDigits first second third).flatMap alphabetAt := by
    cases second <;> cases third <;> simp [encodeGroup, groupDigits]
  rw [hflat]
  generalize groupDigits first second third = digits at hlt
  induction digits with
  | nil => rfl
  | cons d digits ih =>
    rw [List.flatMap_cons, List.map_cons, alphabetAt_eq (hlt d List.mem_cons_self),
      ih fun e he => hlt e (List.mem_cons_of_mem _ he)]
    rfl

private theorem bitsOf_shiftRight (m n v : ℕ) :
    bitsOf (m + n) v = bitsOf m (v >>> n) ++ bitsOf n v := by
  rw [Nat.shiftRight_eq_div_pow, bitsOf_add]

section Groups

variable (a b c : UInt8)

private theorem bitsOf_first {low : ℕ} (h : low < 2 ^ 4) :
    bitsOf 6 (((a.toNat &&& 0x03) <<< 4) ||| low) = bitsOf 2 a.toNat ++ bitsOf 4 low := by
  rw [bitsOf_or_shift 2 h]
  exact congrArg (· ++ _) (bitsOf_and_ones 2 a.toNat)

private theorem bitsOf_middle {low : ℕ} (h : low < 2 ^ 2) :
    bitsOf 6 (((b.toNat &&& 0x0F) <<< 2) ||| low) = bitsOf 4 b.toNat ++ bitsOf 2 low := by
  rw [bitsOf_or_shift 4 h]
  exact congrArg (· ++ _) (bitsOf_and_ones 4 b.toNat)

private theorem stream_group_one :
    stream 6 (groupDigits a none none) = stream 8 [a.toNat] ++ List.replicate 4 false := by
  have ha := bitsOf_shiftRight 6 2 a.toNat
  have hzero := bitsOf_first a (show 0 >>> 4 < 2 ^ 4 by decide)
  simp only [groupDigits, Option.elim_none, List.append_nil, stream_cons, stream_nil, ha, hzero,
    List.append_assoc]
  rfl

private theorem stream_group_two :
    stream 6 (groupDigits a (some b) none) =
      stream 8 [a.toNat, b.toNat] ++ List.replicate 2 false := by
  have ha := bitsOf_shiftRight 6 2 a.toNat
  have hb := bitsOf_shiftRight 4 4 b.toNat
  have hfirst := bitsOf_first a (@shiftRight_lt _ 4 4 b.toNat_lt)
  have hzero := bitsOf_middle b (show 0 >>> 6 < 2 ^ 2 by decide)
  simp only [groupDigits, Option.elim_none, Option.elim_some, List.append_nil, List.cons_append,
    List.nil_append, stream_cons, stream_nil, ha, hb, hfirst, hzero, List.append_assoc]
  rfl

private theorem stream_group_three :
    stream 6 (groupDigits a (some b) (some c)) = stream 8 [a.toNat, b.toNat, c.toNat] := by
  have ha := bitsOf_shiftRight 6 2 a.toNat
  have hb := bitsOf_shiftRight 4 4 b.toNat
  have hc := bitsOf_shiftRight 2 6 c.toNat
  have hfirst := bitsOf_first a (@shiftRight_lt _ 4 4 b.toNat_lt)
  have hmiddle := bitsOf_middle b (@shiftRight_lt _ 2 6 c.toNat_lt)
  have hlast : bitsOf 6 (c.toNat &&& 0x3F) = bitsOf 6 c.toNat := bitsOf_and_ones 6 c.toNat
  simp only [groupDigits, Option.elim_some, List.append_nil, List.cons_append, List.nil_append,
    stream_cons, stream_nil, ha, hb, hc, hfirst, hmiddle, hlast, List.append_assoc]

end Groups

/-- **An encoding has the bits of its bytes**, with less than a digit of zeros at the end. -/
theorem encodeGroups_regroups (bytes : Bytes) :
    ∃ digits, encodeGroups bytes = digits.map letterOf ∧
      Regroups 6 8 digits (bytes.map UInt8.toNat) := by
  have hbytes : ∀ y ∈ bytes.map UInt8.toNat, y < 2 ^ 8 := by
    intro y hy
    obtain ⟨byte, -, rfl⟩ := List.mem_map.mp hy
    exact byte.toNat_lt
  -- Three bytes are four digits; a last group of one or two bytes leaves spare bits.
  suffices h : ∃ digits, encodeGroups bytes = digits.map letterOf ∧ (∀ d ∈ digits, d < 2 ^ 6) ∧
      ∃ k < 6, stream 6 digits = stream 8 (bytes.map UInt8.toNat) ++ List.replicate k false by
    obtain ⟨digits, hletters, hdigits, hstream⟩ := h
    exact ⟨digits, hletters, hdigits, hbytes, hstream⟩
  clear hbytes
  induction bytes using encodeGroups.induct with
  | case1 => exact ⟨[], rfl, fun d hd => absurd hd List.not_mem_nil, 0, by decide, rfl⟩
  | case2 first =>
    exact ⟨_, encodeGroup_eq first none none, groupDigits_lt first none none, 4, by decide,
      stream_group_one first⟩
  | case3 first second =>
    exact ⟨_, encodeGroup_eq first (some second) none, groupDigits_lt first (some second) none, 2,
      by decide, stream_group_two first second⟩
  | case4 first second third rest ih =>
    obtain ⟨digits, hletters, hdigits, k, hk, hstream⟩ := ih
    refine ⟨groupDigits first (some second) (some third) ++ digits, ?_, ?_, k, hk, ?_⟩
    · rw [encodeGroups, encodeGroup_eq, hletters, List.map_append]
    · intro d hd
      rcases List.mem_append.mp hd with hd | hd
      · exact groupDigits_lt _ _ _ d hd
      · exact hdigits d hd
    · rw [stream_append, stream_group_three, hstream, ← List.append_assoc, ← stream_append]
      rfl

/-! ## What the loop of the decoder has read and written -/

section Loop

variable {width : ℕ}

/-- The state of the loop after the digits, writing to an array of `size` bytes. The lowest bits
    of the accumulator are the ones not yet written; those above them play no part. -/
structure DecodeInvariant (size : ℕ) (digits : List ℕ) (produced : Bytes)
    (state : DecodeState width) : Prop where
  output : state.output = produced ++ List.replicate (size - produced.length) 0
  outputIndex : state.outputIndex = produced.length
  bits : state.bits ≤ 6 ∧ 2 ∣ state.bits
  stream : stream 6 digits =
    stream 8 (produced.map UInt8.toNat) ++ bitsOf state.bits state.accumulator.toNat
  lastDigit : bitsOf state.bits state.lastDigit = bitsOf state.bits state.accumulator.toNat

theorem DecodeInvariant.length_eq {size : ℕ} {digits : List ℕ} {produced : Bytes}
    {state : DecodeState width} (h : DecodeInvariant size digits produced state) :
    6 * digits.length = 8 * produced.length + state.bits := by
  have hlength := congrArg List.length h.stream
  rwa [length_stream, List.length_append, length_stream, length_bitsOf, List.length_map] at hlength

/-- The next digit enters the accumulator behind the bits that are there. -/
private theorem bitsOf_push (accumulator : BitVec width) {bits digit : ℕ} (hdigit : digit < 64)
    (hwidth : bits + 6 ≤ width) :
    bitsOf (bits + 6) (accumulator <<< 6 ||| BitVec.ofNat width digit).toNat =
      bitsOf bits accumulator.toNat ++ bitsOf 6 digit := by
  have htop : ∀ i, 6 ≤ i → digit.testBit i = false := by
    intro i hi
    exact Nat.testBit_lt_two_pow (hdigit.trans_le (Nat.pow_le_pow_right Nat.two_pos hi))
  rw [bitsOf_add]
  congr 1
  · apply bitsOf_congr
    intro i hi
    rw [Nat.testBit_div_two_pow, BitVec.testBit_toNat, BitVec.testBit_toNat, BitVec.getLsbD_or,
      BitVec.getLsbD_shiftLeft, BitVec.getLsbD_ofNat, htop _ (Nat.le_add_left _ _)]
    simp [show i + 6 < width by omega]
  · apply bitsOf_congr
    intro i hi
    rw [BitVec.testBit_toNat, BitVec.getLsbD_or, BitVec.getLsbD_shiftLeft, BitVec.getLsbD_ofNat]
    simp [hi, show i < width by omega]

/-- The byte written is what stands above the bits that remain. -/
private theorem bitsOf_byte (accumulator : BitVec width) {bits : ℕ} (hwidth : bits + 8 ≤ width) :
    bitsOf 8 (UInt8.ofNat (accumulator.sshiftRight bits &&&
      BitVec.ofNat width 0xFF).toNat).toNat = bitsOf 8 (accumulator.toNat / 2 ^ bits) := by
  rw [UInt8.toNat_ofNat', bitsOf_mod]
  apply bitsOf_congr
  intro i hi
  have hmask : Nat.testBit 0xFF i = true := by
    rw [show (0xFF : ℕ) = 2 ^ 8 - 1 from rfl, Nat.testBit_two_pow_sub_one, decide_eq_true hi]
  rw [BitVec.testBit_toNat, BitVec.getLsbD_and, BitVec.getLsbD_sshiftRight, BitVec.getLsbD_ofNat,
    hmask, Nat.testBit_div_two_pow, BitVec.testBit_toNat]
  simp [show ¬ width ≤ i by omega, show i < width by omega, show bits + i < width by omega,
    Nat.add_comm i bits]

/-- **One round of the loop.** -/
theorem decodeCharacter_step {size : ℕ} {digits : List ℕ} {produced : Bytes}
    {state : DecodeState width} {digit : ℕ} (hwidth : 12 ≤ width)
    (h : DecodeInvariant size digits produced state) (hdigit : digit < 64)
    (hroom : 6 * (digits.length + 1) / 8 ≤ size) :
    ∃ produced' state', decodeCharacter state [letterOf digit] = .ok state' ∧
      DecodeInvariant size (digits ++ [digit]) produced' state' := by
  obtain ⟨hle, heven⟩ := h.bits
  have hlength := h.length_eq
  have hpush := @bitsOf_push width state.accumulator state.bits digit hdigit (by omega)
  simp only [decodeCharacter, indexOf_letterOf hdigit]
  generalize hacc : state.accumulator <<< 6 ||| BitVec.ofNat width digit = accumulator at hpush ⊢
  -- The new accumulator ends with the new digit.
  have hlast : ∀ bits ≤ 6, bitsOf bits digit = bitsOf bits accumulator.toNat := by
    intro bits hbits
    rw [bitsOf_add] at hpush
    have hdigits := (List.append_inj hpush (by rw [length_bitsOf, length_bitsOf])).2
    apply bitsOf_congr
    intro i hi
    exact (testBit_eq_of_bitsOf_eq hdigits i (by omega)).symm
  by_cases hbyte : state.bits + 6 ≥ 8
  · rw [if_pos hbyte, if_neg (by rw [h.outputIndex, h.output]; simp; omega)]
    refine ⟨produced ++ [UInt8.ofNat (accumulator.sshiftRight (state.bits + 6 - 8) &&&
      BitVec.ofNat width 0xFF).toNat], _, rfl, ?_⟩
    have hfree : size - produced.length = size - (produced.length + 1) + 1 := by omega
    have hsplit := bitsOf_add 8 (state.bits + 6 - 8) accumulator.toNat
    rw [show 8 + (state.bits + 6 - 8) = state.bits + 6 by omega, hpush] at hsplit
    constructor
    · simp only [h.output, h.outputIndex, List.length_append, List.length_singleton]
      rw [List.set_append_right _ _ le_rfl, Nat.sub_self, hfree, List.replicate_succ,
        List.set_cons_zero, List.append_assoc, List.singleton_append]
    · simp only [h.outputIndex, List.length_append, List.length_singleton]
    · change state.bits + 6 - 8 ≤ 6 ∧ 2 ∣ state.bits + 6 - 8
      omega
    · rw [stream_append, h.stream, List.append_assoc, stream_cons, stream_nil, List.append_nil,
        hsplit, List.map_append, stream_append, List.map_singleton, stream_cons, stream_nil,
        List.append_nil, bitsOf_byte accumulator (by omega), List.append_assoc]
    · exact hlast (state.bits + 6 - 8) (by omega)
  · rw [if_neg hbyte]
    refine ⟨produced, _, rfl, ?_⟩
    constructor
    · exact h.output
    · exact h.outputIndex
    · change state.bits + 6 ≤ 6 ∧ 2 ∣ state.bits + 6
      omega
    · rw [stream_append, h.stream, hpush, List.append_assoc, stream_cons, stream_nil,
        List.append_nil]
    · exact hlast (state.bits + 6) (by omega)

/-- **The whole loop**, started on digits already read. -/
theorem decodeCharacters_run {size : ℕ} (hwidth : 12 ≤ width) {digits more : List ℕ}
    {produced : Bytes} {state : DecodeState width}
    (h : DecodeInvariant size digits produced state) (hmore : ∀ d ∈ more, d < 64)
    (hroom : 6 * (digits.length + more.length) / 8 ≤ size) :
    ∃ produced' state', (more.map fun d => [letterOf d]).foldlM decodeCharacter state = .ok state' ∧
      DecodeInvariant size (digits ++ more) produced' state' := by
  induction more generalizing digits produced state with
  | nil => exact ⟨produced, state, rfl, by rwa [List.append_nil]⟩
  | cons d more ih =>
    rw [List.length_cons] at hroom
    obtain ⟨produced₁, state₁, hstep, h₁⟩ :=
      decodeCharacter_step hwidth h (hmore d List.mem_cons_self) (by omega)
    have hroom₁ : 6 * ((digits ++ [d]).length + more.length) / 8 ≤ size := by
      rw [List.length_append, List.length_singleton]
      omega
    obtain ⟨produced', state', hrun, h'⟩ :=
      ih h₁ (fun e he => hmore e (List.mem_cons_of_mem _ he)) hroom₁
    refine ⟨produced', state', ?_, by rwa [List.append_assoc] at h'⟩
    rw [List.map_cons, List.foldlM_cons, hstep]
    exact hrun

/-- The loop reads every digit and fills the array with the bytes of their bits. -/
theorem decodeCharacters_eq (hwidth : 12 ≤ width) {digits : List ℕ} (hdigits : ∀ d ∈ digits, d < 64) :
    ∃ state : DecodeState width,
      decodeCharacters width (digits.map letterOf) (List.replicate (6 * digits.length / 8) 0) =
        .ok state ∧
      state.bits = 6 * digits.length % 8 ∧ state.output.length = 6 * digits.length / 8 ∧
      stream 6 digits =
        stream 8 (state.output.map UInt8.toNat) ++ bitsOf state.bits state.lastDigit := by
  have hstart : DecodeInvariant (6 * digits.length / 8) [] []
      (⟨List.replicate (6 * digits.length / 8) 0, 0, 0, 0, 0⟩ : DecodeState width) :=
    ⟨rfl, rfl, ⟨Nat.zero_le _, Nat.dvd_zero 2⟩, rfl, rfl⟩
  obtain ⟨produced, state, hrun, h⟩ := decodeCharacters_run hwidth hstart hdigits (by simp)
  rw [List.nil_append] at h
  have hlength := h.length_eq
  obtain ⟨hle, -⟩ := h.bits
  have hfull : produced.length = 6 * digits.length / 8 := by omega
  have houtput : state.output = produced := by
    rw [h.output, hfull, Nat.sub_self, List.replicate_zero, List.append_nil]
  refine ⟨state, ?_, by omega, by rw [houtput, hfull], ?_⟩
  · rw [decodeCharacters, characters_letters hdigits]
    exact hrun
  · rw [houtput, h.lastDigit]
    exact h.stream

end Loop

/-! ## The sizes -/

private theorem stepExponent_quarter {x : ℚ} (hnonneg : 0 ≤ x) (hx : x < 2 ^ 20) :
    Rounding.stepExponent 53 (-1074) x ≤ -2 :=
  Rounding.stepExponent_le (by decide : 0 < 20) (by rwa [abs_of_nonneg hnonneg]) (by decide)
    (by decide)

/-- `Math.ceil((maxBytes * 8) / 6)` is exact: the quotient is a whole number or at least a third
    away from one, and quarters are not rounded. -/
theorem ceil_divideNumbers {m : ℕ} (hm : m ≤ maxWebauthnBinaryBytes) :
    ⌈divideNumbers ((m : ℚ) * 8) 6⌉ = ((8 * m + 5) / 6 : ℕ) := by
  have hcast : (m : ℚ) ≤ 8192 := by exact_mod_cast hm
  have hnonneg : (0 : ℚ) ≤ m := Nat.cast_nonneg m
  have hstep : Rounding.stepExponent 53 (-1074) ((m : ℚ) * 8 / 6) ≤ -2 :=
    stepExponent_quarter (by positivity) (by norm_num; linarith)
  generalize hq : (8 * m + 5) / 6 = q
  -- `4 m / 3` lies in `(q - 1 + 1/4, q]`.
  have hupper : (m : ℚ) * 8 / 6 ≤ q := by
    have hnat : 4 * m ≤ 3 * q := by omega
    have hrat : (4 : ℚ) * m ≤ 3 * q := by exact_mod_cast hnat
    linarith
  have hlower : ((4 * q - 3 : ℤ) : ℚ) * 2 ^ (-2 : ℤ) ≤ (m : ℚ) * 8 / 6 := by
    have hnat : 3 * q ≤ 4 * m + 2 := by omega
    have hrat : (3 : ℚ) * q ≤ 4 * m + 2 := by exact_mod_cast hnat
    push_cast
    norm_num
    linarith
  rw [Int.ceil_eq_iff]
  constructor
  · have hle := Rounding.le_toBinary hstep hlower
    have hlt : (q : ℚ) - 1 < ((4 * q - 3 : ℤ) : ℚ) * 2 ^ (-2 : ℤ) := by
      push_cast
      norm_num
      linarith
    exact_mod_cast hlt.trans_le hle
  · have hle := @Rounding.toBinary_le 53 (-1074) (-2) (4 * q) _ hstep (by push_cast; norm_num; linarith)
    refine hle.trans (le_of_eq ?_)
    push_cast
    norm_num
    ring

/-- `Math.floor((value.length * 6) / 8)` is exact: quarters are not rounded. -/
theorem floor_divideNumbers {n : ℕ} (hn : n < 2 ^ 16) :
    ⌊divideNumbers ((n : ℚ) * 6) 8⌋ = (6 * n / 8 : ℕ) := by
  have hcast : (n : ℚ) < 65536 := by exact_mod_cast hn
  have hnonneg : (0 : ℚ) ≤ n := Nat.cast_nonneg n
  have hstep : Rounding.stepExponent 53 (-1074) ((n : ℚ) * 6 / 8) ≤ -2 :=
    stepExponent_quarter (by positivity) (by norm_num; linarith)
  have hexact : divideNumbers ((n : ℚ) * 6) 8 = (n : ℚ) * 6 / 8 :=
    @Rounding.toBinary_eq 53 (-1074) (-2) (3 * n) _ hstep (by push_cast; norm_num; ring)
  rw [hexact, Int.floor_eq_iff]
  generalize hk : 6 * n / 8 = k
  have hle : 8 * k ≤ 6 * n := by omega
  have hlt : 6 * n < 8 * (k + 1) := by omega
  have hleq : (8 : ℚ) * k ≤ 6 * n := by exact_mod_cast hle
  have hltq : (6 : ℚ) * n < 8 * (k + 1) := by exact_mod_cast hlt
  constructor
  · rw [Int.cast_natCast]
    linarith
  · rw [Int.cast_natCast]
    linarith

theorem checkEncoded_iff {value : JsString} {m : ℕ} (hm : m ≤ maxWebauthnBinaryBytes) :
    checkEncoded value m = .ok () ↔ value.length ≤ (8 * m + 5) / 6 ∧
      base64UrlPattern value = true ∧ value.length % 4 ≠ 1 := by
  have hrange : ¬ ((m : ℤ) < 0 ∨ (m : ℤ) > maxWebauthnBinaryBytes) := by omega
  rw [checkEncoded, if_neg hrange]
  simp only [Int.cast_natCast, ceil_divideNumbers hm]
  -- The length and the alphabet first, then the residue that no bytes encode to.
  by_cases hentry : (value.length : ℤ) > ((8 * m + 5) / 6 : ℕ) ∨ base64UrlPattern value = false
  · rw [if_pos hentry]
    constructor
    · intro h
      cases h
    · intro ⟨hlength, hpattern, _⟩
      rcases hentry with hlong | hfalse
      · omega
      · rw [hpattern] at hfalse
        cases hfalse
  · rw [if_neg hentry]
    rw [not_or, Bool.not_eq_false] at hentry
    obtain ⟨hlength, hpattern⟩ := hentry
    by_cases hmod : value.length % 4 = 1
    · rw [if_pos hmod]
      constructor
      · intro h
        cases h
      · intro ⟨_, _, hne⟩
        exact absurd hmod hne
    · rw [if_neg hmod]
      exact ⟨fun _ => ⟨by omega, hpattern, hmod⟩, fun _ => rfl⟩

/-! ## What the decoder accepts -/

/-- The test of the spare bits. -/
theorem spare_bits_iff {bits lastDigit : ℕ} :
    (bits > 0 ∧ lastDigit &&& (1 <<< bits - 1) ≠ 0) ↔
      bitsOf bits lastDigit ≠ List.replicate bits false := by
  have hzeros : bitsOf bits lastDigit = List.replicate bits false ↔ lastDigit % 2 ^ bits = 0 := by
    rw [← bitsOf_zero, bitsOf_eq_iff, Nat.zero_mod]
  rw [Nat.one_shiftLeft, Nat.and_two_pow_sub_one_eq_mod, ne_eq, ne_eq, hzeros]
  constructor
  · intro ⟨_, hne⟩
    exact hne
  · intro hne
    refine ⟨Nat.pos_of_ne_zero ?_, hne⟩
    intro hzero
    rw [hzero, pow_zero, Nat.mod_one] at hne
    exact hne rfl

/-- What the loop leaves over decides whether the digits are an encoding. -/
theorem regroups_iff {digits : List ℕ} {output ys : List ℕ} {bits lastDigit : ℕ}
    (hdigits : ∀ d ∈ digits, d < 64) (houtput : ∀ y ∈ output, y < 2 ^ 8)
    (hbits : bits = 6 * digits.length % 8) (hresidue : digits.length % 4 ≠ 1)
    (hstream : stream 6 digits = stream 8 output ++ bitsOf bits lastDigit) :
    Regroups 6 8 digits ys ↔ ys = output ∧ bitsOf bits lastDigit = List.replicate bits false := by
  constructor
  · intro hregroups
    obtain ⟨-, hys, k, hk, heq⟩ := hregroups
    have hlen := congrArg List.length heq
    have hlen' := congrArg List.length hstream
    simp only [List.length_append, length_stream, List.length_replicate, length_bitsOf] at hlen hlen'
    have hsame : ys.length = output.length := by omega
    rw [hstream] at heq
    obtain ⟨hbytes, hrest⟩ := List.append_inj heq (by rw [length_stream, length_stream, hsame])
    refine ⟨(stream_injOn houtput hys hsame.symm hbytes).symm, ?_⟩
    rw [hrest, show k = bits by omega]
  · intro ⟨hys, hzero⟩
    rw [hys]
    refine ⟨hdigits, houtput, bits, by omega, ?_⟩
    rw [hstream, hzero]

private theorem toNat_map_lt (bytes : Bytes) : ∀ y ∈ bytes.map UInt8.toNat, y < 2 ^ 8 := by
  intro y hy
  obtain ⟨byte, -, rfl⟩ := List.mem_map.mp hy
  exact byte.toNat_lt

private theorem toNat_map_injective {xs ys : Bytes} (h : xs.map UInt8.toNat = ys.map UInt8.toNat) :
    xs = ys :=
  List.map_injective_iff.mpr (fun _ _ hxy => UInt8.toNat_inj.mp hxy) h

def notCanonical : WebAuthnClientError :=
  ⟨.invalidOptions, "Base64url WebAuthn data is not canonical"⟩

/-- **Everything `decodeBase64Url` does**: it refuses at its entry, or the loop runs through and
    the spare bits decide. -/
theorem decodeBase64UrlWith_cases {width : ℕ} (hwidth : 12 ≤ width) (value : JsString) {m : ℕ}
    (hm : m ≤ maxWebauthnBinaryBytes) :
    (∃ e, checkEncoded value m = .error e ∧ decodeBase64UrlWith width value m = .error e) ∨
    (checkEncoded value m = .ok () ∧ ∃ (digits : List ℕ) (state : DecodeState width),
      (∀ d ∈ digits, d < 64) ∧ value = digits.map letterOf ∧
      decodeCharacters width value (decodeBuffer value) = .ok state ∧
      state.output.length ≤ m ∧
      ((Regroups 6 8 digits (state.output.map UInt8.toNat) ∧
          decodeBase64UrlWith width value m = .ok state.output) ∨
        ((∀ ys, ¬ Regroups 6 8 digits ys) ∧
          decodeBase64UrlWith width value m = .error notCanonical))) := by
  cases hcheck : checkEncoded value m with
  | error e => exact .inl ⟨e, rfl, by rw [decodeBase64UrlWith, hcheck]; rfl⟩
  | ok _ =>
    right
    refine ⟨rfl, ?_⟩
    obtain ⟨hlength, hpattern, hresidue⟩ := (checkEncoded_iff hm).mp hcheck
    obtain ⟨digits, hdigits, rfl⟩ := base64UrlPattern_iff.mp hpattern
    rw [List.length_map] at hlength hresidue
    -- So many digits are counted without rounding.
    have hsmall : digits.length < 2 ^ 16 := by
      rw [maxWebauthnBinaryBytes] at hm
      omega
    have hbuffer : decodeBuffer (digits.map letterOf) =
        List.replicate (6 * digits.length / 8) 0 := by
      rw [decodeBuffer, List.length_map, floor_divideNumbers hsmall, Int.toNat_natCast]
    obtain ⟨state, hloop, hbits, houtput, hstream⟩ :=
      decodeCharacters_eq hwidth hdigits
    have hfits : state.output.length ≤ m := by omega
    -- The bits of the digits are the bytes of the output and the spare bits behind them.
    have hiff := fun ys => @regroups_iff digits _ ys _ _ hdigits (toNat_map_lt state.output) hbits
      hresidue hstream
    refine ⟨digits, state, hdigits, rfl, by rw [hbuffer, hloop], hfits, ?_⟩
    have hresult : decodeBase64UrlWith width (digits.map letterOf) m =
        if state.bits > 0 ∧ state.lastDigit &&& (1 <<< state.bits - 1) ≠ 0 then
          .error notCanonical
        else .ok state.output := by
      rw [decodeBase64UrlWith, hcheck, hbuffer, hloop]
      have hnotLarge : ¬ (state.output.length : ℤ) > m := by omega
      split
      · next hspare => simp [bind, Except.bind, hspare, throw, throwThe, MonadExceptOf.throw,
          notCanonical]
      · next hspare => simp [bind, Except.bind, hspare, hnotLarge, pure, Except.pure]
    rw [hresult]
    -- The text is canonical if the spare bits are zero.
    by_cases hspare : bitsOf state.bits state.lastDigit = List.replicate state.bits false
    · left
      rw [if_neg (mt spare_bits_iff.mp (not_not.mpr hspare))]
      exact ⟨(hiff _).mpr ⟨rfl, hspare⟩, rfl⟩
    · right
      rw [if_pos (spare_bits_iff.mpr hspare)]
      exact ⟨fun ys hys => hspare ((hiff ys).mp hys).2, rfl⟩

/-- **The decoder accepts exactly the encodings of at most `maxBytes` bytes.** -/
theorem decodeBase64UrlWith_eq_ok {width : ℕ} (hwidth : 12 ≤ width) {value : JsString} {m : ℕ}
    (hm : m ≤ maxWebauthnBinaryBytes) {bytes : Bytes} :
    decodeBase64UrlWith width value m = .ok bytes ↔
      encodeBase64Url bytes = .ok value ∧ bytes.length ≤ m := by
  constructor
  · intro hok
    rcases decodeBase64UrlWith_cases hwidth value hm with
      ⟨e, _, herror⟩ | ⟨_, digits, state, _, hvalue, _, hfits, hdone⟩
    · rw [hok] at herror
      cases herror
    · rcases hdone with ⟨hregroups, hresult⟩ | ⟨_, herror⟩
      · rw [hok, Except.ok.injEq] at hresult
        -- The digits that regroup into the bytes are unique, so the encoder writes the same ones.
        subst hresult
        obtain ⟨digits', hletters, hregroups'⟩ := encodeGroups_regroups state.output
        rw [hvalue, encodeBase64Url, if_neg (by omega), hletters, hregroups'.eq_left hregroups]
        exact ⟨rfl, hfits⟩
      · rw [hok] at herror
        cases herror
  · intro ⟨hencode, hfits⟩
    obtain ⟨digits, hletters, hregroups⟩ := encodeGroups_regroups bytes
    rw [encodeBase64Url, if_neg (by omega), Except.ok.injEq, hletters] at hencode
    obtain ⟨k, hk, hlength⟩ := hregroups.length_eq
    rw [List.length_map] at hlength
    have hvalueLength : value.length = digits.length := by rw [← hencode, List.length_map]
    -- What the encoder has written passes the checks of the decoder.
    have hcheck : checkEncoded value m = .ok () := by
      refine (checkEncoded_iff hm).mpr ⟨by omega, ?_, by omega⟩
      exact base64UrlPattern_iff.mpr ⟨digits, hregroups.1, hencode.symm⟩
    rcases decodeBase64UrlWith_cases hwidth value hm with
      ⟨e, herror, _⟩ | ⟨_, digits', state, hdigits', hvalue, hloop, _, hdone⟩
    · rw [hcheck] at herror
      cases herror
    · have hsame : digits' = digits :=
        letters_injOn hdigits' hregroups.1 (by rw [← hvalue, hencode])
      rw [hsame] at hdone
      rcases hdone with ⟨hregroups', hresult⟩ | ⟨hnone, _⟩
      · rw [hresult, toNat_map_injective (hregroups.eq_right (by decide) hregroups')]
      · exact absurd hregroups (hnone _)

/-- Bits lost at the top of the accumulator make no difference. -/
theorem decodeBase64UrlWith_width {width : ℕ} (hwidth : 12 ≤ width) (value : JsString) {m : ℕ}
    (hm : m ≤ maxWebauthnBinaryBytes) :
    decodeBase64UrlWith width value m = decodeBase64Url value m := by
  have hsame : ∀ bytes, decodeBase64UrlWith width value m = .ok bytes ↔
      decodeBase64Url value m = .ok bytes := fun bytes =>
    (decodeBase64UrlWith_eq_ok hwidth hm).trans (decodeBase64UrlWith_eq_ok (by decide) hm).symm
  rcases decodeBase64UrlWith_cases hwidth value hm with
    ⟨e, hcheck, herror⟩ | ⟨hcheck, _, state, _, _, _, _, ⟨_, hok⟩ | ⟨_, herror⟩⟩
  · rw [decodeBase64Url, herror, decodeBase64UrlWith, hcheck]
    rfl
  · rw [hok, (hsame _).mp hok]
  · rcases decodeBase64UrlWith_cases (by decide : 12 ≤ 32) value hm with
      ⟨e, hcheck', _⟩ | ⟨_, _, state, _, _, _, _, ⟨_, hok⟩ | ⟨_, herror'⟩⟩
    · rw [hcheck] at hcheck'
      cases hcheck'
    · have hok' := (hsame _).mpr hok
      rw [herror] at hok'
      cases hok'
    · rw [decodeBase64Url, herror, herror']

/-- An encoding ends with a digit whose spare bits are zero. -/
theorem spare_bits_of_regroups {digits : List ℕ} {digit : ℕ} {ys : List ℕ}
    (h : Regroups 6 8 (digits ++ [digit]) ys) :
    digit % 2 ^ (6 * (digits.length + 1) % 8) = 0 := by
  obtain ⟨k₀, hk₀, hlength⟩ := h.length_eq
  obtain ⟨-, -, k, hk, hstream⟩ := h
  have hlengths := congrArg List.length hstream
  simp only [List.length_append, length_stream, List.length_replicate, List.length_singleton]
    at hlengths hlength
  have hspare : 6 * (digits.length + 1) % 8 = k := by omega
  rw [hspare]
  -- Both streams end with the `k` lowest bits of the last digit.
  have hdigit : bitsOf 6 digit = bitsOf (6 - k) (digit / 2 ^ k) ++ bitsOf k digit := by
    rw [← bitsOf_add, Nat.sub_add_cancel hk.le]
  rw [stream_append, stream_cons, stream_nil, List.append_nil, hdigit, ← List.append_assoc]
    at hstream
  have hzeros := (List.append_inj' hstream (by rw [length_bitsOf, List.length_replicate])).2
  rw [← bitsOf_zero, bitsOf_eq_iff, Nat.zero_mod] at hzeros
  exact hzeros

/-- **Strict base64url.** For every string and every byte limit in `0..=8192`, the decoder returns
    exactly the bytes, at most the limit of them, that the string is the encoding of, and throws
    otherwise: on a character outside the alphabet (so on padding), on a length of 1 modulo 4, on
    spare bits that are not zero. Once its entry tests have passed, its loop never throws and the
    output never exceeds the limit, and an accumulator of any more bits, one that never wraps
    included, gives the same result. -/
theorem decodeBase64Url_strict (value : JsString) (maxBytes : ℤ)
    (hmax : 0 ≤ maxBytes ∧ maxBytes ≤ 8192) :
    (∀ bytes, decodeBase64Url value maxBytes = .ok bytes ↔
      encodeBase64Url bytes = .ok value ∧ (bytes.length : ℤ) ≤ maxBytes) ∧
    ((∃ unit ∈ value, unit ∉ base64UrlAlphabet) →
      ∃ e, decodeBase64Url value maxBytes = .error e) ∧
    (value.length % 4 = 1 → ∃ e, decodeBase64Url value maxBytes = .error e) ∧
    (∀ rest unit digit, value = rest ++ [unit] → base64UrlAlphabet[digit]? = some unit →
      digit % 2 ^ (6 * value.length % 8) ≠ 0 → ∃ e, decodeBase64Url value maxBytes = .error e) ∧
    (checkEncoded value maxBytes = .ok () →
      ∃ state, decodeCharacters 32 value (decodeBuffer value) = .ok state ∧
        (state.output.length : ℤ) ≤ maxBytes) ∧
    (∀ width, 32 ≤ width →
      decodeBase64UrlWith width value maxBytes = decodeBase64Url value maxBytes) := by
  obtain ⟨m, rfl⟩ := Int.eq_ofNat_of_zero_le hmax.1
  have hm : m ≤ maxWebauthnBinaryBytes := by exact_mod_cast hmax.2
  have hok : ∀ bytes, decodeBase64Url value m = .ok bytes ↔
      encodeBase64Url bytes = .ok value ∧ bytes.length ≤ m := fun bytes =>
    decodeBase64UrlWith_eq_ok (by decide) hm
  -- Whatever is not an encoding is refused.
  have hrefused : (∀ bytes, encodeBase64Url bytes ≠ .ok value) →
      ∃ e, decodeBase64Url value m = .error e := by
    intro hnone
    cases hresult : decodeBase64Url value m with
    | error e => exact ⟨e, rfl⟩
    | ok bytes => exact absurd ((hok bytes).mp hresult).1 (hnone bytes)
  have hencoded : ∀ bytes, encodeBase64Url bytes = .ok value → ∃ digits,
      value = digits.map letterOf ∧ Regroups 6 8 digits (bytes.map UInt8.toNat) := by
    intro bytes hencode
    obtain ⟨digits, hletters, hregroups⟩ := encodeGroups_regroups bytes
    unfold encodeBase64Url at hencode
    split at hencode
    · cases hencode
    · exact ⟨digits, by rw [← hletters, Except.ok.inj hencode], hregroups⟩
  refine ⟨?_, ?_, ?_, ?_, ?_, ?_⟩
  · intro bytes
    rw [hok, Nat.cast_le]
  · intro ⟨unit, hunit, hforeign⟩
    apply hrefused
    intro bytes hencode
    obtain ⟨digits, hvalue, hregroups⟩ := hencoded bytes hencode
    rw [hvalue, List.mem_map] at hunit
    obtain ⟨d, hd, hletter⟩ := hunit
    exact hforeign (mem_alphabet_iff.mpr ⟨d, hregroups.1 d hd, hletter⟩)
  · intro hresidue
    apply hrefused
    intro bytes hencode
    obtain ⟨digits, hvalue, hregroups⟩ := hencoded bytes hencode
    obtain ⟨k, hk, hlength⟩ := hregroups.length_eq
    rw [hvalue, List.length_map] at hresidue
    omega
  · intro rest unit digit hvalue hunit hspare
    apply hrefused
    intro bytes hencode
    obtain ⟨digits, hletters, hregroups⟩ := hencoded bytes hencode
    have hlength : value.length = digits.length := by rw [hletters, List.length_map]
    rcases List.eq_nil_or_concat digits with hnil | ⟨front, last, hsnoc⟩
    · rw [hletters, hnil] at hvalue
      exact List.append_ne_nil_of_right_ne_nil _ (List.cons_ne_nil _ _) hvalue.symm
    · rw [List.concat_eq_append] at hsnoc
      subst hsnoc
      rw [hletters, List.map_append] at hvalue
      have hlast := (List.append_inj' hvalue rfl).2
      rw [List.map_singleton, List.cons.injEq] at hlast
      obtain ⟨hdigit, hunit'⟩ := List.getElem?_eq_some_iff.mp hunit
      have hletter : letterOf digit = letterOf last := by
        rw [hlast.1, letterOf, hunit]
        rfl
      have hdigitEq := letterOf_injOn hdigit (hregroups.1 last (by simp)) hletter
      apply hspare
      rw [hlength, List.length_append, List.length_singleton, hdigitEq]
      exact spare_bits_of_regroups hregroups
  · intro hcheck
    rcases decodeBase64UrlWith_cases (by decide : 12 ≤ 32) value hm with
      ⟨e, herror, _⟩ | ⟨_, _, state, _, _, hloop, hfits, _⟩
    · rw [hcheck] at herror
      cases herror
    · exact ⟨state, hloop, by exact_mod_cast hfits⟩
  · intro width hwidth
    exact decodeBase64UrlWith_width (by omega) value hm

/-- `AQID-g` is the encoding of the bytes 1, 2, 3, 250; `AQID-h` has a spare bit set and
    `AQID-g==` is padded. -/
theorem decodeBase64Url_strict_four_bytes :
    decodeBase64Url (codeUnits "AQID-g") 4 = .ok [1, 2, 3, 250] ∧
      (∃ e, decodeBase64Url (codeUnits "AQID-h") 4 = .error e) ∧
      ∃ e, decodeBase64Url (codeUnits "AQID-g==") 4 = .error e := by
  have hrange : (0 : ℤ) ≤ 4 ∧ (4 : ℤ) ≤ 8192 := by decide
  refine ⟨?_, ?_, ?_⟩
  · exact ((decodeBase64Url_strict (codeUnits "AQID-g") 4 hrange).1 [1, 2, 3, 250]).mpr
      (by decide +kernel)
  · obtain ⟨-, -, -, hspare, -, -⟩ := decodeBase64Url_strict (codeUnits "AQID-h") 4 hrange
    exact hspare (codeUnits "AQID-") 0x68 33 (by decide +kernel) (by decide +kernel)
      (by decide +kernel)
  · obtain ⟨-, hforeign, -, -, -, -⟩ := decodeBase64Url_strict (codeUnits "AQID-g==") 4 hrange
    exact hforeign ⟨0x3D, by decide +kernel, by decide +kernel⟩

end SecureKeypad.Web
