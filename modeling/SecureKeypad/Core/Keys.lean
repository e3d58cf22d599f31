import SecureKeypad.Library.Rust

/-!
# Input Policies and Key Identifiers (`secure-core::input`)

Embeds the public side of the secure core: input policies, the resolution of a public key
identifier under a policy, and the token a resolved key is stored as.

## Main results

- `InputPolicy.resolve_inRange`: a resolved key lies in the range its kind documents
-/

namespace SecureKeypad.Core

open Rust

/-! ## Policies -/

def maxKeyIdBytes : ℕ := 64
def maxInputTokens : ℕ := 4096

/-- `NormalizationPolicy`. -/
inductive NormalizationPolicy where
  | nfc
deriving DecidableEq

/-- `InputPolicy`; the variants keep the source's capitals, the constructors of the same name
    below clamp. -/
inductive InputPolicy where
  | Numeric (maxTokens : ℕ)
  | Hangul (maxTokens : ℕ) (normalization : NormalizationPolicy)
  | Ascii (maxTokens : ℕ)
deriving DecidableEq

namespace InputPolicy

/-- `usize::clamp(1, MAX_INPUT_TOKENS)`. -/
def clampTokens (maxTokens : ℕ) : ℕ := min (max maxTokens 1) maxInputTokens

/-- `InputPolicy::numeric`. -/
def numeric (maxTokens : ℕ) : InputPolicy := .Numeric (clampTokens maxTokens)

/-- `InputPolicy::hangul`. -/
def hangul (maxTokens : ℕ) : InputPolicy := .Hangul (clampTokens maxTokens) .nfc

/-- `InputPolicy::ascii`. -/
def ascii (maxTokens : ℕ) : InputPolicy := .Ascii (clampTokens maxTokens)

/-- `InputPolicy::max_tokens`. -/
def maxTokens : InputPolicy → ℕ
  | .Numeric maxTokens | .Hangul maxTokens _ | .Ascii maxTokens => maxTokens

/-- A policy made by one of the three public constructors. -/
def IsConstructed (policy : InputPolicy) : Prop :=
  ∃ n, policy = numeric n ∨ policy = hangul n ∨ policy = ascii n

theorem clampTokens_bounds (n : ℕ) : 1 ≤ clampTokens n ∧ clampTokens n ≤ maxInputTokens := by
  unfold clampTokens maxInputTokens
  omega

/-- The public constructors keep the token limit in `1..=MAX_INPUT_TOKENS`. -/
theorem IsConstructed.maxTokens_bounds {policy : InputPolicy} (h : policy.IsConstructed) :
    1 ≤ policy.maxTokens ∧ policy.maxTokens ≤ maxInputTokens := by
  obtain ⟨n, rfl | rfl | rfl⟩ := h
  · exact clampTokens_bounds n
  · exact clampTokens_bounds n
  · exact clampTokens_bounds n

end InputPolicy

/-! ## Resolution -/

/-- `InputError`. -/
inductive InputError where
  | invalidKey
  | limitReached
deriving DecidableEq

/-- `KeyId`. -/
structure KeyId where
  value : String
deriving DecidableEq

/-- `ResolvedKey`. -/
inductive ResolvedKey where
  | digit (value : UInt8)
  | ascii (value : UInt8)
  | leading (value : UInt8)
  | vowel (value : UInt8)
  | trailing (value : UInt8)
deriving DecidableEq

/-- `str::strip_prefix`, on the UTF-8 bytes. -/
def stripPrefix (head key : String) : Option Bytes :=
  if (asBytes head).isPrefixOf (asBytes key) then
    some ((asBytes key).drop (asBytes head).length)
  else none

def leadingKeys : List String :=
  ["giyeok", "ssang-giyeok", "nieun", "digeut", "ssang-digeut", "rieul", "mieum", "bieub",
    "ssang-bieub", "siot", "ssang-siot", "ieung", "jieut", "ssang-jieut", "chieut", "kieuk",
    "tieut", "pieup", "hieuh"]

def vowelKeys : List String :=
  ["a", "ae", "ya", "yae", "eo", "e", "yeo", "ye", "o", "wa", "wae", "oe", "yo", "u", "wo", "we",
    "wi", "yu", "eu", "ui", "i"]

def trailingKeys : List String :=
  ["giyeok", "ssang-giyeok", "giyeok-siot", "nieun", "nieun-jieut", "nieun-hieuh", "digeut",
    "rieul", "rieul-giyeok", "rieul-mieum", "rieul-bieub", "rieul-siot", "rieul-tieut",
    "rieul-pieup", "rieul-hieuh", "mieum", "bieub", "bieub-siot", "siot", "ssang-siot", "ieung",
    "jieut", "chieut", "kieuk", "tieut", "pieup", "hieuh"]

/-- The index of the key named by what follows `head` in `key`. -/
def keyPosition (head : String) (table : List String) (key : String) : Option ℕ :=
  (stripPrefix head key).bind fun name => table.findIdx? fun candidate => asBytes candidate = name

/-- `hangul::resolve_key`. -/
def resolveKey (key : String) : Option ResolvedKey :=
  match keyPosition "jamo-" leadingKeys key with
  | some index => (u8TryFrom index).map .leading
  | none =>
    match keyPosition "vowel-" vowelKeys key with
    | some index => (u8TryFrom index).map .vowel
    | none =>
      match keyPosition "tail-" trailingKeys key with
      | some index => (u8TryFrom index).map fun index => .trailing (index + 1)
      | none => none

/-- The bytes the ASCII policy accepts as hexadecimal digits. -/
def isLowerHex (byte : UInt8) : Bool :=
  isAsciiDigit byte || (0x61 ≤ byte && byte ≤ 0x66)

/-- `InputPolicy::resolve`. -/
def InputPolicy.resolve (policy : InputPolicy) (keyId : KeyId) : Except InputError ResolvedKey :=
  let key := keyId.value
  if key.utf8ByteSize > maxKeyIdBytes then .error .invalidKey
  else
    match policy with
    | .Numeric _ =>
      match stripPrefix "digit-" key with
      | some [byte] =>
        if isAsciiDigit byte then .ok (.digit (byte - 0x30)) else .error .invalidKey
      | _ => .error .invalidKey
    | .Hangul _ _ => (resolveKey key).elim (.error .invalidKey) .ok
    | .Ascii _ =>
      match stripPrefix "ascii-" key with
      | none => .error .invalidKey
      | some codepoint =>
        if codepoint.length ≠ 2 ∨ codepoint.all isLowerHex = false then .error .invalidKey
        else
          match fromStrRadix16 codepoint with
          | none => .error .invalidKey
          | some value =>
            if 0x20 ≤ value ∧ value ≤ 0x7e then .ok (.ascii value) else .error .invalidKey

/-! ## Ranges of resolved keys -/

/-- The range each kind of key documents. -/
def ResolvedKey.InRange : ResolvedKey → Prop
  | .digit value => value ≤ 9
  | .ascii value => 0x20 ≤ value ∧ value ≤ 0x7e
  | .leading value => value < 19
  | .vowel value => value < 21
  | .trailing value => 1 ≤ value ∧ value ≤ 27

/-- The kinds of key a policy resolves to. -/
def InputPolicy.Admits : InputPolicy → ResolvedKey → Prop
  | .Numeric _, .digit _ => True
  | .Hangul _ _, .leading _ | .Hangul _ _, .vowel _ | .Hangul _ _, .trailing _ => True
  | .Ascii _, .ascii _ => True
  | _, _ => False

private theorem keyPosition_lt {head key : String} {table : List String} {index : ℕ}
    (h : keyPosition head table key = some index) : index < table.length := by
  obtain ⟨name, _, hfind⟩ := Option.bind_eq_some_iff.mp h
  obtain ⟨hlt, _⟩ := List.findIdx?_eq_some_iff_getElem.mp hfind
  exact hlt

/-- A jamo key resolves to a jamo index inside its table. -/
theorem resolveKey_inRange {key : String} {resolved : ResolvedKey}
    (h : resolveKey key = some resolved) :
    resolved.InRange ∧ ∀ n normalization, (InputPolicy.Hangul n normalization).Admits resolved := by
  unfold resolveKey at h
  -- The position in its table bounds the index of the key.
  cases hleading : keyPosition "jamo-" leadingKeys key with
  | some index =>
    rw [hleading] at h
    obtain ⟨value, hvalue, rfl⟩ := Option.map_eq_some_iff.mp h
    have hlt : index < 19 := keyPosition_lt hleading
    refine ⟨?_, fun _ _ => trivial⟩
    change value < 19
    rw [UInt8.lt_iff_toNat_lt, toNat_of_u8TryFrom hvalue]
    exact hlt
  | none =>
    rw [hleading] at h
    cases hvowel : keyPosition "vowel-" vowelKeys key with
    | some index =>
      rw [hvowel] at h
      obtain ⟨value, hvalue, rfl⟩ := Option.map_eq_some_iff.mp h
      have hlt : index < 21 := keyPosition_lt hvowel
      refine ⟨?_, fun _ _ => trivial⟩
      change value < 21
      rw [UInt8.lt_iff_toNat_lt, toNat_of_u8TryFrom hvalue]
      exact hlt
    | none =>
      rw [hvowel] at h
      cases htrailing : keyPosition "tail-" trailingKeys key with
      | none =>
        rw [htrailing] at h
        cases h
      | some index =>
        rw [htrailing] at h
        obtain ⟨value, hvalue, rfl⟩ := Option.map_eq_some_iff.mp h
        have hlt : index < 27 := keyPosition_lt htrailing
        -- Trailing indices start at 1, where 0 stands for no trailing consonant.
        have htoNat : (value + 1).toNat = index + 1 := by
          rw [UInt8.toNat_add, toNat_of_u8TryFrom hvalue]
          change (index + 1) % 256 = index + 1
          omega
        refine ⟨⟨?_, ?_⟩, fun _ _ => trivial⟩
        · rw [UInt8.le_iff_toNat_le, htoNat]
          exact Nat.le_add_left 1 index
        · rw [UInt8.le_iff_toNat_le, htoNat]
          exact hlt

/-- **A resolved key lies in the range of its kind, and its kind is one the policy admits.** -/
theorem InputPolicy.resolve_inRange {policy : InputPolicy} {keyId : KeyId} {key : ResolvedKey}
    (h : policy.resolve keyId = .ok key) : key.InRange ∧ policy.Admits key := by
  unfold InputPolicy.resolve at h
  simp only at h
  split at h
  · cases h
  -- Each policy checks the range of what it has parsed, or takes it from a table.
  · cases policy with
    | Numeric n =>
      simp only at h
      split at h
      · next byte _ =>
        split at h
        · next hdigit =>
          cases h
          exact ⟨sub_le_nine_of_isAsciiDigit hdigit, trivial⟩
        · cases h
      · cases h
    | Hangul n normalization =>
      simp only at h
      cases hresolve : resolveKey keyId.value with
      | none =>
        rw [hresolve] at h
        cases h
      | some resolved =>
        rw [hresolve] at h
        cases h
        obtain ⟨hrange, hadmits⟩ := resolveKey_inRange hresolve
        exact ⟨hrange, hadmits n normalization⟩
    | Ascii n =>
      simp only at h
      split at h
      · cases h
      · split at h
        · cases h
        · split at h
          · cases h
          · split at h
            · next hvalue =>
              cases h
              exact ⟨hvalue, trivial⟩
            · cases h

end SecureKeypad.Core
