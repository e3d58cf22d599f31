import SecureKeypad.Core.Keys
import SecureKeypad.Library.Bytes
import SecureKeypad.Library.Regex
import SecureKeypad.Native.Layout

/-!
# Input Key Identifiers in Four Languages

The identifier of an input key is checked by the TypeScript contract, the Rust core, the Android
view and the iOS view, each with its own text of the same table. This module compares the four on
every string.

Three of them accept exactly the canonical spellings. The iOS check of the numeric policy searches
with `$`, which ICU also matches in front of a final line terminator, and accepts a digit key with
one behind it.

## Main results

- `resolve_isOk_iff`, `tsIsCanonicalInputKeyId_iff`, `androidIsCanonicalInputKeyId_iff`,
  `iosIsCanonicalInputKeyId_iff`: what each of the four accepts
- `input_key_ids_agree_iff`: where the four agree
-/

namespace SecureKeypad.Contracts

open Rust
open Native (InputPolicy isHexDigit hexValue hangulInputKeyIds)
open SecureKeypad.Core (ResolvedKey leadingKeys vowelKeys trailingKeys)

/-! ## The four checks -/

/-- `digit-[0-9]` -/
def numericInputKeyPattern : Regex := .seq (.lit "digit-".toList) (.one Char.isDigit)

/-- `ascii-[0-9a-f]{2}` -/
def asciiInputKeyPattern : Regex := .seq (.lit "ascii-".toList) (.many isHexDigit 2 (some 2))

/-- `Number.parseInt(text, 16)` of a text that starts with a digit: the longest prefix of
    digits. -/
def parseInt16 (text : List Char) : ℕ :=
  (text.takeWhile isHexDigit).foldl (fun value c => 16 * value + hexValue c) 0

/-- The value of a text of lower-case hexadecimal digits; `none` for any other text. -/
def strictHex (text : List Char) : Option ℕ :=
  if text ≠ [] ∧ text.all isHexDigit then
    some (text.foldl (fun value c => 16 * value + hexValue c) 0)
  else none

/-- `isCanonicalInputKeyId` of the contract. -/
def tsIsCanonicalInputKeyId (keyId : String) : InputPolicy → Bool
  | .numeric => numericInputKeyPattern.wholeMatch keyId
  | .ascii =>
    if !asciiInputKeyPattern.wholeMatch keyId then false
    else
      let codePoint := parseInt16 (keyId.toList.drop 6)
      codePoint ≥ 0x20 && codePoint ≤ 0x7e
  | .hangul => hangulInputKeyIds.contains keyId

/-- `isCanonicalInputKeyId` of the Android view. `toInt(16)` would throw on a text the pattern does
    not let through. -/
def androidIsCanonicalInputKeyId (keyId : String) : InputPolicy → Bool
  | .numeric => numericInputKeyPattern.wholeMatch keyId
  | .ascii =>
    asciiInputKeyPattern.wholeMatch keyId &&
      (strictHex (keyId.toList.drop 6)).any fun value => 0x20 ≤ value && value ≤ 0x7e
  | .hangul => hangulInputKeyIds.contains keyId

/-- `isCanonicalInputKeyId` of the iOS view. `UInt8(_, radix: 16)` is `nil` for a text with
    anything but digits, also with a line terminator behind them. No other text is canonically
    equivalent to one of the table, so that `Set.contains` compares as texts do. -/
def iosIsCanonicalInputKeyId (keyId : String) : InputPolicy → Bool
  | .numeric => numericInputKeyPattern.icuFind keyId
  | .ascii =>
    asciiInputKeyPattern.icuFind keyId &&
      ((strictHex (keyId.toList.drop 6)).filter (· ≤ 255)).any fun codePoint =>
        0x20 ≤ codePoint && codePoint ≤ 0x7e
  | .hangul => hangulInputKeyIds.contains keyId

/-- The policy the core is configured with. -/
def corePolicy (maxTokens : ℕ) : InputPolicy → Core.InputPolicy
  | .numeric => .numeric maxTokens
  | .ascii => .ascii maxTokens
  | .hangul => .hangul maxTokens

/-- `InputPolicy::resolve` succeeds. -/
def resolves (maxTokens : ℕ) (keyId : String) (policy : InputPolicy) : Bool :=
  ((corePolicy maxTokens policy).resolve ⟨keyId⟩).toOption.isSome

/-! ## Canonical spellings -/

def digitChars : List Char := ['0', '1', '2', '3', '4', '5', '6', '7', '8', '9']

def hexChars : List Char := digitChars ++ ['a', 'b', 'c', 'd', 'e', 'f']

/-- The canonical identifiers of a policy. -/
def canonicalKeyIds : InputPolicy → List String
  | .numeric => digitChars.map fun digit => "digit-" ++ String.singleton digit
  | .ascii => (List.range' 0x20 95).map fun code =>
      "ascii-" ++ String.ofList [hexChars.getD (code / 16) '0', hexChars.getD (code % 16) '0']
  | .hangul => hangulInputKeyIds

theorem mem_digitChars {c : Char} : c ∈ digitChars ↔ c.isDigit = true := by
  constructor
  · intro h
    fin_cases h <;> rfl
  · intro h
    simp only [Char.isDigit, Bool.and_eq_true, decide_eq_true_eq] at h
    have hlow : 48 ≤ c.toNat := h.1
    have hhigh : c.toNat ≤ 57 := h.2
    have hc := Char.ofNat_toNat c
    generalize c.toNat = n at hlow hhigh hc
    subst hc
    interval_cases n <;> decide

theorem mem_hexChars {c : Char} : c ∈ hexChars ↔ isHexDigit c = true := by
  rw [hexChars, List.mem_append, mem_digitChars, isHexDigit, Bool.or_eq_true]
  refine or_congr_right ?_
  constructor
  · intro h
    fin_cases h <;> rfl
  · intro h
    simp only [Bool.and_eq_true, decide_eq_true_eq] at h
    have hlow : 97 ≤ c.toNat := h.1
    have hhigh : c.toNat ≤ 102 := h.2
    have hc := Char.ofNat_toNat c
    generalize c.toNat = n at hlow hhigh hc
    subst hc
    interval_cases n <;> decide

theorem hexChars_getD {n : ℕ} (hn : n < 16) :
    hexChars.getD n '0' ∈ hexChars ∧ hexValue (hexChars.getD n '0') = n := by
  interval_cases n <;> exact ⟨by decide, rfl⟩

theorem getD_hexValue {c : Char} (hc : c ∈ hexChars) :
    hexValue c < 16 ∧ hexChars.getD (hexValue c) '0' = c := by
  fin_cases hc <;> exact ⟨by decide, rfl⟩

/-- A canonical numeric identifier is `digit-` and a digit. -/
theorem mem_canonicalKeyIds_numeric {keyId : String} :
    keyId ∈ canonicalKeyIds .numeric ↔
      ∃ digit, digit.isDigit = true ∧ keyId.toList = "digit-".toList ++ [digit] := by
  simp only [canonicalKeyIds, List.mem_map, mem_digitChars]
  constructor
  · rintro ⟨digit, hdigit, rfl⟩
    exact ⟨digit, hdigit, by rw [String.toList_append, String.toList_singleton]⟩
  · rintro ⟨digit, hdigit, hkey⟩
    refine ⟨digit, hdigit, String.toList_injective ?_⟩
    rw [hkey, String.toList_append, String.toList_singleton]

/-- A canonical ASCII identifier is `ascii-` and the two digits of a printable code. -/
theorem mem_canonicalKeyIds_ascii {keyId : String} :
    keyId ∈ canonicalKeyIds .ascii ↔
      ∃ high low, isHexDigit high = true ∧ isHexDigit low = true ∧
        keyId.toList = "ascii-".toList ++ [high, low] ∧
        0x20 ≤ 16 * hexValue high + hexValue low ∧ 16 * hexValue high + hexValue low ≤ 0x7e := by
  simp only [canonicalKeyIds, List.mem_map, List.mem_range'_1, ← mem_hexChars]
  constructor
  · rintro ⟨code, ⟨hlow, hhigh⟩, rfl⟩
    obtain ⟨hmemHigh, hvalueHigh⟩ := hexChars_getD (by omega : code / 16 < 16)
    obtain ⟨hmemLow, hvalueLow⟩ := hexChars_getD (by omega : code % 16 < 16)
    refine ⟨_, _, hmemHigh, hmemLow, by simp, ?_⟩
    rw [hvalueHigh, hvalueLow]
    omega
  · rintro ⟨high, low, hhigh, hlow, hkey, hmin, hmax⟩
    obtain ⟨hltHigh, hgetHigh⟩ := getD_hexValue hhigh
    obtain ⟨hltLow, hgetLow⟩ := getD_hexValue hlow
    refine ⟨16 * hexValue high + hexValue low, ⟨hmin, by omega⟩, String.toList_injective ?_⟩
    have hdiv : (16 * hexValue high + hexValue low) / 16 = hexValue high := by omega
    have hmod : (16 * hexValue high + hexValue low) % 16 = hexValue low := by omega
    rw [hdiv, hmod, hgetHigh, hgetLow, hkey]
    simp

/-! ## The regular expressions -/

theorem numeric_matches_iff {s : List Char} : numericInputKeyPattern.Matches s ↔
    ∃ digit, digit.isDigit = true ∧ s = "digit-".toList ++ [digit] := by
  rw [numericInputKeyPattern, Regex.matches_seq_lit]
  constructor
  · rintro ⟨_, hs, digit, hdigit, rfl⟩
    exact ⟨digit, hdigit, hs⟩
  · rintro ⟨digit, hdigit, hs⟩
    exact ⟨[digit], hs, digit, hdigit, rfl⟩

theorem ascii_matches_iff {s : List Char} : asciiInputKeyPattern.Matches s ↔
    ∃ high low, isHexDigit high = true ∧ isHexDigit low = true ∧
      s = "ascii-".toList ++ [high, low] := by
  rw [asciiInputKeyPattern, Regex.matches_seq_lit]
  constructor
  · rintro ⟨digits, hs, hmin, hmax, hall⟩
    have hlength : digits.length = 2 := le_antisymm (hmax 2 rfl) hmin
    obtain ⟨high, low, rfl⟩ := List.length_eq_two.mp hlength
    exact ⟨high, low, hall high (by simp), hall low (by simp), hs⟩
  · rintro ⟨high, low, hhigh, hlow, hs⟩
    refine ⟨[high, low], hs, le_rfl, by simp, ?_⟩
    simp [hhigh, hlow]

/-- The two digits behind `ascii-`, as the three parsers read them. -/
theorem parse_digits {high low : Char} (hhigh : isHexDigit high = true)
    (hlow : isHexDigit low = true) :
    parseInt16 [high, low] = 16 * hexValue high + hexValue low ∧
      strictHex [high, low] = some (16 * hexValue high + hexValue low) := by
  simp [parseInt16, strictHex, List.takeWhile, hhigh, hlow]

/-! ## What each check accepts -/

/-- The ASCII check of all three: the pattern, and a code in the printable range. -/
theorem ascii_check_iff {keyId : String} (matches' : Bool) (inRange : List Char → Bool)
    (hmatches : (∃ high low, isHexDigit high = true ∧ isHexDigit low = true ∧
      keyId.toList = "ascii-".toList ++ [high, low]) → matches' = true)
    (hcanonical : matches' = true → inRange (keyId.toList.drop 6) = true →
      ∃ high low, isHexDigit high = true ∧ isHexDigit low = true ∧
        keyId.toList = "ascii-".toList ++ [high, low])
    (hrange : ∀ high low, isHexDigit high = true → isHexDigit low = true →
      (inRange [high, low] = true ↔ 0x20 ≤ 16 * hexValue high + hexValue low ∧
        16 * hexValue high + hexValue low ≤ 0x7e)) :
    (matches' && inRange (keyId.toList.drop 6)) = true ↔ keyId ∈ canonicalKeyIds .ascii := by
  rw [Bool.and_eq_true, mem_canonicalKeyIds_ascii]
  constructor
  · rintro ⟨hmatch, hcode⟩
    obtain ⟨high, low, hhigh, hlow, hkey⟩ := hcanonical hmatch hcode
    rw [hkey] at hcode
    exact ⟨high, low, hhigh, hlow, hkey, (hrange high low hhigh hlow).mp hcode⟩
  · rintro ⟨high, low, hhigh, hlow, hkey, hcode⟩
    refine ⟨hmatches ⟨high, low, hhigh, hlow, hkey⟩, ?_⟩
    rw [hkey]
    exact (hrange high low hhigh hlow).mpr hcode

theorem tsIsCanonicalInputKeyId_iff {keyId : String} {policy : InputPolicy} :
    tsIsCanonicalInputKeyId keyId policy = true ↔ keyId ∈ canonicalKeyIds policy := by
  cases policy with
  | numeric =>
    rw [tsIsCanonicalInputKeyId, Regex.wholeMatch_iff, numeric_matches_iff,
      mem_canonicalKeyIds_numeric]
  | ascii =>
    rw [← ascii_check_iff (asciiInputKeyPattern.wholeMatch keyId) fun text =>
      parseInt16 text ≥ 0x20 && parseInt16 text ≤ 0x7e]
    · cases h : asciiInputKeyPattern.wholeMatch keyId <;> simp [tsIsCanonicalInputKeyId, h]
    · intro h
      exact Regex.wholeMatch_iff.mpr (ascii_matches_iff.mpr h)
    · intro h _
      exact ascii_matches_iff.mp (Regex.wholeMatch_iff.mp h)
    · intro high low hhigh hlow
      simp [(parse_digits hhigh hlow).1]
  | hangul => simp [tsIsCanonicalInputKeyId, canonicalKeyIds]

theorem androidIsCanonicalInputKeyId_iff {keyId : String} {policy : InputPolicy} :
    androidIsCanonicalInputKeyId keyId policy = true ↔ keyId ∈ canonicalKeyIds policy := by
  cases policy with
  | numeric =>
    rw [androidIsCanonicalInputKeyId, Regex.wholeMatch_iff, numeric_matches_iff,
      mem_canonicalKeyIds_numeric]
  | ascii =>
    apply ascii_check_iff (asciiInputKeyPattern.wholeMatch keyId) fun text =>
      (strictHex text).any fun value => 0x20 ≤ value && value ≤ 0x7e
    · intro h
      exact Regex.wholeMatch_iff.mpr (ascii_matches_iff.mpr h)
    · intro h _
      exact ascii_matches_iff.mp (Regex.wholeMatch_iff.mp h)
    · intro high low hhigh hlow
      simp [(parse_digits hhigh hlow).2]
  | hangul => simp [androidIsCanonicalInputKeyId, canonicalKeyIds]

/-- The form the Android view's check has in the model of the view. -/
theorem androidIsCanonicalInputKeyId_eq (keyId : String) (policy : InputPolicy) :
    Native.isCanonicalInputKeyId keyId policy = androidIsCanonicalInputKeyId keyId policy := by
  rw [Bool.eq_iff_iff, androidIsCanonicalInputKeyId_iff]
  -- The view matches the characters where the parser has a pattern.
  cases policy with
  | numeric =>
    rw [mem_canonicalKeyIds_numeric]
    constructor
    · intro h
      simp only [Native.isCanonicalInputKeyId] at h
      split at h
      · next digit hkey => exact ⟨digit, h, hkey⟩
      · cases h
    · rintro ⟨digit, hdigit, hkey⟩
      simp only [Native.isCanonicalInputKeyId, hkey]
      exact hdigit
  | ascii =>
    rw [mem_canonicalKeyIds_ascii]
    constructor
    · intro h
      simp only [Native.isCanonicalInputKeyId] at h
      split at h
      · next high low hkey =>
        simp only [Bool.and_eq_true, decide_eq_true_eq] at h
        exact ⟨high, low, h.1.1.1, h.1.1.2, hkey, h.1.2, h.2⟩
      · cases h
    · rintro ⟨high, low, hhigh, hlow, hkey, hmin, hmax⟩
      simp only [Native.isCanonicalInputKeyId, hkey]
      simp [hhigh, hlow, hmin, hmax]
  | hangul => simp [Native.isCanonicalInputKeyId, canonicalKeyIds]

/-- A digit key with a line terminator behind it. -/
def IsTerminatedDigitKey (keyId : String) : Prop :=
  ∃ digit, digit.isDigit = true ∧ ∃ terminator ∈ Regex.icuLineTerminators,
    keyId.toList = "digit-".toList ++ digit :: terminator

/-- Behind two hexadecimal digits `UInt8(_, radix:)` takes nothing more. -/
theorem strictHex_terminated {high low : Char} {terminator : List Char}
    (h : terminator ∈ Regex.icuLineTerminators) : strictHex (high :: low :: terminator) = none := by
  rw [strictHex, if_neg]
  rintro ⟨_, hall⟩
  simp only [List.all_cons, Bool.and_eq_true] at hall
  fin_cases h <;> exact absurd hall.2.2 (by decide)

theorem iosIsCanonicalInputKeyId_iff {keyId : String} {policy : InputPolicy} :
    iosIsCanonicalInputKeyId keyId policy = true ↔
      keyId ∈ canonicalKeyIds policy ∨ (policy = .numeric ∧ IsTerminatedDigitKey keyId) := by
  cases policy with
  -- The search may stop in front of a final terminator, so such an id matches as well.
  | numeric =>
    rw [iosIsCanonicalInputKeyId, Regex.icuFind_iff, numeric_matches_iff,
      mem_canonicalKeyIds_numeric]
    simp only [true_and]
    refine or_congr_right ?_
    constructor
    · rintro ⟨front, terminator, hterminator, hkey, hmatch⟩
      obtain ⟨digit, hdigit, rfl⟩ := numeric_matches_iff.mp hmatch
      exact ⟨digit, hdigit, terminator, hterminator, by rw [hkey, List.append_assoc]; rfl⟩
    · rintro ⟨digit, hdigit, terminator, hterminator, hkey⟩
      refine ⟨_, terminator, hterminator, ?_, numeric_matches_iff.mpr ⟨digit, hdigit, rfl⟩⟩
      rw [hkey, List.append_assoc]
      rfl
  | ascii =>
    simp only [reduceCtorEq, false_and, or_false]
    apply ascii_check_iff (asciiInputKeyPattern.icuFind keyId) fun text =>
      ((strictHex text).filter (· ≤ 255)).any fun codePoint => 0x20 ≤ codePoint && codePoint ≤ 0x7e
    · intro h
      exact Regex.icuFind_iff.mpr (.inl (ascii_matches_iff.mpr h))
    · intro h hcode
      rcases Regex.icuFind_iff.mp h with hmatch | ⟨front, terminator, hterminator, hkey, hmatch⟩
      · exact ascii_matches_iff.mp hmatch
      · -- Found only in front of a terminator: then the digits do not parse.
        obtain ⟨high, low, _, _, rfl⟩ := ascii_matches_iff.mp hmatch
        rw [hkey] at hcode
        have hdrop : ("ascii-".toList ++ [high, low] ++ terminator).drop 6 =
            high :: low :: terminator := rfl
        rw [hdrop, strictHex_terminated hterminator] at hcode
        cases hcode
    · intro high low hhigh hlow
      rw [(parse_digits hhigh hlow).2]
      simp only [Option.filter_some, decide_eq_true_eq]
      split
      · simp
      · next hlarge =>
        simp only [Option.any_none, Bool.false_eq_true, false_iff, not_and]
        omega
  | hangul => simp [iosIsCanonicalInputKeyId, canonicalKeyIds]

/-! ## What the core resolves -/

/-- The canonical identifier of a resolved key. -/
def keyIdOf : ResolvedKey → String
  | .digit value => "digit-" ++ String.singleton (digitChars.getD value.toNat '0')
  | .ascii value => "ascii-" ++ hexEncode [value]
  | .leading value => "jamo-" ++ leadingKeys.getD value.toNat ""
  | .vowel value => "vowel-" ++ vowelKeys.getD value.toNat ""
  | .trailing value => "tail-" ++ trailingKeys.getD (value.toNat - 1) ""

/-- The token bound of the policy is not looked at. -/
theorem resolve_corePolicy (maxTokens : ℕ) (policy : InputPolicy) (keyId : String) :
    (corePolicy maxTokens policy).resolve ⟨keyId⟩ = (corePolicy 1 policy).resolve ⟨keyId⟩ := by
  cases policy <;> rfl

/-- Every canonical identifier resolves, to a key that has it. -/
theorem resolve_canonical : ∀ policy ∈ [InputPolicy.numeric, .ascii, .hangul],
    ∀ keyId ∈ canonicalKeyIds policy,
      ((corePolicy 1 policy).resolve ⟨keyId⟩).toOption.map keyIdOf = some keyId := by
  decide +kernel

theorem asBytes_append (s t : String) : asBytes (s ++ t) = asBytes s ++ asBytes t := by
  simp [asBytes]

theorem stripPrefix_eq_some {head key : String} {rest : Bytes}
    (h : Core.stripPrefix head key = some rest) : asBytes key = asBytes head ++ rest := by
  unfold Core.stripPrefix at h
  split at h
  · next hprefix =>
    obtain ⟨rest', hrest⟩ := List.isPrefixOf_iff_prefix.mp hprefix
    rw [← hrest, List.drop_left, Option.some.injEq] at h
    rw [← hrest, h]
  · cases h

/-- A digit byte is the text of a digit. -/
theorem exists_digit_of_isAsciiDigit {byte : UInt8} (h : isAsciiDigit byte = true) :
    ∃ digit ∈ digitChars, asBytes (String.singleton digit) = [byte] := by
  have hall : ∀ n < 10, asBytes (String.singleton (digitChars.getD n '0')) =
      [UInt8.ofNat (n + 0x30)] := by
    decide +kernel
  simp only [isAsciiDigit, Bool.and_eq_true, decide_eq_true_eq] at h
  have hlow : 48 ≤ byte.toNat := h.1
  have hhigh : byte.toNat ≤ 57 := h.2
  have hlt : byte.toNat - 48 < 10 := by omega
  refine ⟨digitChars.getD (byte.toNat - 48) '0', ?_, ?_⟩
  · generalize byte.toNat - 48 = n at hlt
    interval_cases n <;> decide
  · rw [hall _ hlt, Nat.sub_add_cancel hlow, UInt8.ofNat_toNat]

/-- A printable code has a canonical identifier. -/
theorem ascii_mem_canonicalKeyIds {value : UInt8} (hmin : 0x20 ≤ value) (hmax : value ≤ 0x7e) :
    "ascii-" ++ hexEncode [value] ∈ canonicalKeyIds .ascii := by
  have hall : ∀ n < 95, "ascii-" ++ hexEncode [UInt8.ofNat (n + 0x20)] ∈ canonicalKeyIds .ascii := by
    decide +kernel
  have hlow : 32 ≤ value.toNat := hmin
  have hhigh : value.toNat ≤ 126 := hmax
  have hvalue := hall (value.toNat - 32) (by omega)
  rwa [Nat.sub_add_cancel hlow, UInt8.ofNat_toNat] at hvalue

theorem hangul_tables : leadingKeys.map ("jamo-" ++ ·) ++ (vowelKeys.map ("vowel-" ++ ·) ++
    trailingKeys.map ("tail-" ++ ·)) = hangulInputKeyIds := by
  decide +kernel

/-- A named key is the table's name behind its head. -/
theorem exists_name_of_keyPosition {head key : String} {table : List String} {index : ℕ}
    (h : Core.keyPosition head table key = some index) : ∃ name ∈ table, key = head ++ name := by
  obtain ⟨rest, hstrip, hfind⟩ := Option.bind_eq_some_iff.mp h
  obtain ⟨hlt, hname, _⟩ := List.findIdx?_eq_some_iff_getElem.mp hfind
  refine ⟨table[index], List.getElem_mem hlt, asBytes_injective ?_⟩
  rw [stripPrefix_eq_some hstrip, asBytes_append, of_decide_eq_true hname]

theorem mem_hangulInputKeyIds_of_resolveKey {key : String} {resolved : ResolvedKey}
    (h : Core.resolveKey key = some resolved) : key ∈ hangulInputKeyIds := by
  rw [← hangul_tables, List.mem_append, List.mem_append, List.mem_map, List.mem_map, List.mem_map]
  unfold Core.resolveKey at h
  split at h
  · next index hindex =>
    obtain ⟨name, hname, rfl⟩ := exists_name_of_keyPosition hindex
    exact .inl ⟨name, hname, rfl⟩
  · split at h
    · next index hindex =>
      obtain ⟨name, hname, rfl⟩ := exists_name_of_keyPosition hindex
      exact .inr (.inl ⟨name, hname, rfl⟩)
    · split at h
      · next index hindex =>
        obtain ⟨name, hname, rfl⟩ := exists_name_of_keyPosition hindex
        exact .inr (.inr ⟨name, hname, rfl⟩)
      · cases h

/-- What the core resolves is canonical. -/
theorem mem_canonicalKeyIds_of_resolve {policy : InputPolicy} {keyId : String}
    {resolved : ResolvedKey} (h : (corePolicy 1 policy).resolve ⟨keyId⟩ = .ok resolved) :
    keyId ∈ canonicalKeyIds policy := by
  cases policy with
  -- The core strips the prefix and reads one digit.
  | numeric =>
    simp only [corePolicy, Core.InputPolicy.numeric, Core.InputPolicy.resolve] at h
    split at h
    · cases h
    · split at h
      · next byte hstrip =>
        split at h
        · next hdigit =>
          obtain ⟨digit, hmem, hbytes⟩ := exists_digit_of_isAsciiDigit hdigit
          have hkey : keyId = "digit-" ++ String.singleton digit := asBytes_injective (by
            rw [stripPrefix_eq_some hstrip, asBytes_append, hbytes])
          rw [hkey]
          exact List.mem_map_of_mem hmem
        · cases h
      · cases h
  -- Two hexadecimal digits that name a printable character.
  | ascii =>
    simp only [corePolicy, Core.InputPolicy.ascii, Core.InputPolicy.resolve] at h
    split at h
    · cases h
    · split at h
      · cases h
      · next codepoint hstrip =>
        split at h
        · cases h
        · next hdigits =>
          rw [not_or, not_not, Bool.not_eq_false] at hdigits
          obtain ⟨high, low, rfl⟩ := List.length_eq_two.mp hdigits.1
          simp only [List.all_cons, List.all_nil, Bool.and_true, Bool.and_eq_true] at hdigits
          split at h
          · cases h
          · next value hvalue =>
            split at h
            · next hrange =>
              have hkey : keyId = "ascii-" ++ hexEncode [value] := asBytes_injective (by
                rw [stripPrefix_eq_some hstrip, asBytes_append, asBytes_hexEncode,
                  List.flatMap_cons, List.flatMap_nil, List.append_nil,
                  hexCodes_of_fromStrRadix16 hdigits.2.1 hdigits.2.2 hvalue])
              rw [hkey]
              exact ascii_mem_canonicalKeyIds hrange.1 hrange.2
            · cases h
  -- The keys of the jamo are looked up in the table.
  | hangul =>
    simp only [corePolicy, Core.InputPolicy.hangul, Core.InputPolicy.resolve] at h
    split at h
    · cases h
    · cases hresolve : Core.resolveKey keyId with
      | none =>
        rw [hresolve] at h
        cases h
      | some key => exact mem_hangulInputKeyIds_of_resolveKey hresolve

theorem exists_of_mem_canonicalKeyIds {policy : InputPolicy} {keyId : String}
    (h : keyId ∈ canonicalKeyIds policy) :
    ∃ resolved, (corePolicy 1 policy).resolve ⟨keyId⟩ = .ok resolved ∧ keyIdOf resolved = keyId := by
  have hresolve := resolve_canonical policy (by cases policy <;> simp) keyId h
  obtain ⟨resolved, hok, hkeyId⟩ := Option.map_eq_some_iff.mp hresolve
  refine ⟨resolved, ?_, hkeyId⟩
  cases hcase : (corePolicy 1 policy).resolve ⟨keyId⟩ with
  | error e =>
    rw [hcase] at hok
    cases hok
  | ok other =>
    rw [hcase] at hok
    exact congrArg _ (Option.some.inj hok)

theorem resolves_iff {maxTokens : ℕ} {keyId : String} {policy : InputPolicy} :
    resolves maxTokens keyId policy = true ↔ keyId ∈ canonicalKeyIds policy := by
  rw [resolves, resolve_corePolicy]
  constructor
  · intro h
    cases hcase : (corePolicy 1 policy).resolve ⟨keyId⟩ with
    | error e =>
      rw [hcase] at h
      cases h
    | ok resolved => exact mem_canonicalKeyIds_of_resolve hcase
  · intro h
    obtain ⟨resolved, hok, _⟩ := exists_of_mem_canonicalKeyIds h
    rw [hok]
    rfl

/-- Two identifiers of one key are the same identifier. -/
theorem resolve_injective {maxTokens : ℕ} {policy : InputPolicy} {keyId keyId' : String}
    {resolved : ResolvedKey}
    (h : (corePolicy maxTokens policy).resolve ⟨keyId⟩ = .ok resolved)
    (h' : (corePolicy maxTokens policy).resolve ⟨keyId'⟩ = .ok resolved) : keyId = keyId' := by
  rw [resolve_corePolicy] at h h'
  obtain ⟨_, hok, hkeyId⟩ := exists_of_mem_canonicalKeyIds (mem_canonicalKeyIds_of_resolve h)
  obtain ⟨_, hok', hkeyId'⟩ := exists_of_mem_canonicalKeyIds (mem_canonicalKeyIds_of_resolve h')
  rw [h, Except.ok.injEq] at hok
  rw [h', Except.ok.injEq] at hok'
  rw [← hkeyId, ← hkeyId', ← hok, ← hok']

/-! ## Agreement -/

/-- The four checks accept or reject the identifier together. -/
def KeyIdsAgree (maxTokens : ℕ) (keyId : String) (policy : InputPolicy) : Prop :=
  tsIsCanonicalInputKeyId keyId policy = resolves maxTokens keyId policy ∧
    androidIsCanonicalInputKeyId keyId policy = resolves maxTokens keyId policy ∧
    iosIsCanonicalInputKeyId keyId policy = resolves maxTokens keyId policy

/-- **Input key identifiers.** The four checks agree on an identifier exactly when it is not a digit
    key with a line terminator behind it, under the numeric policy; and under every policy the
    core resolves no two identifiers to one key. -/
theorem input_key_ids_agree_iff (maxTokens : ℕ) (keyId : String) (policy : InputPolicy) :
    (KeyIdsAgree maxTokens keyId policy ↔
      ¬ (policy = .numeric ∧ IsTerminatedDigitKey keyId)) ∧
    ∀ keyId' resolved, (corePolicy maxTokens policy).resolve ⟨keyId⟩ = .ok resolved →
      (corePolicy maxTokens policy).resolve ⟨keyId'⟩ = .ok resolved → keyId = keyId' := by
  refine ⟨?agree, ?injective⟩
  case agree =>
    have hts : tsIsCanonicalInputKeyId keyId policy = resolves maxTokens keyId policy := by
      rw [Bool.eq_iff_iff, tsIsCanonicalInputKeyId_iff, resolves_iff]
    have handroid : androidIsCanonicalInputKeyId keyId policy =
        resolves maxTokens keyId policy := by
      rw [Bool.eq_iff_iff, androidIsCanonicalInputKeyId_iff, resolves_iff]
    have hios : iosIsCanonicalInputKeyId keyId policy = resolves maxTokens keyId policy ↔
        (policy = .numeric ∧ IsTerminatedDigitKey keyId → keyId ∈ canonicalKeyIds policy) := by
      rw [Bool.eq_iff_iff, iosIsCanonicalInputKeyId_iff, resolves_iff, or_iff_left_iff_imp]
    rw [KeyIdsAgree, and_iff_right hts, and_iff_right handroid, hios]
    refine imp_iff_not_or.trans (or_iff_left_of_imp ?_)
    -- A canonical digit key ends in its digit.
    rintro hmem ⟨rfl, digit, _, terminator, hterminator, hkey⟩
    obtain ⟨digit', _, hkey'⟩ := mem_canonicalKeyIds_numeric.mp hmem
    rw [hkey] at hkey'
    obtain ⟨_, hnil⟩ := List.cons.inj (List.append_cancel_left hkey')
    subst hnil
    exact absurd hterminator (by decide)
  case injective =>
    intro keyId' resolved h h'
    exact resolve_injective h h'

/-- `digit-1` with a line feed is accepted by the iOS view and by none of the others. -/
theorem input_key_ids_disagree :
    ¬ ∀ maxTokens keyId policy, KeyIdsAgree maxTokens keyId policy := by
  intro h
  obtain ⟨_, _, hios⟩ := h 1 "digit-1\n" .numeric
  exact absurd hios (by decide +kernel)

end SecureKeypad.Contracts
