import SecureKeypad.Library.DecimalText
import SecureKeypad.Library.Unicode

/-!
# The Declared Body Length (`secure-auth-http`, `secure-auth-axum`)

Embeds `validate_content_length` and the Axum adapter's `content_length_error` on a 64-bit
platform. A header value is its bytes; only one of visible ASCII and tabs is read as text.

## Main results

- `contentLengthError_eq_none_iff`: what the adapter admits
-/

namespace SecureKeypad.Http

open DecimalText Rust

/-- `ContentLengthError`. -/
inductive ContentLengthError where
  | invalid
  | tooLarge
deriving DecidableEq

/-- `str::trim`. -/
def strTrim (value : String) : String := String.ofList (trim Unicode.isWhiteSpace value.toList)

/-- `str::parse::<usize>` of decimal digits; `none` is the overflow. -/
def parseUsize (digits : Bytes) : Option ℕ := checked u64Max (digitsOf digits)

/-- `validate_content_length`. -/
def validateContentLength (value : Option String) (limit : ℕ) : Except ContentLengthError Unit :=
  match value with
  | none => .ok ()
  | some value =>
    let value := asBytes (strTrim value)
    if value.isEmpty || !value.all isAsciiDigit then .error .invalid
    else
      match parseUsize value with
      | none => .error .invalid
      | some length => if length > limit then .error .tooLarge else .ok ()

/-- `HeaderValue::to_str`: visible ASCII and tabs. -/
def headerToStr (value : Bytes) : Option String :=
  if value.all fun b => (0x20 ≤ b && b < 0x7F) || b == 0x09 then some (ofBytes value) else none

/-- `content_length_error`, on the values of the header. -/
def contentLengthError (values : List Bytes) (limit : ℕ) : Option ContentLengthError :=
  match values with
  | [] => none
  | [first] =>
    match headerToStr first with
    | none => some .invalid
    | some value =>
      match validateContentLength (some value) limit with
      | .ok () => none
      | .error e => some e
  | _ :: _ :: _ => some .invalid

/-! ## What is admitted -/

/-- The bytes a header value of text may have. -/
def IsHeaderText (value : Bytes) : Prop := ∀ b ∈ value, b = 0x09 ∨ (0x20 ≤ b ∧ b ≤ 0x7E)

instance (value : Bytes) : Decidable (IsHeaderText value) :=
  inferInstanceAs (Decidable (∀ b ∈ value, _))

/-- Without the blanks around it. -/
def trimBlanks (value : Bytes) : Bytes := trim (fun b => b == 0x20 || b == 0x09) value

theorem IsHeaderText.lt {value : Bytes} (h : IsHeaderText value) : ∀ b ∈ value, b < 0x80 := by
  intro b hb
  rcases h b hb with rfl | ⟨_, hle⟩
  · decide
  · exact UInt8.lt_of_le_of_lt hle (by decide)

theorem headerToStr_eq {value : Bytes} (h : IsHeaderText value) :
    headerToStr value = some (ofBytes value) := by
  have hall : (value.all fun b => (0x20 ≤ b && b < 0x7F) || b == 0x09) = true := by
    rw [List.all_eq_true]
    intro b hb
    rcases h b hb with rfl | ⟨hge, hle⟩
    · rfl
    · have hlt : b < 0x7F := by
        rw [UInt8.lt_iff_toNat_lt]
        rw [UInt8.le_iff_toNat_le] at hle
        exact Nat.lt_succ_of_le hle
      simp only [hge, hlt, decide_true, Bool.and_self, Bool.true_or]
  rw [headerToStr, if_pos hall]

/-- Of header text, every notion of white space that has the blank and the tab trims the same. -/
theorem trim_ofBytes {value : Bytes} (h : IsHeaderText value) {blank : Char → Bool}
    (hblank : ∀ n < 128, (n = 9 ∨ 32 ≤ n ∧ n ≤ 126) →
      blank (Char.ofNat n) = (decide (n = 32) || decide (n = 9))) :
    String.ofList (trim blank (ofBytes value).toList) = ofBytes (trimBlanks value) := by
  rw [toList_ofBytes, trim_map, ofBytes]
  congr 2
  apply trim_congr
  intro b hb
  have hlt : b.toNat < 128 := UInt8.lt_iff_toNat_lt.mp (h.lt b hb)
  have hrange : b.toNat = 9 ∨ 32 ≤ b.toNat ∧ b.toNat ≤ 126 := by
    rcases h b hb with rfl | ⟨hge, hle⟩
    · exact .inl rfl
    · exact .inr ⟨UInt8.le_iff_toNat_le.mp hge, UInt8.le_iff_toNat_le.mp hle⟩
  rw [hblank b.toNat hlt hrange]
  have hspace : (b == 0x20) = decide (b.toNat = 32) := by
    rw [beq_eq_decide]
    exact decide_eq_decide.mpr UInt8.toNat_inj.symm
  have htab : (b == 0x09) = decide (b.toNat = 9) := by
    rw [beq_eq_decide]
    exact decide_eq_decide.mpr UInt8.toNat_inj.symm
  rw [hspace, htab]

theorem IsHeaderText.trimBlanks {value : Bytes} (h : IsHeaderText value) :
    IsHeaderText (trimBlanks value) :=
  fun b hb => h b (mem_of_mem_trim hb)

theorem strTrim_ofBytes {value : Bytes} (h : IsHeaderText value) :
    strTrim (ofBytes value) = ofBytes (trimBlanks value) :=
  trim_ofBytes h (by decide +kernel)

theorem validateContentLength_eq_ok_iff {value : Bytes} {limit : ℕ} (hvalue : IsHeaderText value)
    (hlimit : limit ≤ u64Max) :
    validateContentLength (some (ofBytes value)) limit = .ok () ↔
      ∃ n, parseDecimal (trimBlanks value) = some n ∧ n ≤ limit := by
  simp only [validateContentLength, strTrim_ofBytes hvalue, asBytes_ascii hvalue.trimBlanks.lt,
    parseDecimal_eq, parseUsize, checked_eq]
  generalize trimBlanks value = text
  generalize valueOf (digitsOf text) = n
  by_cases hdigits : text ≠ [] ∧ text.all isAsciiDigit = true
  · obtain ⟨hne, hall⟩ := hdigits
    have hentry : ¬ (text.isEmpty || !text.all isAsciiDigit) = true := by
      simp [hne, hall]
    rw [if_neg hentry, if_pos (c := text ≠ [] ∧ text.all isAsciiDigit = true) ⟨hne, hall⟩]
    constructor
    · intro h
      refine ⟨n, rfl, ?_⟩
      split at h
      · cases h
      · next length hread =>
        split at hread
        · cases hread
          split at h
          · cases h
          · next hle => exact Nat.le_of_not_lt hle
        · cases hread
    · intro ⟨m, hm, hle⟩
      rw [Option.some.injEq] at hm
      subst hm
      -- A number within the limit fits into 64 bits.
      rw [if_pos (hle.trans hlimit)]
      exact if_neg (Nat.not_lt.mpr hle)
  · have hentry : (text.isEmpty || !text.all isAsciiDigit) = true := by
      rw [Bool.or_eq_true, List.isEmpty_iff, Bool.not_eq_true']
      rw [not_and_or, not_not, Bool.not_eq_true] at hdigits
      exact hdigits
    rw [if_pos hentry, if_neg hdigits]
    constructor
    · intro h
      cases h
    · intro ⟨m, hm, _⟩
      cases hm

/-- **The adapter admits** no value, or a single one that is a decimal number up to the limit. -/
theorem contentLengthError_eq_none_iff {values : List Bytes} {limit : ℕ}
    (hvalues : ∀ value ∈ values, IsHeaderText value) (hlimit : limit ≤ u64Max) :
    contentLengthError values limit = none ↔
      values = [] ∨ ∃ value n, values = [value] ∧ parseDecimal (trimBlanks value) = some n ∧
        n ≤ limit := by
  -- No header, one, or more than one, which is always refused.
  rcases values with _ | ⟨first, _ | ⟨second, rest⟩⟩
  · exact ⟨fun _ => .inl rfl, fun _ => rfl⟩
  · have hfirst := hvalues first List.mem_cons_self
    have hvalid := validateContentLength_eq_ok_iff hfirst hlimit
    simp only [contentLengthError, headerToStr_eq hfirst]
    constructor
    · intro h
      right
      cases hresult : validateContentLength (some (ofBytes first)) limit with
      | error e =>
        rw [hresult] at h
        cases h
      | ok _ =>
        obtain ⟨n, hn, hle⟩ := hvalid.mp hresult
        exact ⟨first, n, rfl, hn, hle⟩
    · intro h
      rcases h with h | ⟨value, n, heq, hn, hle⟩
      · cases h
      · cases heq
        rw [hvalid.mpr ⟨n, hn, hle⟩]
  · constructor
    · intro h
      cases h
    · intro h
      rcases h with h | ⟨value, n, heq, _, _⟩
      · cases h
      · cases heq

end SecureKeypad.Http
