import SecureKeypad.Http.ContentLength
import SecureKeypad.Library.Rounding

/-!
# The Declared Body Length (`packages/server-node`)

Embeds `declaredBodyLength` and the gate of `createOpaqueHandler` on it. The header list joins its
values with a comma and a space; the number the text denotes becomes a double, where an
implementation may round a number of more than twenty significant digits first.

## Main results

- `lengthGate_eq_none_iff`: what the gate admits
- `contentLength_gates_agree`: it admits what the Axum adapter admits
-/

namespace SecureKeypad.Node

open DecimalText Http Rust

/-! ## Text and numbers -/

/-- The characters `String.prototype.trim` removes. -/
def isTrimmed (c : Char) : Bool :=
  (0x09 ≤ c.val && c.val ≤ 0x0D) || c.val == 0x20 || c.val == 0xA0 || c.val == 0x1680 ||
    (0x2000 ≤ c.val && c.val ≤ 0x200A) || c.val == 0x2028 || c.val == 0x2029 ||
    c.val == 0x202F || c.val == 0x205F || c.val == 0x3000 || c.val == 0xFEFF

/-- `String.prototype.trim`. -/
def jsTrim (value : String) : String := String.ofList (trim isTrimmed value.toList)

/-- The pattern `/^\d+$/`. -/
def isDigits (value : String) : Bool := !value.toList.isEmpty && value.toList.all Char.isDigit

/-- The significant digits of a number: those up to the last that is not zero. -/
def significantDigits (n : ℕ) : ℕ := ((Nat.digits 10 n).dropWhile (· == 0)).length

/-- What a numeral stands for before it is rounded to a double: the digits after the twentieth may
    be replaced by zeros, and the twentieth then be incremented where `roundUp` says so. -/
def roundDigits (roundUp : ℕ → Bool) (n : ℕ) : ℕ :=
  if significantDigits n ≤ 20 then n
  else
    let unit := 10 ^ ((Nat.digits 10 n).length - 20)
    let truncated := n / unit * unit
    if roundUp n then truncated + unit else truncated

/-- The double next to a number; `none` is `Infinity`. -/
def toDouble (n : ℕ) : Option ℚ :=
  let double := Rounding.toBinary 53 (-1074) n
  if double < 2 ^ 1024 then some double else none

/-- `Number(value)` of decimal digits with white space around them. -/
def numberOfDigits (roundUp : ℕ → Bool) (value : String) : Option ℚ :=
  toDouble (roundDigits roundUp
    (valueOf ((jsTrim value).toList.map fun c => c.toNat - '0'.toNat)))

/-- `Number.isSafeInteger`. -/
def isSafeInteger (number : ℚ) : Bool := number.den == 1 && decide (|number| ≤ 2 ^ 53 - 1)

/-! ## The gate -/

/-- What `declaredBodyLength` returns. -/
inductive DeclaredLength where
  | undefined
  | invalid
  | length (value : ℚ)

/-- `Headers.get`, on the values of the header. -/
def headersGet (values : List Bytes) : Option String :=
  if values.isEmpty then none else some (ofBytes (List.intercalate [0x2C, 0x20] values))

/-- `declaredBodyLength`. -/
def declaredBodyLength (roundUp : ℕ → Bool) (values : List Bytes) : DeclaredLength :=
  match headersGet values with
  | none => .undefined
  | some value =>
    if isDigits (jsTrim value) = false then .invalid
    else
      match numberOfDigits roundUp value with
      | none => .invalid
      | some length => if isSafeInteger length then .length length else .invalid

/-- The status the handler refuses a declared length with, if it does. -/
def lengthGate (roundUp : ℕ → Bool) (values : List Bytes) (upstreamBodyLimitBytes : ℕ) : Option ℕ :=
  match declaredBodyLength roundUp values with
  | .undefined => none
  | .invalid => some 400
  | .length length => if length > upstreamBodyLimitBytes then some 413 else none

/-! ## Doubles of whole numbers -/

theorem toDouble_of_lt {n : ℕ} (hn : n < 2 ^ 53) : toDouble n = some (n : ℚ) := by
  have hcast : (n : ℚ) < 2 ^ 53 := by exact_mod_cast hn
  have habs : |(n : ℚ)| < 2 ^ 53 := by rwa [abs_of_nonneg (Nat.cast_nonneg n)]
  have hstep : Rounding.stepExponent 53 (-1074) (n : ℚ) ≤ 0 :=
    Rounding.stepExponent_le (by decide : 0 < 53) habs (by decide) (by decide)
  have hexact : Rounding.toBinary 53 (-1074) (n : ℚ) = n :=
    @Rounding.toBinary_eq 53 (-1074) 0 n _ hstep (by rw [zpow_zero, mul_one, Int.cast_natCast])
  have hfinite : (n : ℚ) < 2 ^ 1024 :=
    hcast.trans (pow_lt_pow_right₀ one_lt_two (by decide))
  simp only [toDouble, hexact, if_pos hfinite]

theorem not_isSafeInteger_of_ge {n : ℕ} (hn : 2 ^ 53 ≤ n) {double : ℚ}
    (h : toDouble n = some double) : isSafeInteger double = false := by
  have hcast : (2 : ℚ) ^ 53 ≤ n := by exact_mod_cast hn
  have hlarge : (2 : ℚ) ^ 53 ≤ Rounding.toBinary 53 (-1074) n :=
    Rounding.two_pow_le_toBinary (by decide) (by decide) hcast
  simp only [toDouble] at h
  split at h
  · cases h
    have hnot : ¬ |Rounding.toBinary 53 (-1074) (n : ℚ)| ≤ 2 ^ 53 - 1 := by
      rw [abs_of_nonneg ((by positivity : (0 : ℚ) ≤ 2 ^ 53).trans hlarge), not_le]
      exact (sub_lt_self _ one_pos).trans_le hlarge
    rw [isSafeInteger, decide_eq_false hnot, Bool.and_false]
  · cases h

theorem significantDigits_le (n : ℕ) : significantDigits n ≤ (Nat.digits 10 n).length :=
  (List.dropWhile_sublist _).length_le

theorem roundDigits_of_lt (roundUp : ℕ → Bool) {n : ℕ} (hn : n < 2 ^ 53) :
    roundDigits roundUp n = n := by
  have hlength : (Nat.digits 10 n).length ≤ 20 :=
    (Nat.digits_length_le_iff (by decide) n).mpr (hn.trans (by decide))
  rw [roundDigits, if_pos ((significantDigits_le n).trans hlength)]

theorem roundDigits_ge (roundUp : ℕ → Bool) {n : ℕ} (hn : 2 ^ 53 ≤ n) :
    2 ^ 53 ≤ roundDigits roundUp n := by
  unfold roundDigits
  split
  · exact hn
  · next hmany =>
    have hlength : 20 < (Nat.digits 10 n).length :=
      (Nat.lt_of_not_le hmany).trans_le (significantDigits_le n)
    have hdigits : 10 ^ ((Nat.digits 10 n).length - 1) ≤ n := by
      by_contra hlt
      have hle := (Nat.digits_length_le_iff (by decide : 1 < 10) n).mpr (Nat.lt_of_not_le hlt)
      omega
    -- The twentieth digit is worth `unit`, and twenty digits are at least `10 ^ 19` of it.
    have hunit : 10 ^ 19 * 10 ^ ((Nat.digits 10 n).length - 20) ≤ n := by
      rw [← Nat.pow_add]
      exact (Nat.pow_le_pow_right (by decide) (by omega)).trans hdigits
    have hpos : 0 < 10 ^ ((Nat.digits 10 n).length - 20) := Nat.pow_pos (by decide)
    have htruncated : 10 ^ 19 ≤ n / 10 ^ ((Nat.digits 10 n).length - 20) *
        10 ^ ((Nat.digits 10 n).length - 20) := by
      have hquotient := (Nat.le_div_iff_mul_le hpos).mpr hunit
      exact hquotient.trans (Nat.le_mul_of_pos_right _ hpos)
    simp only
    split
    · exact ((by decide : 2 ^ 53 ≤ 10 ^ 19).trans htruncated).trans (Nat.le_add_right _ _)
    · exact (by decide : 2 ^ 53 ≤ 10 ^ 19).trans htruncated

theorem isSafeInteger_of_lt {n : ℕ} (hn : n < 2 ^ 53) : isSafeInteger n = true := by
  have hle : (n : ℚ) ≤ 2 ^ 53 - 1 := by
    rw [le_sub_iff_add_le]
    exact_mod_cast hn
  have habs : |(n : ℚ)| ≤ 2 ^ 53 - 1 := by rwa [abs_of_nonneg (Nat.cast_nonneg n)]
  rw [isSafeInteger, decide_eq_true habs, Rat.den_natCast]
  rfl

/-! ## What the gate admits -/

/-- The gate on a value that is digits, by the number the digits denote. -/
def numberGate (roundUp : ℕ → Bool) (n limit : ℕ) : Option ℕ :=
  match toDouble (roundDigits roundUp n) with
  | none => some 400
  | some length =>
    if isSafeInteger length then if length > limit then some 413 else none else some 400

/-- Below 2^53 the double is the number, and from there on it is never a safe integer. -/
theorem numberGate_eq_none_iff (roundUp : ℕ → Bool) {n limit : ℕ} (hlimit : limit < 2 ^ 53) :
    numberGate roundUp n limit = none ↔ n ≤ limit := by
  by_cases hn : n < 2 ^ 53
  · simp only [numberGate, roundDigits_of_lt roundUp hn, toDouble_of_lt hn, isSafeInteger_of_lt hn,
      if_true]
    rw [ite_eq_right_iff, gt_iff_lt, Nat.cast_lt]
    constructor
    · intro h
      exact Nat.le_of_not_lt fun hlt => nomatch h hlt
    · intro h hlt
      exact absurd h (Nat.not_le.mpr hlt)
  · have hge : 2 ^ 53 ≤ n := Nat.le_of_not_lt hn
    have hlarge : limit < n := hlimit.trans_le hge
    refine iff_of_false ?_ hlarge.not_ge
    unfold numberGate
    split
    · exact nofun
    · next length hlength =>
      rw [not_isSafeInteger_of_ge (roundDigits_ge roundUp hge) hlength]
      exact nofun

theorem jsTrim_ofBytes {value : Bytes} (h : IsHeaderText value) :
    jsTrim (ofBytes value) = ofBytes (trimBlanks value) :=
  trim_ofBytes h (by decide +kernel)

theorem isDigits_ofBytes {text : Bytes} (h : ∀ b ∈ text, b < 0x80) :
    isDigits (ofBytes text) = (!text.isEmpty && text.all isAsciiDigit) := by
  have hdigit : ∀ n < 128, (Char.ofNat n).isDigit = (decide (0x30 ≤ n) && decide (n ≤ 0x39)) := by
    decide +kernel
  rw [isDigits, toList_ofBytes, List.isEmpty_map, List.all_map]
  congr 1
  rw [Bool.eq_iff_iff, List.all_eq_true, List.all_eq_true]
  apply forall₂_congr
  intro b hb
  rw [Function.comp_apply, hdigit b.toNat (UInt8.lt_iff_toNat_lt.mp (h b hb))]
  rfl

theorem digits_ofBytes {text : Bytes} (h : ∀ b ∈ text, b < 0x80) :
    (ofBytes text).toList.map (fun c => c.toNat - '0'.toNat) = digitsOf text := by
  have hcode : ∀ n < 128, (Char.ofNat n).toNat = n := by decide +kernel
  rw [toList_ofBytes, List.map_map, digitsOf]
  apply List.map_congr_left
  intro b hb
  rw [Function.comp_apply, hcode b.toNat (UInt8.lt_iff_toNat_lt.mp (h b hb))]
  rfl

theorem lengthGate_singleton (roundUp : ℕ → Bool) {value : Bytes} (hvalue : IsHeaderText value)
    (limit : ℕ) :
    lengthGate roundUp [value] limit =
      match parseDecimal (trimBlanks value) with
      | none => some 400
      | some n => numberGate roundUp n limit := by
  have htext := hvalue.trimBlanks.lt
  have hget : headersGet [value] = some (ofBytes value) := by
    rw [headersGet, List.intercalate_singleton]
    rfl
  simp only [lengthGate, declaredBodyLength, hget, numberOfDigits, jsTrim_ofBytes hvalue,
    isDigits_ofBytes htext, digits_ofBytes htext, parseDecimal_eq]
  generalize trimBlanks value = text
  generalize valueOf (digitsOf text) = n
  -- The text is read as a number only if it is all digits.
  by_cases hdigits : text ≠ [] ∧ text.all isAsciiDigit = true
  · obtain ⟨hne, hall⟩ := hdigits
    have htest : (!text.isEmpty && text.all isAsciiDigit) = true := by
      simp [hne, hall]
    rw [if_pos (c := text ≠ [] ∧ text.all isAsciiDigit = true) ⟨hne, hall⟩, htest,
      if_neg Bool.noConfusion]
    cases hdouble : toDouble (roundDigits roundUp n) with
    | none => simp only [numberGate, hdouble]
    | some length =>
      cases hsafe : isSafeInteger length with
      | true => simp only [numberGate, hdouble, hsafe, if_true]
      | false => simp only [numberGate, hdouble, hsafe, Bool.false_eq_true, if_false]
  · have htest : (!text.isEmpty && text.all isAsciiDigit) = false := by
      rw [← Bool.not_eq_true, Bool.and_eq_true, Bool.not_eq_true', List.isEmpty_eq_false_iff]
      exact hdigits
    rw [htest, if_pos rfl, if_neg hdigits]

/-- The comma between two values survives the trimming. -/
theorem lengthGate_many (roundUp : ℕ → Bool) (first second : Bytes) (rest : List Bytes)
    (limit : ℕ) :
    lengthGate roundUp (first :: second :: rest) limit = some 400 := by
  have hcomma : ',' ∈ (ofBytes (List.intercalate [0x2C, 0x20] (first :: second :: rest))).toList := by
    rw [toList_ofBytes, List.mem_map]
    refine ⟨0x2C, ?_, rfl⟩
    rw [List.intercalate_cons_cons]
    simp
  have hkept : ',' ∈ (jsTrim (ofBytes (List.intercalate [0x2C, 0x20]
      (first :: second :: rest)))).toList := by
    rw [jsTrim, String.toList_ofList]
    exact mem_trim hcomma (by decide)
  have htest : isDigits (jsTrim (ofBytes (List.intercalate [0x2C, 0x20]
      (first :: second :: rest)))) = false := by
    rw [isDigits, Bool.and_eq_false_iff]
    right
    rw [List.all_eq_false]
    exact ⟨',', hkept, by decide⟩
  have hget : headersGet (first :: second :: rest) =
      some (ofBytes (List.intercalate [0x2C, 0x20] (first :: second :: rest))) := rfl
  simp only [lengthGate, declaredBodyLength, hget, htest, if_true]

/-- **The gate admits** no value, or a single one that is a decimal number up to the limit. -/
theorem lengthGate_eq_none_iff (roundUp : ℕ → Bool) {values : List Bytes} {limit : ℕ}
    (hvalues : ∀ value ∈ values, IsHeaderText value) (hlimit : limit < 2 ^ 53) :
    lengthGate roundUp values limit = none ↔
      values = [] ∨ ∃ value n, values = [value] ∧ parseDecimal (trimBlanks value) = some n ∧
        n ≤ limit := by
  rcases values with _ | ⟨first, _ | ⟨second, rest⟩⟩
  · exact ⟨fun _ => .inl rfl, fun _ => rfl⟩
  · rw [lengthGate_singleton roundUp (hvalues first List.mem_cons_self)]
    constructor
    · intro h
      right
      split at h
      · cases h
      · next n hn => exact ⟨first, n, rfl, hn, (numberGate_eq_none_iff roundUp hlimit).mp h⟩
    · intro h
      rcases h with h | ⟨value, n, heq, hn, hle⟩
      · cases h
      · cases heq
        rw [hn]
        exact (numberGate_eq_none_iff roundUp hlimit).mpr hle
  · rw [lengthGate_many]
    constructor
    · intro h
      cases h
    · intro h
      rcases h with h | ⟨value, n, heq, _, _⟩
      · cases h
      · cases heq

/-- **The two gates agree**, whatever the header says, and admit no value, or a single one that is
    after trimming a decimal number up to the limit; however long the number, it never wraps. -/
theorem contentLength_gates_agree (roundUp : ℕ → Bool) (values : List Bytes)
    (hvalues : ∀ value ∈ values, IsHeaderText value) (limit : ℕ)
    (hlimit : 1 ≤ limit ∧ limit ≤ 131072) :
    (contentLengthError values limit = none ↔ lengthGate roundUp values limit = none) ∧
    (contentLengthError values limit = none ↔
      values = [] ∨ ∃ value, values = [value] ∧ trimBlanks value ≠ [] ∧
        (∀ b ∈ trimBlanks value, isAsciiDigit b = true) ∧
        valueOf (digitsOf (trimBlanks value)) ≤ limit) := by
  have hsafe : limit < 2 ^ 53 := hlimit.2.trans_lt (by decide)
  have hwidth : limit ≤ u64Max := hlimit.2.trans (by decide)
  have hspec := contentLengthError_eq_none_iff hvalues hwidth
  refine ⟨hspec.trans (lengthGate_eq_none_iff roundUp hvalues hsafe).symm, hspec.trans ?_⟩
  apply or_congr Iff.rfl
  apply exists_congr
  intro value
  rw [exists_and_left, and_congr_right_iff]
  intro _
  rw [parseDecimal_eq, ← List.all_eq_true]
  by_cases hdigits : trimBlanks value ≠ [] ∧ (trimBlanks value).all isAsciiDigit = true
  · rw [if_pos hdigits]
    simp only [Option.some.injEq, exists_eq_left', hdigits.1, hdigits.2, ne_eq, not_false_eq_true,
      true_and]
  · rw [if_neg hdigits]
    refine iff_of_false (fun ⟨_, h, _⟩ => nomatch h) ?_
    exact fun ⟨hne, hall, _⟩ => hdigits ⟨hne, hall⟩

/-- Sixty-four bits do not hold the value of the second header. -/
theorem contentLength_gates_agree_long :
    (∀ value ∈ ([[0x20, 0x30, 0x31, 0x36, 0x09]] : List Bytes), IsHeaderText value) ∧
      lengthGate (fun _ => true) [[0x20, 0x30, 0x31, 0x36, 0x09]] 16 = none ∧
      lengthGate (fun _ => true) [List.replicate 30 0x39] 131072 ≠ none := by
  have hshort : ∀ value ∈ ([[0x20, 0x30, 0x31, 0x36, 0x09]] : List Bytes), IsHeaderText value := by
    decide +kernel
  have hlong : ∀ value ∈ [List.replicate 30 (0x39 : UInt8)], IsHeaderText value := by
    decide +kernel
  have hadmits := contentLength_gates_agree (fun _ => true) _ hshort 16 (by decide)
  have hrefuses := contentLength_gates_agree (fun _ => true) _ hlong 131072 (by decide)
  refine ⟨hshort, hadmits.1.mp (by decide +kernel), ?_⟩
  rw [Ne, ← hrefuses.1]
  decide +kernel

end SecureKeypad.Node
