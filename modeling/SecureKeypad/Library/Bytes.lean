import SecureKeypad.Library.Rust

/-!
# Byte Slices, Integer Fields and Numerals

Checked slicing of byte vectors, where an index out of range is a panic, the fixed-width
little- and big-endian integers of binary record formats, and hexadecimal and decimal text.

## Main results

- `slice_eq_some`: slicing a concatenation at a field's place gives the field back
- `exists_split`: a long enough vector is the concatenation of a field and the rest
- `fromLeBytes_toLeBytes`, `toLeBytes_fromLeBytes`: the integer fields round trip
- `hexEncode_injective`, `mem_hexEncode`: hexadecimal text determines its bytes and has no
  characters but digits and `a` to `f`
- `parseDecimal_decimal`: decimal text round trips
-/

namespace Rust

/-! ## Slices -/

/-- `bytes[start..stop]`; `none` is the panic of an index out of range. -/
def slice (bytes : Bytes) (start stop : ℕ) : Option Bytes :=
  if start ≤ stop ∧ stop ≤ bytes.length then some ((bytes.take stop).drop start) else none

/-- A field of a vector, by the length of what stands before it. -/
theorem slice_eq_some {bytes field : Bytes} {start stop : ℕ} (before after : Bytes)
    (hbytes : bytes = before ++ (field ++ after)) (hstart : start = before.length)
    (hstop : stop = start + field.length) : slice bytes start stop = some field := by
  subst hbytes hstart hstop
  rw [slice, if_pos ⟨Nat.le_add_right _ _, by simp⟩, ← List.append_assoc, List.take_left' (by simp),
    List.drop_left]

/-- A slice in range, by what stands before it. -/
theorem slice_eq_take_drop {bytes : Bytes} {start stop : ℕ} (hle : start ≤ stop)
    (hstop : stop ≤ bytes.length) :
    slice bytes start stop = some ((bytes.drop start).take (stop - start)) := by
  rw [slice, if_pos ⟨hle, hstop⟩, List.drop_take]

/-- A vector of at least `n` bytes is a field of `n` bytes and the rest. -/
theorem exists_split (bytes : Bytes) (n : ℕ) (h : n ≤ bytes.length) :
    ∃ field rest, bytes = field ++ rest ∧ field.length = n ∧
      rest.length = bytes.length - n :=
  ⟨bytes.take n, bytes.drop n, (List.take_append_drop n bytes).symm, List.length_take_of_le h,
    List.length_drop⟩

/-! ## Little-endian integers -/

/-- `to_le_bytes` of an unsigned integer of `width` bytes. -/
def toLeBytes : (width : ℕ) → ℕ → Bytes
  | 0, _ => []
  | width + 1, n => UInt8.ofNat n :: toLeBytes width (n / 256)

/-- `from_le_bytes`. -/
def fromLeBytes (bytes : Bytes) : ℕ := Nat.ofDigits 256 (bytes.map UInt8.toNat)

@[simp] theorem length_toLeBytes (width n : ℕ) : (toLeBytes width n).length = width := by
  induction width generalizing n with
  | zero => rfl
  | succ width ih => rw [toLeBytes, List.length_cons, ih]

theorem fromLeBytes_cons (byte : UInt8) (bytes : Bytes) :
    fromLeBytes (byte :: bytes) = byte.toNat + 256 * fromLeBytes bytes :=
  Nat.ofDigits_cons

theorem fromLeBytes_toLeBytes {width n : ℕ} (h : n < 256 ^ width) :
    fromLeBytes (toLeBytes width n) = n := by
  induction width generalizing n with
  | zero =>
    rw [pow_zero, Nat.lt_one_iff] at h
    subst h
    rfl
  | succ width ih =>
    rw [toLeBytes, fromLeBytes_cons, ih (Nat.div_lt_of_lt_mul (by rwa [pow_succ'] at h)),
      UInt8.toNat_ofNat']
    exact Nat.mod_add_div n 256

theorem toLeBytes_fromLeBytes {width : ℕ} {bytes : Bytes} (h : bytes.length = width) :
    toLeBytes width (fromLeBytes bytes) = bytes := by
  induction bytes generalizing width with
  | nil =>
    subst h
    rfl
  | cons byte bytes ih =>
    subst h
    have hbyte : byte.toNat < 256 := byte.toNat_lt
    rw [List.length_cons, toLeBytes, fromLeBytes_cons, Nat.add_mul_div_left _ _ (by decide),
      Nat.div_eq_of_lt hbyte, Nat.zero_add, ih rfl]
    congr 1
    apply UInt8.toNat_inj.mp
    rw [UInt8.toNat_ofNat', Nat.add_mul_mod_self_left, Nat.mod_eq_of_lt hbyte]

theorem fromLeBytes_lt (bytes : Bytes) : fromLeBytes bytes < 256 ^ bytes.length := by
  induction bytes with
  | nil => exact Nat.one_pos
  | cons byte bytes ih =>
    have hbyte : byte.toNat < 256 := byte.toNat_lt
    rw [fromLeBytes_cons, List.length_cons, pow_succ]
    omega

/-! ## Big-endian integers -/

/-- `to_be_bytes`. -/
def toBeBytes (width n : ℕ) : Bytes := (toLeBytes width n).reverse

/-- `from_be_bytes`. -/
def fromBeBytes (bytes : Bytes) : ℕ := fromLeBytes bytes.reverse

@[simp] theorem length_toBeBytes (width n : ℕ) : (toBeBytes width n).length = width := by
  rw [toBeBytes, List.length_reverse, length_toLeBytes]

theorem fromBeBytes_toBeBytes {width n : ℕ} (h : n < 256 ^ width) :
    fromBeBytes (toBeBytes width n) = n := by
  rw [fromBeBytes, toBeBytes, List.reverse_reverse, fromLeBytes_toLeBytes h]

theorem toBeBytes_fromBeBytes {width : ℕ} {bytes : Bytes} (h : bytes.length = width) :
    toBeBytes width (fromBeBytes bytes) = bytes := by
  rw [toBeBytes, fromBeBytes, toLeBytes_fromLeBytes (by rw [List.length_reverse, h]),
    List.reverse_reverse]

/-! ## Hexadecimal text -/

/-- `b"0123456789abcdef"`. -/
def hexAlphabet : List Char :=
  ['0', '1', '2', '3', '4', '5', '6', '7', '8', '9', 'a', 'b', 'c', 'd', 'e', 'f']

/-- The two digits of a byte, high half first. -/
def hexPair (byte : UInt8) : List Char :=
  [hexAlphabet.getD (byte >>> 4).toNat '0', hexAlphabet.getD (byte &&& 0x0f).toNat '0']

/-- The lower-case hexadecimal text of a byte vector. -/
def hexEncode (bytes : Bytes) : String := String.ofList (bytes.flatMap hexPair)

private theorem hexDigit_inj : ∀ m < 16, ∀ n < 16,
    hexAlphabet.getD m '0' = hexAlphabet.getD n '0' → m = n := by decide

private theorem hexDigit_mem : ∀ n < 16, hexAlphabet.getD n '0' ∈ hexAlphabet := by decide

private theorem toNat_halves (byte : UInt8) :
    (byte >>> 4).toNat = byte.toNat / 16 ∧ (byte &&& 0x0f).toNat = byte.toNat % 16 := by
  constructor
  · rw [UInt8.toNat_shiftRight, Nat.shiftRight_eq_div_pow]
    rfl
  · rw [UInt8.toNat_and]
    exact Nat.and_two_pow_sub_one_eq_mod byte.toNat 4

private theorem halves_lt (byte : UInt8) :
    (byte >>> 4).toNat < 16 ∧ (byte &&& 0x0f).toNat < 16 := by
  obtain ⟨hhigh, hlow⟩ := toNat_halves byte
  have hbyte : byte.toNat < 256 := byte.toNat_lt
  rw [hhigh, hlow]
  omega

theorem hexPair_injective {a b : UInt8} (h : hexPair a = hexPair b) : a = b := by
  simp only [hexPair, List.cons.injEq, and_true] at h
  have hhigh := hexDigit_inj _ (halves_lt a).1 _ (halves_lt b).1 h.1
  have hlow := hexDigit_inj _ (halves_lt a).2 _ (halves_lt b).2 h.2
  rw [(toNat_halves a).1, (toNat_halves b).1] at hhigh
  rw [(toNat_halves a).2, (toNat_halves b).2] at hlow
  apply UInt8.toNat_inj.mp
  rw [← Nat.div_add_mod a.toNat 16, ← Nat.div_add_mod b.toNat 16, hhigh, hlow]

theorem hexEncode_injective {a b : Bytes} (h : hexEncode a = hexEncode b) : a = b := by
  have hchars : a.flatMap hexPair = b.flatMap hexPair := by
    simpa only [hexEncode, String.toList_ofList] using congrArg String.toList h
  clear h
  induction a generalizing b with
  | nil =>
    cases b with
    | nil => rfl
    | cons y b => simp [hexPair] at hchars
  | cons x a ih =>
    cases b with
    | nil => simp [hexPair] at hchars
    | cons y b =>
      rw [List.flatMap_cons, List.flatMap_cons] at hchars
      obtain ⟨hpair, hrest⟩ := List.append_inj hchars rfl
      rw [hexPair_injective hpair, ih hrest]

/-- The digits of the first bytes. -/
theorem toList_hexEncode_take (bytes : Bytes) (n : ℕ) :
    (hexEncode (bytes.take n)).toList = (hexEncode bytes).toList.take (2 * n) := by
  simp only [hexEncode, String.toList_ofList]
  induction n generalizing bytes with
  | zero => rfl
  | succ n ih =>
    cases bytes with
    | nil => rfl
    | cons byte bytes => simp [hexPair, ih, Nat.mul_succ]

/-- The digits of the other bytes. -/
theorem toList_hexEncode_drop (bytes : Bytes) (n : ℕ) :
    (hexEncode (bytes.drop n)).toList = (hexEncode bytes).toList.drop (2 * n) := by
  simp only [hexEncode, String.toList_ofList]
  induction n generalizing bytes with
  | zero => rfl
  | succ n ih =>
    cases bytes with
    | nil => rfl
    | cons byte bytes => simp [hexPair, ih, Nat.mul_succ]

theorem mem_hexEncode {bytes : Bytes} {c : Char} (h : c ∈ (hexEncode bytes).toList) :
    c ∈ hexAlphabet := by
  rw [hexEncode, String.toList_ofList, List.mem_flatMap] at h
  obtain ⟨byte, -, hc⟩ := h
  simp only [hexPair, List.mem_cons, List.not_mem_nil, or_false] at hc
  rcases hc with rfl | rfl
  · exact hexDigit_mem _ (halves_lt byte).1
  · exact hexDigit_mem _ (halves_lt byte).2

/-- `u8::is_ascii_hexdigit` of a byte that is not an upper-case letter. -/
def isLowerHexDigit (byte : UInt8) : Bool :=
  isAsciiDigit byte || (0x61 ≤ byte && byte ≤ 0x66)

/-- The ASCII code of the digit `n`. -/
def hexCode (n : ℕ) : UInt8 := UInt8.ofNat (hexAlphabet.getD n '0').toNat

/-- The two digits of a byte, as bytes. -/
def hexCodes (byte : UInt8) : Bytes := [hexCode (byte >>> 4).toNat, hexCode (byte &&& 0x0f).toNat]

private theorem utf8Encode_hexDigit : ∀ n < 16,
    String.utf8EncodeChar (hexAlphabet.getD n '0') = [hexCode n] := by decide

private theorem hexDigitValue_hexCode : ∀ n < 16, hexDigitValue (hexCode n) = some n := by decide

private theorem isLowerHexDigit_hexCode : ∀ n < 16, isLowerHexDigit (hexCode n) = true := by decide

private theorem hexCode_hexDigitValue : ∀ n < 256, isLowerHexDigit (UInt8.ofNat n) = true →
    ∃ m < 16, hexCode m = UInt8.ofNat n := by decide +kernel

theorem asBytes_ofList (chars : List Char) :
    asBytes (String.ofList chars) = chars.flatMap String.utf8EncodeChar := by
  simp [asBytes, List.utf8Encode]

theorem asBytes_injective {s t : String} (h : asBytes s = asBytes t) : s = t := by
  apply String.toByteArray_inj.mp
  exact ByteArray.ext (Array.toList_inj.mp h)

/-- The bytes of the hexadecimal text. -/
theorem asBytes_hexEncode (bytes : Bytes) : asBytes (hexEncode bytes) = bytes.flatMap hexCodes := by
  rw [hexEncode, asBytes_ofList, List.flatMap_assoc]
  congr 1
  funext byte
  rw [hexPair, List.flatMap_cons, List.flatMap_cons, List.flatMap_nil,
    utf8Encode_hexDigit _ (halves_lt byte).1, utf8Encode_hexDigit _ (halves_lt byte).2]
  rfl

theorem isLowerHexDigit_of_mem_hexCodes {byte code : UInt8} (h : code ∈ hexCodes byte) :
    isLowerHexDigit code = true := by
  simp only [hexCodes, List.mem_cons, List.not_mem_nil, or_false] at h
  rcases h with rfl | rfl
  · exact isLowerHexDigit_hexCode _ (halves_lt byte).1
  · exact isLowerHexDigit_hexCode _ (halves_lt byte).2

private theorem fromStrRadix16_pair {m n : ℕ} (hm : m < 16) (hn : n < 16) :
    fromStrRadix16 [hexCode m, hexCode n] = some (UInt8.ofNat (16 * m + n)) := by
  have hfits : 16 * m + n < 256 := by omega
  simp [fromStrRadix16, hexDigitValue_hexCode m hm, hexDigitValue_hexCode n hn, u8TryFrom, hfits]

theorem fromStrRadix16_hexCodes (byte : UInt8) : fromStrRadix16 (hexCodes byte) = some byte := by
  obtain ⟨hhigh, hlow⟩ := toNat_halves byte
  rw [hexCodes, fromStrRadix16_pair (halves_lt byte).1 (halves_lt byte).2, hhigh, hlow,
    Nat.div_add_mod, UInt8.ofNat_toNat]

/-- Two lower-case digits are read as the byte they are the text of. -/
theorem hexCodes_of_fromStrRadix16 {high low byte : UInt8} (hhigh : isLowerHexDigit high = true)
    (hlow : isLowerHexDigit low = true) (h : fromStrRadix16 [high, low] = some byte) :
    hexCodes byte = [high, low] := by
  obtain ⟨m, hm, hhigh⟩ := hexCode_hexDigitValue high.toNat high.toNat_lt (by simpa using hhigh)
  obtain ⟨n, hn, hlow⟩ := hexCode_hexDigitValue low.toNat low.toNat_lt (by simpa using hlow)
  rw [UInt8.ofNat_toNat] at hhigh hlow
  subst hhigh hlow
  rw [fromStrRadix16_pair hm hn, Option.some.injEq] at h
  subst h
  have hbyte : (UInt8.ofNat (16 * m + n)).toNat = 16 * m + n := by
    rw [UInt8.toNat_ofNat']
    exact Nat.mod_eq_of_lt (by omega)
  obtain ⟨hhalf, hrest⟩ := toNat_halves (UInt8.ofNat (16 * m + n))
  rw [hexCodes, hhalf, hrest, hbyte]
  have hdiv : (16 * m + n) / 16 = m := by omega
  have hmod : (16 * m + n) % 16 = n := by omega
  rw [hdiv, hmod]

/-! ## Decimal text -/

/-- The decimal text of a number. -/
def decimal (n : ℕ) : Bytes :=
  if n = 0 then [0x30] else ((Nat.digits 10 n).map fun digit => UInt8.ofNat (0x30 + digit)).reverse

/-- The value of a non-empty text of decimal digits. -/
def parseDecimal (text : Bytes) : Option ℕ :=
  if text ≠ [] ∧ text.all isAsciiDigit then
    some (Nat.ofDigits 10 (text.reverse.map fun byte => byte.toNat - 0x30))
  else none

private theorem toNat_digit {digit : ℕ} (h : digit < 10) :
    (UInt8.ofNat (0x30 + digit)).toNat = 0x30 + digit := by
  rw [UInt8.toNat_ofNat']
  exact Nat.mod_eq_of_lt (by omega)

private theorem isAsciiDigit_digit {digit : ℕ} (h : digit < 10) :
    isAsciiDigit (UInt8.ofNat (0x30 + digit)) = true := by
  simp only [isAsciiDigit, Bool.and_eq_true, decide_eq_true_eq, UInt8.le_iff_toNat_le,
    toNat_digit h]
  exact ⟨Nat.le_add_right _ _, by change 0x30 + digit ≤ 0x39; omega⟩

/-- Printing and parsing a number round trip. -/
theorem parseDecimal_decimal (n : ℕ) : parseDecimal (decimal n) = some n := by
  by_cases hn : n = 0
  · subst hn
    rfl
  · have hlt : ∀ digit ∈ Nat.digits 10 n, digit < 10 := fun digit hd =>
      Nat.digits_lt_base (by decide) hd
    have hne : decimal n ≠ [] := by
      rw [decimal, if_neg hn]
      simpa using Nat.digits_ne_nil_iff_ne_zero.mpr hn
    have hall : (decimal n).all isAsciiDigit = true := by
      rw [decimal, if_neg hn, List.all_reverse, List.all_map, List.all_eq_true]
      intro digit hd
      exact isAsciiDigit_digit (hlt digit hd)
    have hback : (decimal n).reverse.map (fun byte => byte.toNat - 0x30) = Nat.digits 10 n := by
      rw [decimal, if_neg hn, List.reverse_reverse, List.map_map]
      conv_rhs => rw [← List.map_id (Nat.digits 10 n)]
      apply List.map_congr_left
      intro digit hd
      rw [Function.comp_apply, toNat_digit (hlt digit hd), Nat.add_sub_cancel_left, id]
    rw [parseDecimal, if_pos ⟨hne, hall⟩, hback, Nat.ofDigits_digits]

theorem decimal_injective {m n : ℕ} (h : decimal m = decimal n) : m = n := by
  have hparse := parseDecimal_decimal m
  rw [h, parseDecimal_decimal, Option.some.injEq] at hparse
  exact hparse.symm

/-- A number below `10 ^ digits` has at most that many digits. -/
theorem length_decimal_le {n digits : ℕ} (hn : n ≠ 0) (h : n < 10 ^ digits) :
    (decimal n).length ≤ digits := by
  rw [decimal, if_neg hn, List.length_reverse, List.length_map]
  exact (Nat.digits_length_le_iff (by decide) n).mpr h

/-! ## Checked sizes -/

/-- `uN::try_from` of a length, for an integer of `width` bytes. -/
def tryFromLen (width length : ℕ) : Option ℕ := if length < 256 ^ width then some length else none

/-- `usize::checked_add` on a 64-bit platform. -/
def checkedAddUsize (a b : ℕ) : Option ℕ := if a + b < 2 ^ 64 then some (a + b) else none

end Rust
