import SecureKeypad.Library.Regex

/-!
# One Theme Colour, Two Readings

A theme colour is a text of six or eight hexadecimal digits behind `#`. The contract's pattern puts
the two optional digits behind the six of red, green and blue. The iOS parser reads them there as
the alpha component. The Android parser shifts nothing: it takes the eight digits for the packed
integer of the platform, whose alpha stands in front.

## Main results

- `colorPattern_matches_iff`: what the contract accepts
- `androidColor_eq`, `iosColor_eq`: the components each platform reads, byte by byte
- `theme_color_agrees_iff`: the platforms show the same colour for six digits, and for eight only
  where all four bytes are equal
-/

namespace SecureKeypad.Contracts

/-! ## Hexadecimal digits of either case -/

/-- `[0-9a-fA-F]` -/
def isColorDigit (c : Char) : Bool :=
  c.isDigit || ('a' ≤ c && c ≤ 'f') || ('A' ≤ c && c ≤ 'F')

/-- The value of a digit in base 16. -/
def colorDigitValue (c : Char) : ℕ :=
  if c.isDigit then c.toNat - '0'.toNat
  else if 'a' ≤ c then c.toNat - 'a'.toNat + 10
  else c.toNat - 'A'.toNat + 10

/-- The number a text of digits stands for; `none` for any other text. -/
def hexNumber (text : List Char) : Option ℕ :=
  if text ≠ [] ∧ text.all isColorDigit then
    some (text.foldl (fun value c => 16 * value + colorDigitValue c) 0)
  else none

/-- The bytes two digits each stand for. -/
def hexBytes : List Char → List ℕ
  | high :: low :: rest => (16 * colorDigitValue high + colorDigitValue low) :: hexBytes rest
  | _ => []

/-! ## The contract -/

/-- `COLOR_PATTERN`: `^#[0-9a-fA-F]{6}(?:[0-9a-fA-F]{2})?$` -/
def colorPattern : Regex :=
  .seq (.lit ['#']) (.seq (.many isColorDigit 6 (some 6)) (.opt (.many isColorDigit 2 (some 2))))

/-! ## The two parsers -/

/-- A colour by its components. -/
structure Quadruple where
  red : Fin 256
  green : Fin 256
  blue : Fin 256
  alpha : Fin 256
  deriving DecidableEq, Repr

/-- `value & 0xff` -/
def lowByte {w : ℕ} (value : BitVec w) : Fin 256 :=
  ⟨(value &&& 0xff#w).toNat, by
    rw [BitVec.toNat_and, BitVec.toNat_ofNat]
    have hmask : 0xff % 2 ^ w ≤ 255 := Nat.mod_le _ _
    exact Nat.lt_succ_of_le (Nat.and_le_right.trans hmask)⟩

/-- `color` of the Android parser: the packed colour integer. The lengths count UTF-16 units in the
    source; a text with other characters than digits is refused either way. -/
def androidColor (text : String) : Option (BitVec 32) :=
  match text.toList with
  | '#' :: hex =>
    if (hex.length = 6 ∨ hex.length = 8) ∧ hex.all isColorDigit then
      -- `toLongOrNull(16)`: behind the check there is neither sign nor overflow
      (hexNumber hex).bind fun number =>
        if number < 2 ^ 63 then
          let raw := BitVec.ofNat 64 number
          if hex.length = 6 then some ((raw ||| 0xff000000#64).setWidth 32)
          else some (raw.setWidth 32)
        else none
    else none
  | _ => none

/-- An Android colour integer read as `ARGB`. -/
def argb (color : BitVec 32) : Quadruple where
  red := lowByte (color >>> 16)
  green := lowByte (color >>> 8)
  blue := lowByte color
  alpha := lowByte (color >>> 24)

/-- `UInt64(text, radix: 16)`: digits behind an optional sign, within 64 bits. -/
def swiftUInt64 (text : List Char) : Option (BitVec 64) :=
  let number := match text with
    | '+' :: digits => hexNumber digits
    | '-' :: digits => (hexNumber digits).filter (· = 0)
    | digits => hexNumber digits
  number.bind fun value => if value < 2 ^ 64 then some (BitVec.ofNat 64 value) else none

/-- `color` of the iOS parser, with the components before their division by 255. `count` counts
    grapheme clusters in the source; a text where that differs is no number. -/
def iosColor (text : String) : Option Quadruple :=
  match text.toList with
  | '#' :: normalized =>
    if normalized.length = 6 ∨ normalized.length = 8 then
      (swiftUInt64 normalized).map fun (raw : BitVec 64) =>
        if normalized.length = 6 then
          { red := lowByte (raw >>> 16)
            green := lowByte (raw >>> 8)
            blue := lowByte raw
            alpha := 255 }
        else
          { red := lowByte (raw >>> 24)
            green := lowByte (raw >>> 16)
            blue := lowByte (raw >>> 8)
            alpha := lowByte raw }
    else none
  | _ => none

/-! ## Digits and bytes -/

theorem colorPattern_matches_iff {s : List Char} : colorPattern.Matches s ↔
    ∃ digits, s = '#' :: digits ∧ (digits.length = 6 ∨ digits.length = 8) ∧
      ∀ c ∈ digits, isColorDigit c = true := by
  rw [colorPattern, Regex.matches_seq_lit]
  simp only [Regex.matches_seq, Regex.matches_opt, Regex.matches_many]
  constructor
  · rintro ⟨digits, hs, six, rest, hdigits, ⟨hmin, hmax, hsix⟩, hrest⟩
    have hlength : six.length = 6 := le_antisymm (hmax 6 rfl) hmin
    refine ⟨digits, hs, ?_⟩
    subst hdigits
    rcases hrest with ⟨hminRest, hmaxRest, htwo⟩ | hrest
    · have hlengthRest : rest.length = 2 := le_antisymm (hmaxRest 2 rfl) hminRest
      refine ⟨.inr (by rw [List.length_append, hlength, hlengthRest]), ?_⟩
      intro c hc
      exact (List.mem_append.mp hc).elim (hsix c) (htwo c)
    · subst hrest
      rw [List.append_nil]
      exact ⟨.inl hlength, hsix⟩
  · rintro ⟨digits, hs, hlength, hall⟩
    refine ⟨digits, hs, digits.take 6, digits.drop 6, (List.take_append_drop 6 digits).symm, ?_, ?_⟩
    · have htake : (digits.take 6).length = 6 := List.length_take_of_le (by omega)
      exact ⟨htake.ge, fun bound hbound => by cases hbound; exact htake.le,
        fun c hc => hall c (List.mem_of_mem_take hc)⟩
    · rcases hlength with hlength | hlength
      · exact .inr (List.drop_eq_nil_of_le hlength.le)
      · have hdrop : (digits.drop 6).length = 2 := by rw [List.length_drop, hlength]
        exact .inl ⟨hdrop.ge, fun bound hbound => by cases hbound; exact hdrop.le,
          fun c hc => hall c (List.mem_of_mem_drop hc)⟩

theorem colorDigitValue_lt {c : Char} (h : isColorDigit c = true) : colorDigitValue c < 16 := by
  simp only [isColorDigit, Bool.or_eq_true, Bool.and_eq_true, decide_eq_true_eq] at h
  rw [colorDigitValue]
  by_cases hdigit : c.isDigit = true
  · rw [if_pos hdigit]
    simp only [Char.isDigit, Bool.and_eq_true, decide_eq_true_eq] at hdigit
    have hhigh : c.toNat ≤ 57 := hdigit.2
    show c.toNat - 48 < 16
    omega
  · rw [if_neg hdigit]
    rcases h with (h | ⟨hlow, hhigh⟩) | ⟨hlow, hhigh⟩
    · exact absurd h hdigit
    · rw [if_pos hlow]
      have hhigh : c.toNat ≤ 102 := hhigh
      show c.toNat - 97 + 10 < 16
      omega
    · have hhigh : c.toNat ≤ 70 := hhigh
      have hnot : ¬ 'a' ≤ c := fun h => absurd (show 97 ≤ c.toNat from h) (by omega)
      rw [if_neg hnot]
      show c.toNat - 65 + 10 < 16
      omega

/-- Two digits more are one byte more. -/
theorem foldl_hexBytes {digits : List Char} {n : ℕ} (hlength : digits.length = 2 * n) (value : ℕ) :
    digits.foldl (fun value c => 16 * value + colorDigitValue c) value =
      (hexBytes digits).foldl (fun value byte => 256 * value + byte) value := by
  induction n generalizing digits value with
  | zero =>
    rw [List.length_eq_zero_iff.mp hlength]
    rfl
  | succ n ih =>
    match digits, hlength with
    | high :: low :: rest, hlength =>
      simp only [List.length_cons] at hlength
      rw [List.foldl_cons, List.foldl_cons, hexBytes, List.foldl_cons, ih (by omega)]
      congr 1
      ring

theorem hexBytes_spec {digits : List Char} {n : ℕ} (hlength : digits.length = 2 * n)
    (hall : ∀ c ∈ digits, isColorDigit c = true) :
    (hexBytes digits).length = n ∧ ∀ byte ∈ hexBytes digits, byte < 256 := by
  induction n generalizing digits with
  | zero =>
    rw [List.length_eq_zero_iff.mp hlength]
    exact ⟨rfl, by simp [hexBytes]⟩
  | succ n ih =>
    match digits, hlength with
    | high :: low :: rest, hlength =>
      simp only [List.length_cons] at hlength
      obtain ⟨hbytes, hlt⟩ := @ih rest (by omega) fun c hc => hall c (by simp [hc])
      have hhigh := colorDigitValue_lt (hall high (by simp))
      have hlow := colorDigitValue_lt (hall low (by simp))
      refine ⟨by rw [hexBytes, List.length_cons, hbytes], ?_⟩
      intro byte hbyte
      rcases List.mem_cons.mp hbyte with rfl | hbyte
      · omega
      · exact hlt byte hbyte

theorem lowByte_val {w : ℕ} (hw : 8 ≤ w) (value : BitVec w) :
    (lowByte value).val = value.toNat % 256 := by
  have hmask : 0xff % 2 ^ w = 2 ^ 8 - 1 :=
    Nat.mod_eq_of_lt (lt_of_lt_of_le (by norm_num) (Nat.pow_le_pow_right two_pos hw))
  show (value &&& 0xff#w).toNat = _
  rw [BitVec.toNat_and, BitVec.toNat_ofNat, hmask, Nat.and_two_pow_sub_one_eq_mod]

theorem lowByte_shift {w : ℕ} (hw : 8 ≤ w) (value : BitVec w) (shift : ℕ) :
    (lowByte (value >>> shift)).val = value.toNat / 2 ^ shift % 256 := by
  rw [lowByte_val hw, BitVec.toNat_ushiftRight, Nat.shiftRight_eq_div_pow]

/-! ## What each platform reads -/

/-- Four bytes to a number. -/
theorem foldl_four (b₀ b₁ b₂ b₃ : ℕ) :
    [b₀, b₁, b₂, b₃].foldl (fun value byte => 256 * value + byte) 0 =
      b₀ * 2 ^ 24 + b₁ * 2 ^ 16 + b₂ * 2 ^ 8 + b₃ := by
  simp only [List.foldl_cons, List.foldl_nil]
  ring

/-- The number of a text of digits is the one its bytes stand for. -/
theorem hexNumber_eq {digits : List Char} {n : ℕ} (hlength : digits.length = 2 * n) (hn : n ≠ 0)
    (hall : ∀ c ∈ digits, isColorDigit c = true) :
    hexNumber digits = some ((hexBytes digits).foldl (fun value byte => 256 * value + byte) 0) := by
  have hne : digits ≠ [] := fun h => hn (by rw [h] at hlength; simpa using hlength.symm)
  rw [hexNumber, if_pos ⟨hne, List.all_eq_true.mpr hall⟩, foldl_hexBytes hlength]

/-- A text of digits has no sign. -/
theorem swiftUInt64_eq {digits : List Char} {number : ℕ} (hnumber : hexNumber digits = some number)
    (hlt : number < 2 ^ 64) (hall : ∀ c ∈ digits, isColorDigit c = true) :
    swiftUInt64 digits = some (BitVec.ofNat 64 number) := by
  unfold swiftUInt64
  split
  · exact absurd (hall '+' (List.mem_cons_self ..)) (by decide)
  · exact absurd (hall '-' (List.mem_cons_self ..)) (by decide)
  · simp only [hnumber, Option.bind_some, if_pos hlt]

/-- **Six digits** are the same opaque colour on both platforms. -/
theorem colors_of_six {text : String} {digits : List Char} (htext : text.toList = '#' :: digits)
    (hlength : digits.length = 6) (hall : ∀ c ∈ digits, isColorDigit c = true) :
    ∃ r g b : Fin 256, hexBytes digits = [r.val, g.val, b.val] ∧
      (androidColor text).map argb = some ⟨r, g, b, 255⟩ ∧ iosColor text = some ⟨r, g, b, 255⟩ := by
  obtain ⟨hbytes, hlt⟩ := @hexBytes_spec digits 3 hlength hall
  obtain ⟨r, g, b, heq⟩ := List.length_eq_three.mp hbytes
  rw [heq] at hlt
  have hr : r < 256 := hlt r (by simp)
  have hg : g < 256 := hlt g (by simp)
  have hb : b < 256 := hlt b (by simp)
  have hnumber : hexNumber digits = some (r * 2 ^ 16 + g * 2 ^ 8 + b) := by
    rw [@hexNumber_eq digits 3 hlength (by decide) hall, heq]
    simp only [List.foldl_cons, List.foldl_nil]
    ring_nf
  generalize hn : r * 2 ^ 16 + g * 2 ^ 8 + b = number at hnumber
  have hsmall : number < 2 ^ 24 := by omega
  have htoNat : (BitVec.ofNat 64 number).toNat = number := by
    rw [BitVec.toNat_ofNat, Nat.mod_eq_of_lt (by omega)]
  refine ⟨⟨r, hr⟩, ⟨g, hg⟩, ⟨b, hb⟩, heq, ?_, ?_⟩
  · have hcolor : androidColor text =
        some ((BitVec.ofNat 64 number ||| 0xff000000#64).setWidth 32) := by
      simp only [androidColor, htext]
      rw [if_pos ⟨.inl hlength, List.all_eq_true.mpr hall⟩, hnumber, Option.bind_some,
        if_pos (by omega), if_pos hlength]
    -- the mask stands above the number, so that setting its bits adds it
    have hvalue : ((BitVec.ofNat 64 number ||| 0xff000000#64).setWidth 32).toNat =
        255 * 2 ^ 24 + number := by
      rw [BitVec.toNat_setWidth, BitVec.toNat_or, htoNat, Nat.or_comm]
      show (255 * 2 ^ 24 ||| number) % 2 ^ 32 = _
      rw [Nat.mul_comm, ← Nat.two_pow_add_eq_or_of_lt hsmall, Nat.mod_eq_of_lt (by omega)]
    rw [hcolor, Option.map_some, argb]
    congr 2 <;> apply Fin.ext <;>
      simp only [lowByte_shift (by decide : 8 ≤ 32), lowByte_val (by decide : 8 ≤ 32), hvalue]
    · omega
    · omega
    · omega
    · show _ = 255
      omega
  · simp only [iosColor, htext]
    rw [if_pos (.inl hlength), swiftUInt64_eq hnumber (by omega) hall, Option.map_some,
      if_pos hlength]
    congr 2 <;> apply Fin.ext <;>
      simp only [lowByte_shift (by decide : 8 ≤ 64), lowByte_val (by decide : 8 ≤ 64), htoNat]
    · omega
    · omega
    · omega

/-- **Eight digits**: the iOS parser reads the alpha component behind the others, the Android
    parser in front of them. -/
theorem colors_of_eight {text : String} {digits : List Char} (htext : text.toList = '#' :: digits)
    (hlength : digits.length = 8) (hall : ∀ c ∈ digits, isColorDigit c = true) :
    ∃ b₀ b₁ b₂ b₃ : Fin 256, hexBytes digits = [b₀.val, b₁.val, b₂.val, b₃.val] ∧
      (androidColor text).map argb =
        some { alpha := b₀, red := b₁, green := b₂, blue := b₃ } ∧
      iosColor text = some { red := b₀, green := b₁, blue := b₂, alpha := b₃ } := by
  -- The digits are four bytes; Android reads the first as alpha, and iOS the last.
  obtain ⟨hbytes, hlt⟩ := @hexBytes_spec digits 4 hlength hall
  obtain ⟨b₀, b₁, b₂, b₃, heq⟩ := List.length_eq_four.mp hbytes
  rw [heq] at hlt
  have h₀ : b₀ < 256 := hlt b₀ (by simp)
  have h₁ : b₁ < 256 := hlt b₁ (by simp)
  have h₂ : b₂ < 256 := hlt b₂ (by simp)
  have h₃ : b₃ < 256 := hlt b₃ (by simp)
  have hnumber : hexNumber digits = some (b₀ * 2 ^ 24 + b₁ * 2 ^ 16 + b₂ * 2 ^ 8 + b₃) := by
    rw [@hexNumber_eq digits 4 hlength (by decide) hall, heq, foldl_four]
  generalize hn : b₀ * 2 ^ 24 + b₁ * 2 ^ 16 + b₂ * 2 ^ 8 + b₃ = number at hnumber
  have hsmall : number < 2 ^ 32 := by omega
  have hnotSix : ¬digits.length = 6 := by omega
  have htoNat : (BitVec.ofNat 64 number).toNat = number := by
    rw [BitVec.toNat_ofNat, Nat.mod_eq_of_lt (by omega)]
  refine ⟨⟨b₀, h₀⟩, ⟨b₁, h₁⟩, ⟨b₂, h₂⟩, ⟨b₃, h₃⟩, heq, ?_, ?_⟩
  · have hcolor : androidColor text = some ((BitVec.ofNat 64 number).setWidth 32) := by
      simp only [androidColor, htext]
      rw [if_pos ⟨.inr hlength, List.all_eq_true.mpr hall⟩, hnumber, Option.bind_some,
        if_pos (by omega), if_neg hnotSix]
    have hvalue : ((BitVec.ofNat 64 number).setWidth 32).toNat = number := by
      rw [BitVec.toNat_setWidth, htoNat, Nat.mod_eq_of_lt hsmall]
    rw [hcolor, Option.map_some, argb]
    congr 2 <;> apply Fin.ext <;>
      simp only [lowByte_shift (by decide : 8 ≤ 32), lowByte_val (by decide : 8 ≤ 32), hvalue] <;>
      omega
  · simp only [iosColor, htext]
    rw [if_pos (.inr hlength), swiftUInt64_eq hnumber (by omega) hall, Option.map_some,
      if_neg hnotSix]
    congr 2 <;> apply Fin.ext <;>
      simp only [lowByte_shift (by decide : 8 ≤ 64), lowByte_val (by decide : 8 ≤ 64), htoNat] <;>
      omega

/-- Both parsers take every colour of the contract. -/
theorem colors_isSome {text : String} (h : colorPattern.wholeMatch text = true) :
    (androidColor text).isSome ∧ (iosColor text).isSome := by
  obtain ⟨digits, htext, hlength, hall⟩ := colorPattern_matches_iff.mp (Regex.wholeMatch_iff.mp h)
  rcases hlength with hlength | hlength
  · obtain ⟨_, _, _, -, handroid, hios⟩ := colors_of_six htext hlength hall
    rw [← Option.isSome_map, handroid, hios]
    exact ⟨rfl, rfl⟩
  · obtain ⟨_, _, _, _, -, handroid, hios⟩ := colors_of_eight htext hlength hall
    rw [← Option.isSome_map, handroid, hios]
    exact ⟨rfl, rfl⟩

/-! ## Agreement -/

/-- The text is read as the same colour by both parsers. -/
def SameColor (text : String) : Prop :=
  ∃ android ios, androidColor text = some android ∧ iosColor text = some ios ∧ argb android = ios

/-- Both parsers take every colour of the contract; it is the same colour on both platforms exactly
    when it has six digits or its four bytes are equal. -/
theorem theme_color_agrees_iff (text : String) (h : colorPattern.wholeMatch text = true) :
    ((androidColor text).isSome ∧ (iosColor text).isSome) ∧
      (SameColor text ↔ (hexBytes (text.toList.drop 1)).length = 3 ∨
        ∃ byte, hexBytes (text.toList.drop 1) = List.replicate 4 byte) := by
  refine ⟨colors_isSome h, ?_⟩
  obtain ⟨digits, htext, hlength, hall⟩ := colorPattern_matches_iff.mp (Regex.wholeMatch_iff.mp h)
  rw [htext]
  show _ ↔ (hexBytes digits).length = 3 ∨ ∃ byte, hexBytes digits = List.replicate 4 byte
  rcases hlength with hlength | hlength
  · obtain ⟨r, g, b, hbytes, handroid, hios⟩ := colors_of_six htext hlength hall
    obtain ⟨android, hcolor, hargb⟩ := Option.map_eq_some_iff.mp handroid
    refine iff_of_true ⟨android, _, hcolor, hios, hargb⟩ (.inl ?_)
    rw [hbytes]
    rfl
  · obtain ⟨b₀, b₁, b₂, b₃, hbytes, handroid, hios⟩ := colors_of_eight htext hlength hall
    obtain ⟨android, hcolor, hargb⟩ := Option.map_eq_some_iff.mp handroid
    rw [hbytes]
    constructor
    -- The rotated bytes are the same only if all four are.
    · intro ⟨android', ios, hcolor', hios', hsame⟩
      rw [hcolor, Option.some.injEq] at hcolor'
      rw [hios, Option.some.injEq] at hios'
      rw [← hcolor', ← hios', hargb, Quadruple.mk.injEq] at hsame
      obtain ⟨h₁₀, h₂₁, h₃₂, -⟩ := hsame
      refine .inr ⟨b₀.val, ?_⟩
      rw [h₃₂, h₂₁, h₁₀]
      rfl
    · rintro (hthree | ⟨byte, hall⟩)
      · cases hthree
      · simp only [List.replicate, List.cons.injEq] at hall
        obtain ⟨h₀, h₁, h₂, h₃, -⟩ := hall
        have h₁₀ : b₁ = b₀ := Fin.ext (h₁.trans h₀.symm)
        have h₂₀ : b₂ = b₀ := Fin.ext (h₂.trans h₀.symm)
        have h₃₀ : b₃ = b₀ := Fin.ext (h₃.trans h₀.symm)
        refine ⟨android, _, hcolor, hios, ?_⟩
        rw [hargb, h₁₀, h₂₀, h₃₀]

theorem theme_color_agrees_sample : ((androidColor "#11223344").isSome ∧
    (iosColor "#11223344").isSome) ∧ (SameColor "#11223344" ↔
      (hexBytes ("#11223344".toList.drop 1)).length = 3 ∨
        ∃ byte, hexBytes ("#11223344".toList.drop 1) = List.replicate 4 byte) :=
  theme_color_agrees_iff "#11223344" (by decide)

/-- The colour `#11223344` is accepted by the contract and is read differently. -/
theorem theme_color_disagrees : ¬∀ text, colorPattern.wholeMatch text = true → SameColor text := by
  intro h
  obtain ⟨android, ios, handroid, hios, hsame⟩ := h "#11223344" (by decide)
  have handroid' : androidColor "#11223344" = some 0x11223344#32 := by decide
  have hios' : iosColor "#11223344" = some ⟨0x11, 0x22, 0x33, 0x44⟩ := by decide
  rw [handroid', Option.some.injEq] at handroid
  rw [hios', Option.some.injEq] at hios
  rw [← handroid, ← hios] at hsame
  exact absurd hsame (by decide)

end SecureKeypad.Contracts
