import Mathlib

/-!
# Public Layouts and Commands of the Native Views (`native/android`, `native/ios`)

The data both native views are configured with, the checks the Android view makes of a layout
before it builds anything, and the decision on a numbered command.
-/

namespace SecureKeypad.Native

/-! ## Layouts -/

/-- `SecureKeyRole`. -/
inductive KeyRole where
  | input
  | backspace
  | clear
  | submit
  | cancel
  | spacer
deriving DecidableEq, Repr

/-- `SecureKeySpec`. -/
structure KeySpec where
  id : String
  label : String
  role : KeyRole
  accessibilityLabel : String
  testId : Option String
deriving DecidableEq

/-- `SecureKeypadLayoutDirection`. -/
inductive LayoutDirection where
  | ltr
  | rtl
deriving DecidableEq

/-- `SecureKeypadSlots`. -/
structure Slots where
  header : Bool
  display : Bool
  footer : Bool
  error : Bool
deriving DecidableEq

/-- `SecureKeypadLayout`. -/
structure Layout where
  rows : List (List KeySpec)
  direction : LayoutDirection
  randomizeInputKeys : Bool
  slots : Slots
deriving DecidableEq

/-- `SecureKeypadInputPolicy`. -/
inductive InputPolicy where
  | numeric
  | ascii
  | hangul
deriving DecidableEq, Repr

/-- `[a-z0-9]`. -/
def isIdHead (c : Char) : Bool := c.isLower || c.isDigit

/-- `[a-z0-9._-]`. -/
def isIdChar (c : Char) : Bool := isIdHead c || c = '.' || c = '_' || c = '-'

/-- `[a-z0-9][a-z0-9._-]{0,63}`. -/
def isPublicIdChars : List Char → Bool
  | [] => false
  | head :: tail => isIdHead head && tail.all isIdChar && tail.length ≤ 63

def isPublicId (text : String) : Bool := isPublicIdChars text.toList

/-- `[0-9a-f]`. -/
def isHexDigit (c : Char) : Bool := c.isDigit || ('a' ≤ c && c ≤ 'f')

/-- The value of a digit in base 16. -/
def hexValue (c : Char) : ℕ := if c.isDigit then c.toNat - '0'.toNat else c.toNat - 'a'.toNat + 10

/-- `HANGUL_INPUT_KEY_IDS`. -/
def hangulInputKeyIds : List String :=
  ["jamo-giyeok", "jamo-ssang-giyeok", "jamo-nieun", "jamo-digeut", "jamo-ssang-digeut",
    "jamo-rieul", "jamo-mieum", "jamo-bieub", "jamo-ssang-bieub", "jamo-siot", "jamo-ssang-siot",
    "jamo-ieung", "jamo-jieut", "jamo-ssang-jieut", "jamo-chieut", "jamo-kieuk", "jamo-tieut",
    "jamo-pieup", "jamo-hieuh", "vowel-a", "vowel-ae", "vowel-ya", "vowel-yae", "vowel-eo",
    "vowel-e", "vowel-yeo", "vowel-ye", "vowel-o", "vowel-wa", "vowel-wae", "vowel-oe",
    "vowel-yo", "vowel-u", "vowel-wo", "vowel-we", "vowel-wi", "vowel-yu", "vowel-eu", "vowel-ui",
    "vowel-i", "tail-giyeok", "tail-ssang-giyeok", "tail-giyeok-siot", "tail-nieun",
    "tail-nieun-jieut", "tail-nieun-hieuh", "tail-digeut", "tail-rieul", "tail-rieul-giyeok",
    "tail-rieul-mieum", "tail-rieul-bieub", "tail-rieul-siot", "tail-rieul-tieut",
    "tail-rieul-pieup", "tail-rieul-hieuh", "tail-mieum", "tail-bieub", "tail-bieub-siot",
    "tail-siot", "tail-ssang-siot", "tail-ieung", "tail-jieut", "tail-chieut", "tail-kieuk",
    "tail-tieut", "tail-pieup", "tail-hieuh"]

/-- `isCanonicalInputKeyId`. -/
def isCanonicalInputKeyId (keyId : String) : InputPolicy → Bool
  | .numeric =>
    match keyId.toList with
    | ['d', 'i', 'g', 'i', 't', '-', digit] => digit.isDigit
    | _ => false
  | .ascii =>
    match keyId.toList with
    | ['a', 's', 'c', 'i', 'i', '-', high, low] =>
      isHexDigit high && isHexDigit low && 0x20 ≤ 16 * hexValue high + hexValue low &&
        16 * hexValue high + hexValue low ≤ 0x7e
    | _ => false
  | .hangul => hangulInputKeyIds.contains keyId

def maxLayoutRows : ℕ := 16
def maxLayoutKeysPerRow : ℕ := 32
def maxLayoutKeys : ℕ := 512
def maxKeyLabelBytes : ℕ := 16
def maxAccessibilityLabelLength : ℕ := 80

/-- The checks of one key, apart from its being new. -/
def isValidKey (policy : InputPolicy) (key : KeySpec) : Bool :=
  isPublicId key.id && key.testId.all isPublicId &&
    (key.role ≠ .input || isCanonicalInputKeyId key.id policy) &&
    key.label.utf8ByteSize ≤ maxKeyLabelBytes &&
    key.accessibilityLabel.utf8ByteSize ≤ maxAccessibilityLabelLength

/-- `validateLayout`: whether every `require` holds. -/
def validateLayout (layout : Layout) (policy : InputPolicy) : Bool :=
  1 ≤ layout.rows.length && layout.rows.length ≤ maxLayoutRows &&
    layout.rows.all (fun row => 1 ≤ row.length && row.length ≤ maxLayoutKeysPerRow) &&
    layout.rows.flatten.length ≤ maxLayoutKeys &&
    layout.rows.flatten.all (isValidKey policy) &&
    (layout.rows.flatten.map KeySpec.id).Nodup

/-! ## Numbered commands -/

/-- `SecureKeypadCommandDecision`. -/
inductive CommandDecision where
  | accept
  | ignore
  | invalid
deriving DecidableEq, Repr

/-- `secureKeypadMonotonicCommandDecision`. -/
def monotonicCommandDecision (previous : Option ℤ) (requestId : ℤ) : CommandDecision :=
  if requestId < 0 ∨ previous.any (fun previous => requestId < previous) then .invalid
  else if previous = some requestId then .ignore
  else .accept

/-- An accepted number is above every number accepted before it. -/
theorem lt_of_accept {previous : Option ℤ} {requestId : ℤ}
    (h : monotonicCommandDecision previous requestId = .accept) :
    ∀ m, previous = some m → m < requestId := by
  intro m hm
  subst hm
  unfold monotonicCommandDecision at h
  split at h
  · cases h
  · next hvalid =>
    split at h
    · cases h
    · next hnew =>
      simp only [Option.any_some, decide_eq_true_eq, not_or, not_lt] at hvalid
      rw [Option.some.injEq] at hnew
      omega

/-- The branches of `requestHeadlessKeyPress`, the same on both platforms: what it does with a
    request that is refused or older, one it has seen, and one for a key. -/
def headlessBranch {M : Type} (refused : Prop) [Decidable refused] (previous : Option ℤ)
    (requestId : ℤ) (key : Option KeySpec) (reject ignore : M) (work : KeySpec → M) : M :=
  if refused then reject
  else if previous.any (fun previous => requestId < previous) then reject
  else if previous = some requestId then ignore
  else
    match key with
    | none => reject
    | some key => work key

/-- The key `requestHeadlessKeyPress` goes on to activate. -/
def acceptedKey (refused : Prop) [Decidable refused] (previous : Option ℤ) (requestId : ℤ)
    (key : Option KeySpec) : Option KeySpec :=
  headlessBranch refused previous requestId key none none some

section Headless

variable {M : Type} {refused : Prop} [Decidable refused] {previous : Option ℤ} {requestId : ℤ}
  {key? : Option KeySpec} {key : KeySpec}

theorem headlessBranch_of_accepted (reject ignore : M) (work : KeySpec → M)
    (h : acceptedKey refused previous requestId key? = some key) :
    headlessBranch refused previous requestId key? reject ignore work = work key := by
  unfold acceptedKey headlessBranch at h
  unfold headlessBranch
  split_ifs at h ⊢
  cases key? with
  | none => cases h
  | some other =>
    cases h
    rfl

theorem headlessBranch_of_not_accepted (reject ignore : M) (work : KeySpec → M)
    (h : acceptedKey refused previous requestId key? = none) :
    headlessBranch refused previous requestId key? reject ignore work = reject ∨
    headlessBranch refused previous requestId key? reject ignore work = ignore := by
  unfold acceptedKey headlessBranch at h
  unfold headlessBranch
  split_ifs at h ⊢
  · exact .inl rfl
  · exact .inl rfl
  · exact .inr rfl
  · cases key? with
    | none => exact .inl rfl
    | some other => cases h

/-- A number above the floor is no replay: only the first check and the key decide. -/
theorem headlessBranch_of_above (reject ignore : M) (work : KeySpec → M)
    (h : ∀ m, previous = some m → m < requestId) :
    headlessBranch refused previous requestId key? reject ignore work =
      if refused then reject else key?.elim reject work := by
  unfold headlessBranch
  split_ifs with hrefused holder hsame
  · rfl
  · obtain ⟨m, rfl, hm⟩ := (Option.any_eq_true _ _).mp holder
    have hlt := h m rfl
    simp only [decide_eq_true_eq] at hm
    omega
  · exact absurd (h requestId hsame) (lt_irrefl requestId)
  · cases key? <;> rfl

/-- An accepted number is above the floor. -/
theorem lt_of_acceptedKey (h : acceptedKey refused previous requestId key? = some key) :
    ∀ m, previous = some m → m < requestId := by
  intro m hm
  subst hm
  unfold acceptedKey headlessBranch at h
  split_ifs at h with hrefused holder hsame
  simp only [Option.any_some, decide_eq_true_eq, not_lt] at holder
  rw [Option.some.injEq] at hsame
  omega

end Headless

/-! ## Masked state -/

def maxRenderedLength : ℤ := 4096
def errorInternal : ℤ := 7
def errorInvalid : ℤ := 1

/-- `secureKeypadIsValidDisplayState`. -/
def isValidDisplayState (value : ℤ) : Bool := 0 ≤ value && value ≤ 3

/-- `SECURE_KEYPAD_NATIVE_REFRESH_ERROR`. -/
def nativeRefreshError : BitVec 64 := BitVec.intMin 64

/-- `secureKeypadDecodeMaskedState`. -/
def decodeMaskedState (packed : BitVec 64) : Option (ℤ × ℤ) :=
  if packed = nativeRefreshError then none
  else some (((packed >>> 32).setWidth 32).toInt, (packed.setWidth 32).toInt)

end SecureKeypad.Native
