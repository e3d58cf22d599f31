import SecureKeypad.Library.KeyedMap
import SecureKeypad.Native.Layout

/-!
# Configurations of the Flutter Adapter (`packages/flutter`, `secure_keypad_flutter.dart`)

Embeds `SecureKeypadConfiguration` with `validate` and `toPlatformCreationParams`, and the text
`jsonEncode` makes of the latter. Texts are sequences of Unicode scalar values.
-/

namespace SecureKeypad.Flutter

open Native (InputPolicy KeyRole LayoutDirection isPublicId isCanonicalInputKeyId)

/-! ## Public configuration -/

/-- `DeviceSecurityMode`. -/
inductive DeviceSecurityMode where
  | standard
  | strict
deriving DecidableEq

/-- `SecureKeypadMode`. -/
inductive KeypadMode where
  | secureNative
  | headlessHost
deriving DecidableEq

/-- `HapticFeedbackStyle`. -/
inductive HapticFeedbackStyle where
  | none
  | light
  | medium
  | heavy

/-- `SoundFeedback`. -/
inductive SoundFeedback where
  | none
  | click

/-- What is read of a `double`: its value if it is finite, and its `toString`. -/
structure Double where
  value : Option ℚ
  text : String

/-- `KeySpec`. -/
structure KeySpec where
  id : String
  role : KeyRole
  label : Option String
  icon : Option String
  accessibilityLabel : Option String
  testId : Option String

/-- `KeypadLayout`. -/
structure KeypadLayout where
  schemaVersion : ℤ
  id : Option String
  locale : Option String
  direction : LayoutDirection
  randomizeInputKeys : Bool
  rows : List (List KeySpec)
  header : Bool
  display : Bool
  footer : Bool
  error : Bool

/-- `SecureKeypadTheme`. Maps keep the order of insertion. -/
structure Theme where
  colors : KeyedMap String String
  metrics : KeyedMap String Double
  keyFontSize : Double
  keyFontWeight : ℤ
  haptic : HapticFeedbackStyle
  sound : SoundFeedback
  pressDurationMs : ℤ
  maskRevealDurationMs : ℤ

/-- `SecureKeypadConfiguration`. Of the callbacks, whether they are there. -/
structure Configuration where
  layout : KeypadLayout
  theme : Theme
  inputPolicy : InputPolicy
  mode : KeypadMode
  securityMode : DeviceSecurityMode
  acknowledgeLowerAssurance : Bool
  maxTokens : ℤ
  timeoutMs : ℤ
  onMaskedStateChanged : Bool
  onResult : Bool

/-! ## Validation -/

def maxKeyLabelBytes : ℕ := 16
def maxAccessibilityLabelBytes : ℕ := 80

/-- `[a-zA-Z]`. -/
def isLetter (c : Char) : Bool := c.isLower || c.isUpper

/-- `_localePattern`: `^[A-Za-z]{2,3}(?:-[A-Za-z0-9]{2,8})?$`. -/
def matchesLocale (text : String) : Bool :=
  let language := text.toList.takeWhile isLetter
  2 ≤ language.length && language.length ≤ 3 &&
    match text.toList.drop language.length with
    | [] => true
    | '-' :: region => 2 ≤ region.length && region.length ≤ 8 &&
        region.all fun c => isLetter c || c.isDigit
    | _ => false

/-- `_colorPattern`: `^#[0-9a-fA-F]{6}(?:[0-9a-fA-F]{2})?$`. -/
def matchesColor (text : String) : Bool :=
  match text.toList with
  | '#' :: digits => (digits.length = 6 || digits.length = 8) &&
      digits.all fun c => c.isDigit || ('a' ≤ c && c ≤ 'f') || ('A' ≤ c && c ≤ 'F')
  | _ => false

/-- `_hasExactKeys`. -/
def hasExactKeys (keys expected : List String) : Bool :=
  keys.dedup.length = expected.length && expected.all keys.contains

/-- `_isBoundedNumber`. -/
def isBoundedNumber (value : Option Double) (minimum maximum : ℚ) : Bool :=
  (value.bind Double.value).any fun value => minimum ≤ value && value ≤ maximum

/-- `_isBoundedInteger` of an `int`. -/
def isBoundedInteger (value minimum maximum : ℤ) : Bool := minimum ≤ value && value ≤ maximum

/-- The error is added if the check fails. -/
def check (passes : Bool) (error : String) : List String := if passes then [] else [error]

/-- The errors of one key, behind the ids `seen` before it. -/
def validateKey (policy : InputPolicy) (seen : List String) (path : String) (key : KeySpec) :
    List String :=
  check (isPublicId key.id) (path ++ ".id is invalid") ++
  check (key.role ≠ .input || isCanonicalInputKeyId key.id policy)
    (path ++ ".id is invalid for input policy") ++
  check (!seen.contains key.id) (path ++ ".id is duplicated") ++
  check (key.label.all (·.utf8ByteSize ≤ maxKeyLabelBytes)) (path ++ ".label is invalid") ++
  check (key.icon.all isPublicId) (path ++ ".icon is invalid") ++
  check (key.accessibilityLabel.all (·.utf8ByteSize ≤ maxAccessibilityLabelBytes))
    (path ++ ".accessibilityLabel is invalid") ++
  check (key.testId.all isPublicId) (path ++ ".testId is invalid")

def validateKeys (policy : InputPolicy) (path : String) :
    ℕ → List String → List KeySpec → List String
  | _, _, [] => []
  | keyIndex, seen, key :: keys =>
    validateKey policy seen (path ++ "[" ++ toString keyIndex ++ "]") key ++
      validateKeys policy path (keyIndex + 1) (seen ++ [key.id]) keys

/-- The loop over the rows. A row that is empty or too long is not looked into. -/
def validateRows (policy : InputPolicy) : ℕ → List String → List (List KeySpec) → List String
  | _, _, [] => []
  | rowIndex, seen, row :: rows =>
    let path := "layout.rows[" ++ toString rowIndex ++ "]"
    if row = [] ∨ 32 < row.length then
      (path ++ " is invalid") :: validateRows policy (rowIndex + 1) seen rows
    else
      validateKeys policy path 0 seen row ++
        validateRows policy (rowIndex + 1) (seen ++ row.map KeySpec.id) rows

def colorKeys : List String :=
  ["background", "keyBackground", "keyForeground", "keyPressedBackground", "keyDisabledBackground",
    "error"]

def metricKeys : List String := ["keyHeight", "keyGap", "keyRadius", "contentPadding"]

/-- The errors of the theme. -/
def validateTheme (theme : Theme) : List String :=
  check (hasExactKeys theme.colors.keys colorKeys &&
    theme.colors.entries.all fun entry => matchesColor entry.2) "theme.colors is invalid" ++
  check (hasExactKeys theme.metrics.keys metricKeys &&
    isBoundedNumber (theme.metrics.lookup "keyHeight") 32 160 &&
    isBoundedNumber (theme.metrics.lookup "keyGap") 0 48 &&
    isBoundedNumber (theme.metrics.lookup "keyRadius") 0 80 &&
    isBoundedNumber (theme.metrics.lookup "contentPadding") 0 80) "theme.metrics is invalid" ++
  check (isBoundedNumber theme.keyFontSize 10 72) "theme.keyFontSize is invalid" ++
  check ([400, 500, 600, 700].contains theme.keyFontWeight) "theme.keyFontWeight is invalid" ++
  check (isBoundedInteger theme.pressDurationMs 0 500) "theme.pressDurationMs is invalid" ++
  check (isBoundedInteger theme.maskRevealDurationMs 0 2000) "theme.maskRevealDurationMs is invalid"

/-- `validate`. The checks of `randomizeInputKeys` and `securityMode` cannot fail. -/
def Configuration.validate (configuration : Configuration) : List String :=
  let layout := configuration.layout
  check (layout.schemaVersion = 1) "layout.schemaVersion is unsupported" ++
  check (layout.id.all isPublicId) "layout.id is invalid" ++
  check (layout.locale.all matchesLocale) "layout.locale is invalid" ++
  check (1 ≤ layout.rows.length && layout.rows.length ≤ 16) "layout.rows is invalid" ++
  validateRows configuration.inputPolicy 0 [] layout.rows ++
  check (isBoundedInteger configuration.maxTokens 1 4096) "maxTokens is invalid" ++
  check (isBoundedInteger configuration.timeoutMs 1 86400000) "timeoutMs is invalid" ++
  check (!((configuration.mode = .secureNative && configuration.acknowledgeLowerAssurance) ||
    (configuration.mode = .headlessHost && !configuration.acknowledgeLowerAssurance)))
    "mode acknowledgement is invalid" ++
  validateTheme configuration.theme

/-! ## Creation parameters -/

/-- The values of a creation map. -/
inductive Json where
  | string (text : String)
  | int (value : ℤ)
  | double (value : Double)
  | bool (value : Bool)
  | list (items : List Json)
  | object (entries : List (String × Json))

/-- A character inside an encoded string. -/
def jsonEscape (c : Char) : List Char :=
  if c = '"' then ['\\', '"']
  else if c = '\\' then ['\\', '\\']
  else if c.toNat = 8 then ['\\', 'b']
  else if c.toNat = 9 then ['\\', 't']
  else if c.toNat = 10 then ['\\', 'n']
  else if c.toNat = 12 then ['\\', 'f']
  else if c.toNat = 13 then ['\\', 'r']
  else if c.toNat < 32 then
    ['\\', 'u', '0', '0', (c.toNat / 16).digitChar, (c.toNat % 16).digitChar]
  else [c]

def jsonString (text : String) : String :=
  "\"" ++ String.ofList (text.toList.flatMap jsonEscape) ++ "\""

mutual

/-- `jsonEncode`. -/
def jsonEncode : Json → String
  | .string text => jsonString text
  | .int value => toString value
  | .double value => value.text
  | .bool value => if value then "true" else "false"
  | .list items => "[" ++ ",".intercalate (jsonItems items) ++ "]"
  | .object entries => "\x7b" ++ ",".intercalate (jsonEntries entries) ++ "\x7d"

def jsonItems : List Json → List String
  | [] => []
  | item :: items => jsonEncode item :: jsonItems items

def jsonEntries : List (String × Json) → List String
  | [] => []
  | (key, value) :: entries => (jsonString key ++ ":" ++ jsonEncode value) :: jsonEntries entries

end

def roleName : KeyRole → String
  | .input => "input"
  | .backspace => "backspace"
  | .submit => "submit"
  | .clear => "clear"
  | .cancel => "cancel"
  | .spacer => "spacer"

def directionName : LayoutDirection → String
  | .ltr => "ltr"
  | .rtl => "rtl"

def HapticFeedbackStyle.name : HapticFeedbackStyle → String
  | .none => "none"
  | .light => "light"
  | .medium => "medium"
  | .heavy => "heavy"

def SoundFeedback.name : SoundFeedback → String
  | .none => "none"
  | .click => "click"

def policyName : InputPolicy → String
  | .numeric => "numeric"
  | .ascii => "ascii"
  | .hangul => "hangul"

def DeviceSecurityMode.name : DeviceSecurityMode → String
  | .standard => "standard"
  | .strict => "strict"

def KeypadMode.name : KeypadMode → String
  | .secureNative => "secure-native"
  | .headlessHost => "headless-host"

/-- `if (text != null) key: text`. -/
def optionalEntry (key : String) (text : Option String) : List (String × Json) :=
  match text with
  | none => []
  | some text => [(key, .string text)]

def KeySpec.toJson (key : KeySpec) : Json :=
  .object ([("id", .string key.id)] ++ optionalEntry "label" key.label ++
    optionalEntry "icon" key.icon ++ [("role", .string (roleName key.role))] ++
    optionalEntry "accessibilityLabel" key.accessibilityLabel ++ optionalEntry "testId" key.testId)

def KeypadLayout.toJson (layout : KeypadLayout) : Json :=
  .object ([("schemaVersion", .int layout.schemaVersion)] ++ optionalEntry "id" layout.id ++
    optionalEntry "locale" layout.locale ++
    [("direction", .string (directionName layout.direction)),
      ("randomizeInputKeys", .bool layout.randomizeInputKeys),
      ("rows", .list (layout.rows.map fun row => .list (row.map KeySpec.toJson))),
      ("slots", .object
        [("header", .bool layout.header), ("display", .bool layout.display),
          ("footer", .bool layout.footer), ("error", .bool layout.error)])])

def Theme.toJson (theme : Theme) : Json :=
  .object
    [("schemaVersion", .int 1),
      ("colors", .object (theme.colors.entries.map fun entry => (entry.1, .string entry.2))),
      ("metrics", .object (theme.metrics.entries.map fun entry => (entry.1, .double entry.2))),
      ("typography", .object
        [("keyFontSize", .double theme.keyFontSize), ("keyFontWeight", .int theme.keyFontWeight)]),
      ("animation", .object
        [("pressDurationMs", .int theme.pressDurationMs),
          ("maskRevealDurationMs", .int theme.maskRevealDurationMs)]),
      ("feedback", .object
        [("haptic", .string theme.haptic.name), ("sound", .string theme.sound.name)])]

/-- `toPlatformCreationParams` of a configuration without errors. -/
def Configuration.toPlatformCreationParams (configuration : Configuration) : Json :=
  .object
    [("layout", configuration.layout.toJson), ("theme", configuration.theme.toJson),
      ("inputPolicy", .string (policyName configuration.inputPolicy)),
      ("securityMode", .string configuration.securityMode.name),
      ("mode", .string configuration.mode.name),
      ("acknowledgeLowerAssurance", .bool configuration.acknowledgeLowerAssurance),
      ("maxTokens", .int configuration.maxTokens), ("timeoutMs", .int configuration.timeoutMs)]

/-! ## The default configuration -/

/-- `defaultNumericLayout`. -/
def defaultNumericLayout : KeypadLayout where
  schemaVersion := 1
  id := some "default-numeric"
  locale := some "en"
  direction := .ltr
  randomizeInputKeys := false
  rows :=
    [[digit "1", digit "2", digit "3"], [digit "4", digit "5", digit "6"],
      [digit "7", digit "8", digit "9"],
      [action "clear" "Clear" .clear, digit "0", action "backspace" "Delete" .backspace],
      [action "cancel" "Cancel" .cancel, action "submit" "Continue" .submit]]
  header := true
  display := true
  footer := true
  error := true
where
  action (id label : String) (role : KeyRole) : KeySpec := ⟨id, role, some label, none, none, none⟩
  digit (label : String) : KeySpec := action ("digit-" ++ label) label .input

/-- `SecureKeypadTheme.defaultTheme`. -/
def defaultTheme : Theme where
  colors := ⟨[⟨"background", "#101114"⟩, ⟨"keyBackground", "#23262D"⟩,
    ⟨"keyForeground", "#FFFFFF"⟩, ⟨"keyPressedBackground", "#3B82F6"⟩,
    ⟨"keyDisabledBackground", "#4B5563"⟩, ⟨"error", "#F87171"⟩],
    (by decide : List.Nodup _)⟩
  metrics := ⟨[⟨"keyHeight", ⟨some 56, "56.0"⟩⟩, ⟨"keyGap", ⟨some 8, "8.0"⟩⟩,
    ⟨"keyRadius", ⟨some 12, "12.0"⟩⟩, ⟨"contentPadding", ⟨some 16, "16.0"⟩⟩],
    (by decide : List.Nodup _)⟩
  keyFontSize := ⟨some 24, "24.0"⟩
  keyFontWeight := 600
  haptic := .light
  sound := .none
  pressDurationMs := 80
  maskRevealDurationMs := 0

/-- `SecureKeypadConfiguration.defaultNumeric`, with the other defaults of the constructor. -/
def defaultNumeric : Configuration where
  layout := defaultNumericLayout
  theme := defaultTheme
  inputPolicy := .numeric
  mode := .secureNative
  securityMode := .standard
  acknowledgeLowerAssurance := false
  maxTokens := 8
  timeoutMs := 60000
  onMaskedStateChanged := false
  onResult := false

/-- **The default configuration passes its own check.** -/
theorem validate_defaultNumeric : defaultNumeric.validate = [] := by
  decide +kernel

end SecureKeypad.Flutter
