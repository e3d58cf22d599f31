import SecureKeypad.Contracts.InputKeyIds
import SecureKeypad.Contracts.ThemeColor
import SecureKeypad.Library.Json
import SecureKeypad.Library.Rounding

/-!
# The Bridge Configuration Parsers (`SecureKeypadBridgeConfig`)

Embeds `SecureKeypadBridgeConfigParser` of Android and `SecureKeypadBridgeConfiguration` of iOS:
what the framework bridge hands over becomes a layout, a theme and the other settings, or the whole
configuration is refused. The two parse layouts and themes alike but for how they match patterns,
read colours and take a `null`; these are the parameters of one parser. Behind it each platform has
its own settings, its own theme and the checks of its view.

`none` is an `IllegalArgumentException` or a thrown `SecureKeypadBridgeConfigError`.
-/

namespace SecureKeypad.Native

open Contracts (Quadruple androidColor iosColor iosIsCanonicalInputKeyId)

/-! ## What the platforms differ in -/

/-- `^[a-z0-9][a-z0-9._-]{0,63}$` -/
def publicIdPattern : Regex := .seq (.one isIdHead) (.many isIdChar 0 (some 63))

/-- `^[A-Za-z]{2,3}(-[A-Za-z0-9]{2,8})?$` -/
def publicLocalePattern : Regex :=
  .seq (.many Char.isAlpha 2 (some 3))
    (.opt (.seq (.lit ['-']) (.many Char.isAlphanum 2 (some 8))))

/-- What the parsers do differently. -/
structure Platform where
  /-- How a pattern is matched against a text. -/
  matchesPattern : Regex → String → Bool
  /-- The check of a key's identifier. -/
  isKeyId : String → Bool
  /-- Whether an optional map that is `null` counts as absent. -/
  nullIsAbsent : Bool

/-- Kotlin matches the whole text, and `null` is also what an absent entry reads as. -/
def android : Platform where
  matchesPattern := Regex.wholeMatch
  isKeyId := publicIdPattern.wholeMatch
  nullIsAbsent := true

/-- Foundation searches; an identifier must be ASCII and of 1 to 64 bytes besides. -/
def ios : Platform where
  matchesPattern := Regex.icuFind
  isKeyId id := id.utf8ByteSize ≤ 64 && 0 < id.utf8ByteSize &&
    id.toList.all (fun c => c.toNat < 128) && publicIdPattern.icuFind id
  nullIsAbsent := false

/-! ## Layouts -/

/-- The role of its text. -/
def keyRole? : String → Option KeyRole
  | "input" => some .input
  | "backspace" => some .backspace
  | "clear" => some .clear
  | "submit" => some .submit
  | "cancel" => some .cancel
  | "spacer" => some .spacer
  | _ => none

/-- A field that must pass the test when it is there. -/
def present (test : Json → Bool) (value : Option Json) : Bool := value.all test

def isText : Json → Bool
  | .str _ => true
  | _ => false

def textMatches (test : String → Bool) : Json → Bool
  | .str text => test text
  | _ => false

/-- The label of a key: its own, or its icon, or its identifier. -/
def shownLabel (key : List (String × Json)) (id : String) : String :=
  ((key.lookup "label").bind Json.asString?).getD
    (((key.lookup "icon").bind Json.asString?).getD id)

section Layouts

variable (platform : Platform)

/-- `optionalMap`: nothing, or an object of allowed keys. -/
def optionalMap (value : Option Json) (allowed : List String) :
    Option (Option (List (String × Json))) :=
  match value with
  | none => some none
  | some .null => if platform.nullIsAbsent then some none else none
  | some (.obj map) => if Json.onlyKeys map allowed then some (some map) else none
  | some _ => none

/-- One key of `parseLayout`. -/
def parseKey (value : Json) : Option KeySpec := do
  let key ← value.asObject?
  guard (Json.onlyKeys key ["id", "label", "icon", "role", "accessibilityLabel", "testId"])
  let id ← (key.lookup "id").bind Json.asString?
  guard (platform.isKeyId id)
  guard (present isText (key.lookup "label"))
  guard (present (textMatches (platform.matchesPattern publicIdPattern)) (key.lookup "icon"))
  guard (present isText (key.lookup "accessibilityLabel"))
  guard (present (textMatches (platform.matchesPattern publicIdPattern)) (key.lookup "testId"))
  let roleValue ← (key.lookup "role").bind Json.asString?
  let role ← keyRole? roleValue
  let label := shownLabel key id
  guard (label.utf8ByteSize ≤ 16)
  let accessibilityLabel := ((key.lookup "accessibilityLabel").bind Json.asString?).getD label
  guard (accessibilityLabel.utf8ByteSize ≤ 80)
  return { id, label, role, accessibilityLabel,
           testId := (key.lookup "testId").bind Json.asString? }

/-- One row. -/
def parseRow (value : Json) : Option (List KeySpec) := do
  let row ← value.asArray?
  guard (1 ≤ row.length ∧ row.length ≤ 32)
  row.mapM (parseKey platform)

def parseDirection : Option Json → Option LayoutDirection
  | none => some .ltr
  | some (.str "ltr") => some .ltr
  | some (.str "rtl") => some .rtl
  | some _ => none

def parseRandomize : Option Json → Option Bool
  | none => some false
  | some value => value.asBool?

/-- The value of a slot, on by default. -/
def slot (slots : Option (List (String × Json))) (name : String) : Bool :=
  ((slots.bind fun slots => slots.lookup name).bind Json.asBool?).getD true

/-- `parseLayout`. -/
def parseLayout (value : List (String × Json)) : Option Layout := do
  guard (Json.onlyKeys value
    ["schemaVersion", "id", "locale", "direction", "randomizeInputKeys", "rows", "slots"])
  guard ((value.lookup "schemaVersion").bind Json.asNumber? = some 1)
  guard (present (textMatches (platform.matchesPattern publicIdPattern)) (value.lookup "id"))
  guard (present (textMatches (platform.matchesPattern publicLocalePattern))
    (value.lookup "locale"))
  let direction ← parseDirection (value.lookup "direction")
  let randomizeInputKeys ← parseRandomize (value.lookup "randomizeInputKeys")
  let slots ← optionalMap platform (value.lookup "slots") ["header", "display", "footer", "error"]
  guard (slots.all fun slots => (Json.values slots).all fun value => value.asBool?.isSome)
  let rows ← (value.lookup "rows").bind Json.asArray?
  guard (1 ≤ rows.length ∧ rows.length ≤ 16)
  let parsedRows ← rows.mapM (parseRow platform)
  -- the identifiers are collected in a set while the rows are parsed
  guard (parsedRows.flatten.map KeySpec.id).Nodup
  return { rows := parsedRows, direction, randomizeInputKeys,
           slots := ⟨slot slots "header", slot slots "display", slot slots "footer",
             slot slots "error"⟩ }

end Layouts

/-! ## Themes -/

/-- `SecureKeypadHapticFeedback`. -/
inductive HapticFeedback where
  | none
  | light
  | medium
  | heavy
deriving DecidableEq

/-- `SecureKeypadSoundFeedback`. -/
inductive SoundFeedback where
  | none
  | click
deriving DecidableEq

def hapticFeedback? : String → Option HapticFeedback
  | "none" => some .none
  | "light" => some .light
  | "medium" => some .medium
  | "heavy" => some .heavy
  | _ => Option.none

def soundFeedback? : String → Option SoundFeedback
  | "none" => some .none
  | "click" => some .click
  | _ => Option.none

/-- What a theme says, before a platform makes its own values of it. -/
structure ThemeValues (Color : Type) where
  background : Color
  keyColor : Color
  keyPressedColor : Color
  keyTextColor : Color
  keyHeight : ℚ
  keyGap : ℚ
  keyRadius : ℚ
  contentPadding : ℚ
  keyFontSize : ℚ
  keyFontWeight : ℤ
  pressDurationMs : ℤ
  maskRevealDurationMs : ℤ
  hapticFeedback : HapticFeedback
  soundFeedback : SoundFeedback

/-- `number` within bounds. -/
def number (minimum maximum : ℚ) (value : Option Json) : Option ℚ :=
  (value.bind Json.asNumber?).filter fun result => minimum ≤ result && result ≤ maximum

/-- `boundedInteger`. -/
def boundedInteger (minimum maximum : ℚ) (value : Option Json) : Option ℤ :=
  (value.bind Json.asNumber?).bind fun result =>
    if result.isInt && (minimum ≤ result && result ≤ maximum) then some result.num else none

/-- `fontWeight`: a text or a number. -/
def fontWeight : Option Json → Option ℤ
  | some (.str "400") => some 400
  | some (.str "500") => some 500
  | some (.str "600") => some 600
  | some (.str "700") => some 700
  | some (.number value) =>
    (boundedInteger 400 700 (some (.number value))).filter fun weight =>
      weight ∈ [400, 500, 600, 700]
  | _ => none

/-- A field of an optional map, with its default. -/
def fieldOr {α : Type} (default : α) (parse : Json → Option α)
    (map : Option (List (String × Json))) (name : String) : Option α :=
  match map.bind fun map => map.lookup name with
  | none => some default
  | some value => parse value

section Themes

variable (platform : Platform) {Color : Type} (color : String → Option Color)

/-- A colour of the map. -/
def colorField (colors : List (String × Json)) (name : String) : Option Color :=
  ((colors.lookup name).bind Json.asString?).bind color

/-- `requireExactKeys`, `exactKeys`. -/
def exactKeys (map : List (String × Json)) (required : List String) : Bool :=
  (Json.keys map).length = required.length && Json.onlyKeys map required

/-- `parseTheme`. -/
def parseTheme (value : List (String × Json)) : Option (ThemeValues Color) := do
  guard (Json.onlyKeys value
    ["schemaVersion", "colors", "metrics", "typography", "animation", "feedback"])
  guard ((value.lookup "schemaVersion").bind Json.asNumber? = some 1)
  let colors ← (value.lookup "colors").bind Json.asObject?
  let metrics ← (value.lookup "metrics").bind Json.asObject?
  guard (exactKeys colors ["background", "keyBackground", "keyForeground", "keyPressedBackground",
    "keyDisabledBackground", "error"])
  guard (exactKeys metrics ["keyHeight", "keyGap", "keyRadius", "contentPadding"])
  let typography? ← optionalMap platform (value.lookup "typography")
    ["keyFontSize", "keyFontWeight"]
  let typography ← typography?
  let keyHeight ← number 32 160 (metrics.lookup "keyHeight")
  let keyGap ← number 0 48 (metrics.lookup "keyGap")
  let keyRadius ← number 0 80 (metrics.lookup "keyRadius")
  let contentPadding ← number 0 80 (metrics.lookup "contentPadding")
  -- two colours are checked and not used
  let _ ← colorField color colors "keyDisabledBackground"
  let _ ← colorField color colors "error"
  let keyFontSize ← number 10 72 (typography.lookup "keyFontSize")
  let keyFontWeight ← fontWeight (typography.lookup "keyFontWeight")
  let animation ← optionalMap platform (value.lookup "animation")
    ["pressDurationMs", "maskRevealDurationMs"]
  let pressDurationMs ← fieldOr 80 (fun value => boundedInteger 0 500 (some value)) animation
    "pressDurationMs"
  let maskRevealDurationMs ← fieldOr 0 (fun value => boundedInteger 0 2000 (some value)) animation
    "maskRevealDurationMs"
  let feedback ← optionalMap platform (value.lookup "feedback") ["haptic", "sound"]
  let hapticFeedback ← fieldOr .light (fun value => value.asString?.bind hapticFeedback?) feedback
    "haptic"
  let soundFeedback ← fieldOr .none (fun value => value.asString?.bind soundFeedback?) feedback
    "sound"
  let background ← colorField color colors "background"
  let keyColor ← colorField color colors "keyBackground"
  let keyPressedColor ← colorField color colors "keyPressedBackground"
  let keyTextColor ← colorField color colors "keyForeground"
  return { background, keyColor, keyPressedColor, keyTextColor, keyHeight, keyGap, keyRadius,
           contentPadding, keyFontSize, keyFontWeight, pressDurationMs, maskRevealDurationMs,
           hapticFeedback, soundFeedback }

end Themes

/-! ## The Android theme and its view's checks -/

/-- `Double.toFloat`, within the range of the format. -/
def toFloat (value : ℚ) : ℚ := Rounding.toBinary 24 (-149) value

/-- `Float.toInt`, which drops the fraction, within the range of `Int`. -/
def toInt (value : ℚ) : ℤ := if 0 ≤ value then ⌊value⌋ else ⌈value⌉

/-- `SecureKeypadTheme` of Android. -/
structure AndroidTheme where
  backgroundColor : BitVec 32
  keyColor : BitVec 32
  keyPressedColor : BitVec 32
  keyTextColor : BitVec 32
  keyHeightPx : ℤ
  keyGapPx : ℤ
  keyRadiusPx : ℚ
  keyFontSizePx : ℚ
  keyFontWeight : ℤ
  contentPaddingPx : ℤ
  pressDurationMs : ℤ
  maskRevealDurationMs : ℤ
  hapticFeedback : HapticFeedback
  soundFeedback : SoundFeedback

/-- What `parseTheme` of Android makes of the values. -/
def androidTheme (values : ThemeValues (BitVec 32)) : AndroidTheme where
  backgroundColor := values.background
  keyColor := values.keyColor
  keyPressedColor := values.keyPressedColor
  keyTextColor := values.keyTextColor
  keyHeightPx := toInt (toFloat values.keyHeight)
  keyGapPx := toInt (toFloat values.keyGap)
  keyRadiusPx := toFloat values.keyRadius
  keyFontSizePx := toFloat values.keyFontSize
  keyFontWeight := values.keyFontWeight
  contentPaddingPx := toInt (toFloat values.contentPadding)
  pressDurationMs := values.pressDurationMs
  maskRevealDurationMs := values.maskRevealDurationMs
  hapticFeedback := values.hapticFeedback
  soundFeedback := values.soundFeedback

/-- `parseTheme` of Android, with its last `require`. -/
def androidParseTheme (value : List (String × Json)) : Option AndroidTheme := do
  let values ← parseTheme android androidColor value
  guard (0 ≤ toFloat values.contentPadding)
  return androidTheme values

/-- `validateTheme` of the Android view. -/
def androidValidateTheme (theme : AndroidTheme) : Bool :=
  (32 ≤ theme.keyHeightPx && theme.keyHeightPx ≤ 160) &&
    (0 ≤ theme.keyGapPx && theme.keyGapPx ≤ 48) &&
    (0 ≤ theme.keyRadiusPx && theme.keyRadiusPx ≤ 80) &&
    (10 ≤ theme.keyFontSizePx && theme.keyFontSizePx ≤ 72) &&
    [400, 500, 600, 700].contains theme.keyFontWeight &&
    (0 ≤ theme.contentPaddingPx && theme.contentPaddingPx ≤ 80) &&
    (0 ≤ theme.pressDurationMs && theme.pressDurationMs ≤ 500) &&
    (0 ≤ theme.maskRevealDurationMs && theme.maskRevealDurationMs ≤ 2000)

/-! ## The iOS theme and its view's checks -/

/-- `SecureKeypadTheme` of iOS. -/
structure IosTheme where
  backgroundColor : Quadruple
  keyColor : Quadruple
  keyPressedColor : Quadruple
  keyTextColor : Quadruple
  keyHeight : ℚ
  keyGap : ℚ
  keyRadius : ℚ
  contentPadding : ℚ
  keyFontSize : ℚ
  /-- The weight by its number: 400 is `.regular`, 700 is `.bold`. -/
  keyFontWeight : ℤ
  pressDuration : ℚ
  maskRevealDuration : ℚ
  hapticFeedback : HapticFeedback
  soundFeedback : SoundFeedback

/-- `TimeInterval(milliseconds) / 1_000` -/
def timeInterval (milliseconds : ℤ) : ℚ := Rounding.toBinary 53 (-1074) (milliseconds / 1000)

/-- What `parseTheme` of iOS makes of the values. -/
def iosTheme (values : ThemeValues Quadruple) : IosTheme where
  backgroundColor := values.background
  keyColor := values.keyColor
  keyPressedColor := values.keyPressedColor
  keyTextColor := values.keyTextColor
  keyHeight := values.keyHeight
  keyGap := values.keyGap
  keyRadius := values.keyRadius
  contentPadding := values.contentPadding
  keyFontSize := values.keyFontSize
  keyFontWeight := values.keyFontWeight
  pressDuration := timeInterval values.pressDurationMs
  maskRevealDuration := timeInterval values.maskRevealDurationMs
  hapticFeedback := values.hapticFeedback
  soundFeedback := values.soundFeedback

/-- `parseTheme` of iOS. -/
def iosParseTheme (value : List (String × Json)) : Option IosTheme :=
  (parseTheme ios iosColor value).map iosTheme

/-- `validate(theme:)` of the iOS view. -/
def iosValidateTheme (theme : IosTheme) : Bool :=
  (32 ≤ theme.keyHeight && theme.keyHeight ≤ 160) &&
    (0 ≤ theme.keyGap && theme.keyGap ≤ 48) &&
    (0 ≤ theme.keyRadius && theme.keyRadius ≤ 80) &&
    (0 ≤ theme.contentPadding && theme.contentPadding ≤ 80) &&
    (10 ≤ theme.keyFontSize && theme.keyFontSize ≤ 72) &&
    [400, 500, 600, 700].contains theme.keyFontWeight &&
    (0 ≤ theme.pressDuration && theme.pressDuration ≤ 1 / 2) &&
    (0 ≤ theme.maskRevealDuration && theme.maskRevealDuration ≤ 2)

/-- `validate(layout:policy:)` of the iOS view, for one key. -/
def iosIsValidKey (policy : InputPolicy) (key : KeySpec) : Bool :=
  1 ≤ key.id.utf8ByteSize && key.id.utf8ByteSize ≤ 64 && publicIdPattern.icuFind key.id &&
    key.testId.all publicIdPattern.icuFind && key.id.toList.all (fun c => c.toNat < 128) &&
    key.label.utf8ByteSize ≤ 16 && key.accessibilityLabel.utf8ByteSize ≤ 80 &&
    (key.role ≠ .input || iosIsCanonicalInputKeyId key.id policy)

/-- `validate(layout:policy:)` of the iOS view. -/
def iosValidateLayout (layout : Layout) (policy : InputPolicy) : Bool :=
  1 ≤ layout.rows.length && layout.rows.length ≤ 16 &&
    layout.rows.all (fun row => 1 ≤ row.length && row.length ≤ 32) &&
    layout.rows.flatten.length ≤ 512 &&
    layout.rows.flatten.all (iosIsValidKey policy) &&
    (layout.rows.flatten.map KeySpec.id).Nodup

/-! ## Configurations -/

/-- `SecureKeypadHeadlessKeyPress`. -/
structure HeadlessKeyPress where
  token : ℤ
  keyId : String

/-- `SecureKeypadBridgeConfiguration`. -/
structure BridgeConfiguration (Theme : Type) where
  layout : Layout
  theme : Theme
  inputPolicy : String
  maxTokens : ℤ
  timeoutMs : ℤ
  mode : String
  securityMode : String
  acknowledgeLowerAssurance : Bool
  headlessKeyPress : Option HeadlessKeyPress

/-- The fields of a configuration. -/
def configurationKeys : List String :=
  ["layout", "theme", "inputPolicy", "maxTokens", "timeoutMs", "mode", "securityMode",
    "acknowledgeLowerAssurance", "headlessKeyPress"]

/-- `(value as? String) ?? default` -/
def textOr (default : String) (value : Option Json) : String :=
  (value.bind Json.asString?).getD default

/-- A setting with an integer value. On Android a `null` reads as absent. -/
def integerOr (platform : Platform) (default : ℤ) (minimum maximum : ℚ) :
    Option Json → Option ℤ
  | none => some default
  | some .null => if platform.nullIsAbsent then some default else none
  | some value => boundedInteger minimum maximum (some value)

/-- `acknowledgeLowerAssurance`: what is no boolean is refused on Android, and is `false` on
    iOS. -/
def acknowledgement (platform : Platform) : Option Json → Option Bool
  | none => some false
  | some (.bool value) => some value
  | some .null => some false
  | some _ => if platform.nullIsAbsent then none else some false

/-- The headless command. -/
def parseHeadlessKeyPress (platform : Platform) (mode : String) :
    Option Json → Option (Option HeadlessKeyPress)
  | none => some none
  | some .null => if platform.nullIsAbsent then some none else none
  | some (.obj command) => do
    guard (Json.onlyKeys command ["token", "keyId"])
    let token ← boundedInteger 0 9007199254740991 (command.lookup "token")
    let keyId ← (command.lookup "keyId").bind Json.asString?
    guard (platform.matchesPattern publicIdPattern keyId)
    guard (mode = "headless-host")
    return some ⟨token, keyId⟩
  | some _ => none

/-- `parse`, `init(dictionary:)`. -/
def parse {Theme : Type} (platform : Platform)
    (themeOf : List (String × Json) → Option Theme) (value : List (String × Json)) :
    Option (BridgeConfiguration Theme) := do
  guard (Json.onlyKeys value configurationKeys)
  let layoutValue ← (value.lookup "layout").bind Json.asObject?
  let themeValue ← (value.lookup "theme").bind Json.asObject?
  let layout ← parseLayout platform layoutValue
  let theme ← themeOf themeValue
  let inputPolicy := textOr "numeric" (value.lookup "inputPolicy")
  guard (inputPolicy ∈ ["numeric", "ascii", "hangul"])
  let maxTokens ← integerOr platform 8 1 4096 (value.lookup "maxTokens")
  let timeoutMs ← integerOr platform 60000 1 86400000 (value.lookup "timeoutMs")
  let mode := textOr "secure-native" (value.lookup "mode")
  guard (mode ∈ ["secure-native", "headless-host"])
  let securityMode := textOr "standard" (value.lookup "securityMode")
  guard (securityMode ∈ ["standard", "strict"])
  let acknowledgeLowerAssurance ←
    acknowledgement platform (value.lookup "acknowledgeLowerAssurance")
  guard ((mode = "secure-native" ∧ acknowledgeLowerAssurance = false) ∨
    (mode = "headless-host" ∧ acknowledgeLowerAssurance = true))
  let headlessKeyPress ← parseHeadlessKeyPress platform mode (value.lookup "headlessKeyPress")
  return { layout, theme, inputPolicy, maxTokens, timeoutMs, mode, securityMode,
           acknowledgeLowerAssurance, headlessKeyPress }

/-- `SecureKeypadBridgeConfigParser.parse` of Android. -/
def androidParse : List (String × Json) → Option (BridgeConfiguration AndroidTheme) :=
  parse android androidParseTheme

/-- `SecureKeypadBridgeConfiguration.init(dictionary:)` of iOS. -/
def iosParse : List (String × Json) → Option (BridgeConfiguration IosTheme) :=
  parse ios iosParseTheme

end SecureKeypad.Native
