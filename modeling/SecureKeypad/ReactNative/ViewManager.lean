import SecureKeypad.Native.AndroidSettled
import SecureKeypad.Native.BridgeConfig
import SecureKeypad.ReactNative.PublicBridge

/-!
# The View Manager (React Native, `SecureKeypadViewManager.kt`)

Embeds what the manager does with the props of one view: each is stored, and once there are a
layout and a theme the view is configured with all that is stored. The callbacks the manager
installs only emit events, so a method of the view is run to its end; the emission is left out.
-/

namespace SecureKeypad.ReactNative

open Callback Native Native.Android

/-! ## Props -/

/-- An `Int` as a parser reads it. -/
def intNumber (value : ℤ) : JsNumber where
  value := value
  text := toString value
  text_ne := by
    cases value with
    | ofNat n => exact (JsNumber.ofNat n).text_ne
    | negSucc n =>
      change ("-" ++ toString (n + 1)).toList ≠ []
      rw [String.toList_append]
      exact List.append_ne_nil_of_right_ne_nil _ (JsNumber.ofNat (n + 1)).text_ne
  numeral := by
    cases value with
    | ofNat n => exact (JsNumber.ofNat n).numeral
    | negSucc n =>
      intro c hc
      change c ∈ ("-" ++ toString (n + 1)).toList at hc
      rw [String.toList_append, List.mem_append] at hc
      rcases hc with hsign | hdigit
      · rw [List.mem_singleton.mp hsign]
        decide
      · exact (JsNumber.ofNat (n + 1)).numeral c hdigit

/-- A prop is delivered; `none` is a prop that is removed. -/
inductive Delivery where
  | layout (value : Option (List (String × Json)))
  | theme (value : Option (List (String × Json)))
  | inputPolicy (value : Option String)
  | mode (value : Option String)
  | securityMode (value : Option String)
  | acknowledgeLowerAssurance (value : Option Bool)
  | maxTokens (value : Option ℤ)
  | timeoutMs (value : Option ℤ)
  | headlessKeyPress (value : Option (List (String × Json)))

namespace Delivery

/-- The name of the prop, under which it is stored. -/
def key : Delivery → String
  | .layout _ => "layout"
  | .theme _ => "theme"
  | .inputPolicy _ => "inputPolicy"
  | .mode _ => "mode"
  | .securityMode _ => "securityMode"
  | .acknowledgeLowerAssurance _ => "acknowledgeLowerAssurance"
  | .maxTokens _ => "maxTokens"
  | .timeoutMs _ => "timeoutMs"
  | .headlessKeyPress _ => "headlessKeyPress"

/-- `value?.toPublicMap(allowedKeys)`; `none` is an `IllegalArgumentException`. -/
def publicMap (allowedKeys : List String) : Option (List (String × Json)) → Option Json
  | none => some .null
  | some fields => (toPublicMap allowedKeys 0 fields 0).map fun copy => .obj copy.1

/-- `HEADLESS_KEY_PRESS_KEYS` -/
def headlessKeyPressKeys : List String := ["token", "keyId"]

/-- What is stored, with the default of a prop that is removed; `none` if the value is malformed. -/
def value : Delivery → Option Json
  | .layout value => publicMap layoutKeys value
  | .theme value => publicMap themeKeys value
  | .inputPolicy value => some (.str (value.getD "numeric"))
  | .mode value => some (.str (value.getD "secure-native"))
  | .securityMode value => some (.str (value.getD "standard"))
  | .acknowledgeLowerAssurance value => some (.bool (value.getD false))
  | .maxTokens value => some (.number (intNumber (value.getD 8)))
  | .timeoutMs value => some (.number (intNumber (value.getD 60000)))
  | .headlessKeyPress value => publicMap headlessKeyPressKeys value

end Delivery

/-! ## The manager -/

/-- What `pendingConfigurations` and `configuredViews` have for a view, and the view. -/
structure Manager where
  pendingConfiguration : Option (List (String × Json))
  configured : Bool
  view : View AndroidTheme
  /-- How often the view has been configured. -/
  configures : ℕ

/-- `createViewInstance`: nothing is stored, and all callbacks are installed. -/
def createViewInstance : Manager where
  pendingConfiguration := none
  configured := false
  view := { View.new AndroidTheme with
    onSubmit := true, onMaskedStateChanged := true, onError := true,
    onSessionNeedsReconfiguration := true }
  configures := 0

/-- `configuration[key] as? Map<*, *>` is there. -/
def hasMap (configuration : List (String × Json)) (key : String) : Bool :=
  ((configuration.lookup key).bind Json.asObject?).isSome

/-- There are a layout and a theme. -/
def isComplete (configuration : List (String × Json)) : Bool :=
  hasMap configuration "layout" && hasMap configuration "theme"

/-- `configuration["headlessKeyPress"] != null` -/
def hasHeadlessKeyPress (configuration : List (String × Json)) : Bool :=
  ((configuration.lookup "headlessKeyPress").getD .null).isNull = false

/-- The policy of `configureHangul`, `configureAscii` or `configureNumeric`. -/
def policyOf (inputPolicy : String) : InputPolicy :=
  if inputPolicy = "hangul" then .hangul else if inputPolicy = "ascii" then .ascii else .numeric

/-- What the view is configured with. -/
def retained (parsed : BridgeConfiguration AndroidTheme) : RetainedConfiguration AndroidTheme where
  layout := parsed.layout
  theme := parsed.theme
  maxTokens := parsed.maxTokens
  timeoutMs := parsed.timeoutMs
  policy := policyOf parsed.inputPolicy
  securityMode := parsed.securityMode

namespace Manager

/-- A method of the view runs. -/
def run (manager : Manager) (method : Method AndroidTheme Unit) : Except Failure Unit × Manager :=
  ((Code.settle quiet method manager.view).1,
    { manager with view := (Code.settle quiet method manager.view).2 })

/-- `view.releaseSession()` -/
def releaseSession (manager : Manager) : Manager := (manager.run Android.releaseSession).2

/-- The `catch` behind a configuration: both maps and the session are cleared. What is no
    `IllegalArgumentException` goes through. -/
def caught (manager : Manager) (failure : Failure) : Manager :=
  if failure = .illegalArgument then
    { manager with pendingConfiguration := none, configured := false }.releaseSession
  else manager

/-- The `catch` around `toPublicMap`. -/
def malformed (manager : Manager) : Manager :=
  { manager with pendingConfiguration := none }.releaseSession

section Device

variable (replies : ℕ → Reply)

/-- The device of the view, with the checks it makes of a theme. -/
def device : Device AndroidTheme := ⟨androidValidateTheme, replies⟩

/-- `headlessKeyPress?.let { view.requestHeadlessKeyPress(it.token, it.keyId) }` in its `try`. -/
def press (manager : Manager) (headlessKeyPress : Option HeadlessKeyPress) : Manager :=
  match headlessKeyPress with
  | none => manager
  | some command =>
    match manager.run (requestHeadlessKeyPress (device replies) command.token command.keyId) with
    | (.ok (), after) => after
    | (.error failure, after) => after.caught failure

/-- `configureStoredConfiguration` with a configuration that is stored. -/
def configureWith (manager : Manager) (configuration : List (String × Json))
    (replayHeadlessKeyPress : Bool) : Manager :=
  let replayInitialHeadlessKeyPress := !manager.configured && hasHeadlessKeyPress configuration
  match androidParse configuration with
  | none => manager.caught .illegalArgument
  | some parsed =>
    match manager.run (setRendererMode parsed.mode parsed.acknowledgeLowerAssurance) with
    | (.error failure, after) => after.caught failure
    | (.ok (), after) =>
      match { after with configures := after.configures + 1 }.run
          (configure (device replies) (retained parsed)) with
      | (.error failure, after) => after.caught failure
      | (.ok (), after) =>
        if replayHeadlessKeyPress || replayInitialHeadlessKeyPress then
          { after with configured := true }.press replies parsed.headlessKeyPress
        else { after with configured := true }

/-- `configureStoredConfiguration`. -/
def configureStoredConfiguration (manager : Manager) (replayHeadlessKeyPress : Bool) : Manager :=
  match manager.pendingConfiguration with
  | none => manager
  | some configuration =>
    if isComplete configuration then
      manager.configureWith replies configuration replayHeadlessKeyPress
    else manager

/-- `applyStoredHeadlessKeyPress`. -/
def applyStoredHeadlessKeyPress (manager : Manager) (configuration : List (String × Json)) :
    Manager :=
  match androidParse configuration with
  | none => manager.caught .illegalArgument
  | some parsed => manager.press replies parsed.headlessKeyPress

/-- The value is put into the configuration of the view, which is made if there is none. -/
def stored (manager : Manager) (key : String) (value : Json) : List (String × Json) :=
  (key, value) :: manager.pendingConfiguration.getD []

/-- `setConfigurationValue` with the value `toPublicMap` has left. -/
def setConfigurationValue (manager : Manager) (key : String) : Option Json → Manager
  | none => manager.malformed
  | some value =>
    let configuration := manager.stored key value
    if isComplete configuration then
      { manager with pendingConfiguration := some configuration }.configureStoredConfiguration
        replies false
    else if manager.configured then
      { manager with pendingConfiguration := none, configured := false }.releaseSession
    else { manager with pendingConfiguration := some configuration }

/-- `setHeadlessKeyPress` with the value `toPublicMap` has left. -/
def setHeadlessKeyPress (manager : Manager) : Option Json → Manager
  | none => manager.malformed
  | some value =>
    let configuration := manager.stored "headlessKeyPress" value
    let after := { manager with pendingConfiguration := some configuration }
    if isComplete configuration then
      if manager.configured then after.applyStoredHeadlessKeyPress replies configuration
      else after.configureStoredConfiguration replies true
    else after

/-- The setter of the prop. -/
def deliver (manager : Manager) : Delivery → Manager
  | .headlessKeyPress value =>
    manager.setHeadlessKeyPress replies (Delivery.headlessKeyPress value).value
  | delivery => manager.setConfigurationValue replies delivery.key delivery.value

/-- The props are delivered one by one. -/
def deliverAll (manager : Manager) (deliveries : List Delivery) : Manager :=
  deliveries.foldl (deliver replies) manager

end Device

end Manager

end SecureKeypad.ReactNative
