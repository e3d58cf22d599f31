import SecureKeypad.Library.Callback
import SecureKeypad.Native.BridgeConfig

/-!
# The iOS Keypad View (`native/ios`, `SecureKeypadView.swift`)

Embeds `SecureKeypadView` as a re-entrant object, as its Android twin. Swift closures do not throw,
so a callback only returns. What UIKit and the native library answer is taken from `replies`.
-/

namespace SecureKeypad.Native.Ios

open Callback

/-! ## The view's data -/

/-- `RetainedConfiguration`. -/
structure RetainedConfiguration (Theme : Type) where
  layout : Layout
  theme : Theme
  maxTokens : ℤ
  timeoutMs : ℕ
  policy : InputPolicy
  securityMode : String
deriving DecidableEq

/-- A call into the native library. -/
inductive NativeCall where
  | sessionNew (policy : InputPolicy) (maxTokens : ℤ) (timeoutMs : ℕ) (session : Option ℕ)
  | sessionFree (session : ℕ)
  | sessionPressKey (session : ℕ) (keyId : String) (status : ℕ)
  | sessionBackspace (session : ℕ) (status : ℕ)
  | sessionClear (session : ℕ) (status : ℕ)
  | sessionCancel (session : ℕ) (status : ℕ)
  | sessionRefresh (session : ℕ) (status : ℕ)
  | sessionSubmit (session : ℕ) (status : ℕ) (submission : Option ℕ)
  | submissionFree (submission : ℕ)
deriving DecidableEq

/-- What happens in a view, apart from what it shows. -/
inductive Moment where
  | call (call : NativeCall)
  /-- `session = newSession`. -/
  | held (session : ℕ)
  /-- `protectedPresentation = protected`. -/
  | protection (isProtected : Bool)
deriving DecidableEq

/-- What the system or the library answers to one question. -/
structure Reply where
  abiVersion : ℕ
  /-- The posture checks of the strict mode. -/
  postureAllows : Bool
  hasWindow : Bool
  /-- `activationState == .foregroundActive`. -/
  applicationIsActive : Bool
  screenIsCaptured : Bool
  status : ℕ
  session : Option ℕ
  submission : Option ℕ
  length : ℕ
  displayState : ℕ

/-- What is outside the view. -/
structure Device (Theme : Type) where
  /-- Whether `validate(theme:)` throws nothing. -/
  validateTheme : Theme → Bool
  replies : ℕ → Reply

/-- `SecureKeypadView`. -/
structure View (Theme : Type) where
  session : Option ℕ
  retainedConfiguration : Option (RetainedConfiguration Theme)
  protectedPresentation : Bool
  lastCancelRequest : Option ℤ
  lastHeadlessKeyPress : Option ℤ
  activeLayout : List KeySpec
  headlessHostMode : Bool
  /-- Which callbacks are installed. -/
  onSubmit : Bool
  onError : Bool
  onMaskedStateChanged : Bool
  onSessionNeedsReconfiguration : Bool
  /-- The pointers of the `SecureKeypadSubmission` objects made so far; `none` is consumed. -/
  submissions : List (Option ℕ)
  calls : List NativeCall
  /-- The calls, the sessions and the presentations so far, in one order. -/
  history : List Moment
  /-- The number of replies used. -/
  asked : ℕ
  /-- The headless commands whose activation has succeeded, each with the position of its native call
      in the history. -/
  headlessEffects : List (ℕ × ℤ)
  /-- The cancel commands that have succeeded, each with the position of its native call. -/
  cancelEffects : List (ℕ × ℤ)

/-- A new view. It has no window yet, so `refreshProtectionState` in `init` protects it. -/
def View.new (Theme : Type) : View Theme where
  session := none
  retainedConfiguration := none
  protectedPresentation := true
  lastCancelRequest := none
  lastHeadlessKeyPress := none
  activeLayout := []
  headlessHostMode := false
  onSubmit := false
  onError := false
  onMaskedStateChanged := false
  onSessionNeedsReconfiguration := false
  submissions := []
  calls := []
  history := []
  asked := 0
  headlessEffects := []
  cancelEffects := []

/-- The callbacks of the host. -/
inductive HostCallback where
  | maskedState (length displayState : ℕ)
  | error (code : ℕ)
  | submit (submission : ℕ)
  | needsReconfiguration
deriving DecidableEq

/-- `SecureKeypadViewError`. -/
inductive ViewError where
  | invalidLayout
  | abiMismatch
  | nativeFailure (status : ℕ)
deriving DecidableEq

/-- A method of the view. -/
abbrev Method (Theme α : Type) := Code (View Theme) HostCallback ViewError Unit α

variable {Theme : Type}

def internalError : ℕ := 7

/-! ## The host, the system and the native library -/

/-- A call of an installed callback. -/
def invoke (installed : View Theme → Bool) (c : HostCallback) : Method Theme Unit := do
  let view ← Code.get
  if installed view then Code.callback c else pure ()

def onError (code : ℕ) : Method Theme Unit := invoke View.onError (.error code)

def onMaskedStateChanged (length displayState : ℕ) : Method Theme Unit :=
  invoke View.onMaskedStateChanged (.maskedState length displayState)

section Device

variable (device : Device Theme)

/-- The next reply. -/
def ask {α : Type} (answer : Reply → α) : Method Theme α := do
  let view ← Code.get
  Code.modify ({ · with asked := view.asked + 1 })
  pure (answer (device.replies view.asked))

/-- A call into the native library is recorded. -/
def record (call : NativeCall) : Method Theme Unit :=
  Code.modify fun view => { view with
    calls := view.calls ++ [call], history := view.history ++ [.call call] }

/-- `secureKeypadDeviceSecurityAllows`. -/
def deviceSecurityAllows (securityMode : String) : Method Theme Bool :=
  if securityMode = "standard" then pure true
  else if securityMode = "strict" then ask device Reply.postureAllows
  else pure false

/-! ## Sessions -/

/-- The live session is freed. -/
def freeSession : Method Theme Unit := do
  let view ← Code.get
  match view.session with
  | none => pure ()
  | some session =>
    record (.sessionFree session)
    Code.modify ({ · with session := none })

/-- `releaseNativeSessionPreservingConfiguration`. -/
def releaseNativeSessionPreservingConfiguration (displayState : ℕ) : Method Theme Unit := do
  freeSession
  onMaskedStateChanged 0 displayState

/-- `releaseSession`. -/
def releaseSession : Method Theme Unit := do
  releaseNativeSessionPreservingConfiguration 0
  Code.modify ({ · with retainedConfiguration := none })

/-- `refreshMaskedState`. -/
def refreshMaskedState : Method Theme Bool := do
  let view ← Code.get
  match view.session with
  | none => pure false
  | some session =>
    let (status, length, displayState) ←
      ask device fun reply => (reply.status, reply.length, reply.displayState)
    record (.sessionRefresh session status)
    if status ≠ 0 then
      releaseSession
      onError status
      pure false
    else if 4096 < length ∨ 3 < displayState then
      releaseSession
      onError internalError
      pure false
    else
      onMaskedStateChanged length displayState
      pure true

/-- `startSession`. -/
def startSession (configuration : RetainedConfiguration Theme) : Method Theme Unit := do
  let abiVersion ← ask device Reply.abiVersion
  if abiVersion ≠ 2 then Code.throw .abiMismatch
  else
    let (status, session) ← ask device fun reply => (reply.status, reply.session)
    record (.sessionNew configuration.policy configuration.maxTokens configuration.timeoutMs session)
    match session with
    | none => Code.throw (.nativeFailure status)
    | some session =>
      if status ≠ 0 then Code.throw (.nativeFailure status)
      else
        Code.modify fun view => { view with
          session := some session
          activeLayout := configuration.layout.rows.flatten
          history := view.history ++ [.held session] }
        let _ ← refreshMaskedState device
        pure ()

/-- `configure`. -/
def configure (configuration : RetainedConfiguration Theme) : Method Theme Unit := do
  if configuration.maxTokens ≤ 0 ∨ 4096 < configuration.maxTokens ∨ configuration.timeoutMs = 0 ∨
      86400000 < configuration.timeoutMs ∨
      ¬ (configuration.securityMode = "standard" ∨ configuration.securityMode = "strict") ∨
      iosValidateLayout configuration.layout configuration.policy = false ∨
      device.validateTheme configuration.theme = false then
    Code.throw .invalidLayout
  else
    let abiVersion ← ask device Reply.abiVersion
    if abiVersion ≠ 2 then Code.throw .abiMismatch
    else
      Code.modify ({ · with retainedConfiguration := none })
      releaseNativeSessionPreservingConfiguration 0
      if ← deviceSecurityAllows device configuration.securityMode then
        startSession device configuration
        let view ← Code.get
        match view.session with
        | none => Code.throw (.nativeFailure internalError)
        | some _ => Code.modify ({ · with retainedConfiguration := some configuration })
      else onError internalError

/-- `reconfigureRetainedConfiguration`. -/
def reconfigureRetainedConfiguration : Method Theme Unit := do
  let view ← Code.get
  match view.retainedConfiguration, view.session with
  | some configuration, none =>
    if ← deviceSecurityAllows device configuration.securityMode then
      Code.attempt (do
        startSession device configuration
        let view ← Code.get
        match view.session with
        | none => Code.modify ({ · with retainedConfiguration := none })
        | some _ => pure ())
        fun error => do
          Code.modify ({ · with retainedConfiguration := none })
          releaseNativeSessionPreservingConfiguration 0
          match error with
          | .nativeFailure status => onError status
          | .invalidLayout => onError internalError
          | .abiMismatch => onError internalError
    else
      Code.modify ({ · with retainedConfiguration := none })
      releaseNativeSessionPreservingConfiguration 0
      onError internalError
  | _, _ => pure ()

/-- `requestSessionReconfigurationIfNeeded`. -/
def requestSessionReconfigurationIfNeeded : Method Theme Unit := do
  let hasWindow ← ask device Reply.hasWindow
  let view ← Code.get
  if hasWindow = true ∧ view.session = none ∧ view.protectedPresentation = false then
    if view.onSessionNeedsReconfiguration then
      invoke View.onSessionNeedsReconfiguration .needsReconfiguration
    else reconfigureRetainedConfiguration device
  else pure ()

/-! ## Protection -/

/-- A live session is released with the state `cancelled` if the condition holds. -/
def clearSessionIf (condition : Bool) : Method Theme Unit := do
  let view ← Code.get
  if condition = true ∧ view.session ≠ none then releaseNativeSessionPreservingConfiguration 3
  else pure ()

/-- `setProtectedPresentation`. -/
def setProtectedPresentation (isProtected : Bool) : Method Theme Unit := do
  Code.modify fun view => { view with
    protectedPresentation := isProtected, history := view.history ++ [.protection isProtected] }
  clearSessionIf isProtected
  -- Without a session there is nothing to refresh.
  let _ ← refreshMaskedState device
  pure ()

/-- `refreshProtectionState`. -/
def refreshProtectionState : Method Theme Unit := do
  let applicationIsActive ← ask device Reply.applicationIsActive
  let screenIsCaptured ← ask device Reply.screenIsCaptured
  setProtectedPresentation device (!applicationIsActive || screenIsCaptured)

/-- `handleWillResignActive`. -/
def handleWillResignActive : Method Theme Unit := do
  releaseNativeSessionPreservingConfiguration 3
  setProtectedPresentation device true

/-- `handleScreenCaptureChange`. -/
def handleScreenCaptureChange : Method Theme Unit := do
  let screenIsCaptured ← ask device Reply.screenIsCaptured
  clearSessionIf screenIsCaptured
  refreshProtectionState device
  requestSessionReconfigurationIfNeeded device

/-- The scene of the view is activated. -/
def sceneDidActivate : Method Theme Unit := do
  refreshProtectionState device
  requestSessionReconfigurationIfNeeded device

/-- `didMoveToWindow`. -/
def didMoveToWindow : Method Theme Unit := do
  if ← ask device Reply.hasWindow then sceneDidActivate device
  else
    releaseNativeSessionPreservingConfiguration 0
    sceneDidActivate device

/-! ## Keys -/

/-- `SecureKeypadSubmission.close`. -/
def closeSubmission (submission : ℕ) : Method Theme Unit := do
  let view ← Code.get
  match view.submissions[submission]?.join with
  | none => pure ()
  | some raw =>
    record (.submissionFree raw)
    Code.modify fun view => { view with submissions := view.submissions.set submission none }

/-- `takeOpaqueHandle`. -/
def takeOpaqueHandle (submission : ℕ) : Method Theme Unit :=
  Code.modify fun view => { view with submissions := view.submissions.set submission none }

/-- `onSubmit?(pendingSubmission)`. If no callback is left, the object is deallocated. -/
def deliver (submission : ℕ) : Method Theme Unit := do
  let view ← Code.get
  if view.onSubmit then Code.callback (.submit submission)
  else closeSubmission submission

/-- The native call of a key, with its status and the submission it has left. `none` is an early
    `return false`. -/
def nativeActivation (session : ℕ) (key : KeySpec) : Method Theme (Option (ℕ × Option ℕ)) :=
  match key.role with
  | .input => do
    let status ← ask device Reply.status
    record (.sessionPressKey session key.id status)
    pure (some (status, none))
  | .backspace => do
    let status ← ask device Reply.status
    record (.sessionBackspace session status)
    pure (some (status, none))
  | .clear => do
    let status ← ask device Reply.status
    record (.sessionClear session status)
    pure (some (status, none))
  | .submit => do
    let (status, rawSubmission) ← ask device fun reply => (reply.status, reply.submission)
    record (.sessionSubmit session status rawSubmission)
    if status ≠ 0 then pure (some (status, none))
    else
      match rawSubmission with
      | none =>
        releaseNativeSessionPreservingConfiguration 0
        onError internalError
        pure none
      | some raw =>
        let view ← Code.get
        if view.onSubmit then
          Code.modify ({ · with submissions := view.submissions ++ [some raw] })
          pure (some (status, some view.submissions.length))
        else
          record (.submissionFree raw)
          onError internalError
          pure none
  | .cancel => do
    let status ← ask device Reply.status
    record (.sessionCancel session status)
    pure (some (status, none))
  | .spacer => pure none

/-- `activate`. -/
def activate (key : KeySpec) : Method Theme Bool := do
  let view ← Code.get
  match view.session with
  | none => pure false
  | some session =>
    if ← deviceSecurityAllows device
        ((view.retainedConfiguration.map RetainedConfiguration.securityMode).getD "standard") then
      if view.protectedPresentation then pure false
      else
        match ← nativeActivation device session key with
        | none => pure false
        | some (status, pendingSubmission) =>
          if status ≠ 0 then
            releaseNativeSessionPreservingConfiguration 0
            onError status
            pure false
          else if ← refreshMaskedState device then
            match pendingSubmission with
            | none => pure true
            | some submission =>
              deliver submission
              pure true
          else
            match pendingSubmission with
            | none => pure false
            | some submission =>
              closeSubmission submission
              pure false
    else
      releaseNativeSessionPreservingConfiguration 0
      onError internalError
      pure false

/-- `activate` behind its native call. -/
def finishActivation : Option (ℕ × Option ℕ) → Method Theme Bool
  | none => pure false
  | some (status, pendingSubmission) => do
    if status ≠ 0 then
      releaseNativeSessionPreservingConfiguration 0
      onError status
      pure false
    else if ← refreshMaskedState device then
      match pendingSubmission with
      | none => pure true
      | some submission =>
        deliver submission
        pure true
    else
      match pendingSubmission with
      | none => pure false
      | some submission =>
        closeSubmission submission
        pure false

theorem activate_eq (key : KeySpec) :
    activate device key = (do
      let view ← Code.get
      match view.session with
      | none => pure false
      | some session =>
        if ← deviceSecurityAllows device
            ((view.retainedConfiguration.map RetainedConfiguration.securityMode).getD
              "standard") then
          if view.protectedPresentation then pure false
          else nativeActivation device session key >>= finishActivation device
        else
          releaseNativeSessionPreservingConfiguration 0
          onError internalError
          pure false) := rfl

/-- `activeLayout[keyId]`. -/
def View.key (view : View Theme) (keyId : String) : Option KeySpec :=
  view.activeLayout.find? (·.id = keyId)

/-- A touch of a rendered key. -/
def touch (keyId : String) : Method Theme Unit := do
  let view ← Code.get
  match view.key keyId with
  | none => pure ()
  | some key =>
    let _ ← activate device key
    pure ()

/-! ## Commands -/

/-- `setRendererMode`. -/
def setRendererMode (mode : String) (acknowledgeLowerAssurance : Bool) : Method Theme Unit :=
  if (mode = "secure-native" ∧ acknowledgeLowerAssurance = false) ∨
      (mode = "headless-host" ∧ acknowledgeLowerAssurance = true) then
    Code.modify ({ · with headlessHostMode := mode = "headless-host" })
  else onError 1

/-- The first `guard` of `requestHeadlessKeyPress` fails. -/
def View.refusesHeadless (view : View Theme) (requestId : ℤ) (keyId : String) : Prop :=
  view.session = none ∨ view.headlessHostMode = false ∨ view.protectedPresentation = true ∨
    requestId < 0 ∨ publicIdPattern.icuFind keyId = false

instance (view : View Theme) (requestId : ℤ) (keyId : String) :
    Decidable (view.refusesHeadless requestId keyId) :=
  inferInstanceAs (Decidable (_ ∨ _))

/-- Where the native call of an activation or a cancellation that begins now stands in the history:
    nothing else is recorded before it. -/
def View.nextCall (view : View Theme) : ℕ := view.history.length

/-- The floor is raised for a key press whose native call is at the position. -/
def View.pressed (view : View Theme) (position : ℕ) (requestId : ℤ) : View Theme :=
  { view with
    lastHeadlessKeyPress := some requestId
    headlessEffects := view.headlessEffects ++ [(position, requestId)] }

/-- The floor is raised for a cancellation whose native call is at the position. -/
def View.cancelled (view : View Theme) (position : ℕ) (requestId : ℤ) : View Theme :=
  { view with
    lastCancelRequest := some requestId
    cancelEffects := view.cancelEffects ++ [(position, requestId)] }

/-- `requestHeadlessKeyPress` behind its comparisons. -/
def headlessWork (requestId : ℤ) (key : KeySpec) : Method Theme Unit := do
  let view ← Code.get
  if ← activate device key then
    Code.modify (View.pressed · view.nextCall requestId)
  else pure ()

/-- `requestHeadlessKeyPress`. -/
def requestHeadlessKeyPress (requestId : ℤ) (keyId : String) : Method Theme Unit := do
  let view ← Code.get
  headlessBranch (view.refusesHeadless requestId keyId) view.lastHeadlessKeyPress requestId
    (view.key keyId) (onError 1) (pure ()) (headlessWork device requestId)

/-- `cancelSessionAndReport`. -/
def cancelSessionAndReport : Method Theme Bool := do
  let view ← Code.get
  match view.session with
  | none => pure false
  | some session =>
    let status ← ask device Reply.status
    record (.sessionCancel session status)
    if status ≠ 0 then
      releaseNativeSessionPreservingConfiguration 0
      onError status
      pure false
    else refreshMaskedState device

/-- `cancelSession`. -/
def cancelSession : Method Theme Unit := do
  let _ ← cancelSessionAndReport device
  pure ()

/-- `requestCancel`. -/
def requestCancel (requestId : ℤ) : Method Theme Unit := do
  let view ← Code.get
  match monotonicCommandDecision view.lastCancelRequest requestId with
  | .invalid => onError 1
  | .ignore => pure ()
  | .accept =>
    if ← cancelSessionAndReport device then
      Code.modify (View.cancelled · view.nextCall requestId)
    else pure ()

/-! ## What the host and the system can do -/

inductive Command (Theme : Type) where
  | configure (configuration : RetainedConfiguration Theme)
  | setRendererMode (mode : String) (acknowledgeLowerAssurance : Bool)
  | releaseSession
  | cancelSession
  | requestCancel (requestId : ℤ)
  | requestHeadlessKeyPress (requestId : ℤ) (keyId : String)
  | touch (keyId : String)
  | didMoveToWindow
  | sceneWillDeactivate
  | sceneDidActivate
  | capturedDidChange
  | setCallbacks (onSubmit onError onMaskedStateChanged onSessionNeedsReconfiguration : Bool)
  | closeSubmission (submission : ℕ)
  | takeOpaqueHandle (submission : ℕ)

/-- The method behind a command. -/
def Command.code : Command Theme → Method Theme Unit
  | .configure configuration => Ios.configure device configuration
  | .setRendererMode mode acknowledge => Ios.setRendererMode mode acknowledge
  | .releaseSession => Ios.releaseSession
  | .cancelSession => Ios.cancelSession device
  | .requestCancel requestId => Ios.requestCancel device requestId
  | .requestHeadlessKeyPress requestId keyId => Ios.requestHeadlessKeyPress device requestId keyId
  | .touch keyId => Ios.touch device keyId
  | .didMoveToWindow => Ios.didMoveToWindow device
  | .sceneWillDeactivate => handleWillResignActive device
  | .sceneDidActivate => Ios.sceneDidActivate device
  | .capturedDidChange => handleScreenCaptureChange device
  | .setCallbacks submit error maskedState reconfiguration =>
    Code.modify ({ · with
      onSubmit := submit, onError := error, onMaskedStateChanged := maskedState,
      onSessionNeedsReconfiguration := reconfiguration })
  | .closeSubmission submission => Ios.closeSubmission submission
  | .takeOpaqueHandle submission => Ios.takeOpaqueHandle submission

end Device

end SecureKeypad.Native.Ios
