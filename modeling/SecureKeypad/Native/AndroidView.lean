import SecureKeypad.Library.Callback
import SecureKeypad.Native.Layout

/-!
# The Android Keypad View (`native/android`, `SecureKeypadView.kt`)

Embeds `SecureKeypadView` as a re-entrant object: every `?.invoke` of a host callback is a point
where the host runs and may call the view again, or throw. What the operating system and the
native library answer is taken from `replies`, one reply a question, so that a statement for all
`replies` is one for all their behaviours. Drawing is left out.
-/

namespace SecureKeypad.Native.Android

open Callback

/-! ## The view's data -/

/-- `RetainedConfiguration`. -/
structure RetainedConfiguration (Theme : Type) where
  layout : Layout
  theme : Theme
  maxTokens : ℤ
  timeoutMs : ℤ
  policy : InputPolicy
  securityMode : String
deriving DecidableEq

/-- A call into the native library, with the checks and transfers between such calls. -/
inductive NativeCall where
  /-- The posture check of the mode. -/
  | deviceSecurity (securityMode : String) (allowed : Bool)
  /-- The check of the window flag. -/
  | windowProtection (secure : Bool)
  /-- A new session, for a configuration with the mode. -/
  | sessionNew (policy : InputPolicy) (securityMode : String) (maxTokens timeoutMs : ℤ)
      (handle : Option ℕ)
  | sessionFree (handle : ℕ)
  | sessionPressKey (handle : ℕ) (keyId : String) (status : ℤ)
  | sessionBackspace (handle : ℕ) (status : ℤ)
  | sessionClear (handle : ℕ) (status : ℤ)
  | sessionCancel (handle : ℕ) (status : ℤ)
  | sessionRefresh (handle : Option ℕ) (packed : BitVec 64)
  | sessionSubmit (handle : ℕ) (submission : Option ℕ)
  | submissionFree (submission : ℕ)
  /-- The handle leaves the object that owned it. -/
  | submissionTaken (submission : ℕ)
deriving DecidableEq

/-- What the system or the library answers to one question. -/
structure Reply where
  /-- The posture checks of the strict mode. -/
  postureAllows : Bool
  /-- `ensureSecureWindowProtection`. -/
  windowSecure : Bool
  /-- `nativeSessionNew…`, with `0` as `none`. -/
  session : Option ℕ
  status : ℤ
  packed : BitVec 64
  /-- `nativeSessionSubmit`, with `0` as `none`. -/
  submission : Option ℕ

/-- What is outside the view. -/
structure Device (Theme : Type) where
  /-- Whether every `require` of `validateTheme` holds. -/
  validateTheme : Theme → Bool
  replies : ℕ → Reply

/-- `SecureKeypadView`. -/
structure View (Theme : Type) where
  sessionHandle : Option ℕ
  retainedConfiguration : Option (RetainedConfiguration Theme)
  lastCancelRequest : Option ℤ
  lastHeadlessKeyPress : Option ℤ
  activeLayout : List KeySpec
  headlessHostMode : Bool
  /-- Which callbacks are installed. -/
  onSubmit : Bool
  onMaskedStateChanged : Bool
  onError : Bool
  onSessionNeedsReconfiguration : Bool
  /-- The handles of the `SecureKeypadSubmission` objects made so far; `none` is consumed. -/
  submissions : List (Option ℕ)
  calls : List NativeCall
  /-- The number of replies used. -/
  asked : ℕ
  /-- The headless commands whose activation has succeeded, each with the position of its native call
      among the calls. -/
  headlessEffects : List (ℕ × ℤ)
  /-- The cancel commands that have succeeded, each with the position of its native call. -/
  cancelEffects : List (ℕ × ℤ)

/-- A new view. -/
def View.new (Theme : Type) : View Theme where
  sessionHandle := none
  retainedConfiguration := none
  lastCancelRequest := none
  lastHeadlessKeyPress := none
  activeLayout := []
  headlessHostMode := false
  onSubmit := false
  onMaskedStateChanged := false
  onError := false
  onSessionNeedsReconfiguration := false
  submissions := []
  calls := []
  asked := 0
  headlessEffects := []
  cancelEffects := []

/-- The callbacks of the host. -/
inductive HostCallback where
  | maskedState (length displayState : ℤ)
  | error (code : ℤ)
  | submit (submission : ℕ)
  | needsReconfiguration
deriving DecidableEq

/-- The exceptions the code tells apart. -/
inductive Failure where
  | illegalArgument
  | illegalState
  /-- Another `RuntimeException`. -/
  | runtime
  /-- A `Throwable` that is no `RuntimeException`. -/
  | other
deriving DecidableEq

def Failure.isRuntime : Failure → Bool
  | .other => false
  | _ => true

/-- A method of the view. A callback returns, or it throws. -/
abbrev Method (Theme α : Type) := Code (View Theme) HostCallback Failure (Option Failure) α

variable {Theme : Type}

/-! ## The host, the system and the native library -/

/-- A call of an installed callback; what it throws goes through. -/
def invoke (installed : View Theme → Bool) (c : HostCallback) : Method Theme Unit := do
  let view ← Code.get
  if installed view then
    match ← Code.callback c with
    | none => pure ()
    | some failure => Code.throw failure
  else pure ()

def onError (code : ℤ) : Method Theme Unit := invoke View.onError (.error code)

def onMaskedStateChanged (length displayState : ℤ) : Method Theme Unit :=
  invoke View.onMaskedStateChanged (.maskedState length displayState)

section Device

variable (device : Device Theme)

/-- The next reply. -/
def ask {α : Type} (answer : Reply → α) : Method Theme α := do
  let view ← Code.get
  Code.modify ({ · with asked := view.asked + 1 })
  pure (answer (device.replies view.asked))

/-- A call into the native library is recorded. -/
def record (call : NativeCall) : Method Theme Unit :=
  Code.modify fun view => { view with calls := view.calls ++ [call] }

/-- The answer of `secureKeypadDeviceSecurityAllows`. -/
def secureKeypadDeviceSecurityAllows (securityMode : String) : Method Theme Bool :=
  if securityMode = "standard" then pure true
  else if securityMode = "strict" then ask device Reply.postureAllows
  else pure false

/-- A call of `secureKeypadDeviceSecurityAllows`. -/
def deviceSecurityAllows (securityMode : String) : Method Theme Bool := do
  let allowed ← secureKeypadDeviceSecurityAllows device securityMode
  record (.deviceSecurity securityMode allowed)
  pure allowed

/-- `ensureSecureWindowProtection`. -/
def ensureSecureWindowProtection : Method Theme Bool := do
  let secure ← ask device Reply.windowSecure
  record (.windowProtection secure)
  pure secure

/-! ## Sessions -/

/-- The live session is freed. -/
def freeSession : Method Theme Unit := do
  let view ← Code.get
  match view.sessionHandle with
  | none => pure ()
  | some handle =>
    record (.sessionFree handle)
    Code.modify ({ · with sessionHandle := none })

/-- `releaseNativeSessionPreservingConfiguration`. -/
def releaseNativeSessionPreservingConfiguration (displayState : ℤ) : Method Theme Unit := do
  freeSession
  onMaskedStateChanged 0 displayState

/-- `releaseSession`. -/
def releaseSession : Method Theme Unit := do
  releaseNativeSessionPreservingConfiguration 0
  Code.modify ({ · with retainedConfiguration := none })

/-- `zeroizeSessionForLifecycleLoss`. -/
def zeroizeSessionForLifecycleLoss : Method Theme Unit := do
  let view ← Code.get
  match view.sessionHandle with
  | none => pure ()
  | some _ => releaseNativeSessionPreservingConfiguration 3

/-- `failClosedSecureWindowBoundary`, and `failClosedObscuredTouchBoundary` with the same body. -/
def failClosedBoundary : Method Theme Unit := do
  zeroizeSessionForLifecycleLoss
  onError errorInternal

/-- `ensureSecureDeviceSecurityBoundary`. -/
def ensureSecureDeviceSecurityBoundary : Method Theme Bool := do
  let view ← Code.get
  if ← deviceSecurityAllows device
      ((view.retainedConfiguration.map RetainedConfiguration.securityMode).getD "standard") then
    pure true
  else
    zeroizeSessionForLifecycleLoss
    onError errorInternal
    pure false

/-- `ensureSecureInputBoundary`. -/
def ensureSecureInputBoundary : Method Theme Bool := do
  if ← ensureSecureDeviceSecurityBoundary device then
    if ← ensureSecureWindowProtection device then pure true
    else
      failClosedBoundary
      pure false
  else pure false

/-- `refreshMaskedState`. -/
def refreshMaskedState : Method Theme Bool := do
  let packed ← ask device Reply.packed
  let view ← Code.get
  record (.sessionRefresh view.sessionHandle packed)
  match decodeMaskedState packed with
  | none =>
    releaseSession
    onError errorInternal
    pure false
  | some (length, displayState) =>
    if length < 0 ∨ maxRenderedLength < length ∨ isValidDisplayState displayState = false then
      releaseSession
      onError errorInternal
      pure false
    else
      onMaskedStateChanged length displayState
      pure true

/-- `startSession`. -/
def startSession (configuration : RetainedConfiguration Theme) : Method Theme Unit := do
  let handle ← ask device Reply.session
  record (.sessionNew configuration.policy configuration.securityMode configuration.maxTokens
    configuration.timeoutMs handle)
  match handle with
  | none => Code.throw .illegalState
  | some handle =>
    -- `render` indexes the keys by their ids.
    Code.modify ({ · with
      sessionHandle := some handle, activeLayout := configuration.layout.rows.flatten })
    let _ ← refreshMaskedState device
    pure ()

/-- `configure`. -/
def configure (configuration : RetainedConfiguration Theme) : Method Theme Unit := do
  if configuration.maxTokens < 1 ∨ 4096 < configuration.maxTokens ∨ configuration.timeoutMs < 1 ∨
      86400000 < configuration.timeoutMs ∨
      ¬ (configuration.securityMode = "standard" ∨ configuration.securityMode = "strict") ∨
      validateLayout configuration.layout configuration.policy = false ∨
      device.validateTheme configuration.theme = false then
    Code.throw .illegalArgument
  else
    Code.modify ({ · with retainedConfiguration := none })
    releaseNativeSessionPreservingConfiguration 0
    if ← deviceSecurityAllows device configuration.securityMode then
      startSession device configuration
      let view ← Code.get
      match view.sessionHandle with
      | none => Code.throw .illegalState
      | some _ => Code.modify ({ · with retainedConfiguration := some configuration })
    else onError errorInternal

/-- `reconfigureRetainedConfiguration`. -/
def reconfigureRetainedConfiguration : Method Theme Unit := do
  let view ← Code.get
  match view.retainedConfiguration, view.sessionHandle with
  | some configuration, none =>
    if ← deviceSecurityAllows device configuration.securityMode then
      Code.attempt (do
        startSession device configuration
        let view ← Code.get
        match view.sessionHandle with
        | none => Code.modify ({ · with retainedConfiguration := none })
        | some _ => pure ())
        fun failure =>
          if failure.isRuntime then do
            Code.modify ({ · with retainedConfiguration := none })
            releaseNativeSessionPreservingConfiguration 0
            onError errorInternal
          else Code.throw failure
    else
      Code.modify ({ · with retainedConfiguration := none })
      releaseNativeSessionPreservingConfiguration 0
      onError errorInternal
  | _, _ => pure ()

/-- `requestSessionReconfigurationIfNeeded`. -/
def requestSessionReconfigurationIfNeeded : Method Theme Unit := do
  let view ← Code.get
  match view.sessionHandle with
  | some _ => pure ()
  | none =>
    if view.onSessionNeedsReconfiguration then
      invoke View.onSessionNeedsReconfiguration .needsReconfiguration
    else reconfigureRetainedConfiguration device

/-! ## Keys -/

/-- `SecureKeypadSubmission.close`. -/
def closeSubmission (submission : ℕ) : Method Theme Unit := do
  let view ← Code.get
  match view.submissions[submission]?.join with
  | none => pure ()
  | some handle =>
    record (.submissionFree handle)
    Code.modify fun view => { view with submissions := view.submissions.set submission none }

/-- `takeNativeHandle`. -/
def takeNativeHandle (submission : ℕ) : Method Theme Unit := do
  let view ← Code.get
  match view.submissions[submission]?.join with
  | none => pure ()
  | some handle =>
    record (.submissionTaken handle)
    Code.modify fun view => { view with submissions := view.submissions.set submission none }

/-- `deliverOrRelease` with the callback `onSubmit` was when the key was activated. -/
def deliverOrRelease (submission : ℕ) : Method Theme Unit := do
  match ← Code.callback (.submit submission) with
  | none => pure ()
  | some failure =>
    closeSubmission submission
    Code.throw failure

/-- The native call of a key, with its status and the submission it has left. `none` is an early
    `return false`. -/
def nativeActivation (handle : ℕ) (key : KeySpec) : Method Theme (Option (ℤ × Option ℕ)) :=
  match key.role with
  | .input => do
    let status ← ask device Reply.status
    record (.sessionPressKey handle key.id status)
    pure (some (status, none))
  | .backspace => do
    let status ← ask device Reply.status
    record (.sessionBackspace handle status)
    pure (some (status, none))
  | .clear => do
    let status ← ask device Reply.status
    record (.sessionClear handle status)
    pure (some (status, none))
  | .submit => do
    let rawSubmission ← ask device Reply.submission
    record (.sessionSubmit handle rawSubmission)
    match rawSubmission with
    | none =>
      releaseNativeSessionPreservingConfiguration 0
      onError errorInternal
      pure none
    | some raw =>
      let view ← Code.get
      if view.onSubmit then
        Code.modify ({ · with submissions := view.submissions ++ [some raw] })
        pure (some (0, some view.submissions.length))
      else
        record (.submissionFree raw)
        onError errorInternal
        pure none
  | .cancel => do
    let status ← ask device Reply.status
    record (.sessionCancel handle status)
    pure (some (status, none))
  | .spacer => pure none

/-- `activate`. -/
def activate (key : KeySpec) : Method Theme Bool := do
  if ← ensureSecureInputBoundary device then
    let view ← Code.get
    match view.sessionHandle with
    | none => pure false
    | some handle =>
      match ← nativeActivation device handle key with
      | none => pure false
      | some (status, pendingSubmission) =>
        if status ≠ 0 then
          releaseNativeSessionPreservingConfiguration 0
          onError status
          pure false
        else if ← refreshMaskedState device then
          match pendingSubmission with
          | none => pure true
          | some submission =>
            deliverOrRelease submission
            pure true
        else
          match pendingSubmission with
          | none => pure false
          | some submission =>
            closeSubmission submission
            pure false
  else pure false

/-- `activate` behind its native call. -/
def finishActivation : Option (ℤ × Option ℕ) → Method Theme Bool
  | none => pure false
  | some (status, pendingSubmission) => do
    if status ≠ 0 then
      releaseNativeSessionPreservingConfiguration 0
      onError status
      pure false
    else if ← refreshMaskedState device then
      match pendingSubmission with
      | none => pure true
      | some submission =>
        deliverOrRelease submission
        pure true
    else
      match pendingSubmission with
      | none => pure false
      | some submission =>
        closeSubmission submission
        pure false

theorem activate_eq (key : KeySpec) :
    activate device key = (do
      if ← ensureSecureInputBoundary device then
        let view ← Code.get
        match view.sessionHandle with
        | none => pure false
        | some handle => nativeActivation device handle key >>= finishActivation device
      else pure false) := rfl

/-- `activeLayout[keyId]`; `associateBy` keeps the last key of an id. -/
def View.key (view : View Theme) (keyId : String) : Option KeySpec :=
  view.activeLayout.reverse.find? (·.id = keyId)

/-- A click on a rendered key. -/
def click (keyId : String) : Method Theme Unit := do
  let view ← Code.get
  match view.key keyId with
  | none => pure ()
  | some key =>
    let _ ← activate device key
    pure ()

/-! ## Commands -/

/-- `setRendererMode`. -/
def setRendererMode (mode : String) (acknowledgeLowerAssurance : Bool) : Method Theme Unit :=
  if (mode = "secure-native" ∧ acknowledgeLowerAssurance = false) ∨
      (mode = "headless-host" ∧ acknowledgeLowerAssurance = true) then
    Code.modify ({ · with headlessHostMode := mode = "headless-host" })
  else Code.throw .illegalArgument

/-- The first check of `requestHeadlessKeyPress` fails. -/
def View.refusesHeadless (view : View Theme) (requestId : ℤ) (keyId : String) : Prop :=
  view.sessionHandle = none ∨ view.headlessHostMode = false ∨ requestId < 0 ∨
    isPublicId keyId = false

instance (view : View Theme) (requestId : ℤ) (keyId : String) :
    Decidable (view.refusesHeadless requestId keyId) :=
  inferInstanceAs (Decidable (_ ∨ _))

/-- Where the native call of an activation that begins now stands among the calls: behind the posture
    check and the window check. -/
def View.activationCall (view : View Theme) : ℕ := view.calls.length + 2

/-- Where the native call of a cancellation that begins now stands among the calls. -/
def View.cancelCall (view : View Theme) : ℕ := view.calls.length

/-- The floor is raised for a key press whose native call is at the position. -/
def View.pressed (view : View Theme) (position : ℕ) (requestId : ℤ) : View Theme :=
  { view with
    lastHeadlessKeyPress := some requestId
    headlessEffects := view.headlessEffects ++ [(position, requestId)] }

/-- The floor is raised for a cancellation whose native call is at the position. -/
def View.cancelled (view : View Theme) (position : ℕ) (requestId : ℤ) : View Theme :=
  { view with
    lastCancelRequest := some requestId
    cancelEffects := view.cancelEffects ++ [(position, requestId)] }

/-- `requestHeadlessKeyPress` behind its comparisons. -/
def headlessWork (requestId : ℤ) (key : KeySpec) : Method Theme Unit := do
  if ← ensureSecureInputBoundary device then
    let view ← Code.get
    if ← activate device key then
      Code.modify (View.pressed · view.activationCall requestId)
    else pure ()
  else pure ()

/-- `requestHeadlessKeyPress`. -/
def requestHeadlessKeyPress (requestId : ℤ) (keyId : String) : Method Theme Unit := do
  let view ← Code.get
  headlessBranch (view.refusesHeadless requestId keyId) view.lastHeadlessKeyPress requestId
    (view.key keyId) (onError errorInvalid) (pure ()) (headlessWork device requestId)

/-- `cancelSessionAndReport`. -/
def cancelSessionAndReport : Method Theme Bool := do
  let view ← Code.get
  match view.sessionHandle with
  | none => pure false
  | some handle =>
    let status ← ask device Reply.status
    record (.sessionCancel handle status)
    if status ≠ 0 then
      releaseNativeSessionPreservingConfiguration 0
      onError status
      pure false
    else refreshMaskedState device

/-- `cancelSession`. -/
def cancelSession : Method Theme Unit := do
  let _ ← cancelSessionAndReport device
  pure ()

/-- `requestCancel`. -/
def requestCancel (requestId : ℤ) : Method Theme Unit := do
  let view ← Code.get
  match monotonicCommandDecision view.lastCancelRequest requestId with
  | .invalid => onError errorInvalid
  | .ignore => pure ()
  | .accept =>
    if ← cancelSessionAndReport device then
      Code.modify (View.cancelled · view.cancelCall requestId)
    else pure ()

/-! ## Lifecycle -/

/-- `onAttachedToWindow`, and `onWindowFocusChanged` and `onWindowVisibilityChanged` on regain. -/
def regained : Method Theme Unit := do
  if ← ensureSecureWindowProtection device then requestSessionReconfigurationIfNeeded device
  else failClosedBoundary

/-- `onDetachedFromWindow`. -/
def onDetachedFromWindow : Method Theme Unit := releaseNativeSessionPreservingConfiguration 0

/-- `onWindowFocusChanged`. -/
def onWindowFocusChanged (hasWindowFocus : Bool) : Method Theme Unit :=
  if hasWindowFocus then regained device else zeroizeSessionForLifecycleLoss

/-- `onWindowVisibilityChanged`. -/
def onWindowVisibilityChanged (visible : Bool) : Method Theme Unit :=
  if visible then regained device else zeroizeSessionForLifecycleLoss

/-! ## What the host and the system can do -/

inductive Command (Theme : Type) where
  | configure (configuration : RetainedConfiguration Theme)
  | setRendererMode (mode : String) (acknowledgeLowerAssurance : Bool)
  | releaseSession
  | cancelSession
  | requestCancel (requestId : ℤ)
  | requestHeadlessKeyPress (requestId : ℤ) (keyId : String)
  | click (keyId : String)
  | onAttachedToWindow
  | onDetachedFromWindow
  | onWindowFocusChanged (hasWindowFocus : Bool)
  | onWindowVisibilityChanged (visible : Bool)
  | obscuredTouch
  | setCallbacks (onSubmit onMaskedStateChanged onError onSessionNeedsReconfiguration : Bool)
  | closeSubmission (submission : ℕ)
  | takeNativeHandle (submission : ℕ)

/-- The method behind a command. -/
def Command.code : Command Theme → Method Theme Unit
  | .configure configuration => Android.configure device configuration
  | .setRendererMode mode acknowledge => Android.setRendererMode mode acknowledge
  | .releaseSession => Android.releaseSession
  | .cancelSession => Android.cancelSession device
  | .requestCancel requestId => Android.requestCancel device requestId
  | .requestHeadlessKeyPress requestId keyId =>
    Android.requestHeadlessKeyPress device requestId keyId
  | .click keyId => Android.click device keyId
  | .onAttachedToWindow => regained device
  | .onDetachedFromWindow => Android.onDetachedFromWindow
  | .onWindowFocusChanged hasWindowFocus => Android.onWindowFocusChanged device hasWindowFocus
  | .onWindowVisibilityChanged visible => Android.onWindowVisibilityChanged device visible
  | .obscuredTouch => failClosedBoundary
  | .setCallbacks submit maskedState error reconfiguration =>
    Code.modify ({ · with
      onSubmit := submit, onMaskedStateChanged := maskedState, onError := error,
      onSessionNeedsReconfiguration := reconfiguration })
  | .closeSubmission submission => Android.closeSubmission submission
  | .takeNativeHandle submission => Android.takeNativeHandle submission

end Device

end SecureKeypad.Native.Android
