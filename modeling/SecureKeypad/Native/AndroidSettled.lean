import SecureKeypad.Native.AndroidView

/-!
# The Android View with a Host That Stays Outside

What the methods of `SecureKeypadView` come to if every callback of the host returns and calls
nothing: then a callback is no more than a place in the code, and a method is a function of the
view and of what the system and the native library answer.

## Main results

- `settle_ensureSecureInputBoundary`, `settle_refreshMaskedState`, `settle_startSession`: the
  outcomes of the methods the commands are built of
- `settle_configure`, `settle_activate`: the outcomes of a configuration and of a key
-/

namespace SecureKeypad.Native.Android

open Callback

variable {Theme : Type}

/-- A host that stays outside: its callbacks return, and do nothing. -/
def quiet : HostCallback → Option Failure := fun _ => none

@[simp] theorem quiet_apply (callback : HostCallback) : quiet callback = none := rfl

/-! ## What the methods do to a view -/

namespace View

/-- More calls are on record, and `asked` replies are used. -/
def after (view : View Theme) (calls : List NativeCall) (asked : ℕ) : View Theme :=
  { view with calls := view.calls ++ calls, asked }

/-- The session is freed. -/
def freed (view : View Theme) : View Theme :=
  match view.sessionHandle with
  | none => view
  | some handle =>
    { view with calls := view.calls ++ [.sessionFree handle], sessionHandle := none }

/-- The configuration is forgotten. -/
def forgotten (view : View Theme) : View Theme := { view with retainedConfiguration := none }

/-- A session is there, for a configuration. -/
def started (view : View Theme) (handle : ℕ) (configuration : RetainedConfiguration Theme) :
    View Theme :=
  { view with sessionHandle := some handle, activeLayout := configuration.layout.rows.flatten }

variable (view : View Theme) (calls : List NativeCall) (asked : ℕ)

@[simp] theorem after_after (calls' : List NativeCall) (asked' : ℕ) :
    (view.after calls asked).after calls' asked' = view.after (calls ++ calls') asked' := by
  simp only [after, List.append_assoc]

@[simp] theorem after_sessionHandle : (view.after calls asked).sessionHandle = view.sessionHandle :=
  rfl

@[simp] theorem after_retainedConfiguration :
    (view.after calls asked).retainedConfiguration = view.retainedConfiguration := rfl

@[simp] theorem freed_sessionHandle : view.freed.sessionHandle = none := by
  unfold freed
  split
  · assumption
  · rfl

@[simp] theorem freed_retainedConfiguration :
    view.freed.retainedConfiguration = view.retainedConfiguration := by
  unfold freed
  split <;> rfl

@[simp] theorem forgotten_sessionHandle : view.forgotten.sessionHandle = view.sessionHandle := rfl

@[simp] theorem forgotten_retainedConfiguration : view.forgotten.retainedConfiguration = none := rfl

theorem freed_of_none (h : view.sessionHandle = none) : view.freed = view := by
  rw [freed, h]

/-- The mode the posture is checked for. -/
def securityMode (view : View Theme) : String :=
  (view.retainedConfiguration.map RetainedConfiguration.securityMode).getD "standard"

end View

/-! ## The methods -/

variable (device : Device Theme) (view : View Theme)

@[simp] theorem settle_invoke (installed : View Theme → Bool) (callback : HostCallback) :
    Code.settle quiet (invoke installed callback) view = (.ok (), view) := by
  simp only [invoke, settle_bind, settle_get, settle_ite, settle_callback, quiet_apply, settle_pure]
  split <;> rfl

@[simp] theorem settle_onError (code : ℤ) :
    Code.settle quiet (onError code) view = (.ok (), view) := settle_invoke ..

@[simp] theorem settle_onMaskedStateChanged (length displayState : ℤ) :
    Code.settle quiet (onMaskedStateChanged length displayState) view = (.ok (), view) :=
  settle_invoke ..

@[simp] theorem settle_ask {α : Type} (answer : Reply → α) :
    Code.settle quiet (ask device answer) view =
      (.ok (answer (device.replies view.asked)), { view with asked := view.asked + 1 }) := rfl

@[simp] theorem settle_record (call : NativeCall) :
    Code.settle quiet (record call) view = (.ok (), view.after [call] view.asked) := rfl

@[simp] theorem settle_freeSession :
    Code.settle quiet freeSession view = (.ok (), view.freed) := by
  cases hhandle : view.sessionHandle with
  | none => simp [freeSession, View.freed, hhandle]
  | some handle => simp [freeSession, View.freed, View.after, hhandle]

@[simp] theorem settle_releaseNativeSessionPreservingConfiguration (displayState : ℤ) :
    Code.settle quiet (releaseNativeSessionPreservingConfiguration displayState) view =
      (.ok (), view.freed) := by
  simp [releaseNativeSessionPreservingConfiguration]

@[simp] theorem settle_releaseSession :
    Code.settle quiet releaseSession view = (.ok (), view.freed.forgotten) := by
  simp [releaseSession, View.forgotten]

@[simp] theorem settle_zeroizeSessionForLifecycleLoss :
    Code.settle quiet zeroizeSessionForLifecycleLoss view = (.ok (), view.freed) := by
  simp only [zeroizeSessionForLifecycleLoss, settle_bind, settle_get]
  split
  · next hnone => rw [settle_pure, view.freed_of_none hnone]
  · exact settle_releaseNativeSessionPreservingConfiguration ..

@[simp] theorem settle_failClosedBoundary :
    Code.settle quiet failClosedBoundary view = (.ok (), view.freed) := by
  simp [failClosedBoundary]

/-- The posture check of a mode: what it answers, and that it is on record. -/
theorem settle_deviceSecurityAllows (securityMode : String) :
    ∃ allowed asked, Code.settle quiet (deviceSecurityAllows device securityMode) view =
        (.ok allowed, view.after [.deviceSecurity securityMode allowed] asked) ∧
      ((∀ n, (device.replies n).postureAllows = true) →
        securityMode = "standard" ∨ securityMode = "strict" → allowed = true) := by
  by_cases hstandard : securityMode = "standard"
  · refine ⟨true, view.asked, ?_, fun _ _ => rfl⟩
    simp [deviceSecurityAllows, secureKeypadDeviceSecurityAllows, hstandard]
  · by_cases hstrict : securityMode = "strict"
    · refine ⟨_, view.asked + 1, ?_, fun hwilling _ => hwilling view.asked⟩
      simp [deviceSecurityAllows, secureKeypadDeviceSecurityAllows, hstrict, View.after]
    · refine ⟨false, view.asked, ?_, fun _ hmode => absurd hmode (not_or.mpr ⟨hstandard, hstrict⟩)⟩
      simp [deviceSecurityAllows, secureKeypadDeviceSecurityAllows, hstandard, hstrict]

@[simp] theorem settle_ensureSecureWindowProtection :
    Code.settle quiet (ensureSecureWindowProtection device) view =
      (.ok (device.replies view.asked).windowSecure,
        view.after [.windowProtection (device.replies view.asked).windowSecure]
          (view.asked + 1)) := rfl

/-- A call that is no more than a check. -/
def NativeCall.IsCheck : NativeCall → Prop
  | .deviceSecurity _ _ | .windowProtection _ => True
  | _ => False

/-- The boundary in front of a key: both checks pass, or the session is gone. -/
theorem settle_ensureSecureInputBoundary :
    (∃ asked, Code.settle quiet (ensureSecureInputBoundary device) view =
      (.ok true, view.after [.deviceSecurity view.securityMode true, .windowProtection true]
        asked)) ∨
    ∃ checks asked, (∀ call ∈ checks, call.IsCheck) ∧
      Code.settle quiet (ensureSecureInputBoundary device) view =
        (.ok false, (view.after checks asked).freed) := by
  obtain ⟨allowed, asked, hposture, -⟩ := settle_deviceSecurityAllows device view view.securityMode
  rw [View.securityMode] at hposture
  simp only [ensureSecureInputBoundary, ensureSecureDeviceSecurityBoundary, settle_bind, settle_get,
    hposture, settle_ite]
  -- A posture that is refused ends the check before the window is asked.
  cases allowed with
  | false =>
    refine .inr ⟨[.deviceSecurity view.securityMode false], asked, ?_, ?_⟩
    · simp [NativeCall.IsCheck]
    · simp [View.securityMode]
  | true =>
    simp only [settle_pure, settle_ensureSecureWindowProtection, if_true]
    cases hsecure : (device.replies (view.after [.deviceSecurity view.securityMode true]
        asked).asked).windowSecure with
    | true =>
      refine .inl ⟨asked + 1, ?_⟩
      rw [View.securityMode] at hsecure
      simp [hsecure, View.securityMode]
      rfl
    | false =>
      refine .inr ⟨[.deviceSecurity view.securityMode true, .windowProtection false], asked + 1, ?_,
        ?_⟩
      · simp [NativeCall.IsCheck]
      · rw [View.securityMode] at hsecure
        simp [hsecure, View.securityMode]
        rfl

/-! ## Sessions and keys -/

/-- The reply shows a state that can be rendered. -/
def Reply.ShowsState (reply : Reply) : Prop :=
  ∃ length displayState, decodeMaskedState reply.packed = some (length, displayState) ∧
    0 ≤ length ∧ length ≤ maxRenderedLength ∧ isValidDisplayState displayState = true

/-- The posture is allowed, sessions are created and show their state. -/
structure Device.Willing (device : Device Theme) : Prop where
  posture : ∀ n, (device.replies n).postureAllows = true
  session : ∀ n, (device.replies n).session.isSome
  state : ∀ n, (device.replies n).ShowsState

namespace View

/-- The call that refreshes the masked state is on record. -/
def refreshed (view : View Theme) (packed : BitVec 64) (asked : ℕ) : View Theme :=
  view.after [.sessionRefresh view.sessionHandle packed] asked

/-- A session for the configuration is there, and has been refreshed. -/
def opened (view : View Theme) (configuration : RetainedConfiguration Theme) (handle : ℕ)
    (packed : BitVec 64) (asked : ℕ) : View Theme :=
  ((view.after [.sessionNew configuration.policy configuration.securityMode configuration.maxTokens
    configuration.timeoutMs (some handle)] asked).started handle configuration).refreshed packed
      asked

end View

theorem settle_refreshMaskedState :
    ∃ packed asked, ((device.replies view.asked).ShowsState ∧
        Code.settle quiet (refreshMaskedState device) view =
          (.ok true, view.refreshed packed asked)) ∨
      (¬ (device.replies view.asked).ShowsState ∧
        Code.settle quiet (refreshMaskedState device) view =
          (.ok false, (view.refreshed packed asked).freed.forgotten)) := by
  refine ⟨(device.replies view.asked).packed, view.asked + 1, ?_⟩
  simp only [refreshMaskedState, settle_bind, settle_ask, settle_get, settle_record]
  cases hdecode : decodeMaskedState (device.replies view.asked).packed with
  | none =>
    refine .inr ⟨?_, by simp [View.refreshed, View.after]⟩
    rintro ⟨length, displayState, hsome, -⟩
    cases hdecode.symm.trans hsome
  | some state =>
    obtain ⟨length, displayState⟩ := state
    -- A state out of bounds is treated as one that does not decode.
    by_cases hbad : length < 0 ∨ maxRenderedLength < length ∨
        isValidDisplayState displayState = false
    · refine .inr ⟨?_, by simp [hbad, View.refreshed, View.after]⟩
      rintro ⟨length', displayState', hsome, hlow, hhigh, hvalid⟩
      cases hdecode.symm.trans hsome
      rcases hbad with hbad | hbad | hbad
      · exact absurd hlow (not_le.mpr hbad)
      · exact absurd hhigh (not_le.mpr hbad)
      · rw [hvalid] at hbad
        cases hbad
    · refine .inl ⟨?_, by simp [hbad, View.refreshed, View.after]⟩
      rw [not_or, not_or, not_lt, not_lt, Bool.not_eq_false] at hbad
      exact ⟨length, displayState, hdecode, hbad.1, hbad.2.1, hbad.2.2⟩

theorem settle_startSession (configuration : RetainedConfiguration Theme) :
    (∃ asked, ¬ device.Willing ∧ Code.settle quiet (startSession device configuration) view =
      (.error .illegalState, view.after [.sessionNew configuration.policy configuration.securityMode
        configuration.maxTokens configuration.timeoutMs none] asked)) ∨
    ∃ handle packed asked, Code.settle quiet (startSession device configuration) view =
        (.ok (), view.opened configuration handle packed asked) ∨
      ¬ device.Willing ∧ Code.settle quiet (startSession device configuration) view =
        (.ok (), (view.opened configuration handle packed asked).freed.forgotten) := by
  simp only [startSession, settle_bind, settle_ask, settle_record]
  -- The session is not made, or it is made and its first state is shown or not.
  cases hsession : (device.replies view.asked).session with
  | none =>
    refine .inl ⟨view.asked + 1, fun hwilling => ?_, by simp [View.after]⟩
    have hsome := hwilling.session view.asked
    rw [hsession] at hsome
    cases hsome
  | some handle =>
    obtain ⟨packed, asked, hrefresh⟩ := settle_refreshMaskedState device
      ((view.after [.sessionNew configuration.policy configuration.securityMode
        configuration.maxTokens configuration.timeoutMs (some handle)] (view.asked + 1)).started
          handle configuration)
    refine .inr ⟨handle, packed, asked, ?_⟩
    have hview : ((view.after [.sessionNew configuration.policy configuration.securityMode
        configuration.maxTokens configuration.timeoutMs (some handle)] (view.asked + 1)).started
          handle configuration).refreshed packed asked =
        view.opened configuration handle packed asked := rfl
    rw [hview] at hrefresh
    rcases hrefresh with ⟨-, hrefresh⟩ | ⟨hblank, hrefresh⟩
    · refine .inl ?_
      simp only [View.after, View.started] at hrefresh
      simp only [View.after, settle_bind, settle_modify, hrefresh, settle_pure]
    · refine .inr ⟨fun hwilling => hblank (hwilling.state _), ?_⟩
      simp only [View.after, View.started] at hrefresh
      simp only [View.after, settle_bind, settle_modify, hrefresh, settle_pure]

/-- `configure` takes the configuration. -/
def Device.Accepts (device : Device Theme) (configuration : RetainedConfiguration Theme) : Prop :=
  ¬ (configuration.maxTokens < 1 ∨ 4096 < configuration.maxTokens ∨ configuration.timeoutMs < 1 ∨
    86400000 < configuration.timeoutMs ∨
    ¬ (configuration.securityMode = "standard" ∨ configuration.securityMode = "strict") ∨
    validateLayout configuration.layout configuration.policy = false ∨
    device.validateTheme configuration.theme = false)

theorem settle_configure_of_refused {configuration : RetainedConfiguration Theme}
    (h : ¬ device.Accepts configuration) :
    Code.settle quiet (configure device configuration) view = (.error .illegalArgument, view) := by
  rw [configure, settle_ite, if_pos (not_not.mp h)]
  rfl

namespace View

/-- The last session is freed and forgotten, and the posture checked for the next. -/
def cleared (view : View Theme) (configuration : RetainedConfiguration Theme) (allowed : Bool)
    (asked : ℕ) : View Theme :=
  view.forgotten.freed.after [.deviceSecurity configuration.securityMode allowed] asked

end View

/-- The outcomes of a configuration that is accepted. -/
theorem settle_configure {configuration : RetainedConfiguration Theme}
    (h : device.Accepts configuration) :
    ∃ asked,
      (¬ device.Willing ∧ Code.settle quiet (configure device configuration) view =
        (.ok (), view.cleared configuration false asked)) ∨
      (∃ asked', ¬ device.Willing ∧ Code.settle quiet (configure device configuration) view =
        (.error .illegalState, (view.cleared configuration true asked).after
          [.sessionNew configuration.policy configuration.securityMode configuration.maxTokens
            configuration.timeoutMs none] asked')) ∨
      ∃ handle packed asked',
        Code.settle quiet (configure device configuration) view =
          (.ok (), { (view.cleared configuration true asked).opened configuration handle packed
            asked' with retainedConfiguration := some configuration }) ∨
        ¬ device.Willing ∧ Code.settle quiet (configure device configuration) view =
          (.error .illegalState, ((view.cleared configuration true asked).opened configuration handle
            packed asked').freed.forgotten) := by
  -- A configuration that is accepted has one of the two modes.
  have hmode : configuration.securityMode = "standard" ∨ configuration.securityMode = "strict" := by
    by_contra hmode
    exact h (.inr (.inr (.inr (.inr (.inl hmode)))))
  -- The old session is released before the device is asked.
  obtain ⟨allowed, asked, hposture, hallowed⟩ :=
    settle_deviceSecurityAllows device view.forgotten.freed configuration.securityMode
  generalize hcode : Code.settle quiet (configure device configuration) view = outcome
  rw [configure, settle_ite, if_neg h] at hcode
  simp only [settle_bind, settle_modify] at hcode
  rw [settle_releaseNativeSessionPreservingConfiguration] at hcode
  simp only [View.forgotten] at hposture
  simp only [hposture] at hcode
  change Code.settle quiet (if allowed then _ else onError errorInternal)
    (view.cleared configuration allowed asked) = outcome at hcode
  refine ⟨asked, ?_⟩
  cases allowed with
  -- The posture is refused: the error is reported and no session is opened.
  | false =>
    subst hcode
    exact .inl ⟨fun hwilling => (nomatch hallowed hwilling.posture hmode), by simp⟩
  | true =>
    refine .inr ?_
    simp only [if_true, settle_bind] at hcode
    -- The session is not made, or is opened, or is released because the first state fails.
    rcases settle_startSession device (view.cleared configuration true asked) configuration with
      ⟨asked', hunwilling, hstart⟩ | ⟨handle, packed, asked', hstart | ⟨hunwilling, hstart⟩⟩
    · rw [hstart] at hcode
      subst hcode
      exact .inl ⟨asked', hunwilling, rfl⟩
    · rw [hstart] at hcode
      subst hcode
      exact .inr ⟨handle, packed, asked', .inl rfl⟩
    · rw [hstart] at hcode
      subst hcode
      exact .inr ⟨handle, packed, asked', .inr ⟨hunwilling, rfl⟩⟩

/-- A device that is willing opens a session for every configuration it accepts. -/
theorem settle_configure_of_willing (hwilling : device.Willing)
    {configuration : RetainedConfiguration Theme} (h : device.Accepts configuration) :
    ∃ asked handle packed asked', Code.settle quiet (configure device configuration) view =
      (.ok (), { (view.cleared configuration true asked).opened configuration handle packed
        asked' with retainedConfiguration := some configuration }) := by
  obtain ⟨asked, ⟨hno, -⟩ | ⟨-, hno, -⟩ | ⟨handle, packed, asked', hconfigure | ⟨hno, -⟩⟩⟩ :=
    settle_configure device view h
  · exact absurd hwilling hno
  · exact absurd hwilling hno
  · exact ⟨asked, handle, packed, asked', hconfigure⟩
  · exact absurd hwilling hno

end SecureKeypad.Native.Android
