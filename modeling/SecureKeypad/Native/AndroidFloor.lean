import SecureKeypad.Library.ReplayFloor
import SecureKeypad.Native.AndroidView

/-!
# Replay Floors of the Android View

`requestHeadlessKeyPress` and `requestCancel` compare their number with the floor, work, and raise
the floor; every other method leaves both floors alone, whatever the host does in its callbacks. An
activation that does not fail has made its native call before it first calls the host.

## Main results

- `activate_cases`, `cancelSessionAndReport_cases`: where the native calls are made
- `headless_guarded`, `cancel_guarded`: the commands are of the compare-first, assign-last kind
-/

namespace SecureKeypad.Native.Android

open Callback

variable {Theme : Type}

/-- Both floors and both records of effects are as they were, and calls have only been added. -/
structure Unmoved (a b : View Theme) : Prop where
  headless : b.lastHeadlessKeyPress = a.lastHeadlessKeyPress
  headlessEffects : b.headlessEffects = a.headlessEffects
  cancel : b.lastCancelRequest = a.lastCancelRequest
  cancelEffects : b.cancelEffects = a.cancelEffects
  calls : a.calls <+: b.calls

instance : Keeping (@Unmoved Theme) where
  refl _ := ⟨rfl, rfl, rfl, rfl, List.prefix_rfl⟩
  trans _ _ _ hab hbc :=
    ⟨hbc.1.trans hab.1, hbc.2.trans hab.2, hbc.3.trans hab.3, hbc.4.trans hab.4,
      hab.5.trans hbc.5⟩

/-- A change of anything but the floors, the effects and the calls. -/
theorem aside_guar {f : View Theme → View Theme}
    (h : ∀ view, (f view).lastHeadlessKeyPress = view.lastHeadlessKeyPress ∧
      (f view).headlessEffects = view.headlessEffects ∧
      (f view).lastCancelRequest = view.lastCancelRequest ∧
      (f view).cancelEffects = view.cancelEffects ∧ (f view).calls = view.calls) :
    (Code.modify f : Method Theme Unit).Guar Unmoved := by
  intro view
  obtain ⟨hheadless, hheadlessEffects, hcancel, hcancelEffects, hcalls⟩ := h view
  exact ⟨hheadless, hheadlessEffects, hcancel, hcancelEffects, by rw [hcalls]⟩

/-! ## Methods that leave the floors alone -/

theorem invoke_guar (installed : View Theme → Bool) (c : HostCallback) :
    (invoke installed c).Guar Unmoved := by
  refine guar_bind guar_get fun view =>
    guar_ite ?_ (guar_pure _)
  refine guar_bind (guar_callback c) fun reply => ?_
  cases reply with
  | none => exact guar_pure _
  | some failure => exact guar_throw _

theorem onError_guar (code : ℤ) : (onError code : Method Theme Unit).Guar Unmoved :=
  invoke_guar _ _

theorem onMaskedStateChanged_guar (length displayState : ℤ) :
    (onMaskedStateChanged length displayState : Method Theme Unit).Guar Unmoved :=
  invoke_guar _ _

theorem record_guar (call : NativeCall) : (record call : Method Theme Unit).Guar Unmoved :=
  guar_modify fun _ => ⟨rfl, rfl, rfl, rfl, List.prefix_append _ _⟩

theorem retain_guar (configuration : Option (RetainedConfiguration Theme)) :
    (Code.modify ({ · with retainedConfiguration := configuration }) :
      Method Theme Unit).Guar Unmoved :=
  aside_guar fun _ => ⟨rfl, rfl, rfl, rfl, rfl⟩

theorem freeSession_guar : (freeSession : Method Theme Unit).Guar Unmoved := by
  refine guar_bind guar_get fun view => ?_
  cases view.sessionHandle with
  | none => exact guar_pure _
  | some handle =>
    exact guar_bind (record_guar _) fun _ =>
      aside_guar fun _ => ⟨rfl, rfl, rfl, rfl, rfl⟩

theorem releaseNative_guar (displayState : ℤ) :
    (releaseNativeSessionPreservingConfiguration displayState : Method Theme Unit).Guar Unmoved :=
  guar_bind freeSession_guar fun _ => onMaskedStateChanged_guar _ _

theorem releaseSession_guar : (releaseSession : Method Theme Unit).Guar Unmoved :=
  guar_bind (releaseNative_guar 0) fun _ => retain_guar none

theorem zeroize_guar : (zeroizeSessionForLifecycleLoss : Method Theme Unit).Guar Unmoved := by
  refine guar_bind guar_get fun view => ?_
  cases view.sessionHandle with
  | none => exact guar_pure _
  | some handle => exact releaseNative_guar 3

theorem failClosed_guar : (failClosedBoundary : Method Theme Unit).Guar Unmoved :=
  guar_bind zeroize_guar fun _ => onError_guar _

/-- A method ends in `return false` behind the release of the session and an error. -/
theorem giveUp_guar {release : Method Theme Unit} (h : release.Guar Unmoved) (code : ℤ) {α : Type}
    (a : α) : (do release; onError code; pure a : Method Theme α).Guar Unmoved :=
  guar_bind h fun _ =>
    guar_bind (onError_guar code) fun _ => guar_pure a

section Device

variable (device : Device Theme)

theorem ask_guar {α : Type} (answer : Reply → α) : (ask device answer).Guar Unmoved :=
  guar_bind guar_get fun _ =>
    guar_bind (aside_guar fun _ => ⟨rfl, rfl, rfl, rfl, rfl⟩) fun _ =>
      guar_pure _

theorem deviceSecurityAllows_guar (securityMode : String) :
    (deviceSecurityAllows device securityMode).Guar Unmoved := by
  have hanswer : (secureKeypadDeviceSecurityAllows device securityMode).Guar Unmoved :=
    guar_ite (guar_pure _) (guar_ite (ask_guar device _) (guar_pure _))
  exact guar_bind hanswer fun _ => guar_bind (record_guar _) fun _ => guar_pure _

theorem ensureSecureWindowProtection_guar :
    (ensureSecureWindowProtection device).Guar Unmoved :=
  guar_bind (ask_guar device _) fun _ => guar_bind (record_guar _) fun _ => guar_pure _

theorem ensureSecureInputBoundary_guar :
    (ensureSecureInputBoundary device).Guar Unmoved := by
  have hdevice : (ensureSecureDeviceSecurityBoundary device).Guar Unmoved :=
    guar_bind guar_get fun _ =>
      guar_bind (deviceSecurityAllows_guar device _) fun _ =>
        guar_ite (guar_pure _) (giveUp_guar zeroize_guar _ _)
  refine guar_bind hdevice fun _ => guar_ite ?_ (guar_pure _)
  refine guar_bind (ensureSecureWindowProtection_guar device) fun _ =>
    guar_ite (guar_pure _) ?_
  exact guar_bind failClosed_guar fun _ => guar_pure _

theorem refreshMaskedState_guar : (refreshMaskedState device).Guar Unmoved := by
  refine guar_bind (ask_guar device _) fun packed =>
    guar_bind guar_get fun view =>
      guar_bind (record_guar _) fun _ => ?_
  cases decodeMaskedState packed with
  | none => exact giveUp_guar releaseSession_guar _ _
  | some decoded =>
    exact guar_ite (giveUp_guar releaseSession_guar _ _)
      (guar_bind (onMaskedStateChanged_guar _ _) fun _ =>
        guar_pure _)

theorem startSession_guar (configuration : RetainedConfiguration Theme) :
    (startSession device configuration).Guar Unmoved := by
  refine guar_bind (ask_guar device _) fun handle =>
    guar_bind (record_guar _) fun _ => ?_
  cases handle with
  | none => exact guar_throw _
  | some handle =>
    exact guar_bind (aside_guar fun _ => ⟨rfl, rfl, rfl, rfl, rfl⟩) fun _ =>
      guar_bind (refreshMaskedState_guar device) fun _ =>
        guar_pure _

theorem configure_guar (configuration : RetainedConfiguration Theme) :
    (configure device configuration).Guar Unmoved := by
  refine guar_ite (guar_throw _) ?_
  refine guar_bind (retain_guar none) fun _ => guar_bind (releaseNative_guar 0) fun _ =>
    guar_bind (deviceSecurityAllows_guar device _) fun _ => guar_ite ?_ (onError_guar _)
  refine guar_bind (startSession_guar device configuration) fun _ => guar_bind guar_get fun view => ?_
  cases view.sessionHandle with
  | none => exact guar_throw _
  | some handle => exact retain_guar _

theorem reconfigure_guar : (reconfigureRetainedConfiguration device).Guar Unmoved := by
  -- What ends the configuration: it is dropped, and the error is reported.
  have hdrop : (do
      Code.modify ({ · with retainedConfiguration := none })
      releaseNativeSessionPreservingConfiguration 0
      onError errorInternal : Method Theme Unit).Guar Unmoved :=
    guar_bind (retain_guar none) fun _ => guar_bind (releaseNative_guar 0) fun _ => onError_guar _
  refine guar_bind guar_get fun view => ?_
  split
  · refine guar_bind (deviceSecurityAllows_guar device _) fun _ => guar_ite ?_ hdrop
    refine guar_attempt ?_ fun failure => guar_ite hdrop (guar_throw _)
    refine guar_bind (startSession_guar device _) fun _ => guar_bind guar_get fun view => ?_
    cases view.sessionHandle with
    | none => exact retain_guar none
    | some handle => exact guar_pure _
  · exact guar_pure _

theorem regained_guar : (regained device).Guar Unmoved := by
  refine guar_bind (ensureSecureWindowProtection_guar device) fun _ => guar_ite ?_ failClosed_guar
  refine guar_bind guar_get fun view => ?_
  cases view.sessionHandle with
  | none => exact guar_ite (invoke_guar _ _) (reconfigure_guar device)
  | some handle => exact guar_pure _

theorem closeSubmission_guar (submission : ℕ) :
    (closeSubmission submission : Method Theme Unit).Guar Unmoved := by
  refine guar_bind guar_get fun view => ?_
  cases view.submissions[submission]?.join with
  | none => exact guar_pure _
  | some handle =>
    exact guar_bind (record_guar _) fun _ => aside_guar fun _ => ⟨rfl, rfl, rfl, rfl, rfl⟩

theorem takeNativeHandle_guar (submission : ℕ) :
    (takeNativeHandle submission : Method Theme Unit).Guar Unmoved := by
  refine guar_bind guar_get fun view => ?_
  cases view.submissions[submission]?.join with
  | none => exact guar_pure _
  | some handle =>
    exact guar_bind (record_guar _) fun _ => aside_guar fun _ => ⟨rfl, rfl, rfl, rfl, rfl⟩

theorem deliverOrRelease_guar (submission : ℕ) :
    (deliverOrRelease submission : Method Theme Unit).Guar Unmoved := by
  refine guar_bind (guar_callback _) fun reply => ?_
  cases reply with
  | none => exact guar_pure _
  | some failure => exact guar_bind (closeSubmission_guar submission) fun _ => guar_throw _

theorem nativeActivation_guar (handle : ℕ) (key : KeySpec) :
    (nativeActivation device handle key).Guar Unmoved := by
  have hstatus : ∀ call : ℤ → NativeCall, (do
      let status ← ask device Reply.status
      record (call status)
      pure (some (status, none)) : Method Theme (Option (ℤ × Option ℕ))).Guar Unmoved :=
    fun call => guar_bind (ask_guar device _) fun _ => guar_bind (record_guar _) fun _ => guar_pure _
  unfold nativeActivation
  cases key.role with
  | input => exact hstatus _
  | backspace => exact hstatus _
  | clear => exact hstatus _
  | cancel => exact hstatus _
  | spacer => exact guar_pure _
  | submit =>
    refine guar_bind (ask_guar device _) fun raw => guar_bind (record_guar _) fun _ => ?_
    cases raw with
    | none => exact giveUp_guar (releaseNative_guar 0) _ _
    | some raw =>
      refine guar_bind guar_get fun view => guar_ite ?_ (giveUp_guar (record_guar _) _ _)
      exact guar_bind (aside_guar fun _ => ⟨rfl, rfl, rfl, rfl, rfl⟩) fun _ => guar_pure _

theorem finishActivation_guar (result : Option (ℤ × Option ℕ)) :
    (finishActivation device result).Guar Unmoved := by
  cases result with
  | none => exact guar_pure _
  | some result =>
    refine guar_ite (giveUp_guar (releaseNative_guar 0) _ _) ?_
    refine guar_bind (refreshMaskedState_guar device) fun _ => ?_
    cases result.2 with
    | none => exact guar_ite (guar_pure _) (guar_pure _)
    | some submission =>
      exact guar_ite (guar_bind (deliverOrRelease_guar submission) fun _ => guar_pure _)
        (guar_bind (closeSubmission_guar submission) fun _ => guar_pure _)

theorem activate_guar (key : KeySpec) : (activate device key).Guar Unmoved := by
  rw [activate_eq]
  refine guar_bind (ensureSecureInputBoundary_guar device) fun _ => guar_ite ?_ (guar_pure _)
  refine guar_bind guar_get fun view => ?_
  cases view.sessionHandle with
  | none => exact guar_pure _
  | some handle =>
    exact guar_bind (nativeActivation_guar device handle key) fun result =>
      finishActivation_guar device result

theorem cancelSessionAndReport_guar : (cancelSessionAndReport device).Guar Unmoved := by
  refine guar_bind guar_get fun view => ?_
  cases view.sessionHandle with
  | none => exact guar_pure _
  | some handle =>
    exact guar_bind (ask_guar device _) fun _ => guar_bind (record_guar _) fun _ =>
      guar_ite (giveUp_guar (releaseNative_guar 0) _ _) (refreshMaskedState_guar device)

/-! ## Where the native calls are made -/

/-- The native call of a key has succeeded. -/
def NativeCall.keySucceeds : NativeCall → Bool
  | .sessionPressKey _ _ status | .sessionBackspace _ status | .sessionClear _ status
  | .sessionCancel _ status => status = 0
  | .sessionSubmit _ submission => submission.isSome
  | _ => false

/-- The native call of a cancellation has succeeded. -/
def NativeCall.cancelSucceeds : NativeCall → Bool
  | .sessionCancel _ status => status = 0
  | _ => false

/-- `lastHeadlessKeyPress`, and the headless commands that took effect. -/
def headlessGauge (Theme : Type) : ReplayFloor.Gauge (View Theme) NativeCall :=
  ⟨View.lastHeadlessKeyPress, View.headlessEffects, View.calls, NativeCall.keySucceeds⟩

/-- `lastCancelRequest`, and the cancel commands that took effect. -/
def cancelGauge (Theme : Type) : ReplayFloor.Gauge (View Theme) NativeCall :=
  ⟨View.lastCancelRequest, View.cancelEffects, View.calls, NativeCall.cancelSucceeds⟩

theorem Unmoved.headlessSame {a b : View Theme} (h : Unmoved a b) :
    ReplayFloor.Same (headlessGauge Theme) a b := ⟨h.headless, h.headlessEffects, h.calls⟩

theorem Unmoved.cancelSame {a b : View Theme} (h : Unmoved a b) :
    ReplayFloor.Same (cancelGauge Theme) a b := ⟨h.cancel, h.cancelEffects, h.calls⟩

theorem headlessAssigns (view : View Theme) (position : ℕ) (requestId : ℤ) :
    ReplayFloor.Assigns (headlessGauge Theme) position requestId view
      (view.pressed position requestId) := ⟨rfl, rfl, List.prefix_rfl⟩

theorem cancelAssigns (view : View Theme) (position : ℕ) (requestId : ℤ) :
    ReplayFloor.Assigns (cancelGauge Theme) position requestId view
      (view.cancelled position requestId) := ⟨rfl, rfl, List.prefix_rfl⟩

/-- As `giveUp_guar`, for what is returned. -/
theorem giveUp_ends {release : Method Theme Unit} (h : release.Guar Unmoved) (code : ℤ) {α : Type}
    {P : α → Prop} {a : α} (ha : P a) {pre view : View Theme} (hpre : Unmoved pre view) :
    ((do release; onError code; pure a : Method Theme α) view).Ends Unmoved P pre := by
  refine Res.Ends.before ((h view).ends.ends_bind fun _ _ view => ?_) hpre
  exact (onError_guar code view).ends.ends_bind fun _ _ view => ⟨Keeping.refl view, ha⟩

/-- The posture check is made at once, and recorded. -/
theorem exists_deviceSecurityAllows (securityMode : String) (view : View Theme) :
    ∃ allowed after, deviceSecurityAllows device securityMode view = .done allowed after ∧
      after.calls.length = view.calls.length + 1 := by
  have hanswer : ∃ allowed asked, secureKeypadDeviceSecurityAllows device securityMode view =
      .done allowed { view with asked := asked } := by
    unfold secureKeypadDeviceSecurityAllows
    split
    · exact ⟨true, view.asked, rfl⟩
    · split
      · exact ⟨_, view.asked + 1, rfl⟩
      · exact ⟨false, view.asked, rfl⟩
  obtain ⟨allowed, asked, hanswer⟩ := hanswer
  refine ⟨allowed, { view with
    calls := view.calls ++ [.deviceSecurity securityMode allowed], asked := asked }, ?_,
    List.length_append⟩
  change (secureKeypadDeviceSecurityAllows device securityMode view).bind _ = _
  rw [hanswer]
  rfl

/-- A boundary that answers at once, with what it does if the answer is no. -/
theorem passes_or_ends {fail : Method Theme Unit} (hfail : fail.Guar Unmoved) (answer : Bool)
    {pre view : View Theme} (hpre : Unmoved pre view) :
    ((if answer then pure true else (do fail; pure false) : Method Theme Bool) view = .done true view) ∨
      ((if answer then pure true else (do fail; pure false) : Method Theme Bool) view).Ends Unmoved
        (· = false) pre := by
  cases answer with
  | true => exact .inl rfl
  | false =>
    right
    refine Res.Ends.before (Res.Ends.ends_bind (hfail view).ends fun _ _ view => ?_) hpre
    exact ⟨Keeping.refl view, rfl⟩

/-- **The boundary** is passed at once, behind two checks, or it is not passed. -/
theorem boundary_cases (view : View Theme) :
    (∃ after, ensureSecureInputBoundary device view = .done true after ∧
      after.calls.length = view.calls.length + 2) ∨
    (ensureSecureInputBoundary device view).Ends Unmoved (· = false) view := by
  have hguar := deviceSecurityAllows_guar device
    ((view.retainedConfiguration.map RetainedConfiguration.securityMode).getD "standard") view
  obtain ⟨allowed, checked, hallows, hcalls⟩ := exists_deviceSecurityAllows device
    ((view.retainedConfiguration.map RetainedConfiguration.securityMode).getD "standard") view
  rw [hallows] at hguar
  have hdevice : ensureSecureDeviceSecurityBoundary device view =
      (if allowed then pure true else (do failClosedBoundary; pure false) :
        Method Theme Bool) checked := by
    rw [ensureSecureDeviceSecurityBoundary, Code.get_bind]
    change (deviceSecurityAllows device _ view).bind _ = _
    rw [hallows]
    cases allowed with
    | true => rfl
    | false => exact (congrFun (Code.bind_assoc _ _ _) checked).symm
  change (∃ after, (ensureSecureDeviceSecurityBoundary device view).bind _ = _ ∧ _) ∨
    ((ensureSecureDeviceSecurityBoundary device view).bind _).Ends Unmoved (· = false) view
  rw [hdevice]
  rcases passes_or_ends failClosed_guar allowed hguar with hpasses | hends
  · rw [hpasses]
    -- The window check is made at once, too.
    have hsecured : Unmoved view { checked with
        calls := checked.calls ++ [.windowProtection (device.replies checked.asked).windowSecure]
        asked := checked.asked + 1 } :=
      Keeping.trans _ _ _ hguar (ensureSecureWindowProtection_guar device checked)
    rcases passes_or_ends failClosed_guar (device.replies checked.asked).windowSecure hsecured with
      hpasses | hends
    · exact .inl ⟨_, hpasses, by rw [List.length_append, hcalls]; rfl⟩
    · exact .inr hends
  · right
    refine hends.ends_bind ?_
    rintro _ rfl view
    exact ⟨Keeping.refl view, rfl⟩

theorem ask_bind {α β : Type} (answer : Reply → α) (f : α → Method Theme β) (view : View Theme) :
    (ask device answer >>= f) view =
      f (answer (device.replies view.asked)) { view with asked := view.asked + 1 } := rfl

theorem record_bind {β : Type} (call : NativeCall) (f : Unit → Method Theme β) (view : View Theme) :
    (record call >>= f) view = f () { view with calls := view.calls ++ [call] } := rfl

/-- What the native call of a key comes to: it is made at once and has succeeded, or the activation
    comes to nothing. -/
def CallsAtOnce (view : View Theme)
    (res : Res (View Theme) HostCallback Failure (Option Failure) (Option (ℤ × Option ℕ))) : Prop :=
  (∃ submission after, res = .done (some (0, submission)) after ∧
    ReplayFloor.Acted (headlessGauge Theme) view.calls.length after) ∨
  res.Ends Unmoved (fun result => ∀ submission, result ≠ some (0, submission)) view

/-- For a key with a status the answer decides. -/
theorem callsAtOnce_status (call : ℤ → NativeCall) (hsucceeds : (call 0).keySucceeds = true)
    (view : View Theme) :
    CallsAtOnce view ((do
      let status ← ask device Reply.status
      record (call status)
      pure (some (status, none)) : Method Theme (Option (ℤ × Option ℕ))) view) := by
  have hguar := guar_bind (ask_guar device Reply.status) (fun status =>
    guar_bind (record_guar (call status)) fun _ => guar_pure (some (status, (none : Option ℕ)))) view
  by_cases hzero : (device.replies view.asked).status = 0
  · refine .inl ⟨none, { view with
      calls := view.calls ++ [call 0], asked := view.asked + 1 }, ?_,
      ReplayFloor.acted_of_concat (headlessGauge Theme) rfl hsucceeds⟩
    rw [← hzero]
    rfl
  · refine .inr ⟨hguar, fun submission h => hzero ?_⟩
    injection h with h
    exact congrArg Prod.fst h

theorem callsAtOnce_nativeActivation (handle : ℕ) (key : KeySpec) (view : View Theme) :
    CallsAtOnce view (nativeActivation device handle key view) := by
  unfold nativeActivation
  cases key.role with
  | input => exact callsAtOnce_status device (.sessionPressKey handle key.id) rfl view
  | backspace => exact callsAtOnce_status device (.sessionBackspace handle) rfl view
  | clear => exact callsAtOnce_status device (.sessionClear handle) rfl view
  | cancel => exact callsAtOnce_status device (.sessionCancel handle) rfl view
  | spacer => exact .inr ⟨Keeping.refl view, nofun⟩
  | submit =>
    have hcalled : Unmoved view { view with
        calls := view.calls ++ [.sessionSubmit handle (device.replies view.asked).submission]
        asked := view.asked + 1 } := ⟨rfl, rfl, rfl, rfl, List.prefix_append _ _⟩
    simp only [ask_bind, record_bind]
    revert hcalled
    cases (device.replies view.asked).submission with
    | none =>
      intro hcalled
      exact .inr (giveUp_ends (releaseNative_guar 0) errorInternal (by simp) hcalled)
    | some raw =>
      intro hcalled
      simp only [Code.get_bind]
      by_cases hinstalled : view.onSubmit = true
      · rw [if_pos hinstalled]
        exact .inl ⟨some view.submissions.length, _, rfl,
          ReplayFloor.acted_of_concat (headlessGauge Theme) rfl rfl⟩
      · rw [if_neg hinstalled]
        exact .inr (giveUp_ends (record_guar _) errorInternal (by simp) hcalled)

/-- Behind a native call that has not succeeded nothing comes of the activation. -/
theorem finishActivation_ends {result : Option (ℤ × Option ℕ)}
    (hfailed : ∀ submission, result ≠ some (0, submission)) (view : View Theme) :
    (finishActivation device result view).Ends Unmoved (· = false) view := by
  cases result with
  | none => exact ⟨Keeping.refl view, rfl⟩
  | some result =>
    obtain ⟨status, submission⟩ := result
    have hstatus : status ≠ 0 := fun hzero => hfailed submission (by rw [hzero])
    simp only [finishActivation]
    rw [if_pos hstatus]
    exact giveUp_ends (releaseNative_guar 0) status (by rfl) (Keeping.refl view)

/-- **An activation** comes to nothing, or has made its native call before it first calls the
    host. -/
theorem activate_cases (key : KeySpec) (view : View Theme) :
    (activate device key view).Ends Unmoved (· = false) view ∨
      ReplayFloor.Acted (headlessGauge Theme) view.activationCall
        (activate device key view).state := by
  rw [activate_eq]
  change ((ensureSecureInputBoundary device view).bind _).Ends _ _ _ ∨
    ReplayFloor.Acted _ _ ((ensureSecureInputBoundary device view).bind _).state
  have hboundary := ensureSecureInputBoundary_guar device view
  rcases boundary_cases device view with ⟨secured, hpasses, hcalls⟩ | hfails
  · rw [hpasses] at hboundary ⊢
    simp only [Res.bind, if_true, Code.get_bind]
    cases secured.sessionHandle with
    | none => exact .inl ⟨hboundary, rfl⟩
    | some handle =>
      -- Nothing has called the host so far.
      change ((nativeActivation device handle key secured).bind _).Ends _ _ _ ∨
        ReplayFloor.Acted _ _ ((nativeActivation device handle key secured).bind _).state
      rcases callsAtOnce_nativeActivation device handle key secured with
        ⟨submission, called, hdone, hacted⟩ | hfails
      · right
        rw [hdone]
        rw [hcalls] at hacted
        exact hacted.mono (finishActivation_guar device (some (0, submission)) called).state.calls
      · exact .inl ((hfails.before hboundary).ends_bind fun _ hfailed view =>
          finishActivation_ends device hfailed view)
  · left
    refine hfails.ends_bind ?_
    rintro _ rfl view
    exact ⟨Keeping.refl view, rfl⟩

/-- **A cancellation** comes to nothing, or has made its native call before it first calls the
    host. -/
theorem cancelSessionAndReport_cases (view : View Theme) :
    (cancelSessionAndReport device view).Ends Unmoved (· = false) view ∨
      ReplayFloor.Acted (cancelGauge Theme) view.cancelCall
        (cancelSessionAndReport device view).state := by
  simp only [cancelSessionAndReport, Code.get_bind]
  cases view.sessionHandle with
  | none => exact .inl ⟨Keeping.refl view, rfl⟩
  | some handle =>
    simp only [ask_bind, record_bind]
    have hcalled : Unmoved view { view with
        calls := view.calls ++ [.sessionCancel handle (device.replies view.asked).status]
        asked := view.asked + 1 } := ⟨rfl, rfl, rfl, rfl, List.prefix_append _ _⟩
    by_cases hzero : (device.replies view.asked).status = 0
    · right
      rw [if_neg (not_not_intro hzero)]
      have hacted := ReplayFloor.acted_of_concat (cancelGauge Theme) (a := view) (b := { view with
        calls := view.calls ++ [.sessionCancel handle (device.replies view.asked).status]
        asked := view.asked + 1 }) rfl (decide_eq_true hzero)
      exact hacted.mono (refreshMaskedState_guar device _).state.cancelSame.log
    · left
      rw [if_pos hzero]
      exact giveUp_ends (releaseNative_guar 0) _ (by rfl) hcalled

/-! ## The two numbered commands -/

/-- What is known of a command from its issue, if it was accepted. -/
structure Tag where
  headless : Option ReplayFloor.Stamp
  cancel : Option ReplayFloor.Stamp

/-- The comparisons a command makes when it is issued. -/
def Command.tag : Command Theme → View Theme → Tag
  | .requestHeadlessKeyPress requestId keyId, view =>
    ⟨(acceptedKey (view.refusesHeadless requestId keyId) view.lastHeadlessKeyPress requestId
      (view.key keyId)).map fun _ => ⟨requestId, view.lastHeadlessKeyPress, view.calls.length⟩, none⟩
  | .requestCancel requestId, view =>
    ⟨none, if monotonicCommandDecision view.lastCancelRequest requestId = .accept then
      some ⟨requestId, view.lastCancelRequest, view.calls.length⟩ else none⟩
  | _, _ => ⟨none, none⟩

/-- Every command but the two numbered ones leaves both floors alone. -/
theorem code_guar {command : Command Theme}
    (hpress : ∀ requestId keyId, command ≠ .requestHeadlessKeyPress requestId keyId)
    (hcancel : ∀ requestId, command ≠ .requestCancel requestId) :
    (command.code device).Guar Unmoved := by
  cases command with
  | configure configuration => exact configure_guar device configuration
  | setRendererMode mode acknowledge =>
    exact guar_ite (aside_guar fun _ => ⟨rfl, rfl, rfl, rfl, rfl⟩) (guar_throw _)
  | releaseSession => exact releaseSession_guar
  | cancelSession => exact guar_bind (cancelSessionAndReport_guar device) fun _ => guar_pure _
  | requestCancel requestId => exact absurd rfl (hcancel requestId)
  | requestHeadlessKeyPress requestId keyId => exact absurd rfl (hpress requestId keyId)
  | click keyId =>
    refine guar_bind guar_get fun view => ?_
    cases view.key keyId with
    | none => exact guar_pure _
    | some key => exact guar_bind (activate_guar device key) fun _ => guar_pure _
  | onAttachedToWindow => exact regained_guar device
  | onDetachedFromWindow => exact releaseNative_guar 0
  | onWindowFocusChanged hasWindowFocus => exact guar_ite (regained_guar device) zeroize_guar
  | onWindowVisibilityChanged visible => exact guar_ite (regained_guar device) zeroize_guar
  | obscuredTouch => exact failClosed_guar
  | setCallbacks submit maskedState error reconfiguration =>
    exact aside_guar fun _ => ⟨rfl, rfl, rfl, rfl, rfl⟩
  | closeSubmission submission => exact closeSubmission_guar submission
  | takeNativeHandle submission => exact takeNativeHandle_guar submission

/-- A cancel command leaves the headless floor alone. -/
theorem requestCancel_guar (requestId : ℤ) :
    (requestCancel device requestId).Guar (ReplayFloor.Same (headlessGauge Theme)) := by
  refine guar_bind guar_get fun view => ?_
  cases monotonicCommandDecision view.lastCancelRequest requestId with
  | invalid => exact (onError_guar _).mono fun _ _ h => h.headlessSame
  | ignore => exact guar_pure _
  | accept =>
    refine guar_bind ((cancelSessionAndReport_guar device).mono fun _ _ h => h.headlessSame)
      fun done => ?_
    exact guar_ite (guar_modify fun _ => ⟨rfl, rfl, List.prefix_rfl⟩) (guar_pure _)

/-- A headless command leaves the cancel floor alone. -/
theorem requestHeadlessKeyPress_guar (requestId : ℤ) (keyId : String) :
    (requestHeadlessKeyPress device requestId keyId).Guar
      (ReplayFloor.Same (cancelGauge Theme)) := by
  refine guar_bind guar_get fun view => ?_
  cases hkey : acceptedKey (view.refusesHeadless requestId keyId) view.lastHeadlessKeyPress
      requestId (view.key keyId) with
  | none =>
    rcases headlessBranch_of_not_accepted (onError errorInvalid) (pure ())
      (headlessWork device requestId) hkey with hcode | hcode
    · rw [hcode]
      exact (onError_guar _).mono fun _ _ h => h.cancelSame
    · rw [hcode]
      exact guar_pure _
  | some key =>
    rw [headlessBranch_of_accepted _ _ _ hkey]
    refine guar_bind ((ensureSecureInputBoundary_guar device).mono fun _ _ h => h.cancelSame)
      fun secure => guar_ite ?_ (guar_pure _)
    refine guar_bind guar_get fun view => ?_
    refine guar_bind ((activate_guar device key).mono fun _ _ h => h.cancelSame) fun done => ?_
    exact guar_ite (guar_modify fun _ => ⟨rfl, rfl, List.prefix_rfl⟩) (guar_pure _)

/-- **An accepted headless command** is on its way: a boundary that is passed does not call the host,
    and the assignment comes behind the activation. -/
theorem headlessWork_onItsWay {stamp : ReplayFloor.Stamp} (key : KeySpec) {view : View Theme}
    (hsince : stamp.since = view.calls.length) :
    ReplayFloor.OnItsWay (headlessGauge Theme) (some stamp) view
      (headlessWork device stamp.number key view) := by
  change ReplayFloor.OnItsWay _ _ _ ((ensureSecureInputBoundary device view).bind _)
  have hboundary := ensureSecureInputBoundary_guar device view
  rcases boundary_cases device view with ⟨secured, hpasses, -⟩ | hfails
  · rw [hpasses] at hboundary ⊢
    simp only [Res.bind, if_true, Code.get_bind]
    have hsince' : stamp.since ≤ secured.activationCall := by
      rw [hsince]
      exact hboundary.calls.length_le.trans (Nat.le_add_right _ 2)
    refine ReplayFloor.OnItsWay.before ?_ hboundary.headlessSame
    refine ReplayFloor.onItsWay_raise
      ((activate_guar device key).mono (fun _ _ h => h.headlessSame) secured) hsince' ?_
      fun view => headlessAssigns view _ _
    exact (activate_cases device key secured).imp_left fun h => h.mono fun _ _ h => h.headlessSame
  · left
    refine (hfails.mono fun _ _ h => h.headlessSame).guar_bind ?_
    rintro _ rfl
    exact guar_pure ()

theorem requestHeadlessKeyPress_onItsWay (requestId : ℤ) (keyId : String) (view : View Theme) :
    ReplayFloor.OnItsWay (headlessGauge Theme)
      ((Command.requestHeadlessKeyPress requestId keyId).tag view).headless view
      (requestHeadlessKeyPress device requestId keyId view) := by
  change ReplayFloor.OnItsWay _ (Option.map _ _) view
    ((headlessBranch (view.refusesHeadless requestId keyId) view.lastHeadlessKeyPress requestId
      (view.key keyId) (onError errorInvalid) (pure ()) (headlessWork device requestId) :
      Method Theme Unit) view)
  cases hkey : acceptedKey (view.refusesHeadless requestId keyId) view.lastHeadlessKeyPress
      requestId (view.key keyId) with
  | none =>
    left
    rcases headlessBranch_of_not_accepted (onError errorInvalid) (pure ())
      (headlessWork device requestId) hkey with hcode | hcode
    · rw [hcode]
      exact (onError_guar _).mono (fun _ _ h => h.headlessSame) view
    · rw [hcode]
      exact guar_pure _ view
  | some key =>
    rw [headlessBranch_of_accepted _ _ _ hkey]
    exact headlessWork_onItsWay device key rfl

theorem requestCancel_onItsWay (requestId : ℤ) (view : View Theme) :
    ReplayFloor.OnItsWay (cancelGauge Theme)
      ((Command.requestCancel requestId : Command Theme).tag view).cancel view
      (requestCancel device requestId view) := by
  change ReplayFloor.OnItsWay _ (if _ then _ else _) view _
  rw [requestCancel, Code.get_bind]
  cases monotonicCommandDecision view.lastCancelRequest requestId with
  | invalid => exact .inl ((onError_guar _).mono (fun _ _ h => h.cancelSame) view)
  | ignore => exact .inl (guar_pure _ view)
  | accept =>
    refine ReplayFloor.onItsWay_raise
      ((cancelSessionAndReport_guar device).mono (fun _ _ h => h.cancelSame) view) le_rfl ?_
      fun view => cancelAssigns view _ _
    exact (cancelSessionAndReport_cases device view).imp_left
      fun h => h.mono fun _ _ h => h.cancelSame

/-- **Headless commands** compare first and assign last. -/
theorem headless_guarded :
    ReplayFloor.Guarded (headlessGauge Theme) (Command.code device) Command.tag Tag.headless := by
  constructor
  · intro command view stamp haccepted
    cases command with
    | requestHeadlessKeyPress requestId keyId =>
      obtain ⟨key, hkey, rfl⟩ := Option.map_eq_some_iff.mp haccepted
      exact ⟨lt_of_acceptedKey hkey, rfl, rfl⟩
    | _ => cases haccepted
  · intro command view
    cases command with
    | requestHeadlessKeyPress requestId keyId =>
      exact requestHeadlessKeyPress_onItsWay device requestId keyId view
    | requestCancel requestId => exact .inl (requestCancel_guar device requestId view)
    | _ =>
      exact .inl ((code_guar device (by simp) (by simp)).mono (fun _ _ h => h.headlessSame) view)

/-- **Cancel commands** compare first and assign last. -/
theorem cancel_guarded :
    ReplayFloor.Guarded (cancelGauge Theme) (Command.code device) Command.tag Tag.cancel := by
  constructor
  · intro command view stamp haccepted
    cases command with
    | requestCancel requestId =>
      simp only [Command.tag] at haccepted
      split at haccepted
      · next haccept =>
        cases haccepted
        exact ⟨lt_of_accept haccept, rfl, rfl⟩
      · cases haccepted
    | _ => cases haccepted
  · intro command view
    cases command with
    | requestCancel requestId => exact requestCancel_onItsWay device requestId view
    | requestHeadlessKeyPress requestId keyId =>
      exact .inl (requestHeadlessKeyPress_guar device requestId keyId view)
    | _ =>
      exact .inl ((code_guar device (by simp) (by simp)).mono (fun _ _ h => h.cancelSame) view)

end Device

end SecureKeypad.Native.Android
