import SecureKeypad.Native.IosView

/-!
# What the Methods of the iOS View Keep

Every method of the view is made of a few things it does at once: it records a call, frees the
session, holds a new one, or protects the presentation. A relation between views that each of them
keeps is kept by every stretch of every method, whatever the host does in between. The methods that
assign a floor are not among them: each relation says for itself what it makes of the floors.

## Main definitions

- `Kept`: what a relation has to keep

## Main results

- `code_kept`: then every command keeps it, the two numbered ones apart
- `activate_kept`: as does the activation of a key
-/

namespace SecureKeypad.Native.Ios

open Callback

variable {Theme : Type}

/-! ## What the methods do at once -/

/-- The session and the status of a key's call. -/
def NativeCall.keyPress? : NativeCall → Option (ℕ × ℕ)
  | .sessionPressKey session _ status => some (session, status)
  | .sessionBackspace session status => some (session, status)
  | .sessionClear session status => some (session, status)
  | .sessionSubmit session status _ => some (session, status)
  | _ => none

/-- What the relations look at. -/
structure Core where
  session : Option ℕ
  protectedPresentation : Bool
  history : List Moment
  lastHeadlessKeyPress : Option ℤ
  headlessEffects : List (ℕ × ℤ)
  lastCancelRequest : Option ℤ
  cancelEffects : List (ℕ × ℤ)

namespace View

def core (view : View Theme) : Core where
  session := view.session
  protectedPresentation := view.protectedPresentation
  history := view.history
  lastHeadlessKeyPress := view.lastHeadlessKeyPress
  headlessEffects := view.headlessEffects
  lastCancelRequest := view.lastCancelRequest
  cancelEffects := view.cancelEffects

/-- Replies have been used. -/
def used (view : View Theme) (asked : ℕ) : View Theme := { view with asked }

/-- A call is on record. -/
def recorded (view : View Theme) (call : NativeCall) : View Theme :=
  { view with calls := view.calls ++ [call], history := view.history ++ [.call call] }

/-- The session is freed. -/
def freed (view : View Theme) (session : ℕ) : View Theme :=
  { view.recorded (.sessionFree session) with session := none }

/-- A new session is held. -/
def holding (view : View Theme) (session : ℕ) (layout : List KeySpec) : View Theme :=
  { view with
    session := some session, activeLayout := layout, history := view.history ++ [.held session] }

/-- The presentation is protected, or not. -/
def presented (view : View Theme) (isProtected : Bool) : View Theme :=
  { view with
    protectedPresentation := isProtected, history := view.history ++ [.protection isProtected] }

end View

/-- `G` is kept by what the methods do at once. -/
structure Kept (G : View Theme → View Theme → Prop) : Prop where
  aside : ∀ {a b : View Theme}, b.core = a.core → G a b
  /-- Keys are only passed on under a presentation that is not protected. -/
  recorded : ∀ (view : View Theme) (call : NativeCall), (∀ session, call ≠ .sessionFree session) →
    (view.protectedPresentation = true → call.keyPress? = none) → G view (view.recorded call)
  freed : ∀ {view : View Theme} {session : ℕ}, view.session = some session →
    G view (view.freed session)
  holding : ∀ (view : View Theme) (session : ℕ) (layout : List KeySpec),
    G view (view.holding session layout)
  presented : ∀ (view : View Theme) (isProtected : Bool),
    (isProtected = true → view.session = none) → G view (view.presented isProtected)
  /-- A session held when the presentation becomes protected is freed at once. -/
  cleared : ∀ {view : View Theme} {session : ℕ}, view.session = some session →
    G view ((view.presented true).freed session)

/-- The posture checks only use replies. -/
theorem exists_deviceSecurityAllows (device : Device Theme) (securityMode : String)
    (view : View Theme) :
    ∃ allows asked, deviceSecurityAllows device securityMode view =
      .done allows (view.used asked) := by
  unfold deviceSecurityAllows
  split
  · exact ⟨true, view.asked, rfl⟩
  · split
    · exact ⟨_, view.asked + 1, rfl⟩
    · exact ⟨false, view.asked, rfl⟩

variable {G : View Theme → View Theme → Prop}

theorem record_kept (kept : Kept G) {call : NativeCall}
    (hfree : ∀ session, call ≠ .sessionFree session) (hkey : call.keyPress? = none) :
    (record call : Method Theme Unit).Guar G :=
  guar_modify fun view => kept.recorded view call hfree fun _ => hkey

theorem aside_kept (kept : Kept G) {f : View Theme → View Theme}
    (h : ∀ view, (f view).core = view.core) : (Code.modify f : Method Theme Unit).Guar G :=
  guar_modify fun view => kept.aside (h view)

theorem retain_kept (kept : Kept G) (configuration : Option (RetainedConfiguration Theme)) :
    (Code.modify ({ · with retainedConfiguration := configuration }) :
      Method Theme Unit).Guar G :=
  aside_kept kept fun _ => rfl

variable [Keeping G]

/-! ## Sessions -/

theorem invoke_kept (installed : View Theme → Bool) (c : HostCallback) :
    (invoke installed c).Guar G :=
  guar_bind guar_get fun _ => guar_ite (guar_callback c) (guar_pure _)

theorem onError_kept (code : ℕ) : (onError code : Method Theme Unit).Guar G := invoke_kept _ _

theorem onMaskedStateChanged_kept (length displayState : ℕ) :
    (onMaskedStateChanged length displayState : Method Theme Unit).Guar G := invoke_kept _ _

section Kept

variable (kept : Kept G)

include kept

theorem freeSession_kept : (freeSession : Method Theme Unit).Guar G := by
  intro view
  rw [freeSession, Code.get_bind]
  cases hsession : view.session with
  | none => exact guar_pure () view
  | some session => exact kept.freed hsession

theorem releaseNative_kept (displayState : ℕ) :
    (releaseNativeSessionPreservingConfiguration displayState : Method Theme Unit).Guar G :=
  guar_bind (freeSession_kept kept) fun _ => onMaskedStateChanged_kept _ _

theorem releaseSession_kept : (releaseSession : Method Theme Unit).Guar G :=
  guar_bind (releaseNative_kept kept 0) fun _ => retain_kept kept none

omit kept in
/-- A method ends in `return false` behind the release of the session and an error. -/
theorem giveUp_kept {release : Method Theme Unit} (h : release.Guar G) (code : ℕ) {α : Type}
    (a : α) : (do release; onError code; pure a : Method Theme α).Guar G :=
  guar_bind h fun _ => guar_bind (onError_kept code) fun _ => guar_pure a

theorem clearSessionIf_kept (condition : Bool) :
    (clearSessionIf condition : Method Theme Unit).Guar G :=
  guar_bind guar_get fun _ => guar_ite (releaseNative_kept kept 3) (guar_pure _)

variable (device : Device Theme)

theorem ask_kept {α : Type} (answer : Reply → α) : (ask device answer).Guar G :=
  guar_bind guar_get fun _ => guar_bind (aside_kept kept fun _ => rfl) fun _ => guar_pure _

theorem deviceSecurityAllows_kept (securityMode : String) :
    (deviceSecurityAllows device securityMode).Guar G :=
  guar_ite (guar_pure _) (guar_ite (ask_kept kept device _) (guar_pure _))

theorem refreshMaskedState_kept : (refreshMaskedState device).Guar G := by
  refine guar_bind guar_get fun view => ?_
  cases view.session with
  | none => exact guar_pure _
  | some session =>
    refine guar_bind (ask_kept kept device _) fun reply =>
      guar_bind (record_kept kept (by simp) rfl) fun _ => ?_
    refine guar_ite (giveUp_kept (releaseSession_kept kept) _ _)
      (guar_ite (giveUp_kept (releaseSession_kept kept) _ _) ?_)
    exact guar_bind (onMaskedStateChanged_kept _ _) fun _ => guar_pure _

theorem startSession_kept (configuration : RetainedConfiguration Theme) :
    (startSession device configuration).Guar G := by
  refine guar_bind (ask_kept kept device _) fun abiVersion => guar_ite (guar_throw _) ?_
  refine guar_bind (ask_kept kept device _) fun answer =>
    guar_bind (record_kept kept (by simp) rfl) fun _ => ?_
  cases answer.2 with
  | none => exact guar_throw _
  | some session =>
    refine guar_ite (guar_throw _) ?_
    exact guar_bind (guar_modify fun view => kept.holding view session _) fun _ =>
      guar_bind (refreshMaskedState_kept kept device) fun _ => guar_pure _

theorem configure_kept (configuration : RetainedConfiguration Theme) :
    (configure device configuration).Guar G := by
  refine guar_ite (guar_throw _) (guar_bind (ask_kept kept device _) fun abiVersion =>
    guar_ite (guar_throw _) ?_)
  refine guar_bind (retain_kept kept none) fun _ => guar_bind (releaseNative_kept kept 0) fun _ =>
    guar_bind (deviceSecurityAllows_kept kept device _) fun _ => guar_ite ?_ (onError_kept _)
  refine guar_bind (startSession_kept kept device configuration) fun _ =>
    guar_bind guar_get fun view => ?_
  cases view.session with
  | none => exact guar_throw _
  | some session => exact retain_kept kept _

theorem reconfigure_kept : (reconfigureRetainedConfiguration device).Guar G := by
  -- What ends the configuration: it is dropped, and an error is reported.
  have hdrop : ∀ report : Method Theme Unit, report.Guar G → (do
      Code.modify ({ · with retainedConfiguration := none })
      releaseNativeSessionPreservingConfiguration 0
      report : Method Theme Unit).Guar G :=
    fun report h => guar_bind (retain_kept kept none) fun _ =>
      guar_bind (releaseNative_kept kept 0) fun _ => h
  refine guar_bind guar_get fun view => ?_
  split
  · refine guar_bind (deviceSecurityAllows_kept kept device _) fun _ =>
      guar_ite ?_ (hdrop _ (onError_kept _))
    refine guar_attempt ?_ ?_
    · refine guar_bind (startSession_kept kept device _) fun _ => guar_bind guar_get fun view => ?_
      cases view.session with
      | none => exact retain_kept kept none
      | some session => exact guar_pure _
    · intro error
      cases error with
      | invalidLayout => exact hdrop _ (onError_kept _)
      | abiMismatch => exact hdrop _ (onError_kept _)
      | nativeFailure status => exact hdrop _ (onError_kept _)
  · exact guar_pure _

theorem requestReconfiguration_kept : (requestSessionReconfigurationIfNeeded device).Guar G := by
  refine guar_bind (ask_kept kept device _) fun hasWindow => guar_bind guar_get fun view =>
    guar_ite ?_ (guar_pure _)
  exact guar_ite (invoke_kept _ _) (reconfigure_kept kept device)

/-! ## Protection -/

/-- The presentation changes and a session held under a protected one is freed before the host runs
    again. -/
theorem present_kept (isProtected : Bool) :
    (Code.modify (View.presented · isProtected) >>= fun _ => clearSessionIf isProtected :
      Method Theme Unit).Guar G := by
  intro view
  rw [Code.modify_bind, clearSessionIf, Code.get_bind]
  by_cases hclears : isProtected = true ∧ (view.presented isProtected).session ≠ none
  · rw [if_pos hclears]
    obtain ⟨rfl, hheld⟩ := hclears
    obtain ⟨session, hsession⟩ := Option.ne_none_iff_exists'.mp hheld
    have hfree : (freeSession (view.presented true) : Res (View Theme) HostCallback ViewError Unit
        Unit) = .done () ((view.presented true).freed session) := by
      rw [freeSession, Code.get_bind, hsession]
      rfl
    change ((freeSession (view.presented true)).bind _).Guar G view
    rw [hfree]
    exact (onMaskedStateChanged_kept 0 3 _).before (kept.cleared hsession)
  · rw [if_neg hclears]
    refine (guar_pure () (view.presented isProtected)).before (kept.presented view isProtected ?_)
    intro hprotected
    by_contra hheld
    exact hclears ⟨hprotected, hheld⟩

theorem setProtectedPresentation_kept (isProtected : Bool) :
    (setProtectedPresentation device isProtected).Guar G := by
  have hsplit : setProtectedPresentation device isProtected =
      (Code.modify (View.presented · isProtected) >>= fun _ => clearSessionIf isProtected) >>=
        fun _ => (do
          let _ ← refreshMaskedState device
          pure ()) := by
    rw [Code.bind_assoc]
    rfl
  rw [hsplit]
  exact guar_bind (present_kept kept isProtected) fun _ =>
    guar_bind (refreshMaskedState_kept kept device) fun _ => guar_pure _

theorem sceneDidActivate_kept : (sceneDidActivate device).Guar G := by
  have hprotection : (refreshProtectionState device).Guar G :=
    guar_bind (ask_kept kept device _) fun _ => guar_bind (ask_kept kept device _) fun _ =>
      setProtectedPresentation_kept kept device _
  exact guar_bind hprotection fun _ => requestReconfiguration_kept kept device

/-! ## Keys -/

theorem closeSubmission_kept (submission : ℕ) :
    (closeSubmission submission : Method Theme Unit).Guar G := by
  refine guar_bind guar_get fun view => ?_
  cases view.submissions[submission]?.join with
  | none => exact guar_pure _
  | some raw =>
    exact guar_bind (record_kept kept (by simp) rfl) fun _ => aside_kept kept fun _ => rfl

theorem deliver_kept (submission : ℕ) : (deliver submission : Method Theme Unit).Guar G :=
  guar_bind guar_get fun _ => guar_ite (guar_callback _) (closeSubmission_kept kept submission)

/-- The call of a key, under a presentation that is not protected. -/
theorem nativeActivation_kept (session : ℕ) (key : KeySpec) {view : View Theme}
    (hopen : view.protectedPresentation = false) :
    (nativeActivation device session key view).Guar G view := by
  -- The reply is used, and the call recorded, before anything else happens.
  have hrecord : ∀ call : NativeCall, (∀ session, call ≠ .sessionFree session) →
      G view ((view.used (view.asked + 1)).recorded call) := by
    intro call hfree
    have hused : G view (view.used (view.asked + 1)) := kept.aside rfl
    refine Keeping.trans _ _ _ hused (kept.recorded _ call hfree ?_)
    intro hprotected
    cases hopen.symm.trans hprotected
  unfold nativeActivation
  cases key.role with
  | input => exact hrecord (.sessionPressKey session key.id _) (by simp)
  | backspace => exact hrecord (.sessionBackspace session _) (by simp)
  | clear => exact hrecord (.sessionClear session _) (by simp)
  | cancel => exact hrecord (.sessionCancel session _) (by simp)
  | spacer => exact guar_pure none view
  | submit =>
    refine Res.Guar.before ?_ (hrecord (.sessionSubmit session
      (device.replies view.asked).status (device.replies view.asked).submission) (by simp))
    refine (guar_ite (guar_pure _) ?_ : Code.Guar G _) _
    cases (device.replies view.asked).submission with
    | none => exact giveUp_kept (releaseNative_kept kept 0) _ _
    | some raw =>
      refine guar_bind guar_get fun view =>
        guar_ite ?_ (giveUp_kept (record_kept kept (by simp) rfl) _ _)
      exact guar_bind (aside_kept kept fun _ => rfl) fun _ => guar_pure _

theorem finishActivation_kept (result : Option (ℕ × Option ℕ)) :
    (finishActivation device result).Guar G := by
  cases result with
  | none => exact guar_pure _
  | some result =>
    refine guar_ite (giveUp_kept (releaseNative_kept kept 0) _ _) ?_
    refine guar_bind (refreshMaskedState_kept kept device) fun _ => ?_
    cases result.2 with
    | none => exact guar_ite (guar_pure _) (guar_pure _)
    | some submission =>
      exact guar_ite (guar_bind (deliver_kept kept submission) fun _ => guar_pure _)
        (guar_bind (closeSubmission_kept kept submission) fun _ => guar_pure _)

theorem activate_kept (key : KeySpec) : (activate device key).Guar G := by
  intro view
  rw [activate_eq, Code.get_bind]
  cases view.session with
  | none => exact guar_pure false view
  | some session =>
    obtain ⟨allows, asked, hallows⟩ := exists_deviceSecurityAllows device
      ((view.retainedConfiguration.map RetainedConfiguration.securityMode).getD "standard") view
    change ((deviceSecurityAllows device _ view).bind _).Guar G view
    rw [hallows]
    refine Res.Guar.before ?_ (kept.aside (b := view.used asked) rfl)
    cases allows with
    | false => exact giveUp_kept (releaseNative_kept kept 0) _ _ _
    | true =>
      change ((if view.protectedPresentation then pure false else _ : Method Theme Bool)
        (view.used asked)).Guar G (view.used asked)
      cases hopen : view.protectedPresentation with
      | true => exact guar_pure false _
      | false =>
        exact Res.guar_bind (nativeActivation_kept kept device session key hopen)
          (finishActivation_kept kept device)

theorem cancelSessionAndReport_kept : (cancelSessionAndReport device).Guar G := by
  refine guar_bind guar_get fun view => ?_
  cases view.session with
  | none => exact guar_pure _
  | some session =>
    exact guar_bind (ask_kept kept device _) fun _ =>
      guar_bind (record_kept kept (by simp) rfl) fun _ =>
        guar_ite (giveUp_kept (releaseNative_kept kept 0) _ _) (refreshMaskedState_kept kept device)

/-! ## Commands -/

/-- **Every command keeps the relation**, those that assign a floor apart. -/
theorem code_kept {command : Command Theme}
    (hpress : ∀ requestId keyId, command ≠ .requestHeadlessKeyPress requestId keyId)
    (hcancel : ∀ requestId, command ≠ .requestCancel requestId) :
    (command.code device).Guar G := by
  -- Every other command is made of methods that keep the floor.
  cases command with
  | configure configuration => exact configure_kept kept device configuration
  | setRendererMode mode acknowledge =>
    exact guar_ite (aside_kept kept fun _ => rfl) (onError_kept _)
  | releaseSession => exact releaseSession_kept kept
  | cancelSession => exact guar_bind (cancelSessionAndReport_kept kept device) fun _ => guar_pure _
  | requestCancel requestId => exact absurd rfl (hcancel requestId)
  | requestHeadlessKeyPress requestId keyId => exact absurd rfl (hpress requestId keyId)
  | touch keyId =>
    refine guar_bind guar_get fun view => ?_
    cases view.key keyId with
    | none => exact guar_pure _
    | some key => exact guar_bind (activate_kept kept device key) fun _ => guar_pure _
  | didMoveToWindow =>
    exact guar_bind (ask_kept kept device _) fun _ => guar_ite (sceneDidActivate_kept kept device)
      (guar_bind (releaseNative_kept kept 0) fun _ => sceneDidActivate_kept kept device)
  | sceneWillDeactivate =>
    exact guar_bind (releaseNative_kept kept 3) fun _ =>
      setProtectedPresentation_kept kept device true
  | sceneDidActivate => exact sceneDidActivate_kept kept device
  | capturedDidChange =>
    exact guar_bind (ask_kept kept device _) fun _ =>
      guar_bind (clearSessionIf_kept kept _) fun _ => sceneDidActivate_kept kept device
  | setCallbacks submit error maskedState reconfiguration => exact aside_kept kept fun _ => rfl
  | closeSubmission submission => exact closeSubmission_kept kept submission
  | takeOpaqueHandle submission => exact aside_kept kept fun _ => rfl

end Kept

end SecureKeypad.Native.Ios
