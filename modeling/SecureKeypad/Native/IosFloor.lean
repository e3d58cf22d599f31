import SecureKeypad.Library.ReplayFloor
import SecureKeypad.Native.IosMethods

/-!
# Replay Floors of the iOS View

As on Android: the two numbered commands compare first and assign last, every other method leaves
both floors alone, and an activation that does not fail has made its native call before it first
calls the host.

## Main results

- `activate_cases`, `cancelSessionAndReport_cases`: where the native calls are made
- `headless_guarded`, `cancel_guarded`: the commands are of the compare-first, assign-last kind
-/

namespace SecureKeypad.Native.Ios

open Callback

variable {Theme : Type}

/-- Both floors and both records of effects are as they were, and the history has only grown. -/
structure Unmoved (a b : View Theme) : Prop where
  headless : b.lastHeadlessKeyPress = a.lastHeadlessKeyPress
  headlessEffects : b.headlessEffects = a.headlessEffects
  cancel : b.lastCancelRequest = a.lastCancelRequest
  cancelEffects : b.cancelEffects = a.cancelEffects
  history : a.history <+: b.history

instance : Keeping (@Unmoved Theme) where
  refl _ := ⟨rfl, rfl, rfl, rfl, List.prefix_rfl⟩
  trans _ _ _ hab hbc :=
    ⟨hbc.1.trans hab.1, hbc.2.trans hab.2, hbc.3.trans hab.3, hbc.4.trans hab.4,
      hab.5.trans hbc.5⟩

/-- Nothing the methods do at once moves a floor. -/
theorem unmoved_kept : Kept (@Unmoved Theme) where
  aside h := ⟨congrArg Core.lastHeadlessKeyPress h, congrArg Core.headlessEffects h,
    congrArg Core.lastCancelRequest h, congrArg Core.cancelEffects h,
    [], (List.append_nil _).trans (congrArg Core.history h.symm)⟩
  recorded _ _ _ _ := ⟨rfl, rfl, rfl, rfl, List.prefix_append _ _⟩
  freed _ := ⟨rfl, rfl, rfl, rfl, List.prefix_append _ _⟩
  holding _ _ _ := ⟨rfl, rfl, rfl, rfl, List.prefix_append _ _⟩
  presented _ _ _ := ⟨rfl, rfl, rfl, rfl, List.prefix_append _ _⟩
  cleared _ :=
    ⟨rfl, rfl, rfl, rfl, (List.prefix_append _ _).trans (List.prefix_append _ _)⟩

/-! ## Where the native calls are made -/

/-- The native call of a key has succeeded. -/
def Moment.keySucceeds : Moment → Bool
  | .call (.sessionPressKey _ _ status) | .call (.sessionBackspace _ status)
  | .call (.sessionClear _ status) | .call (.sessionCancel _ status) => status = 0
  | .call (.sessionSubmit _ status submission) => status = 0 ∧ submission.isSome
  | _ => false

/-- The native call of a cancellation has succeeded. -/
def Moment.cancelSucceeds : Moment → Bool
  | .call (.sessionCancel _ status) => status = 0
  | _ => false

/-- `lastHeadlessKeyPress`, and the headless commands that took effect. -/
def headlessGauge (Theme : Type) : ReplayFloor.Gauge (View Theme) Moment :=
  ⟨View.lastHeadlessKeyPress, View.headlessEffects, View.history, Moment.keySucceeds⟩

/-- `lastCancelRequest`, and the cancel commands that took effect. -/
def cancelGauge (Theme : Type) : ReplayFloor.Gauge (View Theme) Moment :=
  ⟨View.lastCancelRequest, View.cancelEffects, View.history, Moment.cancelSucceeds⟩

theorem Unmoved.headlessSame {a b : View Theme} (h : Unmoved a b) :
    ReplayFloor.Same (headlessGauge Theme) a b := ⟨h.headless, h.headlessEffects, h.history⟩

theorem Unmoved.cancelSame {a b : View Theme} (h : Unmoved a b) :
    ReplayFloor.Same (cancelGauge Theme) a b := ⟨h.cancel, h.cancelEffects, h.history⟩

theorem headlessAssigns (view : View Theme) (position : ℕ) (requestId : ℤ) :
    ReplayFloor.Assigns (headlessGauge Theme) position requestId view
      (view.pressed position requestId) := ⟨rfl, rfl, List.prefix_rfl⟩

theorem cancelAssigns (view : View Theme) (position : ℕ) (requestId : ℤ) :
    ReplayFloor.Assigns (cancelGauge Theme) position requestId view
      (view.cancelled position requestId) := ⟨rfl, rfl, List.prefix_rfl⟩

/-- As `giveUp_kept`, for what is returned. -/
theorem giveUp_ends {release : Method Theme Unit} (h : release.Guar Unmoved) (code : ℕ) {α : Type}
    {P : α → Prop} {a : α} (ha : P a) {pre view : View Theme} (hpre : Unmoved pre view) :
    ((do release; onError code; pure a : Method Theme α) view).Ends Unmoved P pre := by
  refine Res.Ends.before ((h view).ends.ends_bind fun _ _ view => ?_) hpre
  exact (onError_kept code view).ends.ends_bind fun _ _ view => ⟨Keeping.refl view, ha⟩

section Device

variable (device : Device Theme)

theorem ask_bind {α β : Type} (answer : Reply → α) (f : α → Method Theme β) (view : View Theme) :
    (ask device answer >>= f) view =
      f (answer (device.replies view.asked)) (view.used (view.asked + 1)) := rfl

theorem record_bind {β : Type} (call : NativeCall) (f : Unit → Method Theme β) (view : View Theme) :
    (record call >>= f) view = f () (view.recorded call) := rfl

/-- A call that is answered and recorded now. -/
theorem unmoved_recorded (view : View Theme) (call : NativeCall) :
    Unmoved view ((view.used (view.asked + 1)).recorded call) :=
  ⟨rfl, rfl, rfl, rfl, List.prefix_append _ _⟩

/-- What the native call of a key comes to: it is made at once and has succeeded, or the activation
    comes to nothing. -/
def CallsAtOnce (view : View Theme)
    (res : Res (View Theme) HostCallback ViewError Unit (Option (ℕ × Option ℕ))) : Prop :=
  (∃ submission after, res = .done (some (0, submission)) after ∧
    ReplayFloor.Acted (headlessGauge Theme) view.nextCall after) ∨
  res.Ends Unmoved (fun result => ∀ submission, result ≠ some (0, submission)) view

/-- A status that is no success ends the activation. -/
theorem ends_status {status : ℕ} (hstatus : status ≠ 0) {pre view : View Theme}
    (hpre : Unmoved pre view) :
    ((pure (some (status, none)) : Method Theme (Option (ℕ × Option ℕ))) view).Ends Unmoved
      (fun result => ∀ submission, result ≠ some (0, submission)) pre := by
  refine ⟨hpre, fun submission h => hstatus ?_⟩
  injection h with h
  exact congrArg Prod.fst h

/-- For a key with a status the answer decides. -/
theorem callsAtOnce_status (call : ℕ → NativeCall)
    (hsucceeds : Moment.keySucceeds (.call (call 0)) = true) (view : View Theme) :
    CallsAtOnce view ((do
      let status ← ask device Reply.status
      record (call status)
      pure (some (status, none)) : Method Theme (Option (ℕ × Option ℕ))) view) := by
  by_cases hzero : (device.replies view.asked).status = 0
  · refine .inl ⟨none, (view.used (view.asked + 1)).recorded (call 0), ?_,
      ReplayFloor.acted_of_concat (headlessGauge Theme) rfl hsucceeds⟩
    rw [← hzero]
    rfl
  · exact .inr (ends_status hzero (unmoved_recorded view _))

theorem callsAtOnce_nativeActivation (session : ℕ) (key : KeySpec) (view : View Theme) :
    CallsAtOnce view (nativeActivation device session key view) := by
  unfold nativeActivation
  cases key.role with
  | input => exact callsAtOnce_status device (.sessionPressKey session key.id) rfl view
  | backspace => exact callsAtOnce_status device (.sessionBackspace session) rfl view
  | clear => exact callsAtOnce_status device (.sessionClear session) rfl view
  | cancel => exact callsAtOnce_status device (.sessionCancel session) rfl view
  | spacer => exact .inr ⟨Keeping.refl view, nofun⟩
  -- A submission is called at once as well; what may fail is what becomes of it.
  | submit =>
    simp only [ask_bind, record_bind]
    have hcalled := unmoved_recorded view (.sessionSubmit session
      (device.replies view.asked).status (device.replies view.asked).submission)
    revert hcalled
    by_cases hzero : (device.replies view.asked).status = 0
    · rw [if_neg (not_not_intro hzero)]
      cases (device.replies view.asked).submission with
      | none =>
        intro hcalled
        exact .inr (giveUp_ends (releaseNative_kept unmoved_kept 0) internalError (by simp) hcalled)
      | some raw =>
        intro hcalled
        simp only [Code.get_bind]
        -- It goes to the consumer if there is one, and is freed otherwise.
        split
        · left
          refine ⟨some view.submissions.length, { (view.used (view.asked + 1)).recorded
            (.sessionSubmit session (device.replies view.asked).status (some raw)) with
              submissions := view.submissions ++ [some raw] }, ?_, ReplayFloor.acted_of_concat
                (headlessGauge Theme) rfl (decide_eq_true ⟨hzero, rfl⟩)⟩
          rw [hzero]
          rfl
        · exact .inr (giveUp_ends (record_kept unmoved_kept (by simp) rfl) internalError (by simp)
            hcalled)
    · intro hcalled
      rw [if_pos hzero]
      exact .inr (ends_status hzero hcalled)

/-- Behind a native call that has not succeeded nothing comes of the activation. -/
theorem finishActivation_ends {result : Option (ℕ × Option ℕ)}
    (hfailed : ∀ submission, result ≠ some (0, submission)) (view : View Theme) :
    (finishActivation device result view).Ends Unmoved (· = false) view := by
  cases result with
  | none => exact ⟨Keeping.refl view, rfl⟩
  | some result =>
    obtain ⟨status, submission⟩ := result
    have hstatus : status ≠ 0 := fun hzero => hfailed submission (by rw [hzero])
    simp only [finishActivation]
    rw [if_pos hstatus]
    exact giveUp_ends (releaseNative_kept unmoved_kept 0) status (by rfl) (Keeping.refl view)

/-- **An activation** comes to nothing, or has made its native call before it first calls the
    host. -/
theorem activate_cases (key : KeySpec) (view : View Theme) :
    (activate device key view).Ends Unmoved (· = false) view ∨
      ReplayFloor.Acted (headlessGauge Theme) view.nextCall (activate device key view).state := by
  rw [activate_eq, Code.get_bind]
  cases view.session with
  | none => exact .inl ⟨Keeping.refl view, rfl⟩
  | some session =>
    obtain ⟨allows, asked, hallows⟩ := exists_deviceSecurityAllows device
      ((view.retainedConfiguration.map RetainedConfiguration.securityMode).getD "standard") view
    -- The posture checks only use replies, and are done before anything else happens.
    have hused : Unmoved view (view.used asked) := unmoved_kept.aside rfl
    change ((deviceSecurityAllows device _ view).bind _).Ends _ _ _ ∨
      ReplayFloor.Acted _ _ ((deviceSecurityAllows device _ view).bind _).state
    rw [hallows]
    cases allows with
    | false =>
      exact .inl (giveUp_ends (releaseNative_kept unmoved_kept 0) internalError (by rfl) hused)
    | true =>
      simp only [Res.bind, if_true]
      by_cases hprotected : view.protectedPresentation = true
      · rw [if_pos hprotected]
        exact .inl ⟨hused, rfl⟩
      · rw [if_neg hprotected]
        change ((nativeActivation device session key (view.used asked)).bind _).Ends _ _ _ ∨
          ReplayFloor.Acted _ _ ((nativeActivation device session key (view.used asked)).bind _).state
        rcases callsAtOnce_nativeActivation device session key (view.used asked) with
          ⟨submission, called, hdone, hacted⟩ | hfails
        · right
          rw [hdone]
          have hrest := finishActivation_kept unmoved_kept device (some (0, submission)) called
          exact hacted.mono hrest.state.history
        · exact .inl ((hfails.before hused).ends_bind fun _ hfailed view =>
            finishActivation_ends device hfailed view)

/-- **A cancellation** comes to nothing, or has made its native call before it first calls the
    host. -/
theorem cancelSessionAndReport_cases (view : View Theme) :
    (cancelSessionAndReport device view).Ends Unmoved (· = false) view ∨
      ReplayFloor.Acted (cancelGauge Theme) view.nextCall
        (cancelSessionAndReport device view).state := by
  simp only [cancelSessionAndReport, Code.get_bind]
  cases view.session with
  | none => exact .inl ⟨Keeping.refl view, rfl⟩
  | some session =>
    simp only [ask_bind, record_bind]
    by_cases hzero : (device.replies view.asked).status = 0
    · right
      rw [if_neg (not_not_intro hzero)]
      have hacted := ReplayFloor.acted_of_concat (cancelGauge Theme) (a := view)
        (b := (view.used (view.asked + 1)).recorded
          (.sessionCancel session (device.replies view.asked).status)) rfl (decide_eq_true hzero)
      exact hacted.mono (refreshMaskedState_kept unmoved_kept device _).state.cancelSame.log
    · left
      rw [if_pos hzero]
      exact giveUp_ends (releaseNative_kept unmoved_kept 0) _ (by rfl) (unmoved_recorded view _)

/-! ## The two numbered commands -/

/-- What is known of a command from its issue, if it was accepted. -/
structure Tag where
  headless : Option ReplayFloor.Stamp
  cancel : Option ReplayFloor.Stamp

/-- The comparisons a command makes when it is issued. -/
def Command.tag : Command Theme → View Theme → Tag
  | .requestHeadlessKeyPress requestId keyId, view =>
    ⟨(acceptedKey (view.refusesHeadless requestId keyId) view.lastHeadlessKeyPress requestId
      (view.key keyId)).map fun _ => ⟨requestId, view.lastHeadlessKeyPress, view.history.length⟩,
      none⟩
  | .requestCancel requestId, view =>
    ⟨none, if monotonicCommandDecision view.lastCancelRequest requestId = .accept then
      some ⟨requestId, view.lastCancelRequest, view.history.length⟩ else none⟩
  | _, _ => ⟨none, none⟩

/-- A cancel command leaves the headless floor alone. -/
theorem requestCancel_guar (requestId : ℤ) :
    (requestCancel device requestId).Guar (ReplayFloor.Same (headlessGauge Theme)) := by
  refine guar_bind guar_get fun view => ?_
  cases monotonicCommandDecision view.lastCancelRequest requestId with
  | invalid => exact (onError_kept (G := Unmoved) _).mono fun _ _ h => h.headlessSame
  | ignore => exact guar_pure _
  | accept =>
    have hreport := cancelSessionAndReport_kept unmoved_kept device
    refine guar_bind (hreport.mono fun _ _ h => h.headlessSame) fun done => ?_
    exact guar_ite (guar_modify fun _ => ⟨rfl, rfl, List.prefix_rfl⟩) (guar_pure _)

/-- A headless command leaves the cancel floor alone. -/
theorem requestHeadlessKeyPress_guar (requestId : ℤ) (keyId : String) :
    (requestHeadlessKeyPress device requestId keyId).Guar
      (ReplayFloor.Same (cancelGauge Theme)) := by
  refine guar_bind guar_get fun view => ?_
  cases hkey : acceptedKey (view.refusesHeadless requestId keyId) view.lastHeadlessKeyPress
      requestId (view.key keyId) with
  | none =>
    rcases headlessBranch_of_not_accepted (onError 1) (pure ())
      (headlessWork device requestId) hkey with hcode | hcode
    · rw [hcode]
      exact (onError_kept (G := Unmoved) _).mono fun _ _ h => h.cancelSame
    · rw [hcode]
      exact guar_pure _
  | some key =>
    rw [headlessBranch_of_accepted _ _ _ hkey]
    have hactivate := activate_kept unmoved_kept device key
    refine guar_bind guar_get fun view => ?_
    refine guar_bind (hactivate.mono fun _ _ h => h.cancelSame) fun done => ?_
    exact guar_ite (guar_modify fun _ => ⟨rfl, rfl, List.prefix_rfl⟩) (guar_pure _)

theorem requestHeadlessKeyPress_onItsWay (requestId : ℤ) (keyId : String) (view : View Theme) :
    ReplayFloor.OnItsWay (headlessGauge Theme)
      ((Command.requestHeadlessKeyPress requestId keyId).tag view).headless view
      (requestHeadlessKeyPress device requestId keyId view) := by
  change ReplayFloor.OnItsWay _ (Option.map _ _) view
    ((headlessBranch (view.refusesHeadless requestId keyId) view.lastHeadlessKeyPress requestId
      (view.key keyId) (onError 1) (pure ()) (headlessWork device requestId) :
      Method Theme Unit) view)
  cases hkey : acceptedKey (view.refusesHeadless requestId keyId) view.lastHeadlessKeyPress
      requestId (view.key keyId) with
  | none =>
    left
    rcases headlessBranch_of_not_accepted (onError 1) (pure ())
      (headlessWork device requestId) hkey with hcode | hcode
    · rw [hcode]
      exact (onError_kept (G := Unmoved) _).mono (fun _ _ h => h.headlessSame) view
    · rw [hcode]
      exact guar_pure _ view
  | some key =>
    rw [headlessBranch_of_accepted _ _ _ hkey]
    refine ReplayFloor.onItsWay_raise
      ((activate_kept unmoved_kept device key).mono (fun _ _ h => h.headlessSame) view) le_rfl ?_
      fun view => headlessAssigns view _ _
    exact (activate_cases device key view).imp_left fun h => h.mono fun _ _ h => h.headlessSame

theorem requestCancel_onItsWay (requestId : ℤ) (view : View Theme) :
    ReplayFloor.OnItsWay (cancelGauge Theme)
      ((Command.requestCancel requestId : Command Theme).tag view).cancel view
      (requestCancel device requestId view) := by
  change ReplayFloor.OnItsWay _ (if _ then _ else _) view _
  rw [requestCancel, Code.get_bind]
  cases monotonicCommandDecision view.lastCancelRequest requestId with
  | invalid => exact .inl ((onError_kept (G := Unmoved) _).mono (fun _ _ h => h.cancelSame) view)
  | ignore => exact .inl (guar_pure _ view)
  | accept =>
    refine ReplayFloor.onItsWay_raise
      ((cancelSessionAndReport_kept unmoved_kept device).mono (fun _ _ h => h.cancelSame) view)
      le_rfl ?_ fun view => cancelAssigns view _ _
    exact (cancelSessionAndReport_cases device view).imp_left
      fun h => h.mono fun _ _ h => h.cancelSame

/-- **Headless commands** compare first and assign last. -/
theorem headless_guarded :
    ReplayFloor.Guarded (headlessGauge Theme) (Command.code device) Command.tag Tag.headless := by
  constructor
  · intro command view stamp haccepted
    cases command with
    | requestHeadlessKeyPress requestId keyId =>
      obtain ⟨key, hkey, rfl⟩ := Option.map_eq_some_iff.mp haccepted
      exact ⟨lt_of_acceptedKey hkey, rfl, rfl⟩
    | _ => cases haccepted
  · intro command view
    cases command with
    | requestHeadlessKeyPress requestId keyId =>
      exact requestHeadlessKeyPress_onItsWay device requestId keyId view
    | requestCancel requestId => exact .inl (requestCancel_guar device requestId view)
    | _ =>
      exact .inl ((code_kept unmoved_kept device (by simp) (by simp)).mono
        (fun _ _ h => h.headlessSame) view)

/-- **Cancel commands** compare first and assign last. -/
theorem cancel_guarded :
    ReplayFloor.Guarded (cancelGauge Theme) (Command.code device) Command.tag Tag.cancel := by
  constructor
  · intro command view stamp haccepted
    cases command with
    | requestCancel requestId =>
      simp only [Command.tag] at haccepted
      split at haccepted
      · next haccept =>
        cases haccepted
        exact ⟨lt_of_accept haccept, rfl, rfl⟩
      · cases haccepted
    | _ => cases haccepted
  · intro command view
    cases command with
    | requestCancel requestId => exact requestCancel_onItsWay device requestId view
    | requestHeadlessKeyPress requestId keyId =>
      exact .inl (requestHeadlessKeyPress_guar device requestId keyId view)
    | _ =>
      exact .inl ((code_kept unmoved_kept device (by simp) (by simp)).mono
        (fun _ _ h => h.cancelSame) view)

end Device

end SecureKeypad.Native.Ios
