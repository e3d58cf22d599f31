import SecureKeypad.Library.HandleLedger
import SecureKeypad.Library.Machine
import SecureKeypad.Native.AndroidSettled

/-!
# The Native Sessions of the Android View

With a host whose callbacks neither call the view nor throw: which native sessions a view holds
after any sequence of events, what it does with them, and what stands in front of a key.

## Main results

- `Command.good`: what one event keeps
- `session_ledger_run`: the ledger of every sequence of events
-/

namespace SecureKeypad.Native.Android

open Callback HandleLedger

variable {Theme : Type}

/-! ## The ledger -/

/-- What a call does with a session. A session is known by its handle, where `none` is 0, and was
    created for a policy and a security mode. -/
def sessionAct : NativeCall → Option (Act (Option ℕ) (InputPolicy × String))
  | .sessionNew policy securityMode _ _ (some handle) =>
    some (.allocate (some handle) (policy, securityMode))
  | .sessionFree handle => some (.free (some handle))
  | .sessionPressKey handle _ _ | .sessionBackspace handle _ | .sessionClear handle _
  | .sessionCancel handle _ | .sessionSubmit handle _ => some (.use (some handle))
  | .sessionRefresh handle _ => some (.use handle)
  | .sessionNew _ _ _ _ none | .deviceSecurity _ _ | .windowProtection _ | .submissionFree _
  | .submissionTaken _ => none

/-- What the calls do with the sessions. -/
def sessionActs (calls : List NativeCall) : List (Act (Option ℕ) (InputPolicy × String)) :=
  calls.filterMap sessionAct

theorem sessionActs_append (calls calls' : List NativeCall) :
    sessionActs (calls ++ calls') = sessionActs calls ++ sessionActs calls' :=
  List.filterMap_append

/-- The session of a handle is live, and nothing else. -/
def held : Option ℕ → InputPolicy × String → Live (Option ℕ) (InputPolicy × String)
  | none, _ => Live.empty
  | some handle, creation => Live.single (some handle) creation

/-- The live sessions are the one the view holds, created as `creation` says. -/
def Tracked (creation : InputPolicy × String) (view : View Theme) : Prop :=
  run Live.empty (sessionActs view.calls) = some (held view.sessionHandle creation)

/-- The live sessions are the one the view holds, created for the configuration it retains. -/
def Ledgered (view : View Theme) : Prop :=
  ∃ creation, Tracked creation view ∧ ∀ handle, view.sessionHandle = some handle →
    ∃ configuration, view.retainedConfiguration = some configuration ∧
      creation = (configuration.policy, configuration.securityMode)

theorem ledgered_of_none {creation : InputPolicy × String} {view : View Theme}
    (h : Tracked creation view) (hnone : view.sessionHandle = none) : Ledgered view := by
  refine ⟨creation, h, fun handle hsome => ?_⟩
  cases hnone.symm.trans hsome

namespace Tracked

variable {creation : InputPolicy × String} {view : View Theme}

/-- Without a session it does not matter what the next is created for. -/
theorem any (h : Tracked creation view) (hnone : view.sessionHandle = none)
    (creation' : InputPolicy × String) : Tracked creation' view := by
  unfold Tracked at h ⊢
  rw [hnone] at h ⊢
  exact h

/-- A call that does nothing with a session. -/
theorem after (h : Tracked creation view) {calls : List NativeCall} (asked : ℕ)
    (hcalls : ∀ call ∈ calls, sessionAct call = none) : Tracked creation (view.after calls asked) := by
  have hnothing : sessionActs calls = [] := List.filterMap_eq_nil_iff.mpr hcalls
  unfold Tracked
  rw [View.after, sessionActs_append, hnothing, List.append_nil]
  exact h

/-- A call on the session of the view. -/
theorem used (h : Tracked creation view) {handle : ℕ} (hheld : view.sessionHandle = some handle)
    {call : NativeCall} (hcall : sessionAct call = some (.use (some handle))) (asked : ℕ) :
    Tracked creation (view.after [call] asked) := by
  unfold Tracked at h ⊢
  have hact : sessionActs [call] = [.use (some handle)] := List.filterMap_cons_some hcall
  rw [View.after, sessionActs_append, hact, run_snoc h, hheld]
  exact step_use_single ..

theorem refreshed (h : Tracked creation view) {handle : ℕ}
    (hheld : view.sessionHandle = some handle) (packed : BitVec 64) (asked : ℕ) :
    Tracked creation (view.refreshed packed asked) :=
  h.used hheld (by rw [sessionAct, hheld]) asked

theorem freed (h : Tracked creation view) : Tracked creation view.freed := by
  unfold View.freed
  split
  · exact h
  · next handle hheld =>
    unfold Tracked at h ⊢
    rw [hheld] at h
    have hact : sessionActs [.sessionFree handle] = [.free (some handle)] := rfl
    rw [sessionActs_append, hact, run_snoc h]
    exact step_free_single ..

/-- A session is created where there is none. -/
theorem opened (h : Tracked creation view) (hnone : view.sessionHandle = none)
    (configuration : RetainedConfiguration Theme) (handle : ℕ) (packed : BitVec 64) (asked : ℕ) :
    Tracked (configuration.policy, configuration.securityMode)
      (view.opened configuration handle packed asked) := by
  refine refreshed ?_ (rfl : _ = some handle) packed asked
  unfold Tracked at h ⊢
  rw [hnone] at h
  have hact : sessionActs [.sessionNew configuration.policy configuration.securityMode
      configuration.maxTokens configuration.timeoutMs (some handle)] =
    [.allocate (some handle) (configuration.policy, configuration.securityMode)] := rfl
  change run Live.empty (sessionActs (view.calls ++ _)) = _
  rw [sessionActs_append, hact, run_snoc h]
  exact step_allocate_empty ..

end Tracked

/-! ## Key operations -/

/-- The session of a key operation. A cancellation is one where a key brings it about. -/
def keyOperation (byKey : Bool) : NativeCall → Option ℕ
  | .sessionPressKey handle _ _ | .sessionBackspace handle _ | .sessionClear handle _
  | .sessionSubmit handle _ => some handle
  | .sessionCancel handle _ => if byKey then some handle else none
  | .deviceSecurity _ _ | .windowProtection _ | .sessionNew .. | .sessionFree _
  | .sessionRefresh _ _ | .submissionFree _ | .submissionTaken _ => none

/-- In front of every key operation of an event, the posture check of the mode the session was
    created with and the window check have passed in the same event. The calls before it are
    `base`. -/
def Guarded (byKey : Bool) (base added : List NativeCall) : Prop :=
  ∀ front call back handle, added = front ++ call :: back → keyOperation byKey call = some handle →
    ∃ live policy securityMode, run Live.empty (sessionActs (base ++ front)) = some live ∧
      live (some handle) = some (policy, securityMode) ∧
      .deviceSecurity securityMode true ∈ front ∧ .windowProtection true ∈ front

theorem guarded_nil (byKey : Bool) (base : List NativeCall) : Guarded byKey base [] := by
  intro front call back handle hnil
  simp at hnil

/-- One call more, which is no key operation or is guarded itself. -/
theorem Guarded.snoc {byKey : Bool} {base added : List NativeCall} (h : Guarded byKey base added)
    {call : NativeCall}
    (hcall : ∀ handle, keyOperation byKey call = some handle →
      ∃ live policy securityMode, run Live.empty (sessionActs (base ++ added)) = some live ∧
        live (some handle) = some (policy, securityMode) ∧
        .deviceSecurity securityMode true ∈ added ∧ .windowProtection true ∈ added) :
    Guarded byKey base (added ++ [call]) := by
  intro front call' back handle hsplit hkey
  rcases List.eq_nil_or_concat back with rfl | ⟨back, last, rfl⟩
  · obtain ⟨rfl, hlast⟩ := List.append_inj' hsplit rfl
    cases hlast
    exact hcall handle hkey
  · rw [List.concat_eq_append, ← List.cons_append, ← List.append_assoc] at hsplit
    obtain ⟨hinit, -⟩ := List.append_inj' hsplit rfl
    exact h front call' back handle hinit hkey

theorem Guarded.append {byKey : Bool} {base added more : List NativeCall}
    (h : Guarded byKey base added) (hmore : ∀ call ∈ more, keyOperation byKey call = none) :
    Guarded byKey base (added ++ more) := by
  induction more using List.reverseRecOn with
  | nil => rwa [List.append_nil]
  | append_singleton more call ih =>
    rw [← List.append_assoc]
    have hplain : keyOperation byKey call = none :=
      hmore call (List.mem_append_right _ List.mem_cons_self)
    refine (ih fun call' hcall' => hmore call' (List.mem_append_left _ hcall')).snoc ?_
    intro handle hkey
    cases hplain.symm.trans hkey

/-! ## What one event keeps -/

/-- Within an event: the ledger is kept, the key operations so far are guarded, and a view that
    began without a session and a configuration (`idle`) has neither. -/
structure Good (byKey : Bool) (base : List NativeCall) (idle : Prop) (view : View Theme) : Prop where
  ledgered : Ledgered view
  guarded : ∃ added, view.calls = base ++ added ∧ Guarded byKey base added
  idle : idle → view.sessionHandle = none ∧ view.retainedConfiguration = none

/-- An event begins. -/
theorem good_of_ledgered {byKey : Bool} {idle : Prop} {view : View Theme} (h : Ledgered view)
    (hidle : idle → view.sessionHandle = none ∧ view.retainedConfiguration = none) :
    Good byKey view.calls idle view :=
  ⟨h, ⟨[], (List.append_nil _).symm, guarded_nil _ _⟩, hidle⟩

namespace Good

variable {byKey : Bool} {base : List NativeCall} {idle : Prop} {view : View Theme}

/-- Only the session, the configuration and the calls matter. -/
theorem congr (h : Good byKey base idle view) {view' : View Theme}
    (hsession : view'.sessionHandle = view.sessionHandle)
    (hretained : view'.retainedConfiguration = view.retainedConfiguration)
    (hcalls : view'.calls = view.calls) : Good byKey base idle view' := by
  refine ⟨?_, hcalls ▸ h.guarded, fun hidle => ?_⟩
  · obtain ⟨creation, htracked, hretains⟩ := h.ledgered
    refine ⟨creation, ?_, ?_⟩
    · unfold Tracked at htracked ⊢
      rwa [hsession, hcalls]
    · rwa [hsession, hretained]
  · rw [hsession, hretained]
    exact h.idle hidle

/-- A call that is none on a session. -/
theorem after (h : Good byKey base idle view) (calls : List NativeCall) (asked : ℕ)
    (hcalls : ∀ call ∈ calls, sessionAct call = none ∧ keyOperation byKey call = none) :
    Good byKey base idle (view.after calls asked) := by
  obtain ⟨creation, htracked, hretains⟩ := h.ledgered
  obtain ⟨added, hadded, hguarded⟩ := h.guarded
  refine ⟨⟨creation, htracked.after asked fun call hcall => (hcalls call hcall).1, hretains⟩, ?_,
    h.idle⟩
  refine ⟨added ++ calls, ?_, hguarded.append fun call hcall => (hcalls call hcall).2⟩
  rw [View.after, hadded, List.append_assoc]

/-- A call on the session that is no key operation, or a guarded one. -/
theorem used (h : Good byKey base idle view) {handle : ℕ} (hheld : view.sessionHandle = some handle)
    (call : NativeCall) (hact : sessionAct call = some (.use (some handle))) (asked : ℕ)
    (hkey : keyOperation byKey call = none ∨ keyOperation byKey call = some handle ∧
      ∃ front, view.calls = base ++ front ∧
        .deviceSecurity view.securityMode true ∈ front ∧ .windowProtection true ∈ front) :
    Good byKey base idle (view.after [call] asked) := by
  obtain ⟨creation, htracked, hretains⟩ := h.ledgered
  obtain ⟨added, hadded, hguarded⟩ := h.guarded
  refine ⟨⟨creation, htracked.used hheld hact asked, hretains⟩, ?_, h.idle⟩
  refine ⟨added ++ [call], by rw [View.after, hadded, List.append_assoc], hguarded.snoc ?_⟩
  intro handle' hoperation
  rcases hkey with hnone | ⟨hsome, front, hfront, hposture, hwindow⟩
  · cases hnone.symm.trans hoperation
  · cases hsome.symm.trans hoperation
    -- The session was created with the mode of the configuration, which is the one just checked.
    obtain ⟨configuration, hconfiguration, rfl⟩ := hretains handle hheld
    rw [hfront] at hadded
    obtain rfl := List.append_cancel_left hadded
    have hmode : view.securityMode = configuration.securityMode := by
      rw [View.securityMode, hconfiguration]
      rfl
    unfold Tracked at htracked
    rw [hfront, hheld] at htracked
    refine ⟨_, configuration.policy, configuration.securityMode, htracked, ?_, hmode ▸ hposture,
      hwindow⟩
    exact Function.update_self ..

theorem freed (h : Good byKey base idle view) : Good byKey base idle view.freed := by
  obtain ⟨creation, htracked, -⟩ := h.ledgered
  obtain ⟨added, hadded, hguarded⟩ := h.guarded
  refine ⟨ledgered_of_none htracked.freed view.freed_sessionHandle, ?_, fun hidle => ?_⟩
  · unfold View.freed
    split
    · exact ⟨added, hadded, hguarded⟩
    · next handle hheld =>
      refine ⟨added ++ [.sessionFree handle], by rw [hadded, List.append_assoc],
        hguarded.append fun call hcall => ?_⟩
      rw [List.mem_singleton.mp hcall]
      rfl
  · exact ⟨view.freed_sessionHandle, view.freed_retainedConfiguration.trans (h.idle hidle).2⟩

theorem forgotten (h : Good byKey base idle view) (hnone : view.sessionHandle = none) :
    Good byKey base idle view.forgotten := by
  obtain ⟨creation, htracked, -⟩ := h.ledgered
  have hledgered : Ledgered view.forgotten := ledgered_of_none htracked hnone
  exact ⟨hledgered, h.guarded, fun _ => ⟨hnone, rfl⟩⟩

theorem refreshed (h : Good byKey base idle view) {handle : ℕ}
    (hheld : view.sessionHandle = some handle) (packed : BitVec 64) (asked : ℕ) :
    Good byKey base idle (view.refreshed packed asked) :=
  h.used hheld _ (by rw [sessionAct, hheld]) asked (.inl rfl)

/-- A session for the configuration the view retains. -/
theorem opened (h : Good byKey base False view) (hnone : view.sessionHandle = none)
    (configuration : RetainedConfiguration Theme) (handle : ℕ) (packed : BitVec 64) (asked : ℕ) :
    Good byKey base False { view.opened configuration handle packed asked with
      retainedConfiguration := some configuration } := by
  obtain ⟨creation, htracked, -⟩ := h.ledgered
  obtain ⟨added, hadded, hguarded⟩ := h.guarded
  refine ⟨⟨_, htracked.opened hnone configuration handle packed asked, ?_⟩, ?_, False.elim⟩
  · intro handle' _
    exact ⟨configuration, rfl, rfl⟩
  · refine ⟨added ++ [.sessionNew configuration.policy configuration.securityMode
      configuration.maxTokens configuration.timeoutMs (some handle),
      .sessionRefresh (some handle) packed], ?_, hguarded.append fun call hcall => ?_⟩
    · simp [View.opened, View.refreshed, View.after, View.started, hadded]
    · rcases List.mem_cons.mp hcall with rfl | hcall
      · rfl
      · rw [List.mem_singleton.mp hcall]
        rfl

end Good

/-- The method keeps what an event keeps. -/
def Keeps (byKey : Bool) {α : Type} (method : Method Theme α) : Prop :=
  ∀ base idle view, Good byKey base idle view →
    Good byKey base idle (Code.settle quiet method view).2

theorem noKey_of_isCheck {byKey : Bool} {call : NativeCall} (h : call.IsCheck) :
    sessionAct call = none ∧ keyOperation byKey call = none := by
  cases call <;> first | exact ⟨rfl, rfl⟩ | exact h.elim

section Methods

variable {byKey : Bool} (device : Device Theme)

theorem keeps_releaseNativeSessionPreservingConfiguration (displayState : ℤ) :
    Keeps byKey (releaseNativeSessionPreservingConfiguration displayState : Method Theme Unit) := by
  intro base idle view h
  rw [settle_releaseNativeSessionPreservingConfiguration]
  exact h.freed

theorem keeps_releaseSession : Keeps byKey (releaseSession : Method Theme Unit) := by
  intro base idle view h
  rw [settle_releaseSession]
  exact h.freed.forgotten view.freed_sessionHandle

theorem keeps_failClosedBoundary : Keeps byKey (failClosedBoundary : Method Theme Unit) := by
  intro base idle view h
  rw [settle_failClosedBoundary]
  exact h.freed

theorem keeps_zeroizeSessionForLifecycleLoss :
    Keeps byKey (zeroizeSessionForLifecycleLoss : Method Theme Unit) := by
  intro base idle view h
  rw [settle_zeroizeSessionForLifecycleLoss]
  exact h.freed

/-- A refresh of a live session. -/
theorem good_refreshMaskedState {base : List NativeCall} {idle : Prop} {view : View Theme}
    (h : Good byKey base idle view) {handle : ℕ} (hheld : view.sessionHandle = some handle) :
    Good byKey base idle (Code.settle quiet (refreshMaskedState device) view).2 := by
  obtain ⟨packed, asked, ⟨-, hrefresh⟩ | ⟨-, hrefresh⟩⟩ := settle_refreshMaskedState device view
  · rw [hrefresh]
    exact h.refreshed hheld packed asked
  · rw [hrefresh]
    exact (h.refreshed hheld packed asked).freed.forgotten (View.freed_sessionHandle _)

theorem keeps_configure (configuration : RetainedConfiguration Theme) {base : List NativeCall}
    {view : View Theme} (h : Good byKey base False view) :
    Good byKey base False (Code.settle quiet (configure device configuration) view).2 := by
  by_cases haccepts : device.Accepts configuration
  -- The old session is released first, and the view holds none when the new one is made.
  · have hcleared : ∀ allowed asked, Good byKey base False (view.cleared configuration allowed
        asked) := by
      intro allowed asked
      refine Good.after ?_ _ asked ?_
      · exact h.freed.forgotten view.freed_sessionHandle |>.congr (by simp) (by simp)
          (by cases hheld : view.sessionHandle <;> simp [View.freed, View.forgotten, hheld])
      · intro call hcall
        rw [List.mem_singleton.mp hcall]
        exact ⟨rfl, rfl⟩
    have hnone : ∀ allowed asked, (view.cleared configuration allowed asked).sessionHandle = none :=
      fun allowed asked => View.freed_sessionHandle _
    obtain ⟨asked, ⟨-, hresult⟩ | ⟨asked', -, hresult⟩ | ⟨handle, packed, asked', hresult |
      ⟨-, hresult⟩⟩⟩ := settle_configure device view haccepts
    · rw [hresult]
      exact hcleared false asked
    · rw [hresult]
      refine (hcleared true asked).after _ asked' fun call hcall => ?_
      rw [List.mem_singleton.mp hcall]
      exact ⟨rfl, rfl⟩
    · rw [hresult]
      exact (hcleared true asked).opened (hnone true asked) configuration handle packed asked'
    · rw [hresult]
      have hopened := (hcleared true asked).opened (hnone true asked) configuration handle packed
        asked'
      exact (hopened.freed.forgotten (View.freed_sessionHandle _)).congr (by simp) (by simp) rfl
  · rw [settle_configure_of_refused device view haccepts]
    exact h

theorem keeps_reconfigureRetainedConfiguration :
    Keeps byKey (reconfigureRetainedConfiguration device) := by
  intro base idle view h
  simp only [reconfigureRetainedConfiguration, settle_bind, settle_get]
  split
  · next configuration hretained hnone =>
    -- A configuration is retained, so the event did not begin idle.
    have hbusy : ¬ idle := by
      intro hidle
      cases hretained.symm.trans (h.idle hidle).2
    have hgood : Good byKey base False view := ⟨h.ledgered, h.guarded, False.elim⟩
    have hback : ∀ view' : View Theme, Good byKey base False view' → Good byKey base idle view' :=
      fun view' h' => ⟨h'.ledgered, h'.guarded, fun hidle => absurd hidle hbusy⟩
    apply hback
    obtain ⟨allowed, asked, hposture, -⟩ :=
      settle_deviceSecurityAllows device view configuration.securityMode
    have hchecked : Good byKey base False
        (view.after [.deviceSecurity configuration.securityMode allowed] asked) := by
      refine hgood.after _ asked fun call hcall => ?_
      rw [List.mem_singleton.mp hcall]
      exact ⟨rfl, rfl⟩
    have hdrop : ∀ view' : View Theme, Good byKey base False view' →
        Good byKey base False view'.forgotten.freed := by
      intro view' h'
      refine (h'.freed.forgotten view'.freed_sessionHandle).congr (by simp) (by simp) ?_
      cases hheld : view'.sessionHandle <;> simp [View.freed, View.forgotten, hheld]
    simp only [settle_bind, hposture, settle_ite, settle_attempt]
    cases allowed with
    | false => simpa [View.forgotten] using hdrop _ hchecked
    | true =>
      simp only [if_true]
      rcases settle_startSession device
          (view.after [.deviceSecurity configuration.securityMode true] asked) configuration with
        ⟨asked', -, hstart⟩ | ⟨handle, packed, asked', hstart | ⟨-, hstart⟩⟩
      · have hfailed : Good byKey base False ((view.after
            [.deviceSecurity configuration.securityMode true] asked).after
            [.sessionNew configuration.policy configuration.securityMode configuration.maxTokens
              configuration.timeoutMs none] asked') := by
          refine hchecked.after _ asked' fun call hcall => ?_
          rw [List.mem_singleton.mp hcall]
          exact ⟨rfl, rfl⟩
        simpa [hstart, Failure.isRuntime, View.forgotten] using hdrop _ hfailed
      · have hopened := hchecked.opened hnone configuration handle packed asked'
        simp only [hstart]
        exact hopened.congr rfl hretained rfl
      · have hopened := hchecked.opened hnone configuration handle packed asked'
        simp only [hstart, settle_modify]
        exact (hopened.freed.forgotten (View.freed_sessionHandle _)).congr (by simp) (by simp) rfl
  · exact h

theorem keeps_requestSessionReconfigurationIfNeeded :
    Keeps byKey (requestSessionReconfigurationIfNeeded device) := by
  intro base idle view h
  simp only [requestSessionReconfigurationIfNeeded, settle_bind, settle_get]
  split
  · exact h
  · rw [settle_ite]
    split
    · rw [settle_invoke]
      exact h
    · exact keeps_reconfigureRetainedConfiguration device base idle view h

theorem keeps_regained : Keeps byKey (regained device) := by
  intro base idle view h
  have hchecked := h.after [.windowProtection (device.replies view.asked).windowSecure]
    (view.asked + 1) fun call hcall => by rw [List.mem_singleton.mp hcall]; exact ⟨rfl, rfl⟩
  simp only [regained, settle_bind, settle_ensureSecureWindowProtection, settle_ite]
  split
  · exact keeps_requestSessionReconfigurationIfNeeded device base idle _ hchecked
  · exact keeps_failClosedBoundary base idle _ hchecked

theorem keeps_closeSubmission (submission : ℕ) :
    Keeps byKey (closeSubmission submission : Method Theme Unit) := by
  intro base idle view h
  simp only [closeSubmission, settle_bind, settle_get]
  split
  · exact h
  · next handle hlive =>
    simp only [settle_record, settle_modify, settle_bind]
    refine Good.congr (h.after [.submissionFree handle] view.asked fun call hcall => ?_)
      rfl rfl rfl
    rw [List.mem_singleton.mp hcall]
    exact ⟨rfl, rfl⟩

theorem keeps_takeNativeHandle (submission : ℕ) :
    Keeps byKey (takeNativeHandle submission : Method Theme Unit) := by
  intro base idle view h
  simp only [takeNativeHandle, settle_bind, settle_get]
  split
  · exact h
  · next handle hlive =>
    simp only [settle_record, settle_modify, settle_bind]
    refine Good.congr (h.after [.submissionTaken handle] view.asked fun call hcall => ?_)
      rfl rfl rfl
    rw [List.mem_singleton.mp hcall]
    exact ⟨rfl, rfl⟩

/-- A cancellation that no key brings about. -/
theorem keeps_cancelSessionAndReport : Keeps false (cancelSessionAndReport device) := by
  intro base idle view h
  simp only [cancelSessionAndReport, settle_bind, settle_get]
  split
  · exact h
  · next handle hheld =>
    simp only [settle_bind, settle_ask, settle_record, settle_ite]
    have hcancelled := h.used hheld (.sessionCancel handle (device.replies view.asked).status)
      rfl (view.asked + 1) (.inl rfl)
    split
    · simpa [View.after] using hcancelled.freed
    · exact good_refreshMaskedState device hcancelled hheld

theorem good_finishActivation {base : List NativeCall} {idle : Prop} {view : View Theme}
    (h : Good byKey base idle view) {handle : ℕ} (hheld : view.sessionHandle = some handle)
    (status : ℤ) (pendingSubmission : Option ℕ) :
    Good byKey base idle
      (Code.settle quiet (finishActivation device (some (status, pendingSubmission))) view).2 := by
  simp only [finishActivation, settle_ite, settle_bind]
  split
  · simpa using h.freed
  · have hrefresh := good_refreshMaskedState device h hheld
    obtain ⟨packed, asked, ⟨-, hshown⟩ | ⟨-, hshown⟩⟩ := settle_refreshMaskedState device view
    · rw [hshown] at hrefresh ⊢
      cases pendingSubmission with
      | none => exact hrefresh
      | some submission => simpa [deliverOrRelease] using hrefresh
    · rw [hshown] at hrefresh ⊢
      cases pendingSubmission with
      | none => exact hrefresh
      | some submission =>
        have hclosed := keeps_closeSubmission submission base idle _ hrefresh
        cases hclose : Code.settle quiet (closeSubmission submission)
          (view.refreshed packed asked).freed.forgotten with
        | mk result closed =>
          rw [hclose] at hclosed
          cases result with
          | error failure => simpa [hclose] using hclosed
          | ok _ => simpa [hclose] using hclosed

/-- A key operation behind both checks. -/
theorem Good.pressed {base : List NativeCall} {idle : Prop} {view : View Theme}
    (h : Good byKey base idle view) {handle : ℕ} (hheld : view.sessionHandle = some handle)
    (call : NativeCall) (hact : sessionAct call = some (.use (some handle)))
    (hkey : keyOperation byKey call = none ∨ keyOperation byKey call = some handle)
    (asked asked' : ℕ) :
    Good byKey base idle ((view.after
      [.deviceSecurity view.securityMode true, .windowProtection true] asked).after [call]
        asked') := by
  obtain ⟨added, hadded, -⟩ := h.guarded
  have hchecked := h.after [.deviceSecurity view.securityMode true,
    .windowProtection true] asked (by simp [sessionAct, keyOperation])
  refine hchecked.used hheld call hact asked' (hkey.imp_right fun hsome => ⟨hsome, added ++
    [.deviceSecurity view.securityMode true, .windowProtection true], ?_, ?_, ?_⟩)
  · rw [View.after, hadded, List.append_assoc]
  · exact List.mem_append_right _ List.mem_cons_self
  · exact List.mem_append_right _ (List.mem_cons_of_mem _ List.mem_cons_self)

theorem keeps_activate (key : KeySpec) : Keeps byKey (activate device key) := by
  intro base idle view h
  rw [activate_eq]
  simp only [settle_bind]
  -- The device is asked first; a key is pressed only behind a boundary that holds.
  rcases settle_ensureSecureInputBoundary device view with
    ⟨asked, hboundary⟩ | ⟨checks, asked, hchecks, hboundary⟩
  · rw [hboundary]
    simp only [if_true, settle_bind, settle_get, View.after_sessionHandle]
    cases hheld : view.sessionHandle with
    | none =>
      exact h.after _ asked fun call hcall => by
        rcases List.mem_cons.mp hcall with rfl | hcall
        · exact ⟨rfl, rfl⟩
        · rw [List.mem_singleton.mp hcall]
          exact ⟨rfl, rfl⟩
    | some handle =>
      -- The press is made on the handle the view holds, so the ledger may grow by it.
      have hpressed := fun call hact hkey =>
        h.pressed hheld call hact hkey asked (asked + 1)
      have hkept : ∀ calls, ((view.after [.deviceSecurity view.securityMode true,
          .windowProtection true] asked).after calls (asked + 1)).sessionHandle = some handle :=
        fun _ => hheld
      simp only [settle_bind, nativeActivation]
      cases key.role with
      | input =>
        exact good_finishActivation device (hpressed (.sessionPressKey handle key.id _) rfl
          (.inr rfl)) (hkept _) _ none
      | backspace =>
        exact good_finishActivation device (hpressed (.sessionBackspace handle _) rfl (.inr rfl))
          (hkept _) _ none
      | clear =>
        exact good_finishActivation device (hpressed (.sessionClear handle _) rfl (.inr rfl))
          (hkept _) _ none
      -- A submission frees the handle in the session, whatever becomes of it in the view.
      | submit =>
        have hsubmitted := hpressed (.sessionSubmit handle
          (device.replies asked).submission) rfl (.inr rfl)
        simp only [settle_bind, settle_ask, settle_record]
        have hasked : (view.after [.deviceSecurity view.securityMode true, .windowProtection true]
            asked).asked = asked := rfl
        rw [hasked]
        cases hraw : (device.replies asked).submission with
        | none =>
          rw [hraw] at hsubmitted
          simpa [finishActivation, View.after] using hsubmitted.freed
        | some raw =>
          rw [hraw] at hsubmitted
          cases hinstalled : view.onSubmit with
          | true =>
            have hdone := good_finishActivation device (hsubmitted.congr rfl rfl rfl :
              Good byKey base idle { (view.after _ asked).after _ (asked + 1) with
                submissions := view.submissions ++ [some raw] })
              hheld 0 (some view.submissions.length)
            simpa [View.after, hinstalled] using hdone
          -- Without a consumer the raw submission is freed at once.
          | false =>
            have hfreed := hsubmitted.after [.submissionFree raw] (asked + 1)
              fun call hcall => by rw [List.mem_singleton.mp hcall]; exact ⟨rfl, rfl⟩
            simpa [finishActivation, View.after, hinstalled] using hfreed
      | cancel =>
        exact good_finishActivation device (hpressed (.sessionCancel handle _) rfl
          (by cases byKey <;> simp [keyOperation])) (hkept _) _ none
      -- A spacer asks the device and makes no call of its own.
      | spacer =>
        exact h.after _ asked fun call hcall => by
          rcases List.mem_cons.mp hcall with rfl | hcall
          · exact ⟨rfl, rfl⟩
          · rw [List.mem_singleton.mp hcall]
            exact ⟨rfl, rfl⟩
  · rw [hboundary]
    -- The boundary does not hold: the session is released.
    exact (h.after _ asked fun call hcall => noKey_of_isCheck (hchecks call hcall)).freed

/-- The event is a configuration. -/
def Command.IsConfigure : Command Theme → Prop
  | .configure _ => True
  | _ => False

/-- The event brings a key about. -/
def Command.pressesKey : Command Theme → Bool
  | .click _ | .requestHeadlessKeyPress _ _ => true
  | _ => false

theorem keeps_headlessWork (requestId : ℤ) (key : KeySpec) :
    Keeps byKey (headlessWork device requestId key) := by
  intro base idle view h
  -- Recording the number touches no call, so the activation decides.
  have hactivate : ∀ view' : View Theme, Good byKey base idle view' →
      Good byKey base idle (Code.settle quiet (do
        let view ← Code.get
        if ← activate device key then
          Code.modify (View.pressed · view.activationCall requestId)
        else pure ()) view').2 := by
    intro view' h'
    have hactivated := keeps_activate device key base idle view' h'
    simp only [settle_bind, settle_get]
    cases hresult : Code.settle quiet (activate device key) view' with
    | mk result after =>
      rw [hresult] at hactivated
      match result with
      | .error failure => exact hactivated
      | .ok true => exact hactivated.congr rfl rfl rfl
      | .ok false => exact hactivated
  simp only [headlessWork, settle_bind]
  rcases settle_ensureSecureInputBoundary device view with
    ⟨asked, hboundary⟩ | ⟨checks, asked, hchecks, hboundary⟩
  · rw [hboundary]
    refine hactivate _ (h.after _ asked fun call hcall => ?_)
    rcases List.mem_cons.mp hcall with rfl | hcall
    · exact ⟨rfl, rfl⟩
    · rw [List.mem_singleton.mp hcall]
      exact ⟨rfl, rfl⟩
  · rw [hboundary]
    exact (h.after _ asked fun call hcall => noKey_of_isCheck (hchecks call hcall)).freed

theorem keeps_requestHeadlessKeyPress (requestId : ℤ) (keyId : String) :
    Keeps byKey (requestHeadlessKeyPress device requestId keyId) := by
  intro base idle view h
  simp only [requestHeadlessKeyPress, settle_bind, settle_get, headlessBranch]
  split
  · simpa using h
  · split
    · simpa using h
    · split
      · exact h
      · split
        · simpa using h
        · exact keeps_headlessWork device requestId _ base idle view h

/-- **What one event keeps.** An event that begins idle is no configuration. -/
theorem Command.good (command : Command Theme) {base : List NativeCall} {idle : Prop}
    {view : View Theme} (hidle : idle → ¬ command.IsConfigure)
    (h : Good command.pressesKey base idle view) :
    Good command.pressesKey base idle (Code.settle quiet (command.code device) view).2 := by
  cases command with
  | configure configuration =>
    -- A configuration may open a session; a view that is to stay idle is not configured.
    have hbusy : ¬ idle := fun hi => hidle hi trivial
    have hconfigured := keeps_configure device configuration
      (⟨h.ledgered, h.guarded, False.elim⟩ : Good _ base False view)
    exact ⟨hconfigured.ledgered, hconfigured.guarded, fun hi => absurd hi hbusy⟩
  | setRendererMode mode acknowledge =>
    simp only [Command.code, Android.setRendererMode, settle_ite]
    split
    · exact h.congr rfl rfl rfl
    · exact h
  | releaseSession => exact keeps_releaseSession base idle view h
  | cancelSession =>
    have hcancelled := keeps_cancelSessionAndReport device base idle view h
    simp only [Command.code, Android.cancelSession, settle_bind]
    cases hresult : Code.settle quiet (cancelSessionAndReport device) view with
    | mk result after =>
      rw [hresult] at hcancelled
      cases result <;> exact hcancelled
  -- The floor is the only thing a cancellation changes beside the release.
  | requestCancel requestId =>
    have hcancelled := keeps_cancelSessionAndReport device base idle view h
    simp only [Command.code, Android.requestCancel, settle_bind, settle_get]
    split
    · simpa using h
    · exact h
    · simp only [settle_bind]
      cases hresult : Code.settle quiet (cancelSessionAndReport device) view with
      | mk result after =>
        rw [hresult] at hcancelled
        match result with
        | .error failure => exact hcancelled
        | .ok true => exact hcancelled.congr rfl rfl rfl
        | .ok false => exact hcancelled
  | requestHeadlessKeyPress requestId keyId =>
    exact keeps_requestHeadlessKeyPress device requestId keyId base idle view h
  -- A key that is not in the layout does nothing; any other is activated.
  | click keyId =>
    simp only [Command.code, Android.click, settle_bind, settle_get]
    split
    · exact h
    · next key hkey =>
      have hactivated := keeps_activate device key base idle view h
      simp only [settle_bind]
      cases hresult : Code.settle quiet (activate device key) view with
      | mk result after =>
        rw [hresult] at hactivated
        cases result <;> exact hactivated
  | onAttachedToWindow => exact keeps_regained device base idle view h
  | onDetachedFromWindow =>
    exact keeps_releaseNativeSessionPreservingConfiguration 0 base idle view h
  | onWindowFocusChanged hasWindowFocus =>
    cases hasWindowFocus with
    | true => exact keeps_regained device base idle view h
    | false => exact keeps_zeroizeSessionForLifecycleLoss base idle view h
  | onWindowVisibilityChanged visible =>
    cases visible with
    | true => exact keeps_regained device base idle view h
    | false => exact keeps_zeroizeSessionForLifecycleLoss base idle view h
  | obscuredTouch => exact keeps_failClosedBoundary base idle view h
  | setCallbacks submit maskedState error reconfiguration => exact h.congr rfl rfl rfl
  | closeSubmission submission => exact keeps_closeSubmission submission base idle view h
  | takeNativeHandle submission => exact keeps_takeNativeHandle submission base idle view h

end Methods

/-! ## Every sequence of events -/

/-- One event, with the exception it ends with, if it does. -/
def eventStep (device : Device Theme) (view : View Theme) (command : Command Theme) :
    Except Failure Unit × View Theme :=
  Code.settle quiet (command.code device) view

section Runs

open Machine

variable (device : Device Theme) (commands : List (Command Theme))

/-- The view after the first `n` events. -/
def viewAt (n : ℕ) : View Theme := Machine.run (eventStep device) (View.new Theme) (commands.take n)

theorem ledgered_viewAt (n : ℕ) : Ledgered (viewAt device commands n) := by
  refine run_invariant (eventStep device) (P := Ledgered) ?_ ?_ _
  · intro view command h
    exact (Command.good device command False.elim (good_of_ledgered h False.elim)).ledgered
  · have htracked : Tracked (.numeric, "standard") (View.new Theme) := rfl
    exact ledgered_of_none htracked rfl

/-- Once released, a view stays without a session until it is configured. -/
theorem released_until_configured {m n : ℕ} (hrelease : commands[m]? = some .releaseSession)
    (hmn : m < n) (hn : n ≤ commands.length)
    (hconfigure : ∀ k command, m < k → k < n → commands[k]? = some command →
      ¬ command.IsConfigure) :
    (viewAt device commands n).sessionHandle = none ∧
      (viewAt device commands n).retainedConfiguration = none := by
  refine run_take_window (eventStep device) (P := fun view : View Theme =>
    view.sessionHandle = none ∧ view.retainedConfiguration = none) hmn hn ?_ ?_
  · rw [run_take_succ (eventStep device) hrelease]
    have hreleased : eventStep device (viewAt device commands m) .releaseSession =
        (.ok (), (viewAt device commands m).freed.forgotten) := settle_releaseSession _
    rw [viewAt] at hreleased
    rw [hreleased]
    exact ⟨View.freed_sessionHandle _, rfl⟩
  · intro k command hmk hkn hcommand hidle
    have hbegin : Good command.pressesKey (viewAt device commands k).calls True
        (viewAt device commands k) :=
      good_of_ledgered (ledgered_viewAt device commands k) fun _ => hidle
    have hgood := Command.good device command
      (fun _ => hconfigure k command hmk hkn hcommand) hbegin
    exact hgood.idle True.intro

/-- **The session ledger.** After every sequence of events, whatever the checks and the native
    calls answer:

    - the native sessions allocated and not yet freed are the one the view holds; each is freed
      once, and every native operation is on a session that is allocated and not freed;
    - the session a view holds was created with the policy and the security mode of the
      configuration the view retains;
    - in front of every key operation the posture check of that mode and the window check have
      passed, in the same event;
    - once released, a view stays without a session until it is configured. -/
theorem session_ledger_run :
    (∀ n, ∃ creation,
      Disciplined (sessionActs (viewAt device commands n).calls)
        (held (viewAt device commands n).sessionHandle creation) ∧
      ∀ handle, (viewAt device commands n).sessionHandle = some handle →
        ∃ configuration, (viewAt device commands n).retainedConfiguration = some configuration ∧
          creation = (configuration.policy, configuration.securityMode)) ∧
    (∀ n packed, .sessionRefresh none packed ∉ (viewAt device commands n).calls) ∧
    (∀ (n : ℕ) command, commands[n]? = some command →
      ∃ added, (viewAt device commands (n + 1)).calls = (viewAt device commands n).calls ++ added ∧
        Guarded command.pressesKey (viewAt device commands n).calls added) ∧
    ∀ m n : ℕ, commands[m]? = some .releaseSession → m < n → n ≤ commands.length →
      (∀ (k : ℕ) command, m < k → k < n → commands[k]? = some command → ¬ command.IsConfigure) →
        (viewAt device commands n).sessionHandle = none := by
  have hdisciplined : ∀ n, ∃ creation,
      Disciplined (sessionActs (viewAt device commands n).calls)
        (held (viewAt device commands n).sessionHandle creation) ∧
      ∀ handle, (viewAt device commands n).sessionHandle = some handle →
        ∃ configuration, (viewAt device commands n).retainedConfiguration = some configuration ∧
          creation = (configuration.policy, configuration.securityMode) := by
    intro n
    obtain ⟨creation, htracked, hretains⟩ := ledgered_viewAt device commands n
    exact ⟨creation, disciplined_of_run htracked, hretains⟩
  refine ⟨hdisciplined, ?_, ?_, ?_⟩
  · -- The handle 0 is never allocated, so it is never used.
    intro n packed hmem
    obtain ⟨creation, hlist, -⟩ := hdisciplined n
    obtain ⟨before, after, hsplit⟩ := List.append_of_mem hmem
    have hacts : sessionActs (viewAt device commands n).calls =
        sessionActs before ++ .use none :: sessionActs after := by
      rw [hsplit, sessionActs_append]
      rfl
    obtain ⟨before', c, during, hbefore, -⟩ :=
      hlist.spent (sessionActs before) none (.use none) (sessionActs after) hacts (.inl rfl)
    have hallocate : Act.allocate none c ∈ sessionActs before :=
      hbefore ▸ List.mem_append_right _ List.mem_cons_self
    obtain ⟨call, -, hcall⟩ := List.mem_filterMap.mp hallocate
    unfold sessionAct at hcall
    split at hcall <;> cases hcall
  · intro n command hcommand
    -- What one command adds to the calls is guarded, by the step from this view.
    have hgood := Command.good device command False.elim
      (good_of_ledgered (ledgered_viewAt device commands n) False.elim)
    rw [viewAt, run_take_succ (eventStep device) hcommand]
    exact hgood.guarded
  · intro m n hrelease hmn hn hconfigure
    exact (released_until_configured device commands hrelease hmn hn hconfigure).1

end Runs

end SecureKeypad.Native.Android
