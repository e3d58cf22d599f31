import SecureKeypad.Native.SessionLedger
import SecureKeypad.Native.SubmissionRouter

/-!
# Submission Ownership (Android)

Who has a submission when the activation that creates it is over, whatever its callbacks do: they
return or throw, and take or close what they are given. Between the native call and the handover
the submission is only in a local variable of `activate`: an exception of a callback of the refresh
leaves it there. And the adapters take a submission that is closed for one that is taken.

## Main results

- `run_adapterOnSubmit`: the adapters' `onSubmit` spends what it is given
- `play_refreshMaskedState`, `leaves_nativeActivation`: what is about no submission
- `owned_deliverOrRelease`: what is handed over is settled
- `submission_ownership_iff`: every activation
-/

namespace SecureKeypad.Native.Android

open Callback

variable {Theme : Type}

/-! ## Submissions that are used -/

/-- The call that a use comes to. -/
def Use.call (raw : ℕ) : Use → NativeCall
  | .close => .submissionFree raw
  | .take => .submissionTaken raw

namespace View

/-- The view's submission has its handle. -/
def Holds (view : View Theme) (submission raw : ℕ) : Prop :=
  view.submissions[submission]? = some (some raw)

/-- The handle has left the submission. -/
def spent (view : View Theme) (submission raw : ℕ) (use : Use) : View Theme :=
  { view with
    calls := view.calls ++ [use.call raw]
    submissions := view.submissions.set submission none }

variable {view : View Theme} {submission raw : ℕ}

theorem Holds.use_eq (h : view.Holds submission raw) (use : Use) :
    view.use submission use = view.spent submission raw use := by
  have hheld : view.submissions[submission]?.join = some raw := by
    rw [h]
    rfl
  cases use with
  | close => simp [View.use, closeSubmission, hheld, View.after, View.spent, Use.call]
  | take => simp [View.use, takeNativeHandle, hheld, View.after, View.spent, Use.call]

theorem spent_join (h : view.Holds submission raw) (use : Use) :
    (view.spent submission raw use).submissions[submission]?.join = none := by
  obtain ⟨hlength, -⟩ := List.getElem?_eq_some_iff.mp h
  simp [View.spent, hlength]

/-- What is spent stays as it is. -/
theorem use_of_join_eq_none (h : view.submissions[submission]?.join = none) (use : Use) :
    view.use submission use = view := by
  cases use with
  | close => simp [View.use, closeSubmission, h]
  | take => simp [View.use, takeNativeHandle, h]

theorem foldl_use_of_join_eq_none (h : view.submissions[submission]?.join = none)
    (uses : List Use) : uses.foldl (View.use · submission) view = view := by
  induction uses with
  | nil => rfl
  | cons use uses ih => rw [List.foldl_cons, use_of_join_eq_none h, ih]

/-- Of several uses the first counts. -/
theorem Holds.foldl_use (h : view.Holds submission raw) (uses : List Use) :
    uses.foldl (View.use · submission) view =
      (uses.head?.map (view.spent submission raw)).getD view := by
  cases uses with
  | nil => rfl
  | cons use uses =>
    rw [List.foldl_cons, h.use_eq, foldl_use_of_join_eq_none (spent_join h use)]
    rfl

end View

/-! ## `onSubmit` -/

/-! ## Code of the host -/

theorem run_bind {α β : Type} (code : HostCode Theme α) (f : α → HostCode Theme β)
    (world : View Theme × Memory) :
    (code >>= f).run world =
      match code.run world with
      | (.ok a, after) => (f a).run after
      | (.error failure, after) => (.error failure, after) := by
  rw [ExceptT.run_bind]
  change StateT.bind code.run _ world = _
  cases hrun : code.run world with
  | mk result after =>
    have hstep : ∀ g : Except Failure α → StateM (View Theme × Memory) (Except Failure β),
        StateT.bind code.run g world = g (code.run world).1 (code.run world).2 := fun g => rfl
    rw [hstep, hrun]
    cases result <;> rfl

theorem run_tryCatch {α : Type} (code : HostCode Theme α) (handler : Failure → HostCode Theme α)
    (world : View Theme × Memory) :
    (tryCatch code handler).run world =
      match code.run world with
      | (.ok a, after) => (.ok a, after)
      | (.error failure, after) => (handler failure).run after := by
  rw [ExceptT.run_tryCatch]
  cases hrun : code.run world with
  | mk result after =>
    have hstep : ∀ g : Except Failure α → StateM (View Theme × Memory) (Except Failure α),
        StateT.bind code.run g world = g (code.run world).1 (code.run world).2 := fun g => rfl
    change StateT.bind code.run _ world = _
    rw [hstep, hrun]
    cases result <;> rfl

@[simp] theorem pure_apply {α : Type} (a : α) (world : View Theme × Memory) :
    (pure a : StateM (View Theme × Memory) α) world = (a, world) := rfl

@[simp] theorem run_release (submission : ℕ) (view : View Theme) (memory : Memory) :
    (release submission : HostCode Theme Unit).run (view, memory) =
      (.ok (), view.use submission .close, memory) := rfl

@[simp] theorem run_isConsumed (submission : ℕ) (view : View Theme) (memory : Memory) :
    (isConsumed submission : HostCode Theme Bool).run (view, memory) =
      (.ok (decide (view.submissions[submission]?.join = none)), view, memory) := rfl

@[simp] theorem run_emitResult (code : String) (view : View Theme) (memory : Memory) :
    (emitResult code : HostCode Theme Unit).run (view, memory) =
      (.ok (), view, { memory with results := memory.results ++ [code] }) := rfl

/-- `release` behind the check of `deliverOrRelease`. -/
theorem run_deliverOrRethrow {α : Type} (submission : ℕ) (callback : HostCode Theme α)
    (view : View Theme) (memory : Memory) :
    (deliverOrRethrow submission callback).run (view, memory) =
      match callback.run (view, memory) with
      | (.ok a, after) => (.ok a, after)
      | (.error failure, after, memory) =>
        (.error failure, after.use submission .close, memory) := by
  rw [deliverOrRethrow, run_tryCatch]
  cases hrun : callback.run (view, memory) with
  | mk result after =>
    obtain ⟨after, memory⟩ := after
    cases result with
    | ok a => rfl
    | error failure =>
      simp only [run_bind, run_isConsumed]
      by_cases hspent : after.submissions[submission]?.join = none
      · rw [View.use_of_join_eq_none hspent, hspent]
        rfl
      · simp only [hspent, decide_false]
        rfl

section OnSubmit

variable {view : View Theme} {submission raw : ℕ} (h : view.Holds submission raw)

include h

theorem run_behaviour {α : Type} (behaviour : Behaviour α) (memory : Memory) :
    ((behaviour.run submission : HostCode Theme α).run (view, memory)) =
      (behaviour.ending, (behaviour.uses.head?.map (view.spent submission raw)).getD view,
        memory) := by
  rw [← h.foldl_use]
  cases hending : behaviour.ending <;> simp [Behaviour.run, hending] <;> rfl

/-- A consumer accepts when it returns `true` and has used the submission. -/
def Behaviour.accepts (consumer : Behaviour Bool) : Bool :=
  match consumer.ending with
  | .ok true => consumer.uses.head?.isSome
  | _ => false

/-- **The adapters' `onSubmit`** spends the submission whatever the consumer does: what the consumer
    leaves is released. -/
theorem run_adapterOnSubmit (consumer : Option (Behaviour Bool)) (memory : Memory) :
    ((adapterOnSubmit consumer submission : HostCode Theme Unit).run (view, memory)) =
      match (consumer.map Behaviour.ending).getD (.ok false) with
      | .ok _ => (.ok (), view.spent submission raw
          ((consumer.bind fun consumer => consumer.uses.head?).getD .close),
          { memory with results := memory.results ++
            [if consumer.any Behaviour.accepts then "success" else "error"] })
      | .error failure => (.error failure, view.spent submission raw
          ((consumer.bind fun consumer => consumer.uses.head?).getD .close), memory) := by
  cases consumer with
  | none => simp [adapterOnSubmit, routerDeliver, run_bind, h.use_eq]
  | some consumer =>
    simp only [adapterOnSubmit, routerDeliver, deliverAndReport, run_bind, run_deliverOrRethrow,
      run_behaviour h]
    -- what the consumer leaves is held, what it has used is spent
    cases hending : consumer.ending with
    | error failure =>
      cases huses : consumer.uses.head? with
      | none => simp [h.use_eq, hending, huses]
      | some use => simp [View.use_of_join_eq_none (View.spent_join h use), hending, huses]
    | ok accepted =>
      cases huses : consumer.uses.head? with
      | none =>
        have hheld : view.submissions[submission]?.join = some raw := by
          rw [h]
          rfl
        cases accepted <;> simp [h.use_eq, hheld, Behaviour.accepts, hending, huses, run_bind]
      | some use =>
        have hspent := View.spent_join h use
        cases accepted <;>
          simp [hspent, View.use_of_join_eq_none hspent, Behaviour.accepts, hending, huses,
            run_bind]

end OnSubmit

/-! ## Code that is about no submission -/

/-- The handle of a submission in a call. -/
def NativeCall.submissionHandle : NativeCall → Option ℕ
  | .sessionSubmit _ raw => raw
  | .submissionFree raw | .submissionTaken raw => some raw
  | _ => none

/-- Nothing has been done with a submission, and the callbacks are as they were. -/
structure Plain (a b : View Theme) : Prop where
  calls : ∃ added, b.calls = a.calls ++ added ∧ ∀ call ∈ added, call.submissionHandle = none
  submissions : b.submissions = a.submissions
  onMaskedStateChanged : b.onMaskedStateChanged = a.onMaskedStateChanged
  onError : b.onError = a.onError

instance : Keeping (@Plain Theme) where
  refl _ := ⟨⟨[], (List.append_nil _).symm, List.forall_mem_nil _⟩, rfl, rfl, rfl⟩
  trans := by
    intro a b c hab hbc
    obtain ⟨added, hadded, hplain⟩ := hab.calls
    obtain ⟨added', hadded', hplain'⟩ := hbc.calls
    refine ⟨⟨added ++ added', ?_, ?_⟩, hbc.submissions.trans hab.submissions,
      hbc.onMaskedStateChanged.trans hab.onMaskedStateChanged, hbc.onError.trans hab.onError⟩
    · rw [hadded', hadded, List.append_assoc]
    · exact List.forall_mem_append.mpr ⟨hplain, hplain'⟩

/-- A change of the rest of the view. -/
theorem plain_of_eq {a b : View Theme} (hcalls : b.calls = a.calls)
    (hsubmissions : b.submissions = a.submissions)
    (hmasked : b.onMaskedStateChanged = a.onMaskedStateChanged) (herror : b.onError = a.onError) :
    Plain a b :=
  ⟨⟨[], by rw [hcalls, List.append_nil], List.forall_mem_nil _⟩, hsubmissions, hmasked, herror⟩

theorem plain_after (view : View Theme) {calls : List NativeCall} (asked : ℕ)
    (h : ∀ call ∈ calls, call.submissionHandle = none) : Plain view (view.after calls asked) :=
  ⟨⟨calls, rfl, h⟩, rfl, rfl, rfl⟩

/-- What a callback other than `onSubmit` throws, if it is installed. -/
def Host.raises (host : Host) (view : View Theme) : HostCallback → Option Failure
  | .maskedState length displayState =>
    if view.onMaskedStateChanged then host.maskedState length displayState else none
  | .error code => if view.onError then host.error code else none
  | .submit _ | .needsReconfiguration => none

/-- A method that throws, or returns. -/
def ended {α : Type} (failure : Option Failure) (a : α) : Except Failure α :=
  match failure with
  | none => .ok a
  | some failure => .error failure

section Host

variable (host : Host) (device : Device Theme) (view : View Theme) (memory : Memory)

theorem play_onMaskedStateChanged (length displayState : ℤ) :
    Code.play host.answer (onMaskedStateChanged length displayState : Method Theme Unit) view
        memory =
      (ended (host.raises view (.maskedState length displayState)) (), view, memory) := by
  simp only [onMaskedStateChanged, invoke, play_bind, play_get, play_ite, play_callback,
    Host.answer, Host.raises]
  split
  · cases host.maskedState length displayState <;> rfl
  · rfl

theorem play_onError (code : ℤ) :
    Code.play host.answer (onError code : Method Theme Unit) view memory =
      (ended (host.raises view (.error code)) (), view, memory) := by
  simp only [onError, invoke, play_bind, play_get, play_ite, play_callback, Host.answer,
    Host.raises]
  split
  · cases host.error code <;> rfl
  · rfl

variable {host}

theorem leaves_onMaskedStateChanged (length displayState : ℤ) :
    Code.Leaves host.answer Plain (onMaskedStateChanged length displayState : Method Theme Unit) :=
  fun view _ => ⟨_, view, play_onMaskedStateChanged .., Keeping.refl view⟩

theorem leaves_onError (code : ℤ) :
    Code.Leaves host.answer Plain (onError code : Method Theme Unit) :=
  fun view _ => ⟨_, view, play_onError .., Keeping.refl view⟩

theorem leaves_record {call : NativeCall} (h : call.submissionHandle = none) :
    Code.Leaves host.answer Plain (record call : Method Theme Unit) :=
  leaves_modify fun view => ⟨⟨[call], rfl, by simpa using h⟩, rfl, rfl, rfl⟩

theorem leaves_ask {α : Type} (answer : Reply → α) :
    Code.Leaves host.answer Plain (ask device answer) :=
  leaves_bind leaves_get fun _ =>
    leaves_bind (leaves_modify fun _ => plain_of_eq rfl rfl rfl rfl) fun _ => leaves_pure _

theorem leaves_freeSession : Code.Leaves host.answer Plain (freeSession : Method Theme Unit) := by
  refine leaves_bind leaves_get fun view => ?_
  cases view.sessionHandle with
  | none => exact leaves_pure _
  | some handle =>
    exact leaves_bind (leaves_record rfl) fun _ =>
      leaves_modify fun _ => plain_of_eq rfl rfl rfl rfl

theorem leaves_releaseNativeSession (displayState : ℤ) :
    Code.Leaves host.answer Plain
      (releaseNativeSessionPreservingConfiguration displayState : Method Theme Unit) :=
  leaves_bind leaves_freeSession fun _ => leaves_onMaskedStateChanged 0 displayState

theorem leaves_zeroize :
    Code.Leaves host.answer Plain (zeroizeSessionForLifecycleLoss : Method Theme Unit) := by
  refine leaves_bind leaves_get fun view => ?_
  cases view.sessionHandle with
  | none => exact leaves_pure _
  | some handle => exact leaves_releaseNativeSession 3

theorem leaves_failClosedBoundary :
    Code.Leaves host.answer Plain (failClosedBoundary : Method Theme Unit) :=
  leaves_bind leaves_zeroize fun _ => leaves_onError _

/-! ## The boundary -/

/-- The posture check of the view's mode. -/
def View.postureAllowed (device : Device Theme) (view : View Theme) : Bool :=
  if view.securityMode = "standard" then true
  else if view.securityMode = "strict" then (device.replies view.asked).postureAllows
  else false

/-- The replies used behind the posture check. -/
def View.askedBehindPosture (view : View Theme) : ℕ :=
  if view.securityMode = "standard" then view.asked
  else if view.securityMode = "strict" then view.asked + 1
  else view.asked

theorem play_deviceSecurityAllows :
    Code.play host.answer (deviceSecurityAllows device view.securityMode) view memory =
      (.ok (view.postureAllowed device), view.after
        [.deviceSecurity view.securityMode (view.postureAllowed device)] view.askedBehindPosture,
        memory) := by
  simp only [deviceSecurityAllows, secureKeypadDeviceSecurityAllows, View.postureAllowed,
    View.askedBehindPosture]
  split
  · rfl
  · split <;> rfl

/-- Both checks of the boundary pass. -/
def View.Passes (device : Device Theme) (view : View Theme) : Prop :=
  view.postureAllowed device = true ∧ (device.replies view.askedBehindPosture).windowSecure = true

theorem play_deviceBoundary_of_allowed (h : view.postureAllowed device = true) :
    Code.play host.answer (ensureSecureDeviceSecurityBoundary device) view memory =
      (.ok true, view.after [.deviceSecurity view.securityMode true] view.askedBehindPosture,
        memory) := by
  have hposture := @play_deviceSecurityAllows _ host device view memory
  rw [h] at hposture
  rw [ensureSecureDeviceSecurityBoundary, play_bind, play_get]
  simp only
  rw [play_bind, ← View.securityMode, hposture]
  rfl

theorem play_windowProtection :
    Code.play host.answer (ensureSecureWindowProtection device) view memory =
      (.ok (device.replies view.asked).windowSecure,
        view.after [.windowProtection (device.replies view.asked).windowSecure] (view.asked + 1),
        memory) := rfl

theorem play_boundary_of_passes (h : view.Passes device) :
    Code.play host.answer (ensureSecureInputBoundary device) view memory =
      (.ok true, view.after [.deviceSecurity view.securityMode true, .windowProtection true]
        (view.askedBehindPosture + 1), memory) := by
  have hwindow : (device.replies (view.after [.deviceSecurity view.securityMode true]
      view.askedBehindPosture).asked).windowSecure = true := h.2
  rw [ensureSecureInputBoundary, play_bind, play_deviceBoundary_of_allowed device view memory h.1]
  simp only [if_true]
  rw [play_bind, play_windowProtection, hwindow]
  simp only [if_true, View.after_after]
  rfl

variable (host) in
/-- The method does not return `true`, and is about no submission. -/
def Declines (method : Method Theme Bool) : Prop :=
  ∀ view memory, ∃ result after, Code.play host.answer method view memory =
    (result, after, memory) ∧ Plain view after ∧ result ≠ .ok true

theorem declines_false : Declines host (pure false : Method Theme Bool) :=
  fun view _ => ⟨.ok false, view, rfl, Keeping.refl view, by simp⟩

theorem declines_bind {α : Type} {method : Method Theme α} {f : α → Method Theme Bool}
    (hmethod : Code.Leaves host.answer Plain method) (hf : ∀ a, Declines host (f a)) :
    Declines host (method >>= f) := by
  intro view memory
  obtain ⟨result, middle, hfirst, hplain⟩ := hmethod view memory
  cases result with
  | error failure => exact ⟨.error failure, middle, by rw [play_bind, hfirst], hplain, by simp⟩
  | ok a =>
    obtain ⟨result, after, hsecond, hplain', hresult⟩ := hf a middle memory
    refine ⟨result, after, ?_, Keeping.trans _ _ _ hplain hplain', hresult⟩
    rw [play_bind, hfirst]
    exact hsecond

/-- The session is given up, and an error reported. -/
theorem declines_giveUp {method : Method Theme Unit}
    (hmethod : Code.Leaves host.answer Plain method) (code : ℤ) :
    Declines host (do method; onError code; pure false) :=
  declines_bind hmethod fun _ => declines_bind (leaves_onError code) fun _ => declines_false

theorem play_boundary_of_not_passes (h : ¬ view.Passes device) :
    ∃ result after, Code.play host.answer (ensureSecureInputBoundary device) view memory =
      (result, after, memory) ∧ Plain view after ∧ result ≠ .ok true := by
  have hposture := @play_deviceSecurityAllows _ host device view memory
  have hchecked : ∀ allowed asked, Plain view
      (view.after [.deviceSecurity view.securityMode allowed] asked) := fun allowed asked =>
    plain_after view asked fun call hcall => by rw [List.mem_singleton.mp hcall]; rfl
  -- The boundary fails at the posture, or behind it at the window; both decline.
  cases hallowed : view.postureAllowed device with
  | false =>
    rw [hallowed] at hposture
    obtain ⟨result, after, hplay, hplain, hresult⟩ :=
      @declines_giveUp _ host _ leaves_zeroize errorInternal
        (view.after [.deviceSecurity view.securityMode false] view.askedBehindPosture) memory
    have hboundary : Code.play host.answer (ensureSecureDeviceSecurityBoundary device) view memory =
        (result, after, memory) := by
      rw [← hplay, ensureSecureDeviceSecurityBoundary, play_bind, play_get]
      simp only
      rw [play_bind, ← View.securityMode, hposture]
      rfl
    refine ⟨result, after, ?_, Keeping.trans _ _ _ (hchecked _ _) hplain, hresult⟩
    rw [ensureSecureInputBoundary, play_bind, hboundary]
    cases result with
    | error failure => rfl
    | ok declined =>
      cases declined with
      | false => rfl
      | true => exact absurd rfl hresult
  | true =>
    have hinsecure : (device.replies view.askedBehindPosture).windowSecure = false :=
      Bool.not_eq_true _ |>.mp fun hsecure => h ⟨hallowed, hsecure⟩
    obtain ⟨result, after, hplay, hplain, hresult⟩ :=
      @declines_bind _ host _ _ _ leaves_failClosedBoundary (fun _ => declines_false)
        ((view.after [.deviceSecurity view.securityMode true] view.askedBehindPosture).after
          [.windowProtection false] (view.askedBehindPosture + 1)) memory
    refine ⟨result, after, ?_, Keeping.trans _ _ _ (Keeping.trans _ _ _ (hchecked true
      view.askedBehindPosture) (plain_after _ _ fun call hcall => by
        rw [List.mem_singleton.mp hcall]; rfl)) hplain, hresult⟩
    have hwindow : (device.replies (view.after [.deviceSecurity view.securityMode true]
        view.askedBehindPosture).asked).windowSecure = false := hinsecure
    rw [ensureSecureInputBoundary, play_bind,
      play_deviceBoundary_of_allowed device view memory hallowed]
    simp only [if_true]
    rw [play_bind, play_windowProtection, hwindow]
    exact hplay

/-! ## The refresh behind a key -/

/-- The state that can be shown. -/
def shownState? (packed : BitVec 64) : Option (ℤ × ℤ) :=
  (decodeMaskedState packed).filter fun state =>
    0 ≤ state.1 && state.1 ≤ maxRenderedLength && isValidDisplayState state.2

/-- What is thrown by the callbacks of a refresh that reads `packed`. -/
def Host.refreshRaises (host : Host) (view : View Theme) (packed : BitVec 64) : Option Failure :=
  match shownState? packed with
  | some (length, displayState) => host.raises view (.maskedState length displayState)
  | none => (host.raises view (.maskedState 0 0)).or (host.raises view (.error errorInternal))

theorem raises_freed (callback : HostCallback) :
    host.raises view.freed callback = host.raises view callback := by
  cases hhandle : view.sessionHandle <;> cases callback <;>
    simp [Host.raises, View.freed, hhandle]

@[simp] theorem play_freeSession :
    Code.play host.answer freeSession view memory = (.ok (), view.freed, memory) := by
  cases hhandle : view.sessionHandle with
  | none => simp [freeSession, View.freed, hhandle]
  | some handle => simp [freeSession, View.freed, hhandle, record]

theorem plain_freed : Plain view view.freed := by
  unfold View.freed
  split
  · exact Keeping.refl view
  · exact ⟨⟨[.sessionFree _], rfl, by simp [NativeCall.submissionHandle]⟩, rfl, rfl, rfl⟩

/-- The session and the configuration are given up, and an error reported. -/
theorem play_giveUp (code : ℤ) :
    ∃ after, Code.play host.answer (do releaseSession; onError code; pure false) view memory =
      (ended ((host.raises view (.maskedState 0 0)).or (host.raises view (.error code))) false,
        after, memory) ∧ Plain view after := by
  have hrelease : Code.play host.answer
      (releaseNativeSessionPreservingConfiguration 0 : Method Theme Unit) view memory =
        (ended (host.raises view (.maskedState 0 0)) (), view.freed, memory) := by
    rw [releaseNativeSessionPreservingConfiguration, play_bind, play_freeSession]
    simp only
    rw [play_onMaskedStateChanged, raises_freed]
  have hforgotten : host.raises view.freed.forgotten (.error code) =
      host.raises view (.error code) := raises_freed view (.error code)
  -- A callback that throws leaves before the configuration is forgotten.
  cases hraises : host.raises view (.maskedState 0 0) with
  | some failure =>
    rw [hraises] at hrelease
    refine ⟨view.freed, ?_, plain_freed view⟩
    rw [play_bind, releaseSession, play_bind, hrelease]
    rfl
  | none =>
    rw [hraises] at hrelease
    refine ⟨view.freed.forgotten, ?_, Keeping.trans _ _ _ (plain_freed view)
      (plain_of_eq rfl rfl rfl rfl)⟩
    have hforget : Code.play host.answer (releaseSession : Method Theme Unit) view memory =
        (.ok (), view.freed.forgotten, memory) := by
      rw [releaseSession, play_bind, hrelease]
      rfl
    rw [play_bind, hforget]
    simp only
    rw [play_bind, play_onError, hforgotten, Option.none_or]
    cases host.raises view (.error code) <;> rfl

/-- **The refresh** throws what its callbacks throw, and returns whether a state is shown. -/
theorem play_refreshMaskedState :
    ∃ after, Code.play host.answer (refreshMaskedState device) view memory =
      (ended (host.refreshRaises view (device.replies view.asked).packed)
        (shownState? (device.replies view.asked).packed).isSome, after, memory) ∧
      Plain view after := by
  have hask : Code.play host.answer (ask device Reply.packed) view memory =
      (.ok (device.replies view.asked).packed, { view with asked := view.asked + 1 }, memory) := rfl
  have hrecord : ∀ (call : NativeCall) (view : View Theme), Code.play host.answer (record call) view
      memory = (.ok (), view.after [call] view.asked, memory) := fun _ _ => rfl
  simp only [refreshMaskedState, play_bind, hask, play_get, hrecord]
  generalize hnext : View.after _ _ _ = next
  have hplain : Plain view next := by
    rw [← hnext]
    exact ⟨⟨_, rfl, by simp [NativeCall.submissionHandle]⟩, rfl, rfl, rfl⟩
  have hraises : ∀ callback, host.raises next callback = host.raises view callback := by
    intro callback
    rw [← hnext]
    cases callback <;> rfl
  obtain ⟨after, hgivesUp, hplain'⟩ := @play_giveUp _ host next memory errorInternal
  rw [hraises, hraises] at hgivesUp
  have hafter := Keeping.trans _ _ _ hplain hplain'
  -- The packed state is decoded, and shown if it is within bounds; otherwise the view gives up.
  cases hdecode : decodeMaskedState (device.replies view.asked).packed with
  | none =>
    refine ⟨after, ?_, hafter⟩
    simp only [Host.refreshRaises, shownState?, hdecode, Option.filter_none, Option.isSome_none]
    exact hgivesUp
  | some state =>
    obtain ⟨length, displayState⟩ := state
    by_cases hbad : length < 0 ∨ maxRenderedLength < length ∨
        isValidDisplayState displayState = false
    · have hhidden : shownState? (device.replies view.asked).packed = none := by
        rw [shownState?, hdecode, Option.filter_some]
        rcases hbad with hbad | hbad | hbad <;> simp [hbad]
      refine ⟨after, ?_, hafter⟩
      simp only [if_pos hbad, Host.refreshRaises, hhidden, Option.isSome_none]
      exact hgivesUp
    · have hshown : shownState? (device.replies view.asked).packed =
          some (length, displayState) := by
        rw [not_or, not_or, not_lt, not_lt, Bool.not_eq_false] at hbad
        rw [shownState?, hdecode, Option.filter_some]
        simp [hbad.1, hbad.2.1, hbad.2.2]
      refine ⟨next, ?_, hplain⟩
      simp only [if_neg hbad, Host.refreshRaises, hshown, Option.isSome_some]
      rw [play_bind, play_onMaskedStateChanged, hraises]
      cases host.raises view (.maskedState length displayState) <;> rfl

theorem leaves_refreshMaskedState : Code.Leaves host.answer Plain (refreshMaskedState device) := by
  intro view memory
  obtain ⟨after, hplay, hplain⟩ := @play_refreshMaskedState _ host device view memory
  exact ⟨_, after, hplay, hplain⟩

/-! ## Keys that submit nothing -/

theorem leaves_finishActivation (status : ℤ) :
    Code.Leaves host.answer Plain (finishActivation device (some (status, none))) := by
  refine leaves_ite ?_ ?_
  · exact leaves_bind (leaves_releaseNativeSession 0) fun _ =>
      leaves_bind (leaves_onError _) fun _ => leaves_pure _
  · exact leaves_bind (leaves_refreshMaskedState device) fun _ =>
      leaves_ite (leaves_pure _) (leaves_pure _)

/-- A key that does not submit is about no submission. -/
theorem leaves_nativeActivation (handle : ℕ) {key : KeySpec} (hkey : key.role ≠ .submit) :
    Code.Leaves host.answer Plain
      (nativeActivation device handle key >>= finishActivation device) := by
  have hstatus : ∀ call : ℤ → NativeCall, (∀ status, (call status).submissionHandle = none) →
      Code.Leaves host.answer Plain ((do
        let status ← ask device Reply.status
        record (call status)
        pure (some (status, none)) : Method Theme (Option (ℤ × Option ℕ))) >>=
          finishActivation device) := by
    intro call hcall view memory
    obtain ⟨result, after, hplay, hplain⟩ := leaves_bind (leaves_ask device Reply.status)
      (fun status => leaves_bind (leaves_record (hcall status))
        fun _ => @leaves_finishActivation _ host device status) view memory
    exact ⟨result, after, hplay, hplain⟩
  unfold nativeActivation
  cases hrole : key.role with
  | input => exact hstatus _ fun _ => rfl
  | backspace => exact hstatus _ fun _ => rfl
  | clear => exact hstatus _ fun _ => rfl
  | cancel => exact hstatus _ fun _ => rfl
  | spacer => exact fun view memory => ⟨.ok false, view, rfl, Keeping.refl view⟩
  | submit => exact absurd hrole hkey

end Host

/-! ## What becomes of a submission -/

/-- The calls that are about a submission. -/
def aboutSubmissions (calls : List NativeCall) : List NativeCall :=
  calls.filter fun call => call.submissionHandle.isSome

/-- The calls added behind `view`, as far as they are about a submission. -/
def Adds (view after : View Theme) (calls : List NativeCall) : Prop :=
  ∃ added, after.calls = view.calls ++ added ∧ aboutSubmissions added = calls

theorem Plain.adds {view after : View Theme} (h : Plain view after) : Adds view after [] := by
  obtain ⟨added, hadded, hplain⟩ := h.calls
  refine ⟨added, hadded, List.filter_eq_nil_iff.mpr fun call hcall => ?_⟩
  rw [hplain call hcall]
  simp

theorem Adds.trans {view middle after : View Theme} {calls calls' : List NativeCall}
    (h : Adds view middle calls) (h' : Adds middle after calls') :
    Adds view after (calls ++ calls') := by
  obtain ⟨added, hadded, rfl⟩ := h
  obtain ⟨added', hadded', rfl⟩ := h'
  refine ⟨added ++ added', ?_, List.filter_append ..⟩
  rw [hadded', hadded, List.append_assoc]

/-- What is asked of an activation: `added` are its calls, and a submission it makes is the
    object `created`. -/
structure Owned (created : ℕ) (added : List NativeCall) (after : View Theme) (memory : Memory) :
    Prop where
  /-- A submission is freed once, or transferred once, or handed to an `onSubmit` that has
      returned. -/
  settled : ∀ handle raw, .sessionSubmit handle (some raw) ∈ added →
    (added.count (.submissionFree raw) = 1 ∧ added.count (.submissionTaken raw) = 0) ∨
    (added.count (.submissionFree raw) = 0 ∧ added.count (.submissionTaken raw) = 1) ∨
    (added.count (.submissionFree raw) = 0 ∧ added.count (.submissionTaken raw) = 0 ∧
      after.Holds created raw ∧ created ∈ memory.returned)
  /-- No handle is both freed and transferred. -/
  apart : ∀ raw, ¬ (.submissionFree raw ∈ added ∧ .submissionTaken raw ∈ added)
  /-- A success is emitted only if a handle has been taken. -/
  success : "success" ∈ memory.results → ∃ raw, .submissionTaken raw ∈ added

/-- Only the calls about submissions matter. -/
theorem owned_iff {created : ℕ} {added : List NativeCall} {after : View Theme} {memory : Memory} :
    Owned created added after memory ↔ Owned created (aboutSubmissions added) after memory := by
  have hcount : ∀ call : NativeCall, call.submissionHandle.isSome →
      (aboutSubmissions added).count call = added.count call :=
    fun call hcall => List.count_filter hcall
  have hmem : ∀ call : NativeCall, call.submissionHandle.isSome →
      (call ∈ aboutSubmissions added ↔ call ∈ added) := by
    intro call hcall
    rw [aboutSubmissions, List.mem_filter]
    exact and_iff_left hcall
  constructor
  · intro h
    refine ⟨fun handle raw hsubmit => ?_, fun raw => ?_, fun hsuccess => ?_⟩
    · rw [hcount _ rfl, hcount _ rfl]
      exact h.settled handle raw ((hmem _ rfl).mp hsubmit)
    · rw [hmem _ rfl, hmem _ rfl]
      exact h.apart raw
    · obtain ⟨raw, htaken⟩ := h.success hsuccess
      exact ⟨raw, (hmem _ rfl).mpr htaken⟩
  · intro h
    refine ⟨fun handle raw hsubmit => ?_, fun raw => ?_, fun hsuccess => ?_⟩
    · rw [← hcount _ rfl, ← hcount _ rfl]
      exact h.settled handle raw ((hmem _ rfl).mpr hsubmit)
    · rw [← hmem _ rfl, ← hmem _ rfl]
      exact h.apart raw
    · obtain ⟨raw, htaken⟩ := h.success hsuccess
      exact ⟨raw, (hmem _ rfl).mp htaken⟩

/-- The rule for the activation of a key. -/
def OwnershipRule (device : Device Theme) (host : Host) (view : View Theme) (key : KeySpec) :
    Prop :=
  ∃ added, (activation device host view key).2.1.calls = view.calls ++ added ∧
    Owned view.submissions.length added (activation device host view key).2.1
      (activation device host view key).2.2

theorem ownershipRule_iff {device : Device Theme} {host : Host} {view after : View Theme}
    {key : KeySpec} {result : Except Failure Bool} {memory : Memory} {calls : List NativeCall}
    (h : activation device host view key = (result, after, memory))
    (hadds : Adds view after calls) :
    OwnershipRule device host view key ↔ Owned view.submissions.length calls after memory := by
  obtain ⟨added, hadded, rfl⟩ := hadds
  rw [OwnershipRule, h]
  constructor
  · rintro ⟨added', hadded', howned⟩
    cases List.append_cancel_left (hadded.symm.trans hadded')
    exact owned_iff.mp howned
  · intro howned
    exact ⟨added, hadded, owned_iff.mpr howned⟩

theorem owned_nil (created : ℕ) (after : View Theme) : Owned created [] after ⟨[], []⟩ :=
  ⟨by simp, by simp, by simp⟩

/-- A submission that is spent. -/
theorem owned_spent {created handle raw : ℕ} {use : Use} {after : View Theme} {memory : Memory} :
    Owned created [.sessionSubmit handle (some raw), use.call raw] after memory ↔
      ("success" ∈ memory.results → use = .take) := by
  constructor
  · intro h hsuccess
    obtain ⟨raw', htaken⟩ := h.success hsuccess
    cases use with
    | close => simp [Use.call] at htaken
    | take => rfl
  · intro h
    refine ⟨fun handle' raw' hsubmit => ?_, fun raw' => ?_, fun hsuccess => ?_⟩
    · have hsame : raw' = raw := by
        cases use <;> simp [Use.call] at hsubmit <;> exact hsubmit.2
      rw [hsame]
      cases use with
      | close => exact .inl (by simp [Use.call])
      | take => exact .inr (.inl (by simp [Use.call]))
    · cases use <;> simp [Use.call]
    · rw [h hsuccess]
      exact ⟨raw, by simp [Use.call]⟩

/-- A submission that is left alone. -/
theorem owned_left {created handle raw : ℕ} {after : View Theme} {memory : Memory}
    (hresults : memory.results = []) :
    Owned created [.sessionSubmit handle (some raw)] after memory ↔
      after.Holds created raw ∧ created ∈ memory.returned := by
  constructor
  · intro h
    have hsettled := h.settled handle raw List.mem_cons_self
    simpa [List.count_cons] using hsettled
  · intro h
    refine ⟨fun handle' raw' hsubmit => ?_, fun raw' => by simp, by simp [hresults]⟩
    simp only [List.mem_singleton, NativeCall.sessionSubmit.injEq, Option.some.injEq] at hsubmit
    rw [hsubmit.2]
    exact .inr (.inr (by simpa [List.count_cons] using h))

/-! ## Submit keys -/

/-- The activation of the key creates the submission with the handle. -/
structure Submits (device : Device Theme) (view : View Theme) (key : KeySpec) (raw : ℕ) : Prop where
  submit : key.role = .submit
  session : view.sessionHandle.isSome
  passes : view.Passes device
  submission : (device.replies (view.askedBehindPosture + 1)).submission = some raw

/-- What the refresh behind a submit reads. -/
def packedBehindSubmit (device : Device Theme) (view : View Theme) : BitVec 64 :=
  (device.replies (view.askedBehindPosture + 2)).packed

/-- `nativeActivation` of a submit key behind the native call. -/
def handOut : Option ℕ → Method Theme (Option (ℤ × Option ℕ))
  | none => do
    releaseNativeSessionPreservingConfiguration 0
    onError errorInternal
    pure none
  | some raw => do
    let view ← Code.get
    if view.onSubmit then
      Code.modify ({ · with submissions := view.submissions ++ [some raw] })
      pure (some (0, some view.submissions.length))
    else
      record (.submissionFree raw)
      onError errorInternal
      pure none

section Activation

variable {device : Device Theme} {host : Host} {view : View Theme} {key : KeySpec}

/-- An activation behind the boundary. -/
theorem activation_of_passes (hpasses : view.Passes device) {handle : ℕ}
    (hsession : view.sessionHandle = some handle) :
    activation device host view key =
      Code.play host.answer (nativeActivation device handle key >>= finishActivation device)
        (view.after [.deviceSecurity view.securityMode true, .windowProtection true]
          (view.askedBehindPosture + 1)) ⟨[], []⟩ := by
  rw [activation, activate_eq, play_bind, play_boundary_of_passes device view _ hpasses]
  simp only [if_true]
  rw [play_bind, play_get]
  simp only [View.after_sessionHandle, hsession]

theorem play_nativeActivation_of_submit (hsubmit : key.role = .submit) (handle : ℕ)
    (memory : Memory) :
    Code.play host.answer (nativeActivation device handle key >>= finishActivation device) view
        memory =
      Code.play host.answer
        (handOut (device.replies view.asked).submission >>= finishActivation device)
        (view.after [.sessionSubmit handle (device.replies view.asked).submission]
          (view.asked + 1)) memory := by
  rw [nativeActivation, hsubmit]
  rfl

/-- **Where no submission is created** the calls are about none. -/
theorem activation_of_not_submits (h : ∀ raw, ¬ Submits device view key raw) :
    ∃ result after, activation device host view key = (result, after, ⟨[], []⟩) ∧
      Adds view after [] := by
  -- An activation stops at the boundary, at a missing session, or at the key itself.
  by_cases hpasses : view.Passes device
  · have hchecked : Plain view (view.after
        [.deviceSecurity view.securityMode true, .windowProtection true]
        (view.askedBehindPosture + 1)) :=
      plain_after view _ (by simp [NativeCall.submissionHandle])
    cases hsession : view.sessionHandle with
    | none =>
      refine ⟨.ok false, _, ?_, hchecked.adds⟩
      rw [activation, activate_eq, play_bind, play_boundary_of_passes device view _ hpasses]
      simp only [if_true]
      rw [play_bind, play_get]
      simp only [View.after_sessionHandle, hsession]
      rfl
    | some handle =>
      rw [activation_of_passes hpasses hsession]
      by_cases hsubmit : key.role = .submit
      -- The submit key made no submission, since the session gave none.
      · have hnone : (device.replies (view.askedBehindPosture + 1)).submission = none := by
          rw [Option.eq_none_iff_forall_ne_some]
          intro raw hraw
          exact h raw ⟨hsubmit, hsession ▸ rfl, hpasses, hraw⟩
        -- The view gives up: it releases the session and reports the error.
        have hgivesUp : Code.Leaves host.answer Plain
            (handOut none >>= finishActivation device) := by
          rw [handOut, Code.bind_assoc]
          refine leaves_bind (leaves_releaseNativeSession 0) fun _ => ?_
          rw [Code.bind_assoc]
          exact leaves_bind (leaves_onError _) fun _ => leaves_pure false
        rw [play_nativeActivation_of_submit hsubmit]
        have hasked : (view.after [.deviceSecurity view.securityMode true, .windowProtection true]
          (view.askedBehindPosture + 1)).asked = view.askedBehindPosture + 1 := rfl
        rw [hasked, hnone]
        obtain ⟨result, after, hplay, hplain⟩ := hgivesUp ((view.after
          [.deviceSecurity view.securityMode true, .windowProtection true]
          (view.askedBehindPosture + 1)).after [.sessionSubmit handle none]
          (view.askedBehindPosture + 1 + 1)) ⟨[], []⟩
        exact ⟨result, after, hplay, (Keeping.trans _ _ _ (Keeping.trans _ _ _ hchecked
          (plain_after _ _ (by simp [NativeCall.submissionHandle]))) hplain).adds⟩
      · obtain ⟨result, after, hplay, hplain⟩ :=
          @leaves_nativeActivation _ host device handle _ hsubmit _ ⟨[], []⟩
        exact ⟨result, after, hplay, (Keeping.trans _ _ _ hchecked hplain).adds⟩
  · obtain ⟨result, after, hplay, hplain, hresult⟩ :=
      @play_boundary_of_not_passes _ host device view ⟨[], []⟩ hpasses
    rw [activation, activate_eq, play_bind, hplay]
    cases result with
    | error failure => exact ⟨.error failure, after, rfl, hplain.adds⟩
    | ok declined =>
      cases declined with
      | false => exact ⟨.ok false, after, rfl, hplain.adds⟩
      | true => exact absurd rfl hresult

/-- What the submission is left to: the refresh, and what follows it. -/
def handOver (device : Device Theme) (submission : ℕ) : Method Theme Bool := do
  if ← refreshMaskedState device then
    deliverOrRelease submission
    pure true
  else
    closeSubmission submission
    pure false

/-- An activation that creates a submission, behind the native call. -/
theorem activation_of_submits {raw : ℕ} (h : Submits device view key raw) :
    ∃ submitted handle, activation device host view key =
        Code.play host.answer (handOut (some raw) >>= finishActivation device) submitted ⟨[], []⟩ ∧
      Adds view submitted [.sessionSubmit handle (some raw)] ∧
      submitted.submissions = view.submissions ∧ submitted.onSubmit = view.onSubmit ∧
      submitted.asked = view.askedBehindPosture + 2 ∧
      ∀ callback, host.raises submitted callback = host.raises view callback := by
  obtain ⟨handle, hsession⟩ := Option.isSome_iff_exists.mp h.session
  rw [activation_of_passes h.passes hsession, play_nativeActivation_of_submit h.submit]
  have hasked : (view.after [.deviceSecurity view.securityMode true, .windowProtection true]
    (view.askedBehindPosture + 1)).asked = view.askedBehindPosture + 1 := rfl
  rw [hasked, h.submission]
  refine ⟨_, handle, rfl, ⟨[.deviceSecurity view.securityMode true, .windowProtection true,
    .sessionSubmit handle (some raw)], ?_, ?_⟩, rfl, rfl, rfl, ?_⟩
  · simp [View.after]
  · simp [aboutSubmissions, NativeCall.submissionHandle]
  · intro callback
    cases callback <;> rfl

/-- **Where nobody is there for a submission** it is freed. -/
theorem activation_of_not_installed {raw : ℕ} (h : Submits device view key raw)
    (hinstalled : view.onSubmit = false) :
    ∃ result after handle, activation device host view key = (result, after, ⟨[], []⟩) ∧
      Adds view after [.sessionSubmit handle (some raw), Use.close.call raw] := by
  obtain ⟨submitted, handle, hplay, hadds, -, hcallback, -, -⟩ :=
    @activation_of_submits _ _ host _ _ _ h
  have hfreed : Adds submitted (submitted.after [.submissionFree raw] submitted.asked)
      [Use.close.call raw] := ⟨_, rfl, by simp [aboutSubmissions, NativeCall.submissionHandle,
        Use.call]⟩
  have hreport : Code.Leaves host.answer Plain ((do
      onError errorInternal
      pure none : Method Theme (Option (ℤ × Option ℕ))) >>= finishActivation device) := by
    rw [Code.bind_assoc]
    exact leaves_bind (leaves_onError _) fun _ => leaves_pure false
  obtain ⟨result, after, hend, hplain⟩ :=
    hreport (submitted.after [.submissionFree raw] submitted.asked) ⟨[], []⟩
  refine ⟨result, after, handle, ?_, (hadds.trans hfreed).trans hplain.adds⟩
  rw [hplay, handOut, ← hend, Code.bind_assoc, play_bind, play_get]
  simp only [hcallback, hinstalled]
  rfl

/-- Where there is a callback, it is handed over behind the refresh. -/
theorem activation_of_installed {raw : ℕ} (h : Submits device view key raw)
    (hinstalled : view.onSubmit = true) :
    ∃ middle handle, activation device host view key =
        Code.play host.answer (handOver device view.submissions.length) middle ⟨[], []⟩ ∧
      Adds view middle [.sessionSubmit handle (some raw)] ∧
      middle.Holds view.submissions.length raw ∧ middle.asked = view.askedBehindPosture + 2 ∧
      ∀ callback, host.raises middle callback = host.raises view callback := by
  obtain ⟨submitted, handle, hplay, hadds, hsubmissions, hcallback, hasked, hraises⟩ :=
    @activation_of_submits _ _ host _ _ _ h
  refine ⟨{ submitted with submissions := view.submissions ++ [some raw] }, handle, ?_, hadds, ?_,
    hasked, fun callback => ?_⟩
  · rw [hplay, handOut, Code.bind_assoc, play_bind, play_get]
    simp only
    rw [if_pos (hcallback.trans hinstalled), hsubmissions]
    rfl
  · simp [View.Holds]
  · rw [← hraises]
    cases callback <;> rfl

/-- A refresh that throws leaves the submission alone; one that shows nothing has it freed. -/
theorem play_handOver_of_raises {submission : ℕ} {failure : Failure} (memory : Memory)
    (hraises : host.refreshRaises view (device.replies view.asked).packed = some failure) :
    ∃ after, Code.play host.answer (handOver device submission) view memory =
      (.error failure, after, memory) ∧ Plain view after := by
  obtain ⟨after, hrefresh, hplain⟩ := @play_refreshMaskedState _ host device view memory
  rw [hraises] at hrefresh
  exact ⟨after, by rw [handOver, play_bind, hrefresh]; rfl, hplain⟩

theorem play_closeSubmission {submission raw : ℕ} (h : view.Holds submission raw)
    (memory : Memory) :
    Code.play host.answer (closeSubmission submission) view memory =
      (.ok (), view.spent submission raw .close, memory) := by
  have hheld : view.submissions[submission]?.join = some raw := by
    rw [h]
    rfl
  simp [closeSubmission, hheld, record, View.spent, Use.call]

theorem adds_spent (submission raw : ℕ) (use : Use) :
    Adds view (view.spent submission raw use) [use.call raw] :=
  ⟨_, rfl, by cases use <;> simp [aboutSubmissions, NativeCall.submissionHandle, Use.call]⟩

theorem Plain.holds {after : View Theme} (h : Plain view after) {submission raw : ℕ}
    (hholds : view.Holds submission raw) : after.Holds submission raw := by
  rw [View.Holds, h.submissions]
  exact hholds

theorem play_handOver_of_hidden {submission raw : ℕ} (h : view.Holds submission raw)
    (memory : Memory)
    (hraises : host.refreshRaises view (device.replies view.asked).packed = none)
    (hhidden : shownState? (device.replies view.asked).packed = none) :
    ∃ after, Code.play host.answer (handOver device submission) view memory =
      (.ok false, after, memory) ∧ Adds view after [Use.close.call raw] := by
  obtain ⟨after, hrefresh, hplain⟩ := @play_refreshMaskedState _ host device view memory
  rw [hraises, hhidden] at hrefresh
  refine ⟨after.spent submission raw .close, ?_,
    hplain.adds.trans (adds_spent submission raw .close)⟩
  rw [handOver, play_bind, hrefresh]
  simp only [ended, Option.isSome_none, Bool.false_eq_true, if_false]
  rw [play_bind, play_closeSubmission (hplain.holds h)]
  rfl

theorem play_deliverOrRelease (submission : ℕ) (memory : Memory) :
    Code.play host.answer (deliverOrRelease submission) view memory =
      match (host.onSubmit.run submission).run (view, memory) with
      | (.ok (), after, memory) =>
        (.ok (), after, { memory with returned := memory.returned ++ [submission] })
      | (.error failure, after, memory) =>
        (.error failure, after.use submission .close, memory) := by
  have hclose : ∀ (after : View Theme) (memory : Memory),
      Code.play host.answer (closeSubmission submission) after memory =
        (.ok (), after.use submission .close, memory) := by
    intro after memory
    cases hheld : after.submissions[submission]?.join with
    | none => simp [closeSubmission, hheld, View.use]
    | some raw => simp [closeSubmission, hheld, View.use, record]
  rw [deliverOrRelease, play_bind, play_callback, Host.answer]
  cases hrun : (host.onSubmit.run submission).run (view, memory) with
  | mk result after =>
    cases result with
    | ok _ => rfl
    | error failure =>
      simp only
      rw [play_bind, hclose]
      rfl

/-- The consumer returns `true` though it has closed the submission before it could be taken. -/
def OnSubmit.ClosesAndAccepts : OnSubmit → Prop
  | .own _ => False
  | .adapter consumer =>
    ∃ behaviour, consumer = some behaviour ∧ behaviour.uses.head? = some .close ∧
      behaviour.ending = .ok true

/-- **What is handed over is settled** unless a consumer accepts what it has closed. -/
theorem owned_deliverOrRelease {submission raw handle : ℕ} (h : view.Holds submission raw) :
    ∃ result after memory calls, Code.play host.answer (deliverOrRelease submission) view ⟨[], []⟩ =
        (result, after, memory) ∧ Adds view after calls ∧
      (Owned submission (.sessionSubmit handle (some raw) :: calls) after memory ↔
        ¬ host.onSubmit.ClosesAndAccepts) := by
  have hclosed : ∀ use, (view.spent submission raw use).use submission .close =
      view.spent submission raw use := fun use =>
    View.use_of_join_eq_none (View.spent_join h use) .close
  rw [play_deliverOrRelease]
  cases honSubmit : host.onSubmit with
  | own behaviour =>
    rw [OnSubmit.run, run_behaviour h]
    cases hending : behaviour.ending with
    | ok _ =>
      cases huses : behaviour.uses.head? with
      | none =>
        refine ⟨_, view, ⟨[], [submission]⟩, [], rfl,
          (Keeping.refl view : Plain view view).adds, ?_⟩
        rw [owned_left rfl]
        exact iff_of_true ⟨h, List.mem_singleton_self _⟩ id
      | some use =>
        refine ⟨_, _, ⟨[], [submission]⟩, _, rfl, adds_spent submission raw use, ?_⟩
        rw [owned_spent]
        exact iff_of_true (by simp) id
    | error failure =>
      -- whatever the callback has left is released
      have hadds : Adds view (((behaviour.uses.head?.map (view.spent submission raw)).getD
          view).use submission .close) [(behaviour.uses.head?.getD .close).call raw] := by
        cases huses : behaviour.uses.head? with
        | none =>
          rw [Option.map_none, Option.getD_none, h.use_eq]
          exact adds_spent submission raw .close
        | some use =>
          rw [Option.map_some, Option.getD_some, hclosed]
          exact adds_spent submission raw use
      refine ⟨.error failure, _, ⟨[], []⟩, _, rfl, hadds, ?_⟩
      rw [owned_spent]
      exact iff_of_true (by simp) id
  | adapter consumer =>
    rw [OnSubmit.run, run_adapterOnSubmit h]
    cases hending : (consumer.map Behaviour.ending).getD (.ok false) with
    | ok accepted =>
      refine ⟨_, _, _, _, rfl, adds_spent submission raw _, ?_⟩
      rw [owned_spent]
      cases consumer with
      | none => exact iff_of_true (by simp) (by simp [OnSubmit.ClosesAndAccepts])
      | some behaviour =>
        rw [Option.map_some, Option.getD_some] at hending
        cases huses : behaviour.uses.head? with
        | none =>
          cases accepted <;> simp [OnSubmit.ClosesAndAccepts, huses, Behaviour.accepts, hending]
        | some use =>
          cases use <;> cases accepted <;>
            simp [OnSubmit.ClosesAndAccepts, huses, Behaviour.accepts, hending]
    | error failure =>
      have hadds := @adds_spent _ view submission raw
        ((consumer.bind fun consumer => consumer.uses.head?).getD .close)
      refine ⟨.error failure, _, ⟨[], []⟩, _, rfl, by rwa [hclosed], ?_⟩
      rw [owned_spent]
      refine iff_of_true (by simp) ?_
      rintro ⟨behaviour, rfl, -, htrue⟩
      rw [Option.map_some, Option.getD_some, htrue] at hending
      cases hending

theorem play_handOver_of_shown {submission raw handle : ℕ} (h : view.Holds submission raw)
    (hraises : host.refreshRaises view (device.replies view.asked).packed = none)
    (hshown : (shownState? (device.replies view.asked).packed).isSome = true) :
    ∃ result after memory calls, Code.play host.answer (handOver device submission) view ⟨[], []⟩ =
        (result, after, memory) ∧ Adds view after calls ∧
      (Owned submission (.sessionSubmit handle (some raw) :: calls) after memory ↔
        ¬ host.onSubmit.ClosesAndAccepts) := by
  obtain ⟨shown, hrefresh, hplain⟩ := @play_refreshMaskedState _ host device view ⟨[], []⟩
  rw [hraises, hshown] at hrefresh
  obtain ⟨result, after, memory, calls, hdeliver, hadds, howned⟩ :=
    @owned_deliverOrRelease _ host _ _ _ handle (hplain.holds h)
  have hover : Code.play host.answer (handOver device submission) view ⟨[], []⟩ =
      (result.map fun _ => true, after, memory) := by
    rw [handOver, play_bind, hrefresh]
    simp only [ended, if_true]
    rw [play_bind, hdeliver]
    cases result <;> rfl
  exact ⟨_, after, memory, calls, hover, hplain.adds.trans hadds, howned⟩

/-! ## Ownership -/

/-- No callback of the refresh behind the submit throws, and if a state is shown, no consumer
    accepts a submission that it has closed. -/
def SubmitsCleanly (device : Device Theme) (host : Host) (view : View Theme) (key : KeySpec) :
    Prop :=
  ∀ raw, Submits device view key raw → view.onSubmit = true →
    host.refreshRaises view (packedBehindSubmit device view) = none ∧
    ((shownState? (packedBehindSubmit device view)).isSome → ¬ host.onSubmit.ClosesAndAccepts)

theorem refreshRaises_congr {middle : View Theme}
    (h : ∀ callback, host.raises middle callback = host.raises view callback) (packed : BitVec 64) :
    host.refreshRaises middle packed = host.refreshRaises view packed := by
  unfold Host.refreshRaises
  cases shownState? packed with
  | none => rw [h, h]
  | some state => exact h _

/-- **Submission ownership**: an activation settles the submission it creates, whatever the
    callbacks do, exactly if it submits cleanly. -/
theorem submission_ownership_iff (device : Device Theme) (host : Host) (view : View Theme)
    (key : KeySpec) :
    OwnershipRule device host view key ↔ SubmitsCleanly device host view key := by
  by_cases hsubmits : ∃ raw, Submits device view key raw
  · obtain ⟨raw, hsubmits⟩ := hsubmits
    cases hinstalled : view.onSubmit with
    | false =>
      obtain ⟨result, after, handle, hplay, hadds⟩ :=
        @activation_of_not_installed _ _ host _ _ _ hsubmits hinstalled
      rw [ownershipRule_iff hplay hadds, owned_spent]
      refine iff_of_true (by simp) fun _ _ htrue => ?_
      cases hinstalled.symm.trans htrue
    | true =>
      obtain ⟨middle, handle, hplay, hadds, hholds, hasked, hraises⟩ :=
        @activation_of_installed _ _ host _ _ _ hsubmits hinstalled
      have hpacked : (device.replies middle.asked).packed = packedBehindSubmit device view := by
        rw [hasked, packedBehindSubmit]
      have hrefresh : host.refreshRaises middle (device.replies middle.asked).packed =
          host.refreshRaises view (packedBehindSubmit device view) := by
        rw [hpacked]
        exact refreshRaises_congr hraises _
      cases hthrown : host.refreshRaises view (packedBehindSubmit device view) with
      | some failure =>
        -- the exception goes past the submission, which nobody has been given
        obtain ⟨after, hover, hplain⟩ := @play_handOver_of_raises _ device _ _
          view.submissions.length _ ⟨[], []⟩ (hrefresh.trans hthrown)
        rw [ownershipRule_iff (hplay.trans hover) (hadds.trans hplain.adds)]
        refine iff_of_false ?_ fun hcleanly => ?_
        · intro howned
          have hleft := (owned_left rfl).mp howned
          simp at hleft
        · cases hthrown.symm.trans (hcleanly raw hsubmits hinstalled).1
      | none =>
        have hcleanly : SubmitsCleanly device host view key ↔
            ((shownState? (packedBehindSubmit device view)).isSome →
              ¬ host.onSubmit.ClosesAndAccepts) :=
          ⟨fun h => (h raw hsubmits hinstalled).2, fun h _ _ _ => ⟨hthrown, h⟩⟩
        rw [hcleanly]
        cases hshown : shownState? (packedBehindSubmit device view) with
        | none =>
          obtain ⟨after, hover, hfreed⟩ := @play_handOver_of_hidden _ device _ _ _ _ hholds
            ⟨[], []⟩ (hrefresh.trans hthrown) (by rw [hpacked, hshown])
          rw [ownershipRule_iff (hplay.trans hover) (hadds.trans hfreed), List.singleton_append,
            owned_spent]
          exact iff_of_true (by simp) (by simp)
        | some state =>
          obtain ⟨result, after, memory, calls, hover, hcalls, howned⟩ :=
            @play_handOver_of_shown _ device _ _ _ _ handle hholds
              (hrefresh.trans hthrown) (by rw [hpacked, hshown]; rfl)
          rw [ownershipRule_iff (hplay.trans hover) (hadds.trans hcalls), List.singleton_append,
            howned]
          simp
  · rw [not_exists] at hsubmits
    obtain ⟨result, after, hplay, hadds⟩ := @activation_of_not_submits _ _ host _ _ hsubmits
    rw [ownershipRule_iff hplay hadds]
    exact iff_of_true (owned_nil _ _) fun raw hraw => absurd hraw (hsubmits raw)

end Activation

/-- A device on which a submit creates the submission with the handle 7. -/
def submitting : Device Unit where
  validateTheme _ := true
  replies _ := ⟨true, true, some 1, 0, 0, some 7⟩

/-- A view with a session, whose host listens to the masked state. -/
def submittingView : View Unit :=
  { View.new Unit with sessionHandle := some 1, onSubmit := true, onMaskedStateChanged := true }

def submitKey : KeySpec := ⟨"submit", "OK", .submit, "submit", none⟩

/-- The host throws when it is shown the state behind the submit. -/
def throwingHost : Host := ⟨fun _ _ => some .runtime, fun _ => none, .own ⟨[.take], .ok ()⟩⟩

/-- The consumer of an adapter closes the submission, and returns `true`. -/
def closingHost : Host := ⟨fun _ _ => none, fun _ => none, .adapter (some ⟨[.close], .ok true⟩)⟩

/-- A submission is left behind by a refresh that throws, and a success is emitted for one that has
    been closed. -/
theorem not_submission_ownership :
    ¬ OwnershipRule submitting throwingHost submittingView submitKey ∧
      ¬ OwnershipRule submitting closingHost submittingView submitKey := by
  constructor
  · rintro ⟨added, hadded, howned⟩
    have hcalls : added = [.deviceSecurity "standard" true, .windowProtection true,
        .sessionSubmit 1 (some 7), .sessionRefresh (some 1) 0] := hadded.symm
    have hmemory : (activation submitting throwingHost submittingView submitKey).2.2 =
        ⟨[], []⟩ := rfl
    rw [hmemory, hcalls] at howned
    have hsettled := howned.settled 1 7 (by simp)
    simp at hsettled
  · rintro ⟨added, hadded, howned⟩
    have hcalls : added = [.deviceSecurity "standard" true, .windowProtection true,
        .sessionSubmit 1 (some 7), .sessionRefresh (some 1) 0, .submissionFree 7] := hadded.symm
    have hmemory : (activation submitting closingHost submittingView submitKey).2.2 =
        ⟨["success"], [0]⟩ := rfl
    rw [hmemory, hcalls] at howned
    obtain ⟨raw, htaken⟩ := howned.success (by simp)
    simp at htaken

end SecureKeypad.Native.Android
