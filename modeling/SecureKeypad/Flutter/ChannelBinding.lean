import SecureKeypad.Flutter.Widget

/-!
# Channel Binding of the Flutter Widget

`didUpdateWidget` drops the channels when the configuration is another object or the view type is
another text. The native view is created anew when the view type or the JSON text of the creation
parameters is another one. Where the first happens without the second, a mounted view is left
without channels.

## Main results

- `step_bound`: a step that strands no view keeps the channels on the mounted view
- `channel_binding`: the channels lead to the mounted view throughout a run exactly when no update
  of the run strands a view
-/

namespace SecureKeypad.Flutter

open Native (isPublicId)

namespace World

variable (platform : TargetPlatform) (heap : ℕ → Configuration)

/-! ## What the methods leave alone -/

section Frame

variable (world : World)

@[simp] theorem setController_self (c : ℕ) (controller : Controller) :
    (world.setController c controller).controllers c = controller := Function.update_self ..

theorem setController_of_ne {c c' : ℕ} (h : c' ≠ c) (controller : Controller) :
    (world.setController c controller).controllers c' = world.controllers c' :=
  Function.update_of_ne h ..

@[simp] theorem attachController_state : (world.attachController heap).state = world.state := by
  unfold attachController
  split <;> rfl

@[simp] theorem attachController_mounted :
    (world.attachController heap).mounted = world.mounted := by
  unfold attachController
  split <;> rfl

@[simp] theorem attachController_view : (world.attachController heap).view = world.view := by
  unfold attachController
  split <;> rfl

@[simp] theorem emitOnce_view (result : ResultCode) : (world.emitOnce result).view = world.view := by
  unfold emitOnce
  split <;> rfl

@[simp] theorem emitOnce_mounted (result : ResultCode) :
    (world.emitOnce result).mounted = world.mounted := by
  unfold emitOnce
  split <;> rfl

@[simp] theorem emitOnce_controllers (result : ResultCode) :
    (world.emitOnce result).controllers = world.controllers := by
  unfold emitOnce
  split <;> rfl

@[simp] theorem emitOnce_widget (result : ResultCode) :
    (world.emitOnce result).state.widget = world.state.widget := by
  unfold emitOnce
  split <;> rfl

@[simp] theorem emitOnce_controlChannel (result : ResultCode) :
    (world.emitOnce result).state.controlChannel = world.state.controlChannel := by
  unfold emitOnce
  split <;> rfl

@[simp] theorem emitOnce_eventSubscription (result : ResultCode) :
    (world.emitOnce result).state.eventSubscription = world.state.eventSubscription := by
  unfold emitOnce
  split <;> rfl

/-- A build changes the view and nothing else the bindings depend on. -/
structure Builds (world world' : World) : Prop where
  mounted : world'.mounted = world.mounted
  widget : world'.state.widget = world.state.widget
  controlChannel : world'.state.controlChannel = world.state.controlChannel
  eventSubscription : world'.state.eventSubscription = world.state.eventSubscription
  controllers : world'.controllers = world.controllers

theorem emitBuildErrors_builds : Builds world (world.emitBuildErrors platform heap) := by
  unfold emitBuildErrors
  split_ifs
  · exact ⟨by simp, by simp, by simp, by simp, by simp⟩
  · exact ⟨by simp, by simp, by simp, by simp, by simp⟩
  · exact ⟨rfl, rfl, rfl, rfl, rfl⟩

@[simp] theorem emitBuildErrors_view :
    (world.emitBuildErrors platform heap).view = world.view := by
  unfold emitBuildErrors
  split_ifs
  · exact emitOnce_view world _
  · exact emitOnce_view world _
  · rfl

theorem reconcile_builds (child : Option String) : Builds world (world.reconcile child) := by
  unfold reconcile
  split
  · exact ⟨rfl, rfl, rfl, rfl, rfl⟩
  · split <;> exact ⟨rfl, rfl, rfl, rfl, rfl⟩

theorem build_builds : Builds world (world.build platform heap) := by
  have herrors := emitBuildErrors_builds platform heap world
  have hchild := reconcile_builds (world.emitBuildErrors platform heap)
    (world.state.widget.child platform heap)
  exact ⟨hchild.mounted.trans herrors.mounted, hchild.widget.trans herrors.widget,
    hchild.controlChannel.trans herrors.controlChannel,
    hchild.eventSubscription.trans herrors.eventSubscription,
    hchild.controllers.trans herrors.controllers⟩

/-- A created view behind a build was there before, with the key of the child. -/
theorem view_of_build {view : PlatformView} (h : (world.build platform heap).view = some view)
    (hcreated : view.created = true) :
    world.view = some view ∧ world.state.widget.child platform heap = some view.key := by
  unfold build reconcile at h
  split at h
  · cases h
  · next key hchild =>
    rw [emitBuildErrors_view] at h
    split at h
    · next hsame =>
      rw [emitBuildErrors_view] at h
      rw [h, Option.map_some, Option.some.injEq] at hsame
      exact ⟨h, by rw [hchild, hsame]⟩
    · -- A view that has just been mounted is not created.
      cases h
      cases hcreated

/-- A view whose key is that of the child stays. -/
theorem build_view_of_child {view : PlatformView} (h : world.view = some view)
    (hchild : world.state.widget.child platform heap = some view.key) :
    (world.build platform heap).view = some view := by
  unfold build reconcile
  rw [hchild]
  simp [h]

theorem exchangeController_state (old : Option ℕ) :
    (world.exchangeController heap old).state = world.state := by
  unfold exchangeController
  split
  · rw [attachController_state]
    split <;> rfl
  · rfl

theorem exchangeController_view (old : Option ℕ) :
    (world.exchangeController heap old).view = world.view := by
  unfold exchangeController
  split
  · rw [attachController_view]
    split <;> rfl
  · rfl

/-- `didUpdateWidget` leaves the view alone. -/
theorem didUpdateWidget_view (widget : Widget) :
    (world.didUpdateWidget heap widget).view = world.view := by
  unfold didUpdateWidget dropChannels
  rw [exchangeController_view]
  split
  · rw [attachController_view]
  · rfl

/-- The channels behind `didUpdateWidget`: as they were, or dropped. -/
theorem didUpdateWidget_state (widget : Widget) :
    (world.didUpdateWidget heap widget).state =
      if world.drops widget then ⟨widget, none, none, false⟩ else { world.state with widget } := by
  unfold didUpdateWidget dropChannels
  rw [exchangeController_state]
  split
  · rw [attachController_state]
  · rfl

end Frame

/-! ## Steps the framework has no part in -/

/-- A report changes nothing but the reports. -/
theorem emitResult_eq (world : World) (result : ResultCode) :
    ∃ reports, world.emitResult heap result = { world with reports } := by
  unfold emitResult
  split
  · exact ⟨_, rfl⟩
  · exact ⟨_, rfl⟩

theorem foldl_emitResult_eq (results : List ResultCode) (world : World) :
    ∃ reports, results.foldl (emitResult heap) world = { world with reports } := by
  induction results generalizing world with
  | nil => exact ⟨_, rfl⟩
  | cons result results ih =>
    obtain ⟨reports, heq⟩ := emitResult_eq heap world result
    rw [List.foldl_cons, heq]
    exact ih _

theorem onNativeEvent_eq (world : World) (event : NativeEvent) :
    ∃ reports, world.onNativeEvent heap event = { world with reports } := by
  unfold onNativeEvent
  split
  · split
    · unfold emitMaskedState
      split <;> exact ⟨_, rfl⟩
    · exact emitResult_eq heap world _
  · exact emitResult_eq heap world _
  · exact emitResult_eq heap world _

/-- A call of a closure adds at most a message. -/
theorem call_eq (world : World) (owner : Owner) (message : Message) :
    ∃ sent, (world.call owner message).2 = { world with sent } := by
  unfold call send
  split
  · split <;> exact ⟨_, rfl⟩
  · exact ⟨_, rfl⟩

theorem cancel_eq (world : World) (c : ℕ) : ∃ sent, (world.cancel c).2 = { world with sent } := by
  unfold cancel
  split
  · exact ⟨_, rfl⟩
  · exact call_eq world _ _

/-- A key press takes a token and adds at most a message. -/
theorem pressKey_eq (world : World) (c : ℕ) (keyId : String) :
    ∃ sent token, (world.pressKey c keyId).2 =
      { world.setController c
          { world.controllers c with nextHeadlessKeyPressToken := token } with sent } := by
  have hsame : world = { world.setController c { world.controllers c with
      nextHeadlessKeyPressToken := (world.controllers c).nextHeadlessKeyPressToken } with
      sent := world.sent } := by
    simp [setController]
  unfold pressKey
  split
  · exact ⟨_, _, hsame⟩
  · split
    · exact ⟨_, _, hsame⟩
    · next owner _ =>
      dsimp only
      split
      · exact ⟨_, _, hsame⟩
      · obtain ⟨sent, heq⟩ := call_eq (world.setController c { world.controllers c with
          nextHeadlessKeyPressToken := (world.controllers c).nextHeadlessKeyPressToken + 1 }) owner
          (.pressKey (world.controllers c).nextHeadlessKeyPressToken keyId)
        exact ⟨sent, _, heq⟩

end World

/-- Updates, builds and the like. -/
def Event.ofFramework : Event → Bool
  | .update _ => true
  | .rebuild => true
  | .created => true
  | .dispose => true
  | _ => false

/-- Another state attaches or detaches the controller. -/
def Event.takes (c : ℕ) : Event → Prop
  | .attachElsewhere c' _ => c' = c
  | .detachElsewhere c' => c' = c
  | _ => False

namespace World

variable (platform : TargetPlatform) (heap : ℕ → Configuration)

/-- Other steps change neither the state nor the view, and the closures of a controller only if
    another state attaches or detaches it. -/
theorem step_other (world : World) {event : Event} (h : event.ofFramework = false) :
    ∃ controllers postFrame sent reports,
      (world.step platform heap event).2 = { world with controllers, postFrame, sent, reports } ∧
      ∀ c, ¬ event.takes c →
        (controllers c).cancelAction = (world.controllers c).cancelAction ∧
        (controllers c).headlessKeyPressAction = (world.controllers c).headlessKeyPressAction := by
  cases event with
  | update widget => cases h
  | rebuild => cases h
  | created => cases h
  | dispose => cases h
  | endOfFrame =>
    simp only [step]
    split
    · obtain ⟨reports, heq⟩ := foldl_emitResult_eq heap world.postFrame world
      rw [heq]
      exact ⟨_, _, _, _, rfl, fun _ _ => ⟨rfl, rfl⟩⟩
    · exact ⟨_, _, _, _, rfl, fun _ _ => ⟨rfl, rfl⟩⟩
  | native viewId event =>
    simp only [step]
    split
    · obtain ⟨reports, heq⟩ := onNativeEvent_eq heap world event
      rw [heq]
      exact ⟨_, _, _, _, rfl, fun _ _ => ⟨rfl, rfl⟩⟩
    · exact ⟨_, _, _, _, rfl, fun _ _ => ⟨rfl, rfl⟩⟩
  -- A command goes out by the actions a controller has, and leaves them as they are.
  | cancel c =>
    obtain ⟨sent, heq⟩ := cancel_eq world c
    exact ⟨_, _, _, _, heq, fun _ _ => ⟨rfl, rfl⟩⟩
  | pressKey c keyId =>
    obtain ⟨sent, token, heq⟩ := pressKey_eq world c keyId
    refine ⟨_, _, _, _, heq, ?_⟩
    intro c' _
    by_cases hc : c' = c
    · subst hc
      simp only [setController_self, and_self]
    · simp only [setController_of_ne _ hc, and_self]
  -- Attaching elsewhere changes the actions of the controller it is about.
  | attachElsewhere c headless =>
    refine ⟨_, _, _, _, rfl, ?_⟩
    intro c' htakes
    simp only [Function.update_of_ne (Ne.symm htakes), and_self]
  | detachElsewhere c =>
    refine ⟨_, _, _, _, rfl, ?_⟩
    intro c' htakes
    simp only [Function.update_of_ne (Ne.symm htakes), and_self]

/-! ## Bindings -/

/-- If a native view is mounted and has come up, the channels lead to it. -/
def Bound (world : World) : Prop :=
  ∀ view, world.view = some view → view.created = true →
    world.state.controlChannel = some view.id ∧ world.state.eventSubscription = some view.id

/-- The update drops the channels, while the view they lead to stays mounted. -/
def Strands (world : World) (widget : Widget) : Prop :=
  world.mounted = true ∧ world.drops widget ∧
    ∃ view, world.view = some view ∧ view.created = true ∧
      widget.child platform heap = some view.key

theorem build_bound {world : World} (h : world.Bound) : (world.build platform heap).Bound := by
  intro view hview hcreated
  have hbuilds := build_builds platform heap world
  rw [hbuilds.controlChannel, hbuilds.eventSubscription]
  exact h view (view_of_build platform heap world hview hcreated).1 hcreated

/-- An update that strands no view leaves the channels on the mounted one. -/
theorem update_bound {world : World} (h : world.Bound) (hmounted : world.mounted = true)
    {widget : Widget} (hstrands : ¬ world.Strands platform heap widget) :
    ((world.didUpdateWidget heap widget).build platform heap).Bound := by
  intro view hview hcreated
  obtain ⟨hbefore, hchild⟩ := view_of_build platform heap _ hview hcreated
  rw [didUpdateWidget_view] at hbefore
  have hwidget : (world.didUpdateWidget heap widget).state.widget = widget := by
    rw [didUpdateWidget_state]
    split <;> rfl
  rw [hwidget] at hchild
  -- The view was there before and its key is the new one, so the channels are kept.
  have hkeeps : ¬ world.drops widget := fun hdrops =>
    hstrands ⟨hmounted, hdrops, view, hbefore, hcreated, hchild⟩
  have hbuilds := build_builds platform heap (world.didUpdateWidget heap widget)
  rw [hbuilds.controlChannel, hbuilds.eventSubscription, didUpdateWidget_state, if_neg hkeeps]
  exact h view hbefore hcreated

/-- A stranded view stays mounted, and has no channels. -/
theorem stranded {world : World} {widget : Widget} (h : world.Strands platform heap widget) :
    ∃ view, (world.step platform heap (.update widget)).2.view = some view ∧ view.created = true ∧
      (world.step platform heap (.update widget)).2.state.controlChannel = none ∧
      (world.step platform heap (.update widget)).2.state.eventSubscription = none := by
  obtain ⟨hmounted, hdrops, view, hview, hcreated, hchild⟩ := h
  have hstate : (world.didUpdateWidget heap widget).state = ⟨widget, none, none, false⟩ := by
    rw [didUpdateWidget_state, if_pos hdrops]
  have hbuilds := build_builds platform heap (world.didUpdateWidget heap widget)
  simp only [step, hmounted, if_true]
  refine ⟨view, ?_, hcreated, ?_, ?_⟩
  · apply build_view_of_child
    · rw [didUpdateWidget_view, hview]
    · rw [hstate]
      exact hchild
  · rw [hbuilds.controlChannel, hstate]
  · rw [hbuilds.eventSubscription, hstate]

theorem not_bound_of_strands {world : World} {widget : Widget}
    (h : world.Strands platform heap widget) :
    ¬ (world.step platform heap (.update widget)).2.Bound := by
  intro hbound
  obtain ⟨view, hview, hcreated, hchannel, _⟩ := stranded platform heap h
  rw [(hbound view hview hcreated).1] at hchannel
  cases hchannel

theorem created_bound {world : World} (h : world.Bound) : (world.created heap).Bound := by
  unfold created
  split
  · exact h
  · next view hview =>
    split
    · exact h
    · intro view' hview' _
      simp only [onPlatformViewCreated, attachController_view, Option.some.injEq] at hview'
      subst hview'
      simp [onPlatformViewCreated]

/-- **One step** keeps the channels on the mounted view, unless it is an update that strands it. -/
theorem step_bound {world : World} (h : world.Bound) {event : Event}
    (hstrands : ∀ widget, event = .update widget → ¬ world.Strands platform heap widget) :
    (world.step platform heap event).2.Bound := by
  -- Only the framework moves the binding; an update that strands it is ruled out.
  by_cases hframework : event.ofFramework = false
  · obtain ⟨controllers, postFrame, sent, reports, heq, _⟩ := step_other platform heap world hframework
    rw [heq]
    exact h
  · cases event with
    | update widget =>
      simp only [step]
      split
      · next hmounted => exact update_bound platform heap h hmounted (hstrands widget rfl)
      · exact h
    | rebuild =>
      simp only [step]
      split
      · exact build_bound platform heap h
      · exact h
    | created =>
      simp only [step]
      split
      · exact created_bound heap h
      · exact h
    | dispose =>
      simp only [step]
      split
      · intro view hview
        cases hview
      · exact h
    | _ => exact absurd rfl hframework

/-! ## Controllers -/

/-- The controller holds the closures of this state, as its widget wants them. -/
def Holds (c : ℕ) (world : World) : Prop :=
  (world.controllers c).cancelAction = some .here ∧
  (world.controllers c).headlessKeyPressAction =
    if world.state.widget.headless heap then some .here else none

/-- If a native view is mounted and has come up, the widget's controller holds the closures. -/
def Attached (c : ℕ) (world : World) : Prop :=
  ∀ view, world.view = some view → view.created = true → world.state.widget.controller = some c →
    Holds heap c world

theorem attachController_holds (world : World) {c : ℕ}
    (h : world.state.widget.controller = some c) : Holds heap c (world.attachController heap) := by
  unfold Holds
  rw [attachController_state]
  unfold attachController
  simp only [h, attach, setController_self, and_self]

theorem onPlatformViewCreated_holds {world : World} {c : ℕ}
    (h : world.state.widget.controller = some c) (viewId : ℕ) :
    Holds heap c (world.onPlatformViewCreated heap viewId) :=
  attachController_holds heap { world with
    state := { world.state with controlChannel := some viewId } } h

theorem exchangeController_holds {world : World} {c : ℕ} {old : Option ℕ}
    (h : world.state.widget.controller = some c) (hheld : old = some c → Holds heap c world) :
    Holds heap c (world.exchangeController heap old) := by
  unfold exchangeController
  split
  · apply attachController_holds
    split <;> exact h
  · next hsame =>
    rw [ne_eq, not_not] at hsame
    exact hheld (hsame.trans h)

theorem dropChannels_holds {world : World} {c : ℕ} {dropped : Prop} [Decidable dropped]
    (h : world.state.widget.controller = some c) (hheld : ¬ dropped → Holds heap c world) :
    Holds heap c (world.dropChannels heap dropped) := by
  unfold dropChannels
  split
  · exact attachController_holds heap _ h
  · next hkept => exact hheld hkept

/-- `didUpdateWidget` attaches the controller again if it, the configuration or the view type is
    another one. -/
theorem didUpdateWidget_attached {world : World} {c : ℕ} (h : Attached heap c world)
    (widget : Widget) : Attached heap c (world.didUpdateWidget heap widget) := by
  intro view hview hcreated hc
  rw [didUpdateWidget_view] at hview
  have hwidget : widget.controller = some c := by
    rw [didUpdateWidget_state] at hc
    split at hc <;> exact hc
  have hdropped : (dropChannels heap { world with state := { world.state with widget } }
      (world.drops widget)).state.widget = widget := by
    unfold dropChannels
    split
    · rw [attachController_state]
    · rfl
  apply exchangeController_holds heap (by rw [hdropped]; exact hwidget)
  intro hold
  apply dropChannels_holds heap hwidget
  intro hkept
  -- Neither is another one: the closures are those of before.
  obtain ⟨hcancel, hheadless⟩ := h view hview hcreated hold
  have hconfiguration : world.state.widget.configuration = widget.configuration := by
    by_contra hne
    exact hkept (.inl hne)
  have hsame : world.state.widget.headless heap = widget.headless heap := by
    unfold Widget.headless
    rw [hconfiguration]
  exact ⟨hcancel, hheadless.trans (by rw [hsame])⟩

theorem build_attached {world : World} {c : ℕ} (h : Attached heap c world) :
    Attached heap c (world.build platform heap) := by
  intro view hview hcreated hc
  have hbuilds := build_builds platform heap world
  rw [hbuilds.widget] at hc
  unfold Holds
  rw [hbuilds.widget, hbuilds.controllers]
  exact h view (view_of_build platform heap world hview hcreated).1 hcreated hc

theorem created_attached {world : World} {c : ℕ} (h : Attached heap c world) :
    Attached heap c (world.created heap) := by
  unfold created
  split
  · exact h
  · split
    · exact h
    · intro _ _ _ hc
      apply onPlatformViewCreated_holds
      simpa [onPlatformViewCreated] using hc

/-- A step in which no other state takes the controller keeps it attached. -/
theorem step_attached {world : World} {c : ℕ} (h : Attached heap c world) {event : Event}
    (htakes : ¬ event.takes c) : Attached heap c (world.step platform heap event).2 := by
  -- Only the framework moves the binding; other events leave the actions, by `step_other`.
  by_cases hframework : event.ofFramework = false
  · obtain ⟨controllers, postFrame, sent, reports, heq, hactions⟩ :=
      step_other platform heap world hframework
    rw [heq]
    intro view hview hcreated hc
    obtain ⟨hcancel, hheadless⟩ := h view hview hcreated hc
    exact ⟨(hactions c htakes).1.trans hcancel, (hactions c htakes).2.trans hheadless⟩
  · cases event with
    | update widget =>
      simp only [step]
      split
      · exact build_attached platform heap (didUpdateWidget_attached heap h widget)
      · exact h
    | rebuild =>
      simp only [step]
      split
      · exact build_attached platform heap h
      · exact h
    | created =>
      simp only [step]
      split
      · exact created_attached heap h
      · exact h
    | dispose =>
      simp only [step]
      split
      · intro view hview
        cases hview
      · exact h
    | _ => exact absurd rfl hframework

/-! ## Runs -/

/-- What the channels of a mounted view are for: its events are delivered, and, unless another
    state has taken the widget's controller, the controller's commands reach it. -/
def Reaches (world : World) (past : List Event) : Prop :=
  ∀ view, world.view = some view → view.created = true →
    (∀ event, (world.step platform heap (.native view.id event)).2 =
      world.onNativeEvent heap event) ∧
    ∀ c, world.state.widget.controller = some c → (∀ event ∈ past, ¬ event.takes c) →
      world.cancel c = (.sent, { world with sent := world.sent ++ [(view.id, .cancel)] }) ∧
      ∀ keyId, isPublicId keyId = true → world.state.widget.headless heap = true →
        (world.controllers c).nextHeadlessKeyPressToken ≤ maxHeadlessKeyPressToken →
        (world.pressKey c keyId).1 = .sent ∧
        (world.pressKey c keyId).2.sent = world.sent ++
          [(view.id, .pressKey (world.controllers c).nextHeadlessKeyPressToken keyId)]

theorem reaches_of_bound {world : World} {past : List Event} (hbound : world.Bound)
    (hattached : ∀ c, (∀ event ∈ past, ¬ event.takes c) → Attached heap c world) :
    world.Reaches platform heap past := by
  intro view hview hcreated
  obtain ⟨hchannel, hsubscription⟩ := hbound view hview hcreated
  refine ⟨fun event => by simp only [step, hsubscription, if_true], ?_⟩
  intro c hc htaken
  obtain ⟨hcancel, hpress⟩ := hattached c htaken view hview hcreated hc
  refine ⟨by simp only [cancel, hcancel, call, send, hchannel], ?_⟩
  intro keyId hkeyId hheadless htoken
  rw [hheadless, if_pos rfl] at hpress
  have hbudget : ¬ maxHeadlessKeyPressToken < (world.controllers c).nextHeadlessKeyPressToken :=
    not_lt.mpr htoken
  simp [pressKey, hkeyId, hpress, hbudget, call, send, setController, hchannel]

variable (widget : Widget) (controllers : ℕ → Controller) (events : List Event)

theorem after_succ {world : World} {n : ℕ} {event : Event} (h : events[n]? = some event) :
    world.after platform heap events (n + 1) =
      ((world.after platform heap events n).step platform heap event).2 :=
  Machine.run_take_succ (step platform heap) h

/-- A view that has just been mounted has not come up. -/
theorem mount_view {view : PlatformView}
    (hview : (mount platform heap widget controllers).view = some view) : view.created = false := by
  by_contra hcreated
  rw [Bool.not_eq_false] at hcreated
  cases (view_of_build platform heap _ hview hcreated).1

/-- Within a run, a controller no other state has taken is attached. -/
theorem after_attached {n : ℕ} (hn : n ≤ events.length) {c : ℕ}
    (h : ∀ event ∈ events.take n, ¬ event.takes c) :
    Attached heap c ((mount platform heap widget controllers).after platform heap events n) := by
  refine Machine.run_take_window (step platform heap) (P := Attached heap c) (Nat.zero_le n) hn ?_ ?_
  · intro view hview hcreated
    rw [mount_view platform heap widget controllers hview] at hcreated
    cases hcreated
  · intro m event _ hmn hevent hattached
    have hmem : event ∈ events.take n := by
      apply List.mem_of_getElem? (i := m)
      rw [List.getElem?_take_of_lt hmn, hevent]
    exact step_attached platform heap hattached (h event hmem)

/-- As long as no update has stranded a view, the channels lead to the mounted one. -/
theorem after_bound {n : ℕ} (hn : n ≤ events.length)
    (hstrands : ∀ m widget', m < n → events[m]? = some (.update widget') →
      ¬ ((mount platform heap widget controllers).after platform heap events m).Strands platform heap
        widget') :
    ((mount platform heap widget controllers).after platform heap events n).Bound := by
  refine Machine.run_take_window (step platform heap) (P := Bound) (Nat.zero_le n) hn ?_ ?_
  · intro view hview hcreated
    rw [mount_view platform heap widget controllers hview] at hcreated
    cases hcreated
  · intro m event _ hmn hevent hbound
    apply step_bound platform heap hbound
    intro widget' heq
    exact hstrands m widget' hmn (by rw [hevent, heq])

/-- **Channel binding**: throughout a run the channels lead to the mounted view, and what they are
    for reaches it, exactly when no update drops them while the view stays mounted. -/
theorem channel_binding :
    (∀ n ≤ events.length,
      ((mount platform heap widget controllers).after platform heap events n).Bound ∧
      ((mount platform heap widget controllers).after platform heap events n).Reaches platform heap
        (events.take n)) ↔
    ∀ n widget', events[n]? = some (.update widget') →
      ¬ ((mount platform heap widget controllers).after platform heap events n).Strands platform heap
        widget' := by
  constructor
  · intro h n widget' hevent hstrands
    have hn : n < events.length := (List.getElem?_eq_some_iff.mp hevent).1
    apply not_bound_of_strands platform heap hstrands
    rw [← after_succ platform heap events hevent]
    exact (h (n + 1) hn).1
  · intro h n hn
    have hbound := after_bound platform heap widget controllers events hn
      fun m widget' _ hevent => h m widget' hevent
    exact ⟨hbound, reaches_of_bound platform heap hbound
      fun c hc => after_attached platform heap widget controllers events hn hc⟩

/-- What the framework does with a child where nothing is mounted. -/
theorem build_view_new {world : World} (h : world.view = none) {key : String}
    (hchild : world.state.widget.child platform heap = some key) :
    ∃ id, (world.build platform heap).view = some ⟨id, key, false⟩ := by
  unfold build reconcile
  rw [hchild]
  simp [h]

/-- A new widget whose configuration is another object with the same parameters strands the view. -/
theorem strands_of_same_child {widget' : Widget} {key : String}
    (hchild : widget.child platform heap = some key)
    (hchild' : widget'.child platform heap = some key)
    (hother : widget.configuration ≠ widget'.configuration) :
    ((mount platform heap widget controllers).step platform heap .created).2.Strands platform heap
      widget' := by
  obtain ⟨id, hview⟩ : ∃ id, (mount platform heap widget controllers).view =
      some ⟨id, key, false⟩ := build_view_new platform heap rfl hchild
  have hbuilds : Builds _ (mount platform heap widget controllers) := build_builds platform heap _
  have hmounted : (mount platform heap widget controllers).mounted = true := hbuilds.mounted
  have hwidget : (mount platform heap widget controllers).state.widget = widget := hbuilds.widget
  simp only [step, hmounted, if_true, created, hview, Bool.false_eq_true, if_false]
  refine ⟨?_, .inl ?_, ⟨id, key, true⟩, ?_, rfl, hchild'⟩
  · simp [onPlatformViewCreated]
  · simpa [onPlatformViewCreated, hwidget] using hother
  · simp [onPlatformViewCreated]

/-- Two default configurations, built one after the other: equal, and not the same object. -/
def twoDefaults : ℕ → Configuration := fun _ => defaultNumeric

/-- A widget with one of them. -/
def defaultWidget (configuration : ℕ) : Widget := ⟨configuration, some 0, "secure_keypad/native"⟩

/-- A view comes up, and the parent builds with a new default configuration. -/
def rebuilt (n : ℕ) : World :=
  (mount .android twoDefaults (defaultWidget 0) fun _ => ⟨none, none, 0⟩).after .android twoDefaults
    [.created, .update (defaultWidget 1)] n

/-- The view stays, and has no channels. -/
theorem rebuilt_configuration_unbinds :
    (∃ view, (rebuilt 2).view = some view ∧ view.created = true ∧
      (rebuilt 2).state.controlChannel = none ∧ (rebuilt 2).state.eventSubscription = none) ∧
    ¬ (rebuilt 2).Bound := by
  have hchild : ∀ configuration, (defaultWidget configuration).child .android twoDefaults =
      some ("secure_keypad/native" ++ ":" ++
        jsonEncode defaultNumeric.toPlatformCreationParams) := by
    intro configuration
    unfold Widget.child twoDefaults
    rw [if_neg (not_not.mpr validate_defaultNumeric), if_neg (by decide)]
    rfl
  have hstrands : (rebuilt 1).Strands .android twoDefaults (defaultWidget 1) :=
    strands_of_same_child .android twoDefaults (defaultWidget 0) _ (hchild 0) (hchild 1) (by decide)
  have hstep : rebuilt 2 = ((rebuilt 1).step .android twoDefaults (.update (defaultWidget 1))).2 :=
    after_succ .android twoDefaults _ rfl
  rw [hstep]
  exact ⟨stranded .android twoDefaults hstrands, not_bound_of_strands .android twoDefaults hstrands⟩

end World

end SecureKeypad.Flutter
