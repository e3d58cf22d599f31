import SecureKeypad.Flutter.TokenOrder
import SecureKeypad.Native.CommandFloors

/-!
# Controller Tokens against the Native Floor

The token counter is in a Dart object, the replay floor in the native view. Between them are the
control channels, which deliver in order. A native view is taken as any re-entrant object with
guarded headless commands, so that the Android view and the iOS view are two instances.

## Main results

- `delivered_above`: if no update rewinds tokens, every delivered key press is above the floor
- `controller_tokens_above_floor`: the same for the two native views, where no delivered key press
  is then rejected or ignored as a replay
-/

namespace SecureKeypad.Flutter

open Callback (Code)
open ReplayFloor (Gauge Guarded Waits Among Above Stamp)
open Native (isPublicId)

/-- A native view with headless commands, and the proofs that its floor guards them. -/
structure NativeView (σ κ ε ρ τ ι Λ : Type) where
  code : ι → Code σ κ ε ρ Unit
  tag : ι → σ → τ
  accepted : τ → Option Stamp
  gauge : Gauge σ Λ
  start : σ
  pressKey : ℤ → String → ι
  cancel : ι
  guarded : Guarded gauge code tag accepted
  start_floor : gauge.floor start = none
  pressKey_accepted : ∀ n keyId s stamp, accepted (tag (pressKey n keyId) s) = some stamp →
    stamp.number = n
  cancel_accepted : ∀ s, accepted (tag cancel s) = none

variable {σ κ ε ρ τ ι Λ : Type} (native : NativeView σ κ ε ρ τ ι Λ)

/-- What else the system and the plugin call: anything but a headless command. -/
def NativeView.Other : Type := { i : ι // ∀ s, native.accepted (native.tag i s) = none }

/-- What the plugin calls for a message; a malformed key press is answered with an error. -/
def NativeView.command : Message → Option ι
  | .cancel => some native.cancel
  | .pressKey token keyId =>
    if token ≤ maxHeadlessKeyPressToken ∧ isPublicId keyId then some (native.pressKey token keyId)
    else none

/-- A Flutter state with the native views. Of the sent messages, the first `delivered` have
    arrived. -/
structure System (σ κ ε ρ τ : Type) where
  world : World
  delivered : ℕ
  views : ℕ → Callback.World σ κ ε ρ τ

inductive SystemEvent (ρ : Type) (other : Type) where
  | flutter (event : Event)
  /-- The next message arrives. -/
  | deliver
  /-- Something else is called on a native view. -/
  | native (viewId : ℕ) (command : other)
  /-- A callback of a native view comes back. -/
  | reply (viewId : ℕ) (r : ρ)

namespace System

variable (platform : TargetPlatform) (heap : ℕ → Configuration)

/-- A native view takes a step. -/
def nativeStep (system : System σ κ ε ρ τ) (viewId : ℕ) (event : Callback.Event ι ρ) :
    System σ κ ε ρ τ :=
  { system with
    views := Function.update system.views viewId
      (Callback.step native.code native.tag (system.views viewId) event).2 }

/-- The next message arrives. A view that is not mounted any more has no handler. -/
def deliver (system : System σ κ ε ρ τ) : System σ κ ε ρ τ :=
  match system.world.sent[system.delivered]? with
  | none => system
  | some (viewId, message) =>
    let system := { system with delivered := system.delivered + 1 }
    if system.world.view.map PlatformView.id = some viewId then
      match native.command message with
      | none => system
      | some command => system.nativeStep native viewId (.issue command)
    else system

def step (system : System σ κ ε ρ τ) : SystemEvent ρ native.Other → Unit × System σ κ ε ρ τ
  | .flutter event => ((), { system with world := (system.world.step platform heap event).2 })
  | .deliver => ((), system.deliver native)
  | .native viewId command => ((), system.nativeStep native viewId (.issue command.val))
  | .reply viewId r => ((), system.nativeStep native viewId (.reply r))

/-- A state that is just mounted. Native views start as new ones. -/
def mount (widget : Widget) (controllers : ℕ → Controller) : System σ κ ε ρ τ where
  world := World.mount platform heap widget controllers
  delivered := 0
  views _ := ⟨native.start, []⟩

/-- The system after the first `n` events behind `mount`. -/
def run (widget : Widget) (controllers : ℕ → Controller)
    (events : List (SystemEvent ρ native.Other)) (n : ℕ) : System σ κ ε ρ τ :=
  Machine.run (step native platform heap) (mount native platform heap widget controllers)
    (events.take n)

/-! ## The invariant -/

/-- The number is a token that has arrived at the view. -/
def Arrived (system : System σ κ ε ρ τ) (viewId : ℕ) (n : ℤ) : Prop :=
  ∃ token ∈ tokensTo (system.world.sent.take system.delivered) viewId, n = token

/-- Tokens are in order, and floors come from tokens that have arrived. -/
structure Floors (system : System σ κ ε ρ τ) : Prop where
  tokens : system.world.Tokens
  delivered : system.delivered ≤ system.world.sent.length
  waits : ∀ viewId, Waits native.gauge native.accepted (system.views viewId)
  among : ∀ viewId, Among native.gauge native.accepted (system.Arrived viewId)
    (system.views viewId)

variable {native}

/-- **A token that arrives is above the floor.** -/
theorem Floors.above {system : System σ κ ε ρ τ} (h : system.Floors native) {viewId token : ℕ}
    {keyId : String}
    (hnext : system.world.sent[system.delivered]? = some (viewId, .pressKey token keyId)) :
    Above (native.gauge.floor (system.views viewId).state) token := by
  intro m hm
  obtain ⟨earlier, hearlier, rfl⟩ := (h.among viewId).1 m hm
  have hsplit : tokensTo system.world.sent viewId =
      tokensTo (system.world.sent.take system.delivered) viewId ++
        ([token] ++ tokensTo (system.world.sent.drop (system.delivered + 1)) viewId) := by
    obtain ⟨hlt, hget⟩ := List.getElem?_eq_some_iff.mp hnext
    have htoken : tokensTo [(viewId, .pressKey token keyId)] viewId = [token] := by
      rw [tokensTo_pressKey, if_pos rfl]
    conv_lhs => rw [← List.take_append_drop system.delivered system.world.sent]
    rw [List.drop_eq_getElem_cons hlt, hget, List.append_cons, tokensTo_append, tokensTo_append,
      htoken, List.append_assoc]
  have hincreasing := h.tokens.increasing viewId
  rw [hsplit, List.pairwise_append] at hincreasing
  exact_mod_cast hincreasing.2.2 earlier hearlier token (by simp)

/-- A native step keeps the invariant if a headless command in it has arrived. -/
theorem Floors.nativeStep {system : System σ κ ε ρ τ} (h : system.Floors native) (viewId : ℕ)
    (event : Callback.Event ι ρ)
    (hissue : ∀ i stamp, event = .issue i →
      native.accepted (native.tag i (system.views viewId).state) = some stamp →
      system.Arrived viewId stamp.number) : (system.nativeStep native viewId event).Floors native := by
  refine ⟨h.tokens, h.delivered, ?_, ?_⟩
  · intro viewId'
    by_cases heq : viewId' = viewId
    · subst heq
      simp only [System.nativeStep, Function.update_self]
      exact (ReplayFloor.step_change native.guarded (h.waits viewId') event).1
    · simp only [System.nativeStep, Function.update_of_ne heq]
      exact h.waits viewId'
  · intro viewId'
    by_cases heq : viewId' = viewId
    · subst heq
      simp only [System.nativeStep, Function.update_self]
      exact ReplayFloor.step_among native.guarded (h.waits viewId') (h.among viewId') hissue
    · simp only [System.nativeStep, Function.update_of_ne heq]
      exact h.among viewId'

/-- More numbers may have arrived. -/
theorem Floors.mono {system system' : System σ κ ε ρ τ} (h : system.Floors native)
    (htokens : system'.world.Tokens) (hdelivered : system'.delivered ≤ system'.world.sent.length)
    (hviews : system'.views = system.views)
    (harrived : ∀ viewId n, system.Arrived viewId n → system'.Arrived viewId n) :
    system'.Floors native := by
  refine ⟨htokens, hdelivered, ?_, ?_⟩
  · rw [hviews]
    exact h.waits
  · intro viewId
    rw [hviews]
    exact ⟨fun n hn => harrived viewId n ((h.among viewId).1 n hn),
      fun frame hframe stamp hn => harrived viewId _ ((h.among viewId).2 frame hframe stamp hn)⟩

/-- The next message counts as arrived. -/
theorem Floors.next {system : System σ κ ε ρ τ} (h : system.Floors native)
    {next : ℕ × Message} (hnext : system.world.sent[system.delivered]? = some next) :
    Floors native { system with delivered := system.delivered + 1 } := by
  refine h.mono h.tokens ((List.getElem?_eq_some_iff.mp hnext).1) rfl ?_
  intro viewId n hn
  obtain ⟨token, htoken, rfl⟩ := hn
  refine ⟨token, ?_, rfl⟩
  rw [List.take_add_one, tokensTo_append]
  exact List.mem_append_left _ htoken

/-- **Delivery** keeps the invariant: a key press raises the floor to a token that has arrived. -/
theorem Floors.deliver {system : System σ κ ε ρ τ} (h : system.Floors native) :
    (system.deliver native).Floors native := by
  unfold System.deliver
  split
  · exact h
  · next viewId message hnext =>
    dsimp only
    split
    · split
      · exact h.next hnext
      · next command hcommand =>
        refine (h.next hnext).nativeStep viewId _ ?_
        intro i stamp hi hn
        cases hi
        cases message with
        | cancel =>
          cases hcommand
          rw [native.cancel_accepted] at hn
          cases hn
        | pressKey token keyId =>
          simp only [NativeView.command, Option.ite_none_right_eq_some, Option.some.injEq]
            at hcommand
          obtain ⟨_, rfl⟩ := hcommand
          refine ⟨token, ?_, native.pressKey_accepted _ _ _ _ hn⟩
          rw [List.take_add_one, hnext, tokensTo_append, Option.toList_some, tokensTo_pressKey,
            if_pos rfl]
          exact List.mem_append_right _ List.mem_cons_self
    · exact h.next hnext

/-- **One step** keeps the invariant, unless it is an update that rewinds tokens. -/
theorem Floors.step {system : System σ κ ε ρ τ} (h : system.Floors native)
    {event : SystemEvent ρ native.Other}
    (hrewinds : ∀ widget, event = .flutter (.update widget) → ¬ system.world.Rewinds widget) :
    (system.step native platform heap event).2.Floors native := by
  cases event with
  | flutter event =>
    obtain ⟨more, hmore⟩ := World.step_sent platform heap system.world event
    refine h.mono ?_ ?_ rfl ?_
    · apply World.step_tokens platform heap h.tokens
      intro widget heq
      exact hrewinds widget (by rw [heq])
    · simp only [System.step, ← hmore, List.length_append]
      exact Nat.le_add_right_of_le h.delivered
    · intro viewId n hn
      -- What has arrived is at the front of what has been sent.
      simpa only [Arrived, System.step, ← hmore, List.take_append_of_le_length h.delivered] using hn
  | deliver => exact h.deliver
  | native viewId command =>
    apply h.nativeStep
    intro i stamp hi hn
    cases hi
    rw [command.property] at hn
    cases hn
  | reply viewId r =>
    apply h.nativeStep
    intro i stamp hi
    cases hi

theorem mount_floors (widget : Widget) {controllers : ℕ → Controller}
    (hforeign : ∀ c, (controllers c).headlessKeyPressAction ≠ some .here) :
    (mount native platform heap widget controllers).Floors native := by
  refine ⟨World.mount_tokens platform heap widget hforeign, Nat.zero_le _, ?_, ?_⟩
  · intro viewId
    exact List.forall_mem_nil _
  · intro viewId
    refine ⟨?_, List.forall_mem_nil _⟩
    intro n hn
    rw [mount, native.start_floor] at hn
    cases hn

variable (native) (widget : Widget) (controllers : ℕ → Controller)
  (events : List (SystemEvent ρ native.Other))

/-- No update of the run rewinds tokens. -/
def NoRewind : Prop :=
  ∀ n widget', events[n]? = some (.flutter (.update widget')) →
    ¬ (run native platform heap widget controllers events n).world.Rewinds widget'

/-- What arrives after `n` events is this key press, for a view that is mounted. -/
def Arrives (n viewId token : ℕ) (keyId : String) : Prop :=
  events[n]? = some .deliver ∧
  (run native platform heap widget controllers events n).world.view.map PlatformView.id =
    some viewId ∧
  (run native platform heap widget controllers events n).world.sent[
    (run native platform heap widget controllers events n).delivered]? =
      some (viewId, .pressKey token keyId)

variable {native widget controllers events}

/-- **Every delivered key press is above the floor**, in every run without a rewinding update. -/
theorem delivered_above (hforeign : ∀ c, (controllers c).headlessKeyPressAction ≠ some .here)
    (hrewind : NoRewind native platform heap widget controllers events)
    {n viewId token : ℕ} {keyId : String}
    (harrives : Arrives native platform heap widget controllers events n viewId token keyId) :
    Above (native.gauge.floor
      ((run native platform heap widget controllers events n).views viewId).state) token := by
  obtain ⟨hevent, _, hnext⟩ := harrives
  have hn : n ≤ events.length := (List.getElem?_eq_some_iff.mp hevent).1.le
  have hfloors : (run native platform heap widget controllers events n).Floors native := by
    refine Machine.run_take_window (System.step native platform heap) (P := Floors native)
      (Nat.zero_le n) hn (mount_floors platform heap widget hforeign) ?_
    intro m event _ _ hevent hfloors
    apply hfloors.step platform heap
    intro widget' heq
    exact hrewind m widget' (by rw [hevent, heq])
  exact hfloors.above hnext

end System

/-! ## The native views -/

section Platforms

variable {Theme : Type}

/-- The Android view under the plugin. -/
def androidView (device : Native.Android.Device Theme) :
    NativeView (Native.Android.View Theme) Native.Android.HostCallback Native.Android.Failure
      (Option Native.Android.Failure) Native.Android.Tag (Native.Android.Command Theme)
      Native.Android.NativeCall where
  code := Native.Android.Command.code device
  tag := Native.Android.Command.tag
  accepted := Native.Android.Tag.headless
  gauge := Native.Android.headlessGauge Theme
  start := Native.Android.View.new Theme
  pressKey := .requestHeadlessKeyPress
  cancel := .cancelSession
  guarded := Native.Android.headless_guarded device
  start_floor := rfl
  pressKey_accepted := by
    intro n keyId view stamp h
    obtain ⟨_, _, rfl⟩ := Option.map_eq_some_iff.mp h
    rfl
  cancel_accepted _ := rfl

/-- The iOS view under the plugin. -/
def iosView (device : Native.Ios.Device Theme) :
    NativeView (Native.Ios.View Theme) Native.Ios.HostCallback Native.Ios.ViewError Unit
      Native.Ios.Tag (Native.Ios.Command Theme) Native.Ios.Moment where
  code := Native.Ios.Command.code device
  tag := Native.Ios.Command.tag
  accepted := Native.Ios.Tag.headless
  gauge := Native.Ios.headlessGauge Theme
  start := Native.Ios.View.new Theme
  pressKey := .requestHeadlessKeyPress
  cancel := .cancelSession
  guarded := Native.Ios.headless_guarded device
  start_floor := rfl
  pressKey_accepted := by
    intro n keyId view stamp h
    obtain ⟨_, _, rfl⟩ := Option.map_eq_some_iff.mp h
    rfl
  cancel_accepted _ := rfl

open Native (errorInvalid)

/-- On Android the token is above the floor, and the key press is no replay. -/
def AndroidTakes (device : Native.Android.Device Theme) (view : Native.Android.View Theme)
    (token : ℕ) (keyId : String) : Prop :=
  Above view.lastHeadlessKeyPress token ∧
  Native.Android.requestHeadlessKeyPress device token keyId view =
    (if view.refusesHeadless token keyId then Native.Android.onError errorInvalid
      else (view.key keyId).elim (Native.Android.onError errorInvalid)
        (Native.Android.headlessWork device token)) view

/-- On iOS the token is above the floor, and the key press is no replay. -/
def IosTakes (device : Native.Ios.Device Theme) (view : Native.Ios.View Theme) (token : ℕ)
    (keyId : String) : Prop :=
  Above view.lastHeadlessKeyPress token ∧
  Native.Ios.requestHeadlessKeyPress device token keyId view =
    (if view.refusesHeadless token keyId then Native.Ios.onError 1
      else (view.key keyId).elim (Native.Ios.onError 1) (Native.Ios.headlessWork device token)) view

/-- **Controller tokens against the native floor**: in every run without a rewinding update, each
    key press that arrives at a mounted native view is above its floor, and is neither rejected nor
    ignored as a replay. -/
theorem controller_tokens_above_floor (heap : ℕ → Configuration) (widget : Widget)
    (controllers : ℕ → Controller) (android : Native.Android.Device Theme)
    (androidEvents : List (SystemEvent (Option Native.Android.Failure) (androidView android).Other))
    (ios : Native.Ios.Device Theme) (iosEvents : List (SystemEvent Unit (iosView ios).Other))
    (hforeign : ∀ c, (controllers c).headlessKeyPressAction ≠ some .here)
    (handroid : System.NoRewind (androidView android) .android heap widget controllers androidEvents)
    (hios : System.NoRewind (iosView ios) .ios heap widget controllers iosEvents) :
    (∀ n viewId token keyId,
      System.Arrives (androidView android) .android heap widget controllers androidEvents n viewId
        token keyId →
      AndroidTakes android ((System.run (androidView android) .android heap widget controllers
        androidEvents n).views viewId).state token keyId) ∧
    ∀ n viewId token keyId,
      System.Arrives (iosView ios) .ios heap widget controllers iosEvents n viewId token keyId →
      IosTakes ios ((System.run (iosView ios) .ios heap widget controllers iosEvents n).views
        viewId).state token keyId := by
  constructor
  · intro n viewId token keyId harrives
    have habove := System.delivered_above .android heap hforeign handroid harrives
    exact ⟨habove, congrFun (Native.headlessBranch_of_above _ _ _ habove) _⟩
  · intro n viewId token keyId harrives
    have habove := System.delivered_above .ios heap hforeign hios harrives
    exact ⟨habove, congrFun (Native.headlessBranch_of_above _ _ _ habove) _⟩

end Platforms

/-! ## A replaced controller -/

/-- A headless configuration with one key. -/
def oneKeyHeadless : Configuration :=
  { defaultNumeric with
    layout := { defaultNumericLayout with
      rows := [[⟨"digit-1", .input, some "1", none, none, none⟩]] }
    mode := .headlessHost
    acknowledgeLowerAssurance := true }

/-- A widget with that configuration. -/
def headlessWidget (controller : ℕ) : Widget := ⟨0, some controller, "secure_keypad/native"⟩

/-- Controllers that have been used elsewhere: the next token of the second one is `token`. -/
def usedControllers (token : ℕ) : ℕ → Controller := fun c => ⟨none, none, if c = 1 then token else 0⟩

/-- The plugin sets the view up, the first controller presses a key, the second one takes its place
    and presses a key. -/
def androidExchange :
    List (SystemEvent (Option Native.Android.Failure) (androidView Native.Android.willing).Other) :=
  [.flutter .created, .native 0 ⟨.setCallbacks true true true true, fun _ => rfl⟩,
    .native 0 ⟨.setRendererMode "headless-host" true, fun _ => rfl⟩,
    .native 0 ⟨.configure ⟨Native.oneKeyLayout, (), 8, 60000, .numeric, "standard"⟩, fun _ => rfl⟩,
    .reply 0 none, .reply 0 none, .flutter (.pressKey 0 "digit-1"), .deliver, .reply 0 none,
    .flutter (.update (headlessWidget 1)), .flutter (.pressKey 1 "digit-1"), .deliver]

def androidExchanged (token n : ℕ) :=
  System.run (androidView Native.Android.willing) .android (fun _ => oneKeyHeadless)
    (headlessWidget 0) (usedControllers token) androidExchange n

/-- The same up to the first key press, on iOS. -/
def iosPress : List (SystemEvent Unit (iosView Native.Ios.willing).Other) :=
  [.flutter .created, .native 0 ⟨.didMoveToWindow, fun _ => rfl⟩,
    .native 0 ⟨.setRendererMode "headless-host" true, fun _ => rfl⟩,
    .native 0 ⟨.configure ⟨Native.oneKeyLayout, (), 8, 60000, .numeric, "standard"⟩, fun _ => rfl⟩,
    .flutter (.pressKey 0 "digit-1"), .deliver]

/-- The second key press arrives at the view, whose floor is the token of the first. -/
theorem androidExchanged_arrives {token : ℕ} (h : token = 0 ∨ token = 5) :
    System.Arrives (androidView Native.Android.willing) .android (fun _ => oneKeyHeadless)
      (headlessWidget 0) (usedControllers token) androidExchange 11 0 token "digit-1" ∧
    ((androidExchanged token 11).views 0).state.lastHeadlessKeyPress = some 0 := by
  have hrun : (androidExchanged token 11).world.view.map PlatformView.id = some 0 ∧
      (androidExchanged token 11).world.sent[(androidExchanged token 11).delivered]? =
        some (0, .pressKey token "digit-1") ∧
      ((androidExchanged token 11).views 0).state.lastHeadlessKeyPress = some 0 := by
    rcases h with rfl | rfl
    · decide +kernel
    · decide +kernel
  exact ⟨⟨rfl, hrun.1, hrun.2.1⟩, hrun.2.2⟩

theorem controller_tokens_above_floor_used :
    AndroidTakes Native.Android.willing ((androidExchanged 5 11).views 0).state 5 "digit-1" := by
  have hforeign : ∀ c, (usedControllers 5 c).headlessKeyPressAction ≠ some .here := by
    intro c h
    cases h
  -- The second controller starts at token 5, above the token 0 that the view has had.
  have handroid : System.NoRewind (androidView Native.Android.willing) .android
      (fun _ => oneKeyHeadless) (headlessWidget 0) (usedControllers 5) androidExchange := by
    intro n widget hevent hrewinds
    have hn : n < 12 := (List.getElem?_eq_some_iff.mp hevent).1
    interval_cases n <;> simp [androidExchange] at hevent
    obtain ⟨c, viewId, token, hc, _, _, _, htoken, hlow⟩ := hrewinds
    subst hevent
    obtain rfl : 1 = c := Option.some.inj hc
    have hrun : (androidExchanged 5 9).world.sent = [(0, .pressKey 0 "digit-1")] ∧
        ((androidExchanged 5 9).world.controllers 1).nextHeadlessKeyPressToken = 5 := by
      decide +kernel
    change token ∈ tokensTo (androidExchanged 5 9).world.sent viewId at htoken
    change ((androidExchanged 5 9).world.controllers 1).nextHeadlessKeyPressToken ≤ token at hlow
    rw [hrun.1, tokensTo_pressKey] at htoken
    rw [hrun.2] at hlow
    split_ifs at htoken
    · rw [List.mem_singleton] at htoken
      omega
    · cases htoken
  have hios : System.NoRewind (iosView Native.Ios.willing) .ios (fun _ => oneKeyHeadless)
      (headlessWidget 0) (usedControllers 5) iosPress := by
    intro n widget hevent
    have hn : n < 6 := (List.getElem?_eq_some_iff.mp hevent).1
    interval_cases n <;> simp [iosPress] at hevent
  exact (controller_tokens_above_floor (fun _ => oneKeyHeadless) (headlessWidget 0)
    (usedControllers 5) Native.Android.willing androidExchange Native.Ios.willing iosPress hforeign
    handroid hios).1 11 0 5 "digit-1" (androidExchanged_arrives (.inr rfl)).1

/-- A fresh controller that takes the place of another one sends a token the view has seen: the key
    press arrives, and is ignored. -/
theorem fresh_controller_is_replayed :
    System.Arrives (androidView Native.Android.willing) .android (fun _ => oneKeyHeadless)
      (headlessWidget 0) (usedControllers 0) androidExchange 11 0 0 "digit-1" ∧
    ((androidExchanged 0 11).views 0).state.lastHeadlessKeyPress = some 0 ∧
    ¬ AndroidTakes Native.Android.willing ((androidExchanged 0 11).views 0).state 0 "digit-1" := by
  obtain ⟨harrives, hfloor⟩ := androidExchanged_arrives (.inl rfl)
  refine ⟨harrives, hfloor, ?_⟩
  intro htakes
  exact absurd (htakes.1 0 hfloor) (lt_irrefl _)

end SecureKeypad.Flutter
