import SecureKeypad.Flutter.Configuration
import SecureKeypad.Library.Machine

/-!
# The Flutter Widget and Its Controllers (`secure_keypad_flutter.dart`)

Embeds `_SecureKeypadState` and `SecureKeypadController` with what Flutter does around them:
configurations and controllers are objects compared by identity, a platform view whose key stays is
updated in place, one whose key changes is disposed and created anew. Other states may hold the
same controllers.

## Main definitions

- `didUpdateWidget`, `build`, `onPlatformViewCreated`, `attachController`: the state's methods
- `pressKey`, `cancel`: the controller's methods
- `step`: what the framework, the host and the native views do
-/

namespace SecureKeypad.Flutter

open Native (isPublicId)

/-! ## Objects -/

/-- `defaultTargetPlatform`, with the web and every platform without a native view as `other`. -/
inductive TargetPlatform where
  | android
  | ios
  | other
deriving DecidableEq

/-- Whose closures a controller holds: those of this state, or those of another one. -/
inductive Owner where
  | here
  | elsewhere
deriving DecidableEq

/-- `SecureKeypadController`. -/
structure Controller where
  cancelAction : Option Owner
  headlessKeyPressAction : Option Owner
  nextHeadlessKeyPressToken : ℕ

/-- `SecureKeypad`. Configurations and controllers are references. -/
structure Widget where
  configuration : ℕ
  controller : Option ℕ
  viewType : String

/-- `_SecureKeypadState`. Channels are known by the view they lead to. -/
structure KeypadState where
  widget : Widget
  eventSubscription : Option ℕ
  controlChannel : Option ℕ
  reportedConfigurationError : Bool

/-- A mounted platform view. -/
structure PlatformView where
  id : ℕ
  key : String
  /-- `onPlatformViewCreated` has been called for it. -/
  created : Bool

/-- What goes over a control channel. -/
inductive Message where
  | cancel
  | pressKey (token : ℕ) (keyId : String)
deriving DecidableEq

/-- `SecureKeypadResultCode`. -/
inductive ResultCode where
  | success
  | cancelled
  | invalid
  | locked
  | error
deriving DecidableEq

/-- What comes over an event channel. -/
inductive NativeEvent where
  | state (length : ℤ) (displayState : String)
  | result (code : String)
  /-- Of no shape the adapter supports, or an error of the stream. -/
  | malformed

/-- A call of a callback of a configuration. -/
inductive Report where
  | maskedState (length : ℤ) (displayState : String)
  | result (code : ResultCode)
deriving DecidableEq

/-- A state, the framework around it, and what it has sent and reported. -/
structure World where
  state : KeypadState
  mounted : Bool
  view : Option PlatformView
  nextViewId : ℕ
  controllers : ℕ → Controller
  /-- The results that wait for the end of the frame. -/
  postFrame : List ResultCode
  /-- Sent messages, each with the view its channel leads to. -/
  sent : List (ℕ × Message)
  /-- Reports, each with the configuration whose callback was called. -/
  reports : List (ℕ × Report)

/-- How a `Future` of the controller ends, as far as the adapter decides it. -/
inductive Reply where
  | sent
  | elsewhere
  | invalidKeyId
  | notAttached
  | exhausted
  | notReady
deriving DecidableEq

/-! ## Controllers -/

/-- `secureKeypadMaxHeadlessKeyPressToken`. -/
def maxHeadlessKeyPressToken : ℕ := 9007199254740991

namespace World

def setController (world : World) (c : ℕ) (controller : Controller) : World :=
  { world with controllers := Function.update world.controllers c controller }

/-- The closures of this state send over its control channel, if there is one. -/
def send (world : World) (message : Message) : Reply × World :=
  match world.state.controlChannel with
  | none => (.notReady, world)
  | some id => (.sent, { world with sent := world.sent ++ [(id, message)] })

/-- A call of a closure a controller holds. -/
def call (world : World) (owner : Owner) (message : Message) : Reply × World :=
  match owner with
  | .here => world.send message
  | .elsewhere => (.elsewhere, world)

/-- `SecureKeypadController.cancel`. -/
def cancel (world : World) (c : ℕ) : Reply × World :=
  match (world.controllers c).cancelAction with
  | none => (.notAttached, world)
  | some owner => world.call owner .cancel

/-- `SecureKeypadController.pressKey`. The token is taken before the closure runs. -/
def pressKey (world : World) (c : ℕ) (keyId : String) : Reply × World :=
  if isPublicId keyId = false then (.invalidKeyId, world)
  else
    match (world.controllers c).headlessKeyPressAction with
    | none => (.notAttached, world)
    | some owner =>
      let token := (world.controllers c).nextHeadlessKeyPressToken
      if maxHeadlessKeyPressToken < token then (.exhausted, world)
      else
        (world.setController c
          { world.controllers c with nextHeadlessKeyPressToken := token + 1 }).call owner
          (.pressKey token keyId)

/-- `SecureKeypadController._attach`. -/
def attach (world : World) (c : ℕ) (owner : Owner) (headless : Bool) : World :=
  world.setController c { world.controllers c with
    cancelAction := some owner
    headlessKeyPressAction := if headless then some owner else none }

/-- `SecureKeypadController._detach`. -/
def detach (world : World) (c : ℕ) : World :=
  world.setController c { world.controllers c with
    cancelAction := none, headlessKeyPressAction := none }

end World

/-! ## The state -/

section State

variable (platform : TargetPlatform) (heap : ℕ → Configuration)

/-- The configuration offers headless commands. -/
def Widget.headless (widget : Widget) : Bool :=
  (heap widget.configuration).mode = .headlessHost &&
    (heap widget.configuration).acknowledgeLowerAssurance

/-- The key of the platform view `build` returns; `none` is an empty box. -/
def Widget.child (widget : Widget) : Option String :=
  if (heap widget.configuration).validate ≠ [] then none
  else if platform = .other then none
  else some (widget.viewType ++ ":" ++
    jsonEncode (heap widget.configuration).toPlatformCreationParams)

namespace World

/-- `_attachController`. -/
def attachController (world : World) : World :=
  match world.state.widget.controller with
  | none => world
  | some c => world.attach c .here (world.state.widget.headless heap)

/-- `_emitOnce`. -/
def emitOnce (world : World) (result : ResultCode) : World :=
  if world.state.reportedConfigurationError then world
  else { world with
    state := { world.state with reportedConfigurationError := true }
    postFrame := world.postFrame ++ [result] }

/-- What `build` reports. -/
def emitBuildErrors (world : World) : World :=
  if (heap world.state.widget.configuration).validate ≠ [] then world.emitOnce .invalid
  else if platform = .other then world.emitOnce .error
  else world

/-- The framework takes over the child of a build. -/
def reconcile (world : World) (child : Option String) : World :=
  match child with
  | none => { world with view := none }
  | some key =>
    if (world.view.map PlatformView.key) = some key then world
    else { world with
      view := some ⟨world.nextViewId, key, false⟩
      nextViewId := world.nextViewId + 1 }

/-- `build`, and what comes of its child. -/
def build (world : World) : World :=
  (world.emitBuildErrors platform heap).reconcile (world.state.widget.child platform heap)

/-- The condition on which `didUpdateWidget` drops the channels. -/
def drops (world : World) (widget : Widget) : Prop :=
  world.state.widget.configuration ≠ widget.configuration ∨
    world.state.widget.viewType ≠ widget.viewType

instance (world : World) (widget : Widget) : Decidable (world.drops widget) :=
  inferInstanceAs (Decidable (_ ∨ _))

/-- The first half of `didUpdateWidget`, with `widget` already in place. -/
def dropChannels (world : World) (dropped : Prop) [Decidable dropped] : World :=
  if dropped then
    { world with state := { world.state with
        eventSubscription := none
        controlChannel := none
        reportedConfigurationError := false } }.attachController heap
  else world

/-- The second half, with the controller of the old widget. -/
def exchangeController (world : World) (oldController : Option ℕ) : World :=
  if oldController ≠ world.state.widget.controller then
    (match oldController with
      | none => world
      | some c => world.detach c).attachController heap
  else world

/-- The framework puts the widget in place and calls `didUpdateWidget`. -/
def didUpdateWidget (world : World) (widget : Widget) : World :=
  (({ world with state := { world.state with widget } }.dropChannels heap
    (world.drops widget)).exchangeController heap world.state.widget.controller)

/-- `_onPlatformViewCreated`. -/
def onPlatformViewCreated (world : World) (viewId : ℕ) : World :=
  let world := { world with
    state := { world.state with controlChannel := some viewId } }.attachController heap
  { world with state := { world.state with eventSubscription := some viewId } }

/-- `dispose`. -/
def dispose (world : World) : World :=
  let world :=
    match world.state.widget.controller with
    | none => world
    | some c => world.detach c
  { world with
    state := { world.state with eventSubscription := none, controlChannel := none }
    mounted := false
    view := none }

/-- `onResult?.call` of the current configuration. -/
def emitResult (world : World) (result : ResultCode) : World :=
  if (heap world.state.widget.configuration).onResult then
    { world with reports := world.reports ++ [(world.state.widget.configuration, .result result)] }
  else world

/-- `onMaskedStateChanged?.call` of the current configuration. -/
def emitMaskedState (world : World) (length : ℤ) (displayState : String) : World :=
  if (heap world.state.widget.configuration).onMaskedStateChanged then
    { world with
      reports := world.reports ++
        [(world.state.widget.configuration, .maskedState length displayState)] }
  else world

end World

/-- `_resultFromName`. -/
def resultFromName (name : String) : Option ResultCode :=
  if name = "success" then some .success
  else if name = "cancelled" then some .cancelled
  else if name = "invalid" then some .invalid
  else if name = "locked" then some .locked
  else if name = "error" then some .error
  else none

/-- `secureKeypadMaxRenderedLength`. -/
def maxRenderedLength : ℤ := 4096

/-- `_onNativeEvent`. -/
def World.onNativeEvent (world : World) : NativeEvent → World
  | .state length displayState =>
    if 0 ≤ length ∧ length ≤ maxRenderedLength ∧
        displayState ∈ ["empty", "masked", "submitted", "cancelled"] then
      world.emitMaskedState heap length displayState
    else world.emitResult heap .error
  | .result code => world.emitResult heap ((resultFromName code).getD .error)
  | .malformed => world.emitResult heap .error

/-! ## Steps -/

inductive Event where
  /-- The parent gives the state a new widget. -/
  | update (widget : Widget)
  /-- The state is built again. -/
  | rebuild
  /-- The mounted view has come up. -/
  | created
  /-- The results that wait are reported. -/
  | endOfFrame
  | dispose
  /-- The native view `viewId` emits an event. -/
  | native (viewId : ℕ) (event : NativeEvent)
  | cancel (c : ℕ)
  | pressKey (c : ℕ) (keyId : String)
  /-- Another state attaches the controller. -/
  | attachElsewhere (c : ℕ) (headless : Bool)
  /-- Another state detaches the controller. -/
  | detachElsewhere (c : ℕ)

namespace World

/-- The framework reports that the mounted view has come up, once. -/
def created (world : World) : World :=
  match world.view with
  | none => world
  | some view =>
    if view.created then world
    else { world with view := some { view with created := true } }.onPlatformViewCreated heap view.id

/-- One step. A state that is disposed is left alone by the framework. -/
def step (world : World) : Event → Reply × World
  | .update widget =>
    (.sent, if world.mounted then (world.didUpdateWidget heap widget).build platform heap else world)
  | .rebuild => (.sent, if world.mounted then world.build platform heap else world)
  | .created => (.sent, if world.mounted then world.created heap else world)
  | .endOfFrame =>
    (.sent,
      let reported := if world.mounted then world.postFrame.foldl (emitResult heap) world else world
      { reported with postFrame := [] })
  | .dispose => (.sent, if world.mounted then world.dispose else world)
  | .native viewId event =>
    (.sent,
      if world.state.eventSubscription = some viewId then world.onNativeEvent heap event else world)
  | .cancel c => world.cancel c
  | .pressKey c keyId => world.pressKey c keyId
  | .attachElsewhere c headless => (.sent, world.attach c .elsewhere headless)
  | .detachElsewhere c => (.sent, world.detach c)

/-- A state whose first widget is built, over the controllers the host has. -/
def mount (widget : Widget) (controllers : ℕ → Controller) : World :=
  build platform heap
    { state := ⟨widget, none, none, false⟩
      mounted := true
      view := none
      nextViewId := 0
      controllers
      postFrame := []
      sent := []
      reports := [] }

/-- The world after the first `n` events. -/
def after (world : World) (events : List Event) (n : ℕ) : World :=
  Machine.run (step platform heap) world (events.take n)

end World

end State

end SecureKeypad.Flutter
