import SecureKeypad.Native.AndroidFloor
import SecureKeypad.Native.IosFloor

/-!
# Command Replay Floors on Both Platforms

A run is any list of issued commands and returning callbacks on a new view, so commands issued from
inside `onMaskedStateChanged`, `onError` and `onSubmit` are among them. The floors are compared
before an activation and assigned behind it: a command that takes effect inside the activation of
another one is behind it in the native session, and the other one goes on with what it was compared
with. Without that, the floors do what they are for.

## Main results

- `Android.replay_floors`, `Ios.replay_floors`: floors and effects in every run of a view
- `command_replay_floors`: both platforms
-/

namespace SecureKeypad.Native

open Callback ReplayFloor

/-! ## Android -/

namespace Android

variable {Theme : Type}

/-- A new view, with nothing on the call stack. -/
def start (Theme : Type) : World (View Theme) HostCallback Failure (Option Failure) Tag :=
  ⟨View.new Theme, []⟩

/-- What the host, the system and the returning callbacks do. -/
abbrev Events (Theme : Type) := List (Event (Command Theme) (Option Failure))

/-- No numbered command goes on when another one has taken effect inside it. -/
structure Undisturbed (device : Device Theme) (events : Events Theme) : Prop where
  headless : RunsUndisturbed (headlessGauge Theme) (Command.code device) Command.tag Tag.headless
    (start Theme) events
  cancel : RunsUndisturbed (cancelGauge Theme) (Command.code device) Command.tag Tag.cancel
    (start Theme) events

/-- Both floors are kept in the run. -/
structure KeepsFloors (device : Device Theme) (events : Events Theme) : Prop where
  headless : KeepsFloor (headlessGauge Theme) (Command.code device) Command.tag (start Theme) events
  cancel : KeepsFloor (cancelGauge Theme) (Command.code device) Command.tag (start Theme) events

/-- Every run of a view that meets the condition keeps both floors. -/
theorem replay_floors {device : Device Theme} {events : Events Theme}
    (h : Undisturbed device events) : KeepsFloors device events := by
  constructor
  · apply run_keepsFloor (headless_guarded device) _ h.headless
    exact ⟨List.forall_mem_nil _, List.forall_mem_nil _, rfl, List.forall_mem_nil _,
      List.Pairwise.nil⟩
  · apply run_keepsFloor (cancel_guarded device) _ h.cancel
    exact ⟨List.forall_mem_nil _, List.forall_mem_nil _, rfl, List.forall_mem_nil _,
      List.Pairwise.nil⟩

end Android

/-! ## iOS -/

namespace Ios

variable {Theme : Type}

/-- A new view, with nothing on the call stack. -/
def start (Theme : Type) : World (View Theme) HostCallback ViewError Unit Tag :=
  ⟨View.new Theme, []⟩

/-- What the host, the system and the returning callbacks do. -/
abbrev Events (Theme : Type) := List (Event (Command Theme) Unit)

/-- No numbered command goes on when another one has taken effect inside it. -/
structure Undisturbed (device : Device Theme) (events : Events Theme) : Prop where
  headless : RunsUndisturbed (headlessGauge Theme) (Command.code device) Command.tag Tag.headless
    (start Theme) events
  cancel : RunsUndisturbed (cancelGauge Theme) (Command.code device) Command.tag Tag.cancel
    (start Theme) events

/-- Both floors are kept in the run. -/
structure KeepsFloors (device : Device Theme) (events : Events Theme) : Prop where
  headless : KeepsFloor (headlessGauge Theme) (Command.code device) Command.tag (start Theme) events
  cancel : KeepsFloor (cancelGauge Theme) (Command.code device) Command.tag (start Theme) events

/-- Every run of a view that meets the condition keeps both floors. -/
theorem replay_floors {device : Device Theme} {events : Events Theme}
    (h : Undisturbed device events) : KeepsFloors device events := by
  constructor
  · apply run_keepsFloor (headless_guarded device) _ h.headless
    exact ⟨List.forall_mem_nil _, List.forall_mem_nil _, rfl, List.forall_mem_nil _,
      List.Pairwise.nil⟩
  · apply run_keepsFloor (cancel_guarded device) _ h.cancel
    exact ⟨List.forall_mem_nil _, List.forall_mem_nil _, rfl, List.forall_mem_nil _,
      List.Pairwise.nil⟩

end Ios

/-! ## Both platforms -/

/-- **Command replay floors**: in every run of a view in which no numbered command goes on when
    another one has taken effect inside it, the floors never decrease, the commands that take effect
    are increasing in the order of their native calls, and what is rejected leaves the floors
    alone. -/
theorem command_replay_floors {Theme : Type} (android : Android.Device Theme)
    (androidEvents : Android.Events Theme) (ios : Ios.Device Theme) (iosEvents : Ios.Events Theme)
    (handroid : Android.Undisturbed android androidEvents) (hios : Ios.Undisturbed ios iosEvents) :
    Android.KeepsFloors android androidEvents ∧ Ios.KeepsFloors ios iosEvents :=
  ⟨Android.replay_floors handroid, Ios.replay_floors hios⟩

/-- A layout of one key. -/
def oneKeyLayout : Layout where
  rows := [[⟨"digit-1", "1", .input, "digit 1", none⟩]]
  direction := .ltr
  randomizeInputKeys := false
  slots := ⟨false, true, false, false⟩

/-- A device on which everything succeeds. -/
def Android.willing : Android.Device Unit where
  validateTheme _ := true
  replies _ := ⟨true, true, some 1, 0, 0, none⟩

def Ios.willing : Ios.Device Unit where
  validateTheme _ := true
  replies _ := ⟨2, true, true, true, false, 0, some 1, none, 0, 0⟩

/-- A headless session whose host listens to the masked state. -/
def Android.headlessSession : Android.Events Unit :=
  [.issue (.configure ⟨oneKeyLayout, (), 8, 60000, .numeric, "standard"⟩),
    .issue (.setRendererMode "headless-host" true), .issue (.setCallbacks false true false false)]

def Ios.headlessSession : Ios.Events Unit :=
  [.issue .didMoveToWindow, .issue (.configure ⟨oneKeyLayout, (), 8, 60000, .numeric, "standard"⟩),
    .issue (.setRendererMode "headless-host" true), .issue (.setCallbacks false false true false)]

/-- Key presses 5 and 7, and cancel 3 from the callback of the second. -/
def Android.inTurn : Android.Events Unit :=
  Android.headlessSession ++
    [.issue (.requestHeadlessKeyPress 5 "digit-1"), .reply none,
      .issue (.requestHeadlessKeyPress 7 "digit-1"), .issue (.requestCancel 3), .reply none,
      .reply none]

def Ios.inTurn : Ios.Events Unit :=
  Ios.headlessSession ++
    [.issue (.requestHeadlessKeyPress 5 "digit-1"), .reply (),
      .issue (.requestHeadlessKeyPress 7 "digit-1"), .issue (.requestCancel 3), .reply (), .reply ()]

theorem command_replay_floors_in_turn :
    Android.Undisturbed Android.willing Android.inTurn ∧ Ios.Undisturbed Ios.willing Ios.inTurn ∧
    Android.KeepsFloors Android.willing Android.inTurn ∧ Ios.KeepsFloors Ios.willing Ios.inTurn := by
  have handroid : Android.Undisturbed Android.willing Android.inTurn :=
    ⟨by decide +kernel, by decide +kernel⟩
  have hios : Ios.Undisturbed Ios.willing Ios.inTurn := ⟨by decide +kernel, by decide +kernel⟩
  exact ⟨handroid, hios, command_replay_floors _ _ _ _ handroid hios⟩

/-- A key press from the callback of key press 5, and the same again. -/
def Android.nested (inner : ℤ) : Android.Events Unit :=
  Android.headlessSession ++
    [.issue (.requestHeadlessKeyPress 5 "digit-1"), .issue (.requestHeadlessKeyPress inner "digit-1"),
      .reply none, .reply none, .issue (.requestHeadlessKeyPress inner "digit-1"), .reply none]

def Ios.nested (inner : ℤ) : Ios.Events Unit :=
  Ios.headlessSession ++
    [.issue (.requestHeadlessKeyPress 5 "digit-1"), .issue (.requestHeadlessKeyPress inner "digit-1"),
      .reply (), .reply (), .issue (.requestHeadlessKeyPress inner "digit-1"), .reply ()]

/-- The view after the first events of the nested run. -/
def Android.nestedView (inner : ℤ) (n : ℕ) : Android.View Unit :=
  (after (Android.Command.code Android.willing) Android.Command.tag (Android.start Unit)
    (Android.nested inner) n).state

def Ios.nestedView (inner : ℤ) (n : ℕ) : Ios.View Unit :=
  (after (Ios.Command.code Ios.willing) Ios.Command.tag (Ios.start Unit) (Ios.nested inner) n).state

/-- A key press that takes effect inside another one. With a higher number, the floor goes from 7
    back to 5, and 7 takes effect twice; with a lower one, 3 reaches the native session behind 5. -/
theorem nested_press_lowers_floor :
    ((Android.nestedView 7 6).lastHeadlessKeyPress = some 7 ∧
      (Android.nestedView 7 7).lastHeadlessKeyPress = some 5 ∧
      (Android.nestedView 7 9).headlessEffects = [(13, 7), (7, 5), (19, 7)] ∧
      (Android.nestedView 3 7).headlessEffects = [(13, 3), (7, 5)] ∧
      ¬ Android.KeepsFloors Android.willing (Android.nested 7) ∧
      ¬ Android.KeepsFloors Android.willing (Android.nested 3)) ∧
    ((Ios.nestedView 7 7).lastHeadlessKeyPress = some 7 ∧
      (Ios.nestedView 7 8).lastHeadlessKeyPress = some 5 ∧
      (Ios.nestedView 7 10).headlessEffects = [(6, 7), (4, 5), (8, 7)] ∧
      (Ios.nestedView 3 8).headlessEffects = [(6, 3), (4, 5)] ∧
      ¬ Ios.KeepsFloors Ios.willing (Ios.nested 7) ∧
      ¬ Ios.KeepsFloors Ios.willing (Ios.nested 3)) := by
  refine ⟨⟨by decide +kernel, by decide +kernel, by decide +kernel, by decide +kernel, ?_, ?_⟩,
    ⟨by decide +kernel, by decide +kernel, by decide +kernel, by decide +kernel, ?_, ?_⟩⟩
  · intro h
    have heffects : ¬ (Android.nestedView 7 9).headlessEffects.Pairwise Before := by decide +kernel
    exact heffects (h.headless.increasing 9 (by decide))
  · intro h
    have heffects : ¬ (Android.nestedView 3 7).headlessEffects.Pairwise Before := by decide +kernel
    exact heffects (h.headless.increasing 7 (by decide))
  · intro h
    have heffects : ¬ (Ios.nestedView 7 10).headlessEffects.Pairwise Before := by decide +kernel
    exact heffects (h.headless.increasing 10 (by decide))
  · intro h
    have heffects : ¬ (Ios.nestedView 3 8).headlessEffects.Pairwise Before := by decide +kernel
    exact heffects (h.headless.increasing 8 (by decide))

end SecureKeypad.Native
