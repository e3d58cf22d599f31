import SecureKeypad.Native.AndroidSettled

/-!
# Who Gets a Submission (Android: `SubmissionOwnership.kt`, `SecureKeypadNativeSubmissionRouter`)

Embeds what the callbacks of a view can do with a submission, the router of the framework adapters,
and the `onSubmit` that both adapters install. A callback does with the submission it is given
whatever it likes, and returns or throws.
-/

namespace SecureKeypad.Native.Android

open Callback

variable {Theme : Type}

/-! ## Callbacks -/

/-- What can be done with a `SecureKeypadSubmission`. -/
inductive Use where
  | close
  | take
deriving DecidableEq

/-- What a callback does with the submission it is given, and how it ends. -/
structure Behaviour (α : Type) where
  uses : List Use
  ending : Except Failure α

/-- `submission.close()`, `submission.takeNativeHandle()` -/
def View.use (view : View Theme) (submission : ℕ) : Use → View Theme
  | .close => (Code.settle quiet (closeSubmission submission) view).2
  | .take => (Code.settle quiet (takeNativeHandle submission) view).2

/-- What a host has come to. -/
structure Memory where
  /-- The results an adapter has emitted. -/
  results : List String
  /-- The submissions with which `onSubmit` has returned. -/
  returned : List ℕ

/-- Code of the host, which works on the view and may throw. -/
abbrev HostCode (Theme α : Type) := ExceptT Failure (StateM (View Theme × Memory)) α

/-- A callback runs. -/
def Behaviour.run {α : Type} (behaviour : Behaviour α) (submission : ℕ) : HostCode Theme α := do
  modify fun (view, memory) => (behaviour.uses.foldl (View.use · submission) view, memory)
  match behaviour.ending with
  | .ok a => return a
  | .error failure => throw failure

/-- `SecureKeypadSubmission::close` -/
def release (submission : ℕ) : HostCode Theme Unit :=
  modify fun (view, memory) => (view.use submission .close, memory)

/-- `isConsumed` -/
def isConsumed (submission : ℕ) : HostCode Theme Bool := do
  let (view, _) ← get
  return view.submissions[submission]?.join = none

/-! ## The router -/

/-- The callback of `deliverOrRelease`, in its `try`. -/
def deliverOrRethrow {α : Type} (submission : ℕ) (callback : HostCode Theme α) : HostCode Theme α :=
  tryCatch callback fun failure => do
    if !(← isConsumed submission) then release submission
    throw failure

/-- `deliverAndReport`. -/
def deliverAndReport (submission : ℕ) (callback : Option (HostCode Theme Bool)) :
    HostCode Theme Bool :=
  match callback with
  | none => do
    release submission
    return false
  | some callback =>
    deliverOrRethrow submission do
      if ← callback then isConsumed submission
      else return false

/-- `SecureKeypadNativeSubmissionRouter.deliver`, with the consumer that is installed. -/
def routerDeliver (consumer : Option (Behaviour Bool)) (submission : ℕ) : HostCode Theme Bool :=
  match consumer with
  | none => return false
  | some consumer => deliverAndReport submission (some (consumer.run submission))

/-- `emitResult` -/
def emitResult (code : String) : HostCode Theme Unit :=
  modify fun (view, memory) => (view, { memory with results := memory.results ++ [code] })

/-- The `onSubmit` of `SecureKeypadViewManager`, and of `SecureKeypadFlutterPlatformView` with the
    same body. -/
def adapterOnSubmit (consumer : Option (Behaviour Bool)) (submission : ℕ) :
    HostCode Theme Unit := do
  if ← routerDeliver consumer submission then emitResult "success"
  else
    release submission
    emitResult "error"

/-! ## Hosts -/

/-- What is installed as `onSubmit`. -/
inductive OnSubmit where
  /-- A callback of the host. -/
  | own (behaviour : Behaviour Unit)
  /-- That of a framework adapter. -/
  | adapter (consumer : Option (Behaviour Bool))

/-- The callbacks of a host: what each throws, if it throws. An activation calls each of them at
    most once. -/
structure Host where
  maskedState : ℤ → ℤ → Option Failure
  error : ℤ → Option Failure
  onSubmit : OnSubmit

/-- `onSubmit` runs. -/
def OnSubmit.run (submission : ℕ) : OnSubmit → HostCode Theme Unit
  | .own behaviour => behaviour.run submission
  | .adapter consumer => adapterOnSubmit consumer submission

/-- What comes of a callback. -/
def Host.answer (host : Host) (callback : HostCallback) (view : View Theme) (memory : Memory) :
    Option Failure × View Theme × Memory :=
  match callback with
  | .maskedState length displayState => (host.maskedState length displayState, view, memory)
  | .error code => (host.error code, view, memory)
  | .needsReconfiguration => (none, view, memory)
  | .submit submission =>
    match (host.onSubmit.run submission).run (view, memory) with
    | (.ok (), after, memory) =>
      (none, after, { memory with returned := memory.returned ++ [submission] })
    | (.error failure, after, memory) => (some failure, after, memory)

/-- A key is activated, with nothing emitted and no submission handed over so far. -/
def activation (device : Device Theme) (host : Host) (view : View Theme) (key : KeySpec) :
    Except Failure Bool × View Theme × Memory :=
  Code.play host.answer (activate device key) view ⟨[], []⟩

end SecureKeypad.Native.Android
