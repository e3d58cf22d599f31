import SecureKeypad.Auth.Protocol
import SecureKeypad.Library.ByteMemory
import SecureKeypad.Library.HandleLedger
import SecureKeypad.Native.MaskedState

/-!
# The C ABI (`secure-ffi`)

Embeds the exported functions of `crates/secure-ffi`, over the caller's memory and a heap of boxed
objects. A pointer is an address, null is 0, and each function makes its checks and its writes in
the order of the source.

What Rust leaves undefined, the use of a handle that is not live, is answered `panic` here, in the
world as the function has left it by then: in submit, copy, start and finish the outputs are written
before. The operations of the OPAQUE engine are the fields of `Engine`, which comes with
every call, as do the addresses that the allocator gives out and the readings of the clock.

## Main results

- `memoryRangesOverlap_iff`: what the test of two ranges says
- `authFinishArgumentsAlias_iff`: which ranges the finish functions compare
-/

namespace SecureKeypad.Ffi

open Rust ByteMemory HandleLedger
open SecureKeypad.Core (InputPolicy KeyId SecureSession SessionAnswer SessionError Submission
  maxKeyIdBytes)
open SecureKeypad.Auth (AuthError maxMessageBytes)
open SecureKeypad.Native (SecureKeypadError writeMaskedState)

/-! ## Targets, objects and the world -/

/-- The two protocol flows of a client. -/
inductive Flow where
  | login
  | registration
deriving DecidableEq

/-- What a handle is of. -/
inductive Kind where
  | session
  | submission
  | authMessage
  | client (flow : Flow)
deriving DecidableEq

/-- The sizes in bytes of a pointer, which is that of `usize`, and of the objects. -/
structure Target where
  pointerBytes : ℕ
  sizeOf : Kind → ℕ
  pointerBytes_pos : 0 < pointerBytes
  sizeOf_pos : ∀ kind, 0 < sizeOf kind

/-- A target with pointers of eight bytes. -/
def wideTarget : Target := ⟨8, fun _ => 24, by decide, fun _ => by decide⟩

/-- A boxed object: `SecureKeypadSession`, `SecureKeypadSubmission`, `SecureKeypadAuthMessage`,
    and `SecureKeypadClientLogin` or `SecureKeypadClientRegistration`. -/
inductive Object (State : Flow → Type) where
  | session (core : SecureSession)
  | submission (core : Submission)
  | authMessage (core : Bytes)
  | client (flow : Flow) (core : State flow)

def Object.kind {State : Flow → Type} : Object State → Kind
  | .session _ => .session
  | .submission _ => .submission
  | .authMessage _ => .authMessage
  | .client flow _ => .client flow

/-- The client operations of `secure-auth`, on what they are given in one call. -/
structure Engine (State : Flow → Type) where
  start (flow : Flow) : Submission → Except AuthError (State flow × Bytes)
  finish (flow : Flow) : State flow → Bytes → Bytes → Bytes → Except AuthError Bytes

/-- The caller's memory, the live objects by their addresses, and the boxes made and consumed. A
    box is noted with the slot that its handle is given out in. -/
structure World (State : Flow → Type) where
  memory : Memory
  heap : ℕ → Option (Object State)
  acts : List (Act ℕ (Kind × ℕ))

/-- The bits of an address. -/
def Target.usizeBits (target : Target) : ℕ := 8 * target.pointerBytes

variable {State : Flow → Type} (target : Target)

namespace World

/-- `*slot` -/
def readPointer (w : World State) (slot : ℕ) : ℕ := readWord target.pointerBytes w.memory slot

/-- `*slot = pointer`, and any other write of a `usize`. -/
def writePointer (w : World State) (slot pointer : ℕ) : World State :=
  { w with memory := writeWord target.pointerBytes w.memory slot pointer }

/-- Any write to the caller's memory. -/
def writeBytes (w : World State) (start : ℕ) (bytes : Bytes) : World State :=
  { w with memory := write w.memory start bytes }

/-- An object in place of another of its kind. -/
def store (w : World State) (handle : ℕ) (object : Object State) : World State :=
  { w with heap := Function.update w.heap handle (some object) }

/-- `Box::into_raw(Box::new(object))` at the address of the allocator. -/
def boxIntoRaw (w : World State) (handle slot : ℕ) (object : Object State) : World State :=
  { w with
    heap := Function.update w.heap handle (some object)
    acts := w.acts ++ [.allocate handle (object.kind, slot)] }

/-- `Box::from_raw(handle)`, with which the box ends. -/
def boxFromRaw (w : World State) (handle : ℕ) : World State :=
  { w with
    heap := Function.update w.heap handle none
    acts := w.acts ++ [.free handle] }

section Projections

variable (w : World State)

@[simp] theorem writePointer_heap (slot pointer : ℕ) :
    (w.writePointer target slot pointer).heap = w.heap := rfl

@[simp] theorem writePointer_acts (slot pointer : ℕ) :
    (w.writePointer target slot pointer).acts = w.acts := rfl

@[simp] theorem writeBytes_heap (start : ℕ) (bytes : Bytes) :
    (w.writeBytes start bytes).heap = w.heap := rfl

@[simp] theorem store_heap (handle : ℕ) (object : Object State) :
    (w.store handle object).heap = Function.update w.heap handle (some object) := rfl

@[simp] theorem boxIntoRaw_heap (handle slot : ℕ) (object : Object State) :
    (w.boxIntoRaw handle slot object).heap = Function.update w.heap handle (some object) := rfl

@[simp] theorem boxIntoRaw_acts (handle slot : ℕ) (object : Object State) :
    (w.boxIntoRaw handle slot object).acts = w.acts ++ [.allocate handle (object.kind, slot)] := rfl

@[simp] theorem boxFromRaw_heap (handle : ℕ) :
    (w.boxFromRaw handle).heap = Function.update w.heap handle none := rfl

@[simp] theorem boxFromRaw_acts (handle : ℕ) :
    (w.boxFromRaw handle).acts = w.acts ++ [.free handle] := rfl

@[simp] theorem readPointer_store (handle slot : ℕ) (object : Object State) :
    (w.store handle object).readPointer target slot = w.readPointer target slot := rfl

@[simp] theorem readPointer_boxIntoRaw (handle slot slot' : ℕ) (object : Object State) :
    (w.boxIntoRaw handle slot object).readPointer target slot' = w.readPointer target slot' := rfl

@[simp] theorem readPointer_boxFromRaw (handle slot : ℕ) :
    (w.boxFromRaw handle).readPointer target slot = w.readPointer target slot := rfl

end Projections

end World

/-- What a function returns, and what it leaves. -/
abbrev Result (State : Flow → Type) := SecureKeypadError × World State

/-- What may happen is not said by Rust. -/
def undefinedBehaviour (w : World State) : Result State := (.panic, w)

/-! ## The tests of ranges -/

/-- The range of a pointer slot, or of a `usize`. -/
def slotRange (slot : ℕ) : Range := ⟨slot, target.pointerBytes⟩

/-- The range of an object. -/
def objectRange (kind : Kind) (object : ℕ) : Range := ⟨object, target.sizeOf kind⟩

def maxPublicIdBytes : ℕ := 256
def maxTokens : ℕ := 4096
def maxTimeoutMs : ℕ := 86400000

/-- `checked_add` of two `usize` of `w` bits. -/
def checkedAdd (w a b : ℕ) : Option ℕ := if a + b < 2 ^ w then some (a + b) else none

/-- `memory_ranges_overlap`, where addresses have `w` bits. -/
def memoryRangesOverlap (w first firstLength second secondLength : ℕ) : Bool :=
  if firstLength = 0 ∨ secondLength = 0 then false
  else
    match checkedAdd w first firstLength with
    | none => true
    | some firstEnd =>
      match checkedAdd w second secondLength with
      | none => true
      | some secondEnd => first < secondEnd && second < firstEnd

/-- `pointer_slots_alias`. -/
def pointerSlotsAlias (first second : ℕ) : Bool :=
  memoryRangesOverlap target.usizeBits first target.pointerBytes second target.pointerBytes

/-- `output_slots_alias`. -/
def outputSlotsAlias (first second third : ℕ) : Bool :=
  pointerSlotsAlias target first second || pointerSlotsAlias target first third ||
    pointerSlotsAlias target second third

/-- `buffer_overlaps_pointer_slot`. -/
def bufferOverlapsPointerSlot (buffer bufferLength slot : ℕ) : Bool :=
  memoryRangesOverlap target.usizeBits buffer bufferLength slot target.pointerBytes

/-- `buffer_overlaps_object`. -/
def bufferOverlapsObject (kind : Kind) (buffer bufferLength object : ℕ) : Bool :=
  memoryRangesOverlap target.usizeBits buffer bufferLength object (target.sizeOf kind)

/-- `pointer_slot_overlaps_object`. -/
def pointerSlotOverlapsObject (kind : Kind) (slot object : ℕ) : Bool :=
  memoryRangesOverlap target.usizeBits slot target.pointerBytes object (target.sizeOf kind)

/-- `AuthFinishArguments`. -/
structure AuthFinishArguments where
  inputSlot : ℕ
  inputObject : ℕ
  response : ℕ
  clientIdentifier : ℕ
  clientIdentifierLen : ℕ
  serverIdentifier : ℕ
  serverIdentifierLen : ℕ
  output : ℕ

/-- `auth_finish_arguments_alias`, for the flow that the input object is of. -/
def authFinishArgumentsAlias (flow : Flow) (a : AuthFinishArguments) : Bool :=
  pointerSlotsAlias target a.inputSlot a.output ||
  pointerSlotOverlapsObject target (.client flow) a.inputSlot a.inputObject ||
  pointerSlotOverlapsObject target .authMessage a.inputSlot a.response ||
  pointerSlotOverlapsObject target (.client flow) a.output a.inputObject ||
  pointerSlotOverlapsObject target .authMessage a.output a.response ||
  memoryRangesOverlap target.usizeBits a.inputObject (target.sizeOf (.client flow)) a.response
    (target.sizeOf .authMessage) ||
  bufferOverlapsPointerSlot target a.clientIdentifier a.clientIdentifierLen a.inputSlot ||
  bufferOverlapsPointerSlot target a.clientIdentifier a.clientIdentifierLen a.output ||
  bufferOverlapsPointerSlot target a.serverIdentifier a.serverIdentifierLen a.inputSlot ||
  bufferOverlapsPointerSlot target a.serverIdentifier a.serverIdentifierLen a.output ||
  bufferOverlapsObject target (.client flow) a.clientIdentifier a.clientIdentifierLen
    a.inputObject ||
  bufferOverlapsObject target .authMessage a.clientIdentifier a.clientIdentifierLen a.response ||
  bufferOverlapsObject target (.client flow) a.serverIdentifier a.serverIdentifierLen
    a.inputObject ||
  bufferOverlapsObject target .authMessage a.serverIdentifier a.serverIdentifierLen a.response

/-- **What the test of two ranges says**: both hold something, and an end of one cannot be
    represented or they share an address. -/
theorem memoryRangesOverlap_iff {w first firstLength second secondLength : ℕ} :
    memoryRangesOverlap w first firstLength second secondLength = true ↔
      0 < firstLength ∧ 0 < secondLength ∧
        (2 ^ w ≤ first + firstLength ∨ 2 ^ w ≤ second + secondLength ∨
          Share ⟨first, firstLength⟩ ⟨second, secondLength⟩) := by
  rw [memoryRangesOverlap, share_iff]
  split
  · next hempty =>
    constructor
    · intro h
      cases h
    · intro ⟨hfirst, hsecond, _⟩
      omega
  · next hpos =>
    have hfirst : 0 < firstLength := by omega
    have hsecond : 0 < secondLength := by omega
    simp only [checkedAdd, hfirst, hsecond, true_and]
    split
    -- A sum that does not fit counts as an overlap.
    · next hnone =>
      rw [ite_eq_right_iff] at hnone
      simp only [reduceCtorEq, imp_false, Nat.not_lt] at hnone
      simp [hnone]
    · next firstEnd hsome =>
      rw [Option.ite_none_right_eq_some, Option.some.injEq] at hsome
      obtain ⟨hfits, rfl⟩ := hsome
      split
      · next hnone =>
        rw [ite_eq_right_iff] at hnone
        simp only [reduceCtorEq, imp_false, Nat.not_lt] at hnone
        simp [hnone]
      · next secondEnd hsome =>
        rw [Option.ite_none_right_eq_some, Option.some.injEq] at hsome
        obtain ⟨hfits', rfl⟩ := hsome
        rw [Bool.and_eq_true, decide_eq_true_eq, decide_eq_true_eq]
        omega

/-- Ranges that share an address are found to overlap. -/
theorem memoryRangesOverlap_of_share {first second : Range} (w : ℕ) (h : Share first second) :
    memoryRangesOverlap w first.start first.length second.start second.length = true := by
  have hpos := share_iff.mp h
  exact memoryRangesOverlap_iff.mpr ⟨hpos.1, hpos.2.1, .inr (.inr h)⟩

/-- The ranges that `auth_finish_arguments_alias` compares, two by two. -/
def AuthFinishArguments.pairs (flow : Flow) (a : AuthFinishArguments) : List (Range × Range) :=
  let inputSlot := ⟨a.inputSlot, target.pointerBytes⟩
  let output := ⟨a.output, target.pointerBytes⟩
  let inputObject := ⟨a.inputObject, target.sizeOf (.client flow)⟩
  let response := ⟨a.response, target.sizeOf .authMessage⟩
  let clientIdentifier := ⟨a.clientIdentifier, a.clientIdentifierLen⟩
  let serverIdentifier := ⟨a.serverIdentifier, a.serverIdentifierLen⟩
  [(inputSlot, output), (inputSlot, inputObject), (inputSlot, response), (output, inputObject),
    (output, response), (inputObject, response), (clientIdentifier, inputSlot),
    (clientIdentifier, output), (serverIdentifier, inputSlot), (serverIdentifier, output),
    (clientIdentifier, inputObject), (clientIdentifier, response), (serverIdentifier, inputObject),
    (serverIdentifier, response)]

theorem authFinishArgumentsAlias_iff {flow : Flow} {a : AuthFinishArguments} :
    authFinishArgumentsAlias target flow a = true ↔ ∃ pair ∈ a.pairs target flow,
      memoryRangesOverlap target.usizeBits pair.1.start pair.1.length pair.2.start
        pair.2.length = true := by
  simp [authFinishArgumentsAlias, AuthFinishArguments.pairs, pointerSlotsAlias,
    pointerSlotOverlapsObject, bufferOverlapsPointerSlot, bufferOverlapsObject, or_assoc]

/-! ## Errors and arguments -/

/-- `map_session_error`. -/
def mapSessionError : SessionError → SecureKeypadError
  | .invalidKey _ => .invalidKey
  | .limitReached => .limitReached
  | .empty => .empty
  | .inactive => .inactive

/-- `map_auth_error`. -/
def mapAuthError : AuthError → SecureKeypadError
  | .invalidLogin => .authInvalidLogin
  | _ => .authProtocol

theorem mapAuthError_ne_ok (error : AuthError) : mapAuthError error ≠ .ok := by
  cases error <;> decide

/-- What an edit of a session is answered with; a panic is contained. -/
def editStatus : SessionAnswer → SecureKeypadError
  | .edited (.error error) => mapSessionError error
  | .panicked => .panic
  | _ => .ok

/-- `parse_key_id`. -/
def parseKeyId (w : World State) (keyId keyIdLen : ℕ) : Except SecureKeypadError KeyId :=
  if keyId = 0 ∨ keyIdLen = 0 ∨ maxKeyIdBytes < keyIdLen then .error .invalidArgument
  else
    match String.fromUTF8? ⟨(read w.memory keyId keyIdLen).toArray⟩ with
    | none => .error .invalidUtf8
    | some value => .ok ⟨value⟩

/-- `parse_public_id`. -/
def parsePublicId (w : World State) (identifier identifierLen : ℕ) :
    Except SecureKeypadError Bytes :=
  if identifier = 0 ∨ identifierLen = 0 ∨ maxPublicIdBytes < identifierLen then
    .error .invalidArgument
  else .ok (read w.memory identifier identifierLen)

/-! ## Sessions -/

/-- `create_session`. -/
def createSession (policy : InputPolicy) (timeoutMs now fresh output : ℕ) (w : World State) :
    Result State :=
  if output = 0 ∨ timeoutMs = 0 ∨ maxTimeoutMs < timeoutMs then (.invalidArgument, w)
  else
    let w := w.writePointer target output 0
    let session := SecureSession.beginWithTimeout policy (timeoutMs * 1000000) now
    let w := w.boxIntoRaw fresh output (.session session)
    (.ok, w.writePointer target output fresh)

/-- The constructors, which differ in the policy of a number of tokens. -/
def sessionNew (policy : ℕ → InputPolicy) (tokens timeoutMs now fresh output : ℕ)
    (w : World State) : Result State :=
  if tokens = 0 ∨ maxTokens < tokens then (.invalidArgument, w)
  else createSession target (policy tokens) timeoutMs now fresh output w

/-- `secure_keypad_session_new_numeric`. -/
def secureKeypadSessionNewNumeric : ℕ → ℕ → ℕ → ℕ → ℕ → World State → Result State :=
  sessionNew target InputPolicy.numeric

/-- `secure_keypad_session_new_ascii`. -/
def secureKeypadSessionNewAscii : ℕ → ℕ → ℕ → ℕ → ℕ → World State → Result State :=
  sessionNew target InputPolicy.ascii

/-- `secure_keypad_session_new_hangul`. -/
def secureKeypadSessionNewHangul : ℕ → ℕ → ℕ → ℕ → ℕ → World State → Result State :=
  sessionNew target InputPolicy.hangul

/-- The free functions, which return nothing. -/
def freeHandle (handle : ℕ) (w : World State) : World State :=
  if handle = 0 then w else w.boxFromRaw handle

/-- `secure_keypad_session_free`. -/
def secureKeypadSessionFree : ℕ → World State → World State := freeHandle

/-- `secure_keypad_submission_free`. -/
def secureKeypadSubmissionFree : ℕ → World State → World State := freeHandle

/-- `secure_keypad_auth_message_free`. -/
def secureKeypadAuthMessageFree : ℕ → World State → World State := freeHandle

/-- `secure_keypad_client_login_free`. -/
def secureKeypadClientLoginFree : ℕ → World State → World State := freeHandle

/-- `secure_keypad_client_registration_free`. -/
def secureKeypadClientRegistrationFree : ℕ → World State → World State := freeHandle

/-- What is done with a live session that is not null. -/
def editSession (session : ℕ) (edit : SecureSession → SessionAnswer × SecureSession)
    (w : World State) : Result State :=
  match w.heap session with
  | some (.session core) =>
    let (answer, core) := edit core
    (editStatus answer, w.store session (.session core))
  | _ => undefinedBehaviour w

/-- `secure_keypad_session_press_key`. -/
def secureKeypadSessionPressKey (session keyId keyIdLen now done : ℕ) (w : World State) :
    Result State :=
  if session = 0 then (.invalidArgument, w)
  else if bufferOverlapsObject target .session keyId keyIdLen session then (.invalidArgument, w)
  else
    match parseKeyId w keyId keyIdLen with
    | .error error => (error, w)
    | .ok keyId => editSession session (fun core => core.pressKey now done keyId) w

/-- `secure_keypad_session_backspace`. -/
def secureKeypadSessionBackspace (session now done : ℕ) (w : World State) : Result State :=
  if session = 0 then (.invalidArgument, w)
  else editSession session (fun core => core.backspace now done) w

/-- `secure_keypad_session_clear`. -/
def secureKeypadSessionClear (session now done : ℕ) (w : World State) : Result State :=
  if session = 0 then (.invalidArgument, w)
  else editSession session (fun core => core.clear now done) w

/-- `secure_keypad_session_cancel`. -/
def secureKeypadSessionCancel (session : ℕ) (w : World State) : Result State :=
  if session = 0 then (.invalidArgument, w)
  else editSession session (fun core => (.cancelled, core.cancel)) w

/-- The size of a `SecureKeypadMaskedState`: two `u32`. -/
def maskedStateBytes : ℕ := 8

/-- `secure_keypad_session_refresh`. -/
def secureKeypadSessionRefresh (session output now : ℕ) (w : World State) : Result State :=
  if session = 0 ∨ output = 0 then (.invalidArgument, w)
  else if bufferOverlapsObject target .session output maskedStateBytes session then
    (.invalidArgument, w)
  else
    match w.heap session with
    | some (.session core) =>
      let (state, core) := core.refresh now
      let w := w.store session (.session core)
      match writeMaskedState state with
      | (status, some written) =>
        (status, w.writeBytes output
          (wordBytes 4 written.length.toNat ++ wordBytes 4 written.displayState.toNat))
      | (status, none) => (status, w)
    | _ => undefinedBehaviour w

/-- `secure_keypad_session_submit`. -/
def secureKeypadSessionSubmit (session output now fresh : ℕ) (w : World State) : Result State :=
  if session = 0 ∨ output = 0 then (.invalidArgument, w)
  else if pointerSlotOverlapsObject target .session output session then (.invalidArgument, w)
  else
    let w := w.writePointer target output 0
    match w.heap session with
    | some (.session core) =>
      let (answer, core) := core.submit now
      let w := w.store session (.session core)
      match answer with
      | .sealed (.ok submission) =>
        let w := w.boxIntoRaw fresh output (.submission submission)
        (.ok, w.writePointer target output fresh)
      | .sealed (.error error) => (mapSessionError error, w)
      | _ => (.panic, w)
    | _ => undefinedBehaviour w

/-! ## Messages -/

/-- `Message::from_bytes`. -/
def messageFromBytes (bytes : Bytes) : Except AuthError Bytes :=
  if bytes = [] then .error .emptyMessage
  else if maxMessageBytes < bytes.length then .error .messageTooLarge
  else .ok bytes

/-- `secure_keypad_auth_message_new`. -/
def secureKeypadAuthMessageNew (bytes length output fresh : ℕ) (w : World State) : Result State :=
  if output = 0 then (.invalidArgument, w)
  else if bytes = 0 ∨ length = 0 then (.invalidArgument, w)
  else if maxMessageBytes < length then (.messageTooLarge, w)
  else if bufferOverlapsPointerSlot target bytes length output then (.invalidArgument, w)
  else
    let w := w.writePointer target output 0
    match messageFromBytes (read w.memory bytes length) with
    | .error error => (mapAuthError error, w)
    | .ok message =>
      let w := w.boxIntoRaw fresh output (.authMessage message)
      (.ok, w.writePointer target output fresh)

/-- `secure_keypad_auth_message_size`. -/
def secureKeypadAuthMessageSize (message outputLength : ℕ) (w : World State) : Result State :=
  if message = 0 ∨ outputLength = 0 then (.invalidArgument, w)
  else if bufferOverlapsObject target .authMessage outputLength target.pointerBytes message then
    (.invalidArgument, w)
  else
    match w.heap message with
    | some (.authMessage core) => (.ok, w.writePointer target outputLength core.length)
    | _ => undefinedBehaviour w

/-- `secure_keypad_auth_message_copy`. -/
def secureKeypadAuthMessageCopy (message output outputLength outputWritten : ℕ)
    (w : World State) : Result State :=
  if message = 0 ∨ outputWritten = 0 then (.invalidArgument, w)
  else if bufferOverlapsObject target .authMessage outputWritten target.pointerBytes message then
    (.invalidArgument, w)
  else
    match w.heap message with
    | some (.authMessage bytes) =>
      let w := w.writePointer target outputWritten 0
      if output = 0 then (.invalidArgument, w)
      else if bufferOverlapsObject target .authMessage output outputLength message then
        (.invalidArgument, w)
      else if memoryRangesOverlap target.usizeBits output outputLength outputWritten
          target.pointerBytes then
        (.invalidArgument, w)
      else if outputLength < bytes.length then
        (.bufferTooSmall, w.writePointer target outputWritten bytes.length)
      else
        (.ok, (w.writeBytes output bytes).writePointer target outputWritten bytes.length)
    | _ => undefinedBehaviour w

/-! ## Protocol flows -/

/-- What a caller of a start function passes: the slot of the submission and two output slots. -/
structure StartArguments where
  submission : ℕ
  outputState : ℕ
  outputRequest : ℕ

/-- The start functions. The two boxes are made at `freshState` and `freshRequest`. -/
def clientStart (flow : Flow) (a : StartArguments) (engine : Engine State)
    (freshState freshRequest : ℕ) (w : World State) : Result State :=
  if a.submission = 0 ∨ a.outputState = 0 ∨ a.outputRequest = 0 then (.invalidArgument, w)
  else if outputSlotsAlias target a.submission a.outputState a.outputRequest then
    (.invalidArgument, w)
  else
    let pointer := w.readPointer target a.submission
    if pointer = 0 then (.invalidArgument, w)
    else if pointerSlotOverlapsObject target .submission a.submission pointer ||
        pointerSlotOverlapsObject target .submission a.outputState pointer ||
        pointerSlotOverlapsObject target .submission a.outputRequest pointer then
      (.invalidArgument, w)
    else
      let w := w.writePointer target a.outputState 0
      let w := w.writePointer target a.outputRequest 0
      -- consumed before any protocol operation
      let w := w.writePointer target a.submission 0
      match w.heap pointer with
      | some (.submission submission) =>
        let w := w.boxFromRaw pointer
        match engine.start flow submission with
        | .error error => (mapAuthError error, w)
        | .ok (state, request) =>
          let w := w.boxIntoRaw freshState a.outputState (.client flow state)
          let w := w.boxIntoRaw freshRequest a.outputRequest (.authMessage request)
          let w := w.writePointer target a.outputState freshState
          (.ok, w.writePointer target a.outputRequest freshRequest)
      | _ => undefinedBehaviour w

/-- `secure_keypad_client_login_start`. -/
def secureKeypadClientLoginStart : StartArguments → Engine State → ℕ → ℕ → World State →
    Result State := clientStart target .login

/-- `secure_keypad_client_registration_start`. -/
def secureKeypadClientRegistrationStart : StartArguments → Engine State → ℕ → ℕ → World State →
    Result State := clientStart target .registration

/-- What a caller of a finish function passes. -/
structure FinishArguments where
  input : ℕ
  response : ℕ
  clientIdentifier : ℕ
  clientIdentifierLen : ℕ
  serverIdentifier : ℕ
  serverIdentifierLen : ℕ
  output : ℕ

/-- What is compared, with the object that the input slot points to. -/
def FinishArguments.compared (a : FinishArguments) (pointer : ℕ) : AuthFinishArguments where
  inputSlot := a.input
  inputObject := pointer
  response := a.response
  clientIdentifier := a.clientIdentifier
  clientIdentifierLen := a.clientIdentifierLen
  serverIdentifier := a.serverIdentifier
  serverIdentifierLen := a.serverIdentifierLen
  output := a.output

/-- What a finish function does with the client state that it has consumed. -/
def finishConsumed (flow : Flow) (a : FinishArguments) (engine : Engine State) (fresh : ℕ)
    (state : State flow) (w : World State) : Result State :=
  match w.heap a.response with
  | some (.authMessage response) =>
    match parsePublicId w a.clientIdentifier a.clientIdentifierLen with
    | .error error => (error, w)
    | .ok clientIdentifier =>
      match parsePublicId w a.serverIdentifier a.serverIdentifierLen with
      | .error error => (error, w)
      | .ok serverIdentifier =>
        match engine.finish flow state response clientIdentifier serverIdentifier with
        | .error error => (mapAuthError error, w)
        | .ok message =>
          let w := w.boxIntoRaw fresh a.output (.authMessage message)
          (.ok, w.writePointer target a.output fresh)
  | _ => undefinedBehaviour w

/-- The finish functions. -/
def clientFinish (flow : Flow) (a : FinishArguments) (engine : Engine State) (fresh : ℕ)
    (w : World State) : Result State :=
  if a.input = 0 ∨ a.response = 0 ∨ a.output = 0 then (.invalidArgument, w)
  else if pointerSlotsAlias target a.input a.output then (.invalidArgument, w)
  else
    let pointer := w.readPointer target a.input
    if pointer = 0 then (.invalidArgument, w)
    else if authFinishArgumentsAlias target flow (a.compared pointer) then (.invalidArgument, w)
    else
      let w := w.writePointer target a.output 0
      let w := w.writePointer target a.input 0
      match w.heap pointer with
      | some (.client flow' state) =>
        if h : flow' = flow then
          finishConsumed target flow a engine fresh (h ▸ state) (w.boxFromRaw pointer)
        else undefinedBehaviour w
      | _ => undefinedBehaviour w

/-- `secure_keypad_client_login_finish`. -/
def secureKeypadClientLoginFinish : FinishArguments → Engine State → ℕ → World State →
    Result State := clientFinish target .login

/-- `secure_keypad_client_registration_finish`. -/
def secureKeypadClientRegistrationFinish : FinishArguments → Engine State → ℕ → World State →
    Result State := clientFinish target .registration

/-! ## Calls -/

/-- A call of an exported function, with what it reads of the clock, where the allocator puts the
    boxes that it makes, and the engine. -/
inductive Call (State : Flow → Type) where
  | sessionNewNumeric (tokens timeoutMs now fresh output : ℕ)
  | sessionNewAscii (tokens timeoutMs now fresh output : ℕ)
  | sessionNewHangul (tokens timeoutMs now fresh output : ℕ)
  | free (kind : Kind) (handle : ℕ)
  | sessionPressKey (session keyId keyIdLen now done : ℕ)
  | sessionBackspace (session now done : ℕ)
  | sessionClear (session now done : ℕ)
  | sessionCancel (session : ℕ)
  | sessionRefresh (session output now : ℕ)
  | sessionSubmit (session output now fresh : ℕ)
  | authMessageNew (bytes length output fresh : ℕ)
  | authMessageSize (message outputLength : ℕ)
  | authMessageCopy (message output outputLength outputWritten : ℕ)
  | clientLoginStart (a : StartArguments) (engine : Engine State) (freshState freshRequest : ℕ)
  | clientRegistrationStart (a : StartArguments) (engine : Engine State)
      (freshState freshRequest : ℕ)
  | clientLoginFinish (a : FinishArguments) (engine : Engine State) (fresh : ℕ)
  | clientRegistrationFinish (a : FinishArguments) (engine : Engine State) (fresh : ℕ)

/-- The free function of a kind of handle. -/
def freeOf : Kind → ℕ → World State → World State
  | .session => secureKeypadSessionFree
  | .submission => secureKeypadSubmissionFree
  | .authMessage => secureKeypadAuthMessageFree
  | .client .login => secureKeypadClientLoginFree
  | .client .registration => secureKeypadClientRegistrationFree

/-- What a call returns and leaves. -/
def Call.exec : Call State → World State → Result State
  | .sessionNewNumeric tokens timeoutMs now fresh output =>
    secureKeypadSessionNewNumeric target tokens timeoutMs now fresh output
  | .sessionNewAscii tokens timeoutMs now fresh output =>
    secureKeypadSessionNewAscii target tokens timeoutMs now fresh output
  | .sessionNewHangul tokens timeoutMs now fresh output =>
    secureKeypadSessionNewHangul target tokens timeoutMs now fresh output
  | .free kind handle => fun w => (.ok, freeOf kind handle w)
  | .sessionPressKey session keyId keyIdLen now done =>
    secureKeypadSessionPressKey target session keyId keyIdLen now done
  | .sessionBackspace session now done => secureKeypadSessionBackspace session now done
  | .sessionClear session now done => secureKeypadSessionClear session now done
  | .sessionCancel session => secureKeypadSessionCancel session
  | .sessionRefresh session output now => secureKeypadSessionRefresh target session output now
  | .sessionSubmit session output now fresh =>
    secureKeypadSessionSubmit target session output now fresh
  | .authMessageNew bytes length output fresh =>
    secureKeypadAuthMessageNew target bytes length output fresh
  | .authMessageSize message outputLength =>
    secureKeypadAuthMessageSize target message outputLength
  | .authMessageCopy message output outputLength outputWritten =>
    secureKeypadAuthMessageCopy target message output outputLength outputWritten
  | .clientLoginStart a engine freshState freshRequest =>
    secureKeypadClientLoginStart target a engine freshState freshRequest
  | .clientRegistrationStart a engine freshState freshRequest =>
    secureKeypadClientRegistrationStart target a engine freshState freshRequest
  | .clientLoginFinish a engine fresh => secureKeypadClientLoginFinish target a engine fresh
  | .clientRegistrationFinish a engine fresh =>
    secureKeypadClientRegistrationFinish target a engine fresh

end SecureKeypad.Ffi
