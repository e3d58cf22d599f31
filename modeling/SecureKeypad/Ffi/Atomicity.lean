import SecureKeypad.Ffi.Abi

/-!
# Rejected Calls Change Nothing

A call whose ranges are not apart as documented is answered `InvalidArgument` before anything is
written or consumed. Two functions do more: `secure_keypad_auth_message_copy` clears the length it
writes to before it looks at the output buffer, and `secure_keypad_auth_message_new` answers an
oversized length as such before it looks at the ranges.

## Main results

- `validation_atomic_iff`: when a call that is to be rejected is, with nothing changed
- `not_validation_atomic`: a length is cleared by a call that is rejected
-/

namespace SecureKeypad.Ffi

open ByteMemory
open SecureKeypad.Auth (maxMessageBytes)
open SecureKeypad.Native (SecureKeypadError)

variable {State : Flow → Type} (target : Target)

/-! ## What is documented to be apart -/

/-- The slots of a start function are distinct and overlap neither each other nor the live
    submission. -/
def StartArguments.documented (w : World State) (a : StartArguments) : List (Range × Range) :=
  let submission := slotRange target a.submission
  let outputState := slotRange target a.outputState
  let outputRequest := slotRange target a.outputRequest
  let object := objectRange target .submission (w.readPointer target a.submission)
  [(submission, outputState), (submission, outputRequest), (outputState, outputRequest),
    (submission, object), (outputState, object), (outputRequest, object)]

/-- The ranges that a call is documented to keep apart, two by two, among those that it is passed:
    its slots and buffers, and the objects that its handles are of. Objects that are live but not
    passed are in none of them; no function knows of these. -/
def Call.documented (w : World State) : Call State → List (Range × Range)
  | .sessionPressKey session keyId keyIdLen _ _ =>
    [(⟨keyId, keyIdLen⟩, objectRange target .session session)]
  | .sessionRefresh session output _ =>
    [(⟨output, maskedStateBytes⟩, objectRange target .session session)]
  | .sessionSubmit session output _ _ =>
    [(slotRange target output, objectRange target .session session)]
  | .authMessageNew bytes length output _ => [(⟨bytes, length⟩, slotRange target output)]
  | .authMessageSize message outputLength =>
    [(slotRange target outputLength, objectRange target .authMessage message)]
  | .authMessageCopy message output outputLength outputWritten =>
    [(slotRange target outputWritten, objectRange target .authMessage message),
      (⟨output, outputLength⟩, slotRange target outputWritten),
      (⟨output, outputLength⟩, objectRange target .authMessage message)]
  | .clientLoginStart a _ _ _ => a.documented target w
  | .clientRegistrationStart a _ _ _ => a.documented target w
  | .clientLoginFinish a _ _ => (a.compared (w.readPointer target a.input)).pairs target .login
  | .clientRegistrationFinish a _ _ =>
    (a.compared (w.readPointer target a.input)).pairs target .registration
  | _ => []

/-- Two ranges that are documented to be apart share a byte. -/
def Call.Violates (call : Call State) (w : World State) : Prop :=
  ∃ pair ∈ call.documented target w, Share pair.1 pair.2

/-- The call is answered `InvalidArgument`, and every byte and every handle is as before. -/
structure Rejected (call : Call State) (w : World State) : Prop where
  status : (call.exec target w).1 = .invalidArgument
  memory : (call.exec target w).2.memory = w.memory
  heap : (call.exec target w).2.heap = w.heap

/-- The message of a copy is null or live. -/
def Call.MessageLive (w : World State) : Call State → Prop
  | .authMessageCopy message _ _ _ =>
    message = 0 ∨ ∃ core, w.heap message = some (.authMessage core)
  | _ => True

/-- The violation is what the call finds before it writes anything or answers otherwise. -/
def Call.FoundFirst (w : World State) : Call State → Prop
  | .authMessageNew bytes length output _ => output = 0 ∨ bytes = 0 ∨ length ≤ maxMessageBytes
  | .authMessageCopy message _ _ outputWritten =>
    message = 0 ∨ outputWritten = 0 ∨
      bufferOverlapsObject target .authMessage outputWritten target.pointerBytes message = true ∨
      w.readPointer target outputWritten = 0
  | _ => True

variable {target} {w : World State}

theorem rejected_of_exec {call : Call State} (h : call.exec target w = (.invalidArgument, w)) :
    Rejected target call w :=
  ⟨congrArg Prod.fst h, congrArg (World.memory ∘ Prod.snd) h, congrArg (World.heap ∘ Prod.snd) h⟩

/-! ## The functions that look first -/

theorem pressKey_rejected {session keyId keyIdLen now done : ℕ}
    (h : Share ⟨keyId, keyIdLen⟩ (objectRange target .session session)) :
    secureKeypadSessionPressKey target session keyId keyIdLen now done w =
      (.invalidArgument, w) := by
  rw [secureKeypadSessionPressKey]
  split
  · rfl
  · exact if_pos (memoryRangesOverlap_of_share _ h)

theorem refresh_rejected {session output now : ℕ}
    (h : Share ⟨output, maskedStateBytes⟩ (objectRange target .session session)) :
    secureKeypadSessionRefresh target session output now w = (.invalidArgument, w) := by
  rw [secureKeypadSessionRefresh]
  split
  · rfl
  · exact if_pos (memoryRangesOverlap_of_share _ h)

theorem submit_rejected {session output now fresh : ℕ}
    (h : Share (slotRange target output) (objectRange target .session session)) :
    secureKeypadSessionSubmit target session output now fresh w = (.invalidArgument, w) := by
  rw [secureKeypadSessionSubmit]
  split
  · rfl
  · exact if_pos (memoryRangesOverlap_of_share _ h)

theorem messageSize_rejected {message outputLength : ℕ}
    (h : Share (slotRange target outputLength) (objectRange target .authMessage message)) :
    secureKeypadAuthMessageSize target message outputLength w = (.invalidArgument, w) := by
  rw [secureKeypadAuthMessageSize]
  split
  · rfl
  · exact if_pos (memoryRangesOverlap_of_share _ h)

theorem clientStart_rejected {flow : Flow} {a : StartArguments} {engine : Engine State}
    {freshState freshRequest : ℕ} (h : ∃ pair ∈ a.documented target w, Share pair.1 pair.2) :
    clientStart target flow a engine freshState freshRequest w = (.invalidArgument, w) := by
  obtain ⟨pair, hpair, hshare⟩ := h
  have hoverlap := memoryRangesOverlap_of_share target.usizeBits hshare
  simp only [StartArguments.documented, List.mem_cons, List.not_mem_nil, or_false] at hpair
  rw [clientStart]
  split
  · rfl
  split
  · rfl
  next hslots =>
  simp only [outputSlotsAlias, Bool.or_eq_true, not_or] at hslots
  dsimp only
  split
  · rfl
  -- the slots are apart, so one of them overlaps the submission
  refine if_pos ?_
  simp only [Bool.or_eq_true]
  rcases hpair with rfl | rfl | rfl | rfl | rfl | rfl
  · exact absurd hoverlap hslots.1.1
  · exact absurd hoverlap hslots.1.2
  · exact absurd hoverlap hslots.2
  · exact .inl (.inl hoverlap)
  · exact .inl (.inr hoverlap)
  · exact .inr hoverlap

theorem clientFinish_rejected {flow : Flow} {a : FinishArguments} {engine : Engine State}
    {fresh : ℕ}
    (h : ∃ pair ∈ (a.compared (w.readPointer target a.input)).pairs target flow,
      Share pair.1 pair.2) :
    clientFinish target flow a engine fresh w = (.invalidArgument, w) := by
  obtain ⟨pair, hpair, hshare⟩ := h
  have halias := (authFinishArgumentsAlias_iff target).mpr
    ⟨pair, hpair, memoryRangesOverlap_of_share target.usizeBits hshare⟩
  rw [clientFinish]
  split
  · rfl
  split
  · rfl
  by_cases hpointer : w.readPointer target a.input = 0
  · exact if_pos hpointer
  · exact (if_neg hpointer).trans (if_pos halias)

/-! ## The two that do not -/

theorem messageNew_rejected_iff {bytes length output fresh : ℕ}
    (h : Share ⟨bytes, length⟩ (slotRange target output)) :
    Rejected target (.authMessageNew bytes length output fresh) w ↔
      output = 0 ∨ bytes = 0 ∨ length ≤ maxMessageBytes := by
  have hlength : length ≠ 0 := Nat.pos_iff_ne_zero.mp (share_iff.mp h).1
  by_cases houtput : output = 0
  · exact iff_of_true (rejected_of_exec (if_pos houtput)) (.inl houtput)
  by_cases hbytes : bytes = 0
  · refine iff_of_true (rejected_of_exec ?_) (.inr (.inl hbytes))
    exact (if_neg houtput).trans (if_pos (.inl hbytes))
  have hargs : ¬ (bytes = 0 ∨ length = 0) := not_or.mpr ⟨hbytes, hlength⟩
  by_cases hlarge : maxMessageBytes < length
  · refine iff_of_false (fun hrejected => ?_) (by omega)
    have hexec : (Call.authMessageNew bytes length output fresh : Call State).exec target w =
        (.messageTooLarge, w) :=
      ((if_neg houtput).trans (if_neg hargs)).trans (if_pos hlarge)
    have hstatus := hrejected.status
    rw [hexec] at hstatus
    cases hstatus
  · refine iff_of_true (rejected_of_exec ?_) (.inr (.inr (Nat.le_of_not_lt hlarge)))
    exact (((if_neg houtput).trans (if_neg hargs)).trans (if_neg hlarge)).trans
      (if_pos (memoryRangesOverlap_of_share _ h))

/-- The length is cleared, and then the call is rejected. -/
theorem messageCopy_clears {message output outputLength outputWritten : ℕ} {core : Rust.Bytes}
    (hnull : ¬ (message = 0 ∨ outputWritten = 0))
    (hwritten : ¬ bufferOverlapsObject target .authMessage outputWritten target.pointerBytes
      message = true)
    (hlive : w.heap message = some (.authMessage core))
    (h : Share ⟨output, outputLength⟩ (slotRange target outputWritten) ∨
      Share ⟨output, outputLength⟩ (objectRange target .authMessage message)) :
    secureKeypadAuthMessageCopy target message output outputLength outputWritten w =
      (.invalidArgument, w.writePointer target outputWritten 0) := by
  rw [secureKeypadAuthMessageCopy, if_neg hnull, if_neg hwritten, hlive]
  dsimp only
  split
  · rfl
  split
  · rfl
  · next hobject =>
    rcases h with hslot | hmessage
    · exact if_pos (memoryRangesOverlap_of_share _ hslot)
    · exact absurd (memoryRangesOverlap_of_share _ hmessage) hobject

theorem messageCopy_rejected_iff {message output outputLength outputWritten : ℕ}
    (hlive : message = 0 ∨ ∃ core, w.heap message = some (.authMessage core))
    (h : (Call.authMessageCopy message output outputLength outputWritten).Violates target w) :
    Rejected target (.authMessageCopy message output outputLength outputWritten) w ↔
      message = 0 ∨ outputWritten = 0 ∨
        bufferOverlapsObject target .authMessage outputWritten target.pointerBytes message = true ∨
        w.readPointer target outputWritten = 0 := by
  by_cases hnull : message = 0 ∨ outputWritten = 0
  · refine iff_of_true (rejected_of_exec (if_pos hnull)) ?_
    exact hnull.imp_right Or.inl
  by_cases hwritten : bufferOverlapsObject target .authMessage outputWritten target.pointerBytes
      message = true
  · refine iff_of_true (rejected_of_exec ?_) (.inr (.inr (.inl hwritten)))
    exact (if_neg hnull).trans (if_pos hwritten)
  obtain ⟨hmessage, houtput⟩ := not_or.mp hnull
  obtain ⟨core, hcore⟩ := hlive.resolve_left hmessage
  -- what is left to share a byte is the output buffer
  obtain ⟨pair, hpair, hshare⟩ := h
  simp only [Call.documented, List.mem_cons, List.not_mem_nil, or_false] at hpair
  have hbuffer : Share ⟨output, outputLength⟩ (slotRange target outputWritten) ∨
      Share ⟨output, outputLength⟩ (objectRange target .authMessage message) := by
    rcases hpair with rfl | rfl | rfl
    · exact absurd (memoryRangesOverlap_of_share _ hshare) hwritten
    · exact .inl hshare
    · exact .inr hshare
  have hexec := messageCopy_clears hnull hwritten hcore hbuffer
  have hzero : Rejected target (.authMessageCopy message output outputLength outputWritten) w ↔
      w.readPointer target outputWritten = 0 := by
    rw [World.readPointer, ← writeWord_zero_eq_self_iff]
    constructor
    · intro hrejected
      have hmemory := hrejected.memory
      rw [Call.exec, hexec] at hmemory
      exact hmemory
    · intro hmemory
      refine ⟨?_, ?_, ?_⟩ <;> rw [Call.exec, hexec]
      · exact hmemory
      · rfl
  rw [hzero]
  constructor
  · exact fun hread => .inr (.inr (.inr hread))
  · rintro (hmessage' | houtput' | hwritten' | hread)
    · exact absurd hmessage' hmessage
    · exact absurd houtput' houtput
    · exact absurd hwritten' hwritten
    · exact hread

/-! ## All of them -/

/-- **Validation is atomic but for two functions**: a call that violates what is documented is
    rejected with nothing changed exactly when it finds the violation first. -/
theorem validation_atomic_iff (call : Call State) (w : World State) (hlive : call.MessageLive w)
    (h : call.Violates target w) : Rejected target call w ↔ call.FoundFirst target w := by
  cases call with
  | authMessageNew bytes length output fresh =>
    obtain ⟨pair, hpair, hshare⟩ := h
    cases List.mem_singleton.mp hpair
    exact messageNew_rejected_iff hshare
  | authMessageCopy message output outputLength outputWritten =>
    exact messageCopy_rejected_iff hlive h
  | sessionPressKey session keyId keyIdLen now done =>
    obtain ⟨pair, hpair, hshare⟩ := h
    cases List.mem_singleton.mp hpair
    exact iff_of_true (rejected_of_exec (pressKey_rejected hshare)) trivial
  | sessionRefresh session output now =>
    obtain ⟨pair, hpair, hshare⟩ := h
    cases List.mem_singleton.mp hpair
    exact iff_of_true (rejected_of_exec (refresh_rejected hshare)) trivial
  | sessionSubmit session output now fresh =>
    obtain ⟨pair, hpair, hshare⟩ := h
    cases List.mem_singleton.mp hpair
    exact iff_of_true (rejected_of_exec (submit_rejected hshare)) trivial
  | authMessageSize message outputLength =>
    obtain ⟨pair, hpair, hshare⟩ := h
    cases List.mem_singleton.mp hpair
    exact iff_of_true (rejected_of_exec (messageSize_rejected hshare)) trivial
  | clientLoginStart a engine freshState freshRequest =>
    exact iff_of_true (rejected_of_exec (clientStart_rejected h)) trivial
  | clientRegistrationStart a engine freshState freshRequest =>
    exact iff_of_true (rejected_of_exec (clientStart_rejected h)) trivial
  | clientLoginFinish a engine fresh =>
    exact iff_of_true (rejected_of_exec (clientFinish_rejected h)) trivial
  | clientRegistrationFinish a engine fresh =>
    exact iff_of_true (rejected_of_exec (clientFinish_rejected h)) trivial
  | _ =>
    -- nothing is documented to be apart
    obtain ⟨pair, hpair, -⟩ := h
    cases hpair

/-! ## A length that is cleared -/

/-- A message at `0x1000`, and a length 7 that the caller keeps at `0x5000`. -/
def oneMessage : World fun _ => Unit where
  memory := fun address => if address = 0x5000 then 7 else 0
  heap := Function.update (fun _ => none) 0x1000 (some (.authMessage [1]))
  acts := []

/-- The message is to be copied to a buffer that lies in the message. -/
def copyIntoMessage : Call fun _ => Unit := .authMessageCopy 0x1000 0x1008 4 0x5000

theorem not_validation_atomic : ¬ ∀ (target : Target) (call : Call fun _ => Unit)
    (w : World fun _ => Unit), call.MessageLive w → call.Violates target w →
      Rejected target call w := by
  intro h
  have hviolates : copyIntoMessage.Violates wideTarget oneMessage :=
    ⟨(⟨0x1008, 4⟩, objectRange wideTarget .authMessage 0x1000), by simp [copyIntoMessage,
      Call.documented], by decide⟩
  have hrejected := h wideTarget copyIntoMessage oneMessage (.inr ⟨[1], rfl⟩) hviolates
  have hbyte := congrFun hrejected.memory 0x5000
  exact absurd hbyte (by decide)

/-- A buffer in its own output slot is rejected first. -/
theorem validation_atomic_iff_in_slot :
    Rejected wideTarget (.authMessageNew 0x5000 4 0x5000 0) oneMessage :=
  (validation_atomic_iff (.authMessageNew 0x5000 4 0x5000 0) oneMessage trivial
    ⟨_, List.mem_singleton_self _, by decide⟩).mpr (.inr (.inr (by decide)))

end SecureKeypad.Ffi
