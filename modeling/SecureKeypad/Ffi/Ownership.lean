import SecureKeypad.Ffi.Abi

/-!
# Single Ownership of Handles

Every box that the C ABI makes is noted with the slot that its handle is given out in, and every
box that it ends is noted too. Over any calls whose handles are live and whose output slots own
nothing, the list is one that a ledger of handles accepts, what is live by it is what is on the
heap, and each live handle stands in the slot that it was given out in.

The start and finish functions are looked at with any arguments: what their checks refuse changes
nothing, and what passes consumes the input handle whatever comes of it.

## Main results

- `Ledgered.exec`: what one call preserves
- `startOutcome`, `finishOutcome`: what becomes of the input handle and the outputs
- `handle_ownership`: the discipline over every sequence of calls, and both contracts
-/

namespace SecureKeypad.Ffi

open ByteMemory HandleLedger
open SecureKeypad.Core (SecureSession SessionAnswer Submission)
open SecureKeypad.Native (SecureKeypadError writeMaskedState)

variable {State : Flow → Type} (target : Target)

/-! ## Ownership -/

/-- The live handles, each with its kind and the slot that it was given out in. -/
abbrev Owners := Live ℕ (Kind × ℕ)

/-- The owners by the list of boxes made and consumed. -/
def World.owners (w : World State) : Owners := (run Live.empty w.acts).getD Live.empty

/-- A range shares no byte with a slot that owns a handle. -/
def Clear (live : Owners) (range : Range) : Prop :=
  ∀ handle kind slot, live handle = some (kind, slot) → ¬ Share (slotRange target slot) range

/-- The ledger of a world: it accepts the list, has on it what is on the heap, and finds each handle
    in its slot; no two slots share a byte. -/
structure Ledgered (w : World State) (live : Owners) : Prop where
  run_eq : run Live.empty w.acts = some live
  heap : ∀ handle, (w.heap handle).map Object.kind = (live handle).map Prod.fst
  slot : ∀ handle kind slot, live handle = some (kind, slot) → w.readPointer target slot = handle
  nonnull : ∀ handle owner, live handle = some owner → handle ≠ 0
  apart : ∀ handle kind slot handle' kind' slot', live handle = some (kind, slot) →
    live handle' = some (kind', slot') → handle ≠ handle' →
    ¬ Share (slotRange target slot) (slotRange target slot')

/-- What the allocator may answer: an address at which nothing lives. -/
structure Fresh (w : World State) (address : ℕ) : Prop where
  nonnull : address ≠ 0
  fits : address < 2 ^ target.usizeBits
  free : w.heap address = none

variable {target} {w : World State} {live : Owners}

theorem readPointer_writePointer {slot pointer : ℕ} (h : pointer < 2 ^ target.usizeBits) :
    (w.writePointer target slot pointer).readPointer target slot = pointer := by
  apply readWord_writeWord
  rwa [show (256 : ℕ) = 2 ^ 8 from rfl, ← pow_mul]

theorem readPointer_writePointer_of_apart {slot slot' pointer : ℕ}
    (h : ¬ Share (slotRange target slot) (slotRange target slot')) :
    (w.writePointer target slot' pointer).readPointer target slot = w.readPointer target slot :=
  readWord_writeWord_of_apart h

theorem not_share_of_not_overlap {first second : Range}
    (h : ¬ memoryRangesOverlap target.usizeBits first.start first.length second.start
      second.length = true) : ¬ Share first second :=
  fun hshare => h (memoryRangesOverlap_of_share _ hshare)

/-- What is left of a ledger without a handle. -/
theorem update_none_eq_some {handle other : ℕ} {owner : Kind × ℕ}
    (h : Function.update live handle none other = some owner) :
    other ≠ handle ∧ live other = some owner := by
  by_cases heq : other = handle
  · subst heq
    rw [Function.update_self] at h
    cases h
  · rw [Function.update_of_ne heq] at h
    exact ⟨heq, h⟩

/-- What is on a ledger with a handle more. -/
theorem update_some_eq_some {handle other : ℕ} {owner owner' : Kind × ℕ}
    (h : Function.update live handle (some owner') other = some owner) :
    other = handle ∧ owner' = owner ∨ other ≠ handle ∧ live other = some owner := by
  by_cases heq : other = handle
  · subst heq
    rw [Function.update_self, Option.some.injEq] at h
    exact .inl ⟨rfl, h⟩
  · rw [Function.update_of_ne heq] at h
    exact .inr ⟨heq, h⟩

namespace Ledgered

theorem owners_eq (h : Ledgered target w live) : w.owners = live := by
  rw [World.owners, h.run_eq]
  rfl

/-- What is live on the ledger is on the heap, with its kind. -/
theorem object (h : Ledgered target w live) {handle slot : ℕ} {kind : Kind}
    (hlive : live handle = some (kind, slot)) :
    ∃ object, w.heap handle = some object ∧ object.kind = kind := by
  have hheap := h.heap handle
  rw [hlive] at hheap
  obtain ⟨object, hobject, hkind⟩ := Option.map_eq_some_iff.mp hheap
  exact ⟨object, hobject, hkind⟩

theorem live_eq_none (h : Ledgered target w live) {handle : ℕ} (hfree : w.heap handle = none) :
    live handle = none := by
  have hheap := h.heap handle
  rw [hfree] at hheap
  exact Option.map_eq_none_iff.mp hheap.symm

/-- A write that is clear of the owning slots. -/
theorem writeBytes (h : Ledgered target w live) {start : ℕ} {bytes : Rust.Bytes}
    (hclear : Clear target live ⟨start, bytes.length⟩) :
    Ledgered target (w.writeBytes start bytes) live where
  run_eq := h.run_eq
  heap := h.heap
  slot := by
    intro handle kind slot hlive
    exact (readWord_write (hclear handle kind slot hlive)).trans (h.slot handle kind slot hlive)
  nonnull := h.nonnull
  apart := h.apart

theorem writePointer (h : Ledgered target w live) {slot pointer : ℕ}
    (hclear : Clear target live (slotRange target slot)) :
    Ledgered target (w.writePointer target slot pointer) live := by
  have hbytes : Clear target live ⟨slot, (wordBytes target.pointerBytes pointer).length⟩ := by
    rwa [length_wordBytes]
  exact h.writeBytes hbytes

/-- An object in place of one of its kind. -/
theorem store (h : Ledgered target w live) {handle : ℕ} {before after : Object State}
    (hbefore : w.heap handle = some before) (hkind : after.kind = before.kind) :
    Ledgered target (w.store handle after) live where
  run_eq := h.run_eq
  heap := by
    intro other
    by_cases heq : other = handle
    · subst heq
      rw [World.store_heap, Function.update_self, Option.map_some, hkind, ← h.heap, hbefore,
        Option.map_some]
    · rw [World.store_heap, Function.update_of_ne heq, h.heap]
  slot := h.slot
  nonnull := h.nonnull
  apart := h.apart

/-- The end of a box. -/
theorem boxFromRaw (h : Ledgered target w live) {handle slot : ℕ} {kind : Kind}
    (hlive : live handle = some (kind, slot)) :
    Ledgered target (w.boxFromRaw handle) (Function.update live handle none) where
  run_eq := by
    rw [World.boxFromRaw_acts, run_snoc h.run_eq, step, if_pos (by rw [hlive]; rfl)]
  heap := by
    intro other
    by_cases heq : other = handle
    · subst heq
      rw [World.boxFromRaw_heap, Function.update_self, Function.update_self]
      rfl
    · rw [World.boxFromRaw_heap, Function.update_of_ne heq, Function.update_of_ne heq, h.heap]
  slot := by
    intro other kind' slot' hother
    obtain ⟨-, hother⟩ := update_none_eq_some hother
    exact h.slot other kind' slot' hother
  nonnull := by
    intro other owner hother
    obtain ⟨-, hother⟩ := update_none_eq_some hother
    exact h.nonnull other owner hother
  apart := by
    intro first kind' slot' second kind'' slot'' hfirst hsecond hne
    obtain ⟨-, hfirst⟩ := update_none_eq_some hfirst
    obtain ⟨-, hsecond⟩ := update_none_eq_some hsecond
    exact h.apart first kind' slot' second kind'' slot'' hfirst hsecond hne

/-- A new box, with its handle written to a slot that owns none. -/
theorem give (h : Ledgered target w live) {handle slot : ℕ} (object : Object State)
    (hfresh : Fresh target w handle) (hclear : Clear target live (slotRange target slot)) :
    Ledgered target ((w.boxIntoRaw handle slot object).writePointer target slot handle)
      (Function.update live handle (some (object.kind, slot))) where
  -- The ledger allows the allocation, since the address was free.
  run_eq := by
    rw [World.writePointer_acts, World.boxIntoRaw_acts, run_snoc h.run_eq, step,
      if_pos (h.live_eq_none hfresh.free)]
  heap := by
    intro other
    rw [World.writePointer_heap, World.boxIntoRaw_heap]
    by_cases heq : other = handle
    · subst heq
      rw [Function.update_self, Function.update_self]
      rfl
    · rw [Function.update_of_ne heq, Function.update_of_ne heq, h.heap]
  -- Writing the new slot leaves the others as they were, which lie apart from it.
  slot := by
    intro other kind slot' hother
    rcases update_some_eq_some hother with ⟨rfl, howner⟩ | ⟨-, hother⟩
    · cases howner
      exact readPointer_writePointer hfresh.fits
    · rw [readPointer_writePointer_of_apart (hclear other kind slot' hother)]
      exact h.slot other kind slot' hother
  nonnull := by
    intro other owner hother
    rcases update_some_eq_some hother with ⟨rfl, -⟩ | ⟨-, hother⟩
    · exact hfresh.nonnull
    · exact h.nonnull other owner hother
  -- Two old slots are apart already; the new one is clear of all of them.
  apart := by
    intro first kind' slot' second kind'' slot'' hfirst hsecond hne
    rcases update_some_eq_some hfirst with ⟨rfl, howner⟩ | ⟨-, hold⟩
    · cases howner
      rcases update_some_eq_some hsecond with ⟨rfl, -⟩ | ⟨-, hold⟩
      · exact absurd rfl hne
      · exact fun hshare => hclear second kind'' slot'' hold hshare.symm
    · rcases update_some_eq_some hsecond with ⟨rfl, howner⟩ | ⟨-, hold'⟩
      · cases howner
        exact hclear first kind' slot' hold
      · exact h.apart first kind' slot' second kind'' slot'' hold hold' hne

/-- A slot is clear once its handle is off the ledger. -/
theorem clear_of_taken (h : Ledgered target w live) {handle slot : ℕ} {kind : Kind}
    (hlive : live handle = some (kind, slot)) :
    Clear target (Function.update live handle none) (slotRange target slot) := by
  intro other kind' slot' hother
  obtain ⟨hne, hother⟩ := update_none_eq_some hother
  exact h.apart other kind' slot' handle kind slot hother hlive hne

/-- A handle that is consumed, and cleared in its slot. -/
theorem take (h : Ledgered target w live) {handle slot : ℕ} {kind : Kind}
    (hlive : live handle = some (kind, slot)) :
    Ledgered target ((w.writePointer target slot 0).boxFromRaw handle)
      (Function.update live handle none) :=
  (h.boxFromRaw hlive).writePointer (h.clear_of_taken hlive)

end Ledgered

/-- A range stays clear when a handle goes. -/
theorem Clear.taken {range : Range} (h : Clear target live range) (handle : ℕ) :
    Clear target (Function.update live handle none) range :=
  fun other kind slot hother => h other kind slot (update_none_eq_some hother).2

/-- A range stays clear when a handle comes in a slot apart from it. -/
theorem Clear.given {range : Range} (h : Clear target live range) {handle slot : ℕ} {kind : Kind}
    (hapart : ¬ Share (slotRange target slot) range) :
    Clear target (Function.update live handle (some (kind, slot))) range := by
  intro other kind' slot' hother
  rcases update_some_eq_some hother with ⟨-, howner⟩ | ⟨-, hother⟩
  · cases howner
    exact hapart
  · exact h other kind' slot' hother

theorem Fresh.writePointer {address slot pointer : ℕ} (h : Fresh target w address) :
    Fresh target (w.writePointer target slot pointer) address := ⟨h.nonnull, h.fits, h.free⟩

/-! ## What calls are permitted -/

variable (target w live) in
/-- An output slot that is null or owns no handle. -/
def OutputClear (slot : ℕ) : Prop := slot = 0 ∨ Clear target live (slotRange target slot)

variable (live) in
/-- A handle that is null or live. -/
def HandleOf (kind : Kind) (handle : ℕ) : Prop :=
  handle = 0 ∨ ∃ slot, live handle = some (kind, slot)

variable (target w live) in
/-- An input slot that is null, holds null, or owns the handle in it. -/
def InputOf (kind : Kind) (slot : ℕ) : Prop :=
  slot = 0 ∨ w.readPointer target slot = 0 ∨
    live (w.readPointer target slot) = some (kind, slot)

variable (target w) in
/-- The two addresses at which a start function makes its boxes, once the submission is gone. -/
structure FreshPair (pointer freshState freshRequest : ℕ) : Prop where
  state : Fresh target (w.boxFromRaw pointer) freshState
  request : Fresh target (w.boxFromRaw pointer) freshRequest
  ne : freshState ≠ freshRequest

variable (target w live) in
/-- The conditions of a start call. -/
structure StartArguments.Permitted (a : StartArguments) (freshState freshRequest : ℕ) : Prop where
  input : InputOf target w live .submission a.submission
  outputState : OutputClear target live a.outputState
  outputRequest : OutputClear target live a.outputRequest
  fresh : FreshPair target w (w.readPointer target a.submission) freshState freshRequest

variable (target w live) in
/-- The conditions of a finish call. -/
structure FinishArguments.Permitted (a : FinishArguments) (flow : Flow) (fresh : ℕ) : Prop where
  input : InputOf target w live (.client flow) a.input
  response : HandleOf live .authMessage a.response
  output : OutputClear target live a.output
  fresh : Fresh target (w.boxFromRaw (w.readPointer target a.input)) fresh

variable (target w live) in
/-- Every handle argument is null or live, what is written to owns no handle, and the allocator
    answers with addresses at which nothing lives. -/
def Call.Permitted : Call State → Prop
  | .sessionNewNumeric _ _ _ fresh output | .sessionNewAscii _ _ _ fresh output
  | .sessionNewHangul _ _ _ fresh output =>
    Fresh target w fresh ∧ OutputClear target live output
  | .free kind handle => HandleOf live kind handle
  | .sessionPressKey session _ _ _ _ | .sessionBackspace session _ _ | .sessionClear session _ _
  | .sessionCancel session => HandleOf live .session session
  | .sessionRefresh session output _ =>
    HandleOf live .session session ∧ (output = 0 ∨ Clear target live ⟨output, maskedStateBytes⟩)
  | .sessionSubmit session output _ fresh =>
    HandleOf live .session session ∧ OutputClear target live output ∧ Fresh target w fresh
  | .authMessageNew _ _ output fresh => OutputClear target live output ∧ Fresh target w fresh
  | .authMessageSize message outputLength =>
    HandleOf live .authMessage message ∧ OutputClear target live outputLength
  | .authMessageCopy message output outputLength outputWritten =>
    HandleOf live .authMessage message ∧ OutputClear target live outputWritten ∧
      (output = 0 ∨ Clear target live ⟨output, outputLength⟩)
  | .clientLoginStart a _ freshState freshRequest
  | .clientRegistrationStart a _ freshState freshRequest =>
    a.Permitted target w live freshState freshRequest
  | .clientLoginFinish a _ fresh => a.Permitted target w live .login fresh
  | .clientRegistrationFinish a _ fresh => a.Permitted target w live .registration fresh

/-! ## What each function preserves -/

variable (target) in
/-- There is a ledger of the world. -/
def Kept (w : World State) : Prop := ∃ live, Ledgered target w live

namespace Ledgered

theorem kept (h : Ledgered target w live) : Kept target w := ⟨live, h⟩

theorem sessionNew (h : Ledgered target w live) {policy : ℕ → Core.InputPolicy}
    {tokens timeoutMs now fresh output : ℕ} (hfresh : Fresh target w fresh)
    (hclear : OutputClear target live output) :
    Kept target (sessionNew target policy tokens timeoutMs now fresh output w).2 := by
  rw [Ffi.sessionNew]
  split
  · exact h.kept
  rw [createSession]
  split
  · exact h.kept
  next hvalid =>
  have hslot : Clear target live (slotRange target output) :=
    hclear.resolve_left fun hnull => hvalid (.inl hnull)
  exact ((h.writePointer hslot).give _ hfresh.writePointer hslot).kept

theorem freeOf (h : Ledgered target w live) {kind : Kind} {handle : ℕ}
    (hhandle : HandleOf live kind handle) : Kept target (freeOf kind handle w) := by
  have hfree : Kept target (freeHandle handle w) := by
    rw [freeHandle]
    split
    · exact h.kept
    · next hnonnull =>
      obtain ⟨slot, hlive⟩ := hhandle.resolve_left hnonnull
      exact (h.boxFromRaw hlive).kept
  cases kind with
  | client flow =>
    cases flow with
    | login => exact hfree
    | registration => exact hfree
  | _ => exact hfree

theorem editSession (h : Ledgered target w live) (session : ℕ)
    (edit : SecureSession → SessionAnswer × SecureSession) :
    Kept target (editSession session edit w).2 := by
  rw [Ffi.editSession]
  split
  · next core hcore =>
    have hstored : Ledgered target (w.store session (.session (edit core).2)) live :=
      h.store hcore rfl
    exact hstored.kept
  · exact h.kept

theorem pressKey (h : Ledgered target w live) (session keyId keyIdLen now done : ℕ) :
    Kept target (secureKeypadSessionPressKey target session keyId keyIdLen now done w).2 := by
  rw [secureKeypadSessionPressKey]
  split
  · exact h.kept
  split
  · exact h.kept
  split
  · exact h.kept
  · exact h.editSession _ _

theorem backspace (h : Ledgered target w live) (session now done : ℕ) :
    Kept target (secureKeypadSessionBackspace session now done w).2 := by
  rw [secureKeypadSessionBackspace]
  split
  · exact h.kept
  · exact h.editSession _ _

theorem clear (h : Ledgered target w live) (session now done : ℕ) :
    Kept target (secureKeypadSessionClear session now done w).2 := by
  rw [secureKeypadSessionClear]
  split
  · exact h.kept
  · exact h.editSession _ _

theorem cancel (h : Ledgered target w live) (session : ℕ) :
    Kept target (secureKeypadSessionCancel session w).2 := by
  rw [secureKeypadSessionCancel]
  split
  · exact h.kept
  · exact h.editSession _ _

theorem refresh (h : Ledgered target w live) {session output now : ℕ}
    (hclear : output = 0 ∨ Clear target live ⟨output, maskedStateBytes⟩) :
    Kept target (secureKeypadSessionRefresh target session output now w).2 := by
  rw [secureKeypadSessionRefresh]
  split
  · exact h.kept
  next hnonnull =>
  have hrange := hclear.resolve_left fun hnull => hnonnull (.inr hnull)
  split
  · exact h.kept
  split
  · next core hcore =>
    dsimp only
    have hstored : Ledgered target (w.store session (.session (core.refresh now).2)) live :=
      h.store hcore rfl
    split
    · refine (hstored.writeBytes ?_).kept
      rw [List.length_append, length_wordBytes, length_wordBytes]
      exact hrange
    · exact hstored.kept
  · exact h.kept

theorem submit (h : Ledgered target w live) {session output now fresh : ℕ}
    (hclear : OutputClear target live output) (hfresh : Fresh target w fresh) :
    Kept target (secureKeypadSessionSubmit target session output now fresh w).2 := by
  rw [secureKeypadSessionSubmit]
  split
  · exact h.kept
  next hnonnull =>
  have hslot := hclear.resolve_left fun hnull => hnonnull (.inr hnull)
  split
  · exact h.kept
  dsimp only
  have hcleared := @writePointer _ _ _ _ h _ 0 hslot
  split
  · next core hcore =>
    have hstored := @store _ _ _ _ hcleared session _ (.session (core.submit now).2) hcore rfl
    -- the session is live, so nothing new lives where it does
    have hne : fresh ≠ session := by
      rintro rfl
      rw [World.writePointer_heap, hfresh.free] at hcore
      cases hcore
    split
    · refine (hstored.give _ ⟨hfresh.nonnull, hfresh.fits, ?_⟩ hslot).kept
      rw [World.store_heap, Function.update_of_ne hne]
      exact hfresh.free
    · exact hstored.kept
    · exact hstored.kept
  · exact hcleared.kept

theorem messageNew (h : Ledgered target w live) {bytes length output fresh : ℕ}
    (hclear : OutputClear target live output) (hfresh : Fresh target w fresh) :
    Kept target (secureKeypadAuthMessageNew target bytes length output fresh w).2 := by
  rw [secureKeypadAuthMessageNew]
  split
  · exact h.kept
  next hnonnull =>
  have hslot := hclear.resolve_left hnonnull
  split
  · exact h.kept
  split
  · exact h.kept
  split
  · exact h.kept
  dsimp only
  have hcleared := @writePointer _ _ _ _ h _ 0 hslot
  split
  · exact hcleared.kept
  · exact (hcleared.give _ hfresh.writePointer hslot).kept

theorem messageSize (h : Ledgered target w live) {message outputLength : ℕ}
    (hclear : OutputClear target live outputLength) :
    Kept target (secureKeypadAuthMessageSize target message outputLength w).2 := by
  rw [secureKeypadAuthMessageSize]
  split
  · exact h.kept
  next hnonnull =>
  have hslot := hclear.resolve_left fun hnull => hnonnull (.inr hnull)
  split
  · exact h.kept
  split
  · exact (h.writePointer hslot).kept
  · exact h.kept

theorem messageCopy (h : Ledgered target w live) {message output outputLength outputWritten : ℕ}
    (hclear : OutputClear target live outputWritten)
    (hbuffer : output = 0 ∨ Clear target live ⟨output, outputLength⟩) :
    Kept target (secureKeypadAuthMessageCopy target message output outputLength outputWritten
      w).2 := by
  rw [secureKeypadAuthMessageCopy]
  split
  · exact h.kept
  next hnonnull =>
  have hslot := hclear.resolve_left fun hnull => hnonnull (.inr hnull)
  split
  · exact h.kept
  split
  · next bytes hbytes =>
    dsimp only
    have hcleared := @writePointer _ _ _ _ h _ 0 hslot
    split
    · exact hcleared.kept
    next houtput =>
    split
    · exact hcleared.kept
    split
    · exact hcleared.kept
    split
    · exact (hcleared.writePointer hslot).kept
    · next hroom =>
      refine ((hcleared.writeBytes ?_).writePointer hslot).kept
      -- what is written is no longer than the buffer
      intro handle kind slot hlive hshare
      obtain ⟨address, hin, hstart, hend⟩ := hshare
      refine hbuffer.resolve_left houtput handle kind slot hlive ⟨address, hin, hstart, ?_⟩
      simp only at hend ⊢
      omega
  · exact h.kept

end Ledgered

/-! ## The start functions -/

variable (target w) in
/-- The slots of a start call are not null, do not overlap, and point to no null and no object that
    one of them overlaps. -/
structure StartArguments.Valid (a : StartArguments) : Prop where
  nonnull : ¬ (a.submission = 0 ∨ a.outputState = 0 ∨ a.outputRequest = 0)
  slots : ¬ outputSlotsAlias target a.submission a.outputState a.outputRequest = true
  handle : w.readPointer target a.submission ≠ 0
  object : ∀ slot ∈ [a.submission, a.outputState, a.outputRequest],
    ¬ pointerSlotOverlapsObject target .submission slot (w.readPointer target a.submission) = true

variable (target) in
/-- The world with the submission consumed and the three slots cleared. -/
def StartArguments.consumed (a : StartArguments) (w : World State) : World State :=
  (((w.writePointer target a.outputState 0).writePointer target a.outputRequest 0).writePointer
    target a.submission 0).boxFromRaw (w.readPointer target a.submission)

variable (target) in
/-- The world with both boxes made and given out. -/
def StartArguments.given (a : StartArguments) {flow : Flow} (state : State flow)
    (request : Rust.Bytes) (freshState freshRequest : ℕ) (w : World State) : World State :=
  (((w.boxIntoRaw freshState a.outputState (.client flow state)).boxIntoRaw freshRequest
    a.outputRequest (.authMessage request)).writePointer target a.outputState
    freshState).writePointer target a.outputRequest freshRequest

section Start

variable {flow : Flow} {a : StartArguments} {engine : Engine State} {freshState freshRequest : ℕ}

theorem StartArguments.Valid.outputs_apart (h : a.Valid target w) :
    ¬ Share (slotRange target a.outputState) (slotRange target a.outputRequest) := by
  have hslots := h.slots
  simp only [outputSlotsAlias, Bool.or_eq_true, not_or] at hslots
  exact not_share_of_not_overlap hslots.2

theorem StartArguments.Valid.state_apart (h : a.Valid target w) :
    ¬ Share (slotRange target a.submission) (slotRange target a.outputState) := by
  have hslots := h.slots
  simp only [outputSlotsAlias, Bool.or_eq_true, not_or] at hslots
  exact not_share_of_not_overlap hslots.1.1

theorem StartArguments.Valid.request_apart (h : a.Valid target w) :
    ¬ Share (slotRange target a.submission) (slotRange target a.outputRequest) := by
  have hslots := h.slots
  simp only [outputSlotsAlias, Bool.or_eq_true, not_or] at hslots
  exact not_share_of_not_overlap hslots.1.2

/-- What is refused changes nothing. -/
theorem clientStart_of_not_valid (h : ¬ a.Valid target w) :
    clientStart target flow a engine freshState freshRequest w = (.invalidArgument, w) := by
  rw [clientStart]
  by_cases hnull : a.submission = 0 ∨ a.outputState = 0 ∨ a.outputRequest = 0
  · exact if_pos hnull
  rw [if_neg hnull]
  by_cases hslots : outputSlotsAlias target a.submission a.outputState a.outputRequest = true
  · exact if_pos hslots
  rw [if_neg hslots]
  by_cases hpointer : w.readPointer target a.submission = 0
  · exact if_pos hpointer
  refine (if_neg hpointer).trans (if_pos ?_)
  by_contra hobject
  simp only [Bool.or_eq_true, not_or] at hobject
  refine h ⟨hnull, hslots, hpointer, ?_⟩
  simp only [List.forall_mem_cons]
  exact ⟨hobject.1.1, hobject.1.2, hobject.2, fun _ hnone => nomatch hnone⟩

/-- What passes consumes the submission, and then depends on the engine alone. -/
theorem clientStart_of_valid {submission : Submission} (h : a.Valid target w)
    (hobject : w.heap (w.readPointer target a.submission) = some (.submission submission)) :
    clientStart target flow a engine freshState freshRequest w =
      match engine.start flow submission with
      | .error error => (mapAuthError error, a.consumed target w)
      | .ok (state, request) =>
        (.ok, (a.consumed target w |> a.given target state request freshState freshRequest)) := by
  have hoverlap : ¬ (pointerSlotOverlapsObject target .submission a.submission
        (w.readPointer target a.submission) ||
      pointerSlotOverlapsObject target .submission a.outputState
        (w.readPointer target a.submission) ||
      pointerSlotOverlapsObject target .submission a.outputRequest
        (w.readPointer target a.submission)) = true := by
    have hall := h.object
    simp only [List.forall_mem_cons] at hall
    simp only [Bool.or_eq_true, not_or]
    exact ⟨⟨hall.1, hall.2.1⟩, hall.2.2.1⟩
  rw [clientStart, if_neg h.nonnull, if_neg h.slots]
  refine (if_neg h.handle).trans ((if_neg hoverlap).trans ?_)
  simp only [World.writePointer_heap, hobject]
  rfl

/-- **A start call keeps the ledger.** -/
theorem Ledgered.clientStart (h : Ledgered target w live)
    (hpermitted : a.Permitted target w live freshState freshRequest) :
    Kept target (clientStart target flow a engine freshState freshRequest w).2 := by
  by_cases hvalid : a.Valid target w
  swap
  -- Arguments that are refused are refused before a handle is touched.
  · rw [clientStart_of_not_valid hvalid]
    exact h.kept
  -- The submission is live, and neither output is part of a live object.
  obtain ⟨hsubmission, hstate, hrequest⟩ := not_or.mp hvalid.nonnull |>.imp_right not_or.mp
  have hlive := (hpermitted.input.resolve_left hsubmission).resolve_left hvalid.handle
  have hstateClear := hpermitted.outputState.resolve_left hstate
  have hrequestClear := hpermitted.outputRequest.resolve_left hrequest
  obtain ⟨object, hobject, hkind⟩ := h.object hlive
  obtain ⟨submission, rfl⟩ : ∃ submission, object = .submission submission := by
    cases object with
    | submission submission => exact ⟨submission, rfl⟩
    | _ => cases hkind
  -- The submission is taken out whatever the engine answers.
  rw [clientStart_of_valid hvalid hobject]
  have hconsumed : Ledgered target (a.consumed target w)
      (Function.update live (w.readPointer target a.submission) none) :=
    ((h.writePointer hstateClear).writePointer hrequestClear).take hlive
  split
  · exact hconsumed.kept
  · next state request hstart =>
    -- A success gives out two handles, one after the other.
    have hfreshState : Fresh target (a.consumed target w) freshState :=
      ⟨hpermitted.fresh.state.nonnull, hpermitted.fresh.state.fits, hpermitted.fresh.state.free⟩
    have hfirst := hconsumed.give (.client flow state) hfreshState
      (hstateClear.taken (w.readPointer target a.submission))
    refine (hfirst.give (.authMessage request) ⟨hpermitted.fresh.request.nonnull,
      hpermitted.fresh.request.fits, ?_⟩ ?_).kept
    -- The first handle does not take the address of the second.
    · rw [World.writePointer_heap, World.boxIntoRaw_heap,
        Function.update_of_ne hpermitted.fresh.ne.symm]
      exact hpermitted.fresh.request.free
    · exact (hrequestClear.taken _).given hvalid.outputs_apart

end Start

/-! ## The finish functions -/

variable (target w) in
/-- The arguments of a finish call are not null, its slots do not overlap, and nothing overlaps of
    what is compared. -/
structure FinishArguments.Valid (a : FinishArguments) (flow : Flow) : Prop where
  nonnull : ¬ (a.input = 0 ∨ a.response = 0 ∨ a.output = 0)
  slots : ¬ pointerSlotsAlias target a.input a.output = true
  handle : w.readPointer target a.input ≠ 0
  compared : ¬ authFinishArgumentsAlias target flow
    (a.compared (w.readPointer target a.input)) = true

variable (target) in
/-- The world with the client state consumed and both slots cleared. -/
def FinishArguments.consumed (a : FinishArguments) (w : World State) : World State :=
  ((w.writePointer target a.output 0).writePointer target a.input 0).boxFromRaw
    (w.readPointer target a.input)

section Finish

variable {flow : Flow} {a : FinishArguments} {engine : Engine State} {fresh : ℕ}

theorem clientFinish_of_not_valid (h : ¬ a.Valid target w flow) :
    clientFinish target flow a engine fresh w = (.invalidArgument, w) := by
  rw [clientFinish]
  by_cases hnull : a.input = 0 ∨ a.response = 0 ∨ a.output = 0
  · exact if_pos hnull
  rw [if_neg hnull]
  by_cases hslots : pointerSlotsAlias target a.input a.output = true
  · exact if_pos hslots
  rw [if_neg hslots]
  by_cases hpointer : w.readPointer target a.input = 0
  · exact if_pos hpointer
  refine (if_neg hpointer).trans (if_pos ?_)
  by_contra hcompared
  exact h ⟨hnull, hslots, hpointer, hcompared⟩

theorem clientFinish_of_valid {state : State flow} (h : a.Valid target w flow)
    (hobject : w.heap (w.readPointer target a.input) = some (.client flow state)) :
    clientFinish target flow a engine fresh w =
      finishConsumed target flow a engine fresh state (a.consumed target w) := by
  rw [clientFinish, if_neg h.nonnull, if_neg h.slots]
  refine (if_neg h.handle).trans ((if_neg h.compared).trans ?_)
  simp only [World.writePointer_heap, hobject]
  rfl

/-- What comes of a consumed client state: a message in the output slot, or nothing. -/
theorem finishConsumed_cases {state : State flow} {response : Rust.Bytes} {w : World State}
    (hresponse : w.heap a.response = some (.authMessage response)) :
    (∃ message, finishConsumed target flow a engine fresh state w =
        (.ok, (w.boxIntoRaw fresh a.output (.authMessage message)).writePointer target a.output
          fresh)) ∨
      ∃ status, status ≠ .ok ∧ finishConsumed target flow a engine fresh state w = (status, w) := by
  have hpublic : ∀ identifier identifierLen error,
      parsePublicId w identifier identifierLen = .error error → error ≠ .ok := by
    intro identifier identifierLen error herror
    rw [parsePublicId] at herror
    split at herror
    · cases herror
      decide
    · cases herror
  rw [finishConsumed, hresponse]
  dsimp only
  split
  · next error herror => exact .inr ⟨error, hpublic _ _ _ herror, rfl⟩
  split
  · next error herror => exact .inr ⟨error, hpublic _ _ _ herror, rfl⟩
  split
  · next error _ => exact .inr ⟨mapAuthError error, mapAuthError_ne_ok error, rfl⟩
  · next message _ => exact .inl ⟨message, rfl⟩

theorem FinishArguments.Valid.apart (h : a.Valid target w flow) :
    ¬ Share (slotRange target a.input) (slotRange target a.output) :=
  not_share_of_not_overlap h.slots

/-- The response is not what is consumed. -/
theorem consumed_response {state : State flow} {response : Rust.Bytes}
    (hobject : w.heap (w.readPointer target a.input) = some (.client flow state))
    (hresponse : w.heap a.response = some (.authMessage response)) :
    (a.consumed target w).heap a.response = some (.authMessage response) := by
  have hne : a.response ≠ w.readPointer target a.input := by
    intro heq
    rw [heq, hobject] at hresponse
    cases hresponse
  rw [FinishArguments.consumed, World.boxFromRaw_heap, Function.update_of_ne hne]
  exact hresponse

/-- **A finish call keeps the ledger.** -/
theorem Ledgered.clientFinish (h : Ledgered target w live)
    (hpermitted : a.Permitted target w live flow fresh) :
    Kept target (clientFinish target flow a engine fresh w).2 := by
  by_cases hvalid : a.Valid target w flow
  swap
  -- Arguments that are refused are refused before a handle is touched.
  · rw [clientFinish_of_not_valid hvalid]
    exact h.kept
  -- The input is a live handle, and the output is no part of a live object.
  obtain ⟨hinput, hresponse, houtput⟩ := not_or.mp hvalid.nonnull |>.imp_right not_or.mp
  have hlive := (hpermitted.input.resolve_left hinput).resolve_left hvalid.handle
  have hclear := hpermitted.output.resolve_left houtput
  obtain ⟨object, hobject, hkind⟩ := h.object hlive
  -- Its kind was checked when the handle was made, so it is a state of this flow.
  obtain ⟨state, rfl⟩ : ∃ state : State flow, object = .client flow state := by
    cases object with
    | client flow' state =>
      cases hkind
      exact ⟨state, rfl⟩
    | _ => cases hkind
  obtain ⟨slot, hmessage⟩ := hpermitted.response.resolve_left hresponse
  obtain ⟨object, hmessageObject, hmessageKind⟩ := h.object hmessage
  obtain ⟨response, rfl⟩ : ∃ response, object = .authMessage response := by
    cases object with
    | authMessage response => exact ⟨response, rfl⟩
    | _ => cases hmessageKind
  -- The state is taken out whatever the engine answers.
  rw [clientFinish_of_valid hvalid hobject]
  have hconsumed : Ledgered target (a.consumed target w)
      (Function.update live (w.readPointer target a.input) none) :=
    (h.writePointer hclear).take hlive
  -- Only a success gives out a message, in a handle that is fresh.
  rcases finishConsumed_cases (consumed_response hobject hmessageObject) with
    ⟨message, heq⟩ | ⟨status, -, heq⟩
  · rw [heq]
    exact (hconsumed.give _ ⟨hpermitted.fresh.nonnull, hpermitted.fresh.fits,
      hpermitted.fresh.free⟩ (hclear.taken _)).kept
  · rw [heq]
    exact hconsumed.kept

end Finish

/-! ## Every call -/

/-- **What one call preserves.** -/
theorem Ledgered.exec (h : Ledgered target w live) {call : Call State}
    (hpermitted : call.Permitted target w live) : Kept target (call.exec target w).2 := by
  cases call with
  | sessionNewNumeric => exact h.sessionNew hpermitted.1 hpermitted.2
  | sessionNewAscii => exact h.sessionNew hpermitted.1 hpermitted.2
  | sessionNewHangul => exact h.sessionNew hpermitted.1 hpermitted.2
  | free kind handle => exact h.freeOf hpermitted
  | sessionPressKey => exact h.pressKey _ _ _ _ _
  | sessionBackspace => exact h.backspace _ _ _
  | sessionClear => exact h.clear _ _ _
  | sessionCancel => exact h.cancel _
  | sessionRefresh => exact h.refresh hpermitted.2
  | sessionSubmit => exact h.submit hpermitted.2.1 hpermitted.2.2
  | authMessageNew => exact h.messageNew hpermitted.1 hpermitted.2
  | authMessageSize => exact h.messageSize hpermitted.2
  | authMessageCopy => exact h.messageCopy hpermitted.2.1 hpermitted.2.2
  | clientLoginStart => exact h.clientStart hpermitted
  | clientRegistrationStart => exact h.clientStart hpermitted
  | clientLoginFinish => exact h.clientFinish hpermitted
  | clientRegistrationFinish => exact h.clientFinish hpermitted

variable (target) in
/-- The worlds that a caller comes to, from no handles at all, by permitted calls and by writes of
    its own to what owns none. -/
inductive Reaches : World State → Prop
  | start (memory : Memory) : Reaches ⟨memory, fun _ => none, []⟩
  | call {w : World State} {call : Call State} : Reaches w →
      call.Permitted target w w.owners → Reaches (call.exec target w).2
  | write {w : World State} {start : ℕ} {bytes : Rust.Bytes} : Reaches w →
      Clear target w.owners ⟨start, bytes.length⟩ → Reaches (w.writeBytes start bytes)

/-- Every world that is reached has a ledger. -/
theorem Reaches.ledgered {w : World State} (h : Reaches target w) : Ledgered target w w.owners := by
  have hkept : Kept target w := by
    induction h with
    | start memory =>
      refine ⟨Live.empty, rfl, fun _ => rfl, ?_, ?_, ?_⟩
      · intro handle kind slot hnone
        cases hnone
      · intro handle owner hnone
        cases hnone
      · intro handle kind slot handle' kind' slot' hnone
        cases hnone
    | call _ hpermitted ih =>
      obtain ⟨live, hlive⟩ := ih
      rw [hlive.owners_eq] at hpermitted
      exact hlive.exec hpermitted
    | write _ hclear ih =>
      obtain ⟨live, hlive⟩ := ih
      rw [hlive.owners_eq] at hclear
      exact (hlive.writeBytes hclear).kept
  obtain ⟨live, hlive⟩ := hkept
  rwa [hlive.owners_eq]

/-! ## The contracts -/

variable (target) in
/-- A slot owns a handle: it was given out there, and stands there. -/
def Owns (w : World State) (slot handle : ℕ) : Prop :=
  (∃ kind, w.owners handle = some (kind, slot)) ∧ w.readPointer target slot = handle

variable (target) in
/-- Single ownership. -/
structure OwnedOnce (w : World State) : Prop where
  /-- Every box is ended by the next act on its handle or is still live, and only live boxes end. -/
  disciplined : Disciplined w.acts w.owners
  /-- What is on the heap is owned by exactly one slot. -/
  owned : ∀ handle object, w.heap handle = some object → ∃! slot, Owns target w slot handle
  /-- What is owned is on the heap. -/
  live : ∀ slot handle, Owns target w slot handle → ∃ object, w.heap handle = some object
  /-- The slots of two handles share no byte. -/
  apart : ∀ slot handle slot' handle', Owns target w slot handle → Owns target w slot' handle' →
    handle ≠ handle' → ¬ Share (slotRange target slot) (slotRange target slot')

theorem Ledgered.ownedOnce {w : World State} (h : Ledgered target w w.owners) :
    OwnedOnce target w where
  disciplined := disciplined_of_run h.run_eq
  owned := by
    intro handle object hobject
    have hheap := h.heap handle
    rw [hobject] at hheap
    obtain ⟨⟨kind, slot⟩, howner, -⟩ := Option.map_eq_some_iff.mp hheap.symm
    refine ⟨slot, ⟨⟨kind, howner⟩, h.slot handle kind slot howner⟩, ?_⟩
    intro slot' ⟨⟨kind', howner'⟩, _⟩
    cases howner.symm.trans howner'
    rfl
  live := by
    intro slot handle ⟨⟨kind, howner⟩, _⟩
    obtain ⟨object, hobject, -⟩ := h.object howner
    exact ⟨object, hobject⟩
  apart := by
    intro slot handle slot' handle' ⟨⟨kind, howner⟩, _⟩ ⟨⟨kind', howner'⟩, _⟩ hne
    exact h.apart handle kind slot handle' kind' slot' howner howner' hne

variable (target) in
/-- What comes of a start call that passes its checks. -/
structure StartOutcome (flow : Flow) (a : StartArguments) (engine : Engine State)
    (freshState freshRequest : ℕ) (submission : Submission) (w : World State)
    (result : Result State) : Prop where
  /-- The caller's slot is null. -/
  cleared : result.2.readPointer target a.submission = 0
  /-- The submission is consumed, and the outputs are two new handles or null. -/
  outputs :
    (result.1 = .ok ∧ (∃ state request, engine.start flow submission = .ok (state, request) ∧
        result.2.heap freshState = some (.client flow state) ∧
        result.2.heap freshRequest = some (.authMessage request)) ∧
      result.2.readPointer target a.outputState = freshState ∧
      result.2.readPointer target a.outputRequest = freshRequest ∧
      result.2.acts = w.acts ++ [.free (w.readPointer target a.submission),
        .allocate freshState (.client flow, a.outputState),
        .allocate freshRequest (.authMessage, a.outputRequest)]) ∨
    result.1 ≠ .ok ∧ (∃ error, engine.start flow submission = .error error) ∧
      result.2.readPointer target a.outputState = 0 ∧
      result.2.readPointer target a.outputRequest = 0 ∧
      result.2.acts = w.acts ++ [.free (w.readPointer target a.submission)]

theorem readPointer_cleared {w : World State} {slot : ℕ} :
    (w.writePointer target slot 0).readPointer target slot = 0 :=
  readPointer_writePointer (Nat.two_pow_pos _)

theorem startOutcome {flow : Flow} {a : StartArguments} {engine : Engine State}
    {freshState freshRequest : ℕ} {submission : Submission} {w : World State}
    (h : a.Valid target w)
    (hobject : w.heap (w.readPointer target a.submission) = some (.submission submission))
    (hfresh : FreshPair target w (w.readPointer target a.submission) freshState freshRequest) :
    StartOutcome target flow a engine freshState freshRequest submission w
      (clientStart target flow a engine freshState freshRequest w) := by
  -- in the world behind the consumption all three slots are null
  have hsubmission : (a.consumed target w).readPointer target a.submission = 0 :=
    readPointer_cleared
  have hrequest : (a.consumed target w).readPointer target a.outputRequest = 0 := by
    have hapart : ¬ Share (slotRange target a.outputRequest) (slotRange target a.submission) :=
      fun hshare => h.request_apart hshare.symm
    exact (readPointer_writePointer_of_apart hapart).trans readPointer_cleared
  have hstate : (a.consumed target w).readPointer target a.outputState = 0 := by
    have hapart : ¬ Share (slotRange target a.outputState) (slotRange target a.submission) :=
      fun hshare => h.state_apart hshare.symm
    exact (readPointer_writePointer_of_apart hapart).trans
      ((readPointer_writePointer_of_apart h.outputs_apart).trans readPointer_cleared)
  rw [clientStart_of_valid h hobject]
  split
  · next error hstart =>
    exact ⟨hsubmission, .inr ⟨mapAuthError_ne_ok error, ⟨error, hstart⟩, hstate, hrequest, rfl⟩⟩
  · next state request hstart =>
    refine ⟨?_, .inl ⟨rfl, ⟨state, request, hstart, ?_, ?_⟩, ?_, ?_, ?_⟩⟩
    · exact (readPointer_writePointer_of_apart h.request_apart).trans
        ((readPointer_writePointer_of_apart h.state_apart).trans hsubmission)
    · rw [StartArguments.given, World.writePointer_heap, World.writePointer_heap,
        World.boxIntoRaw_heap, Function.update_of_ne hfresh.ne, World.boxIntoRaw_heap,
        Function.update_self]
    · rw [StartArguments.given, World.writePointer_heap, World.writePointer_heap,
        World.boxIntoRaw_heap, Function.update_self]
    · exact (readPointer_writePointer_of_apart h.outputs_apart).trans
        (readPointer_writePointer hfresh.state.fits)
    · exact readPointer_writePointer hfresh.request.fits
    · rw [StartArguments.given, World.writePointer_acts, World.writePointer_acts,
        World.boxIntoRaw_acts, World.boxIntoRaw_acts, StartArguments.consumed,
        World.boxFromRaw_acts, World.writePointer_acts, World.writePointer_acts,
        World.writePointer_acts]
      simp only [List.append_assoc, List.cons_append, List.nil_append, Object.kind]

variable (target) in
/-- What comes of a finish call that passes its checks. -/
structure FinishOutcome (a : FinishArguments) (fresh : ℕ) (w : World State)
    (result : Result State) : Prop where
  /-- The caller's slot is null. -/
  cleared : result.2.readPointer target a.input = 0
  /-- The client state is consumed, and the output is a new handle or null. -/
  output :
    (result.1 = .ok ∧ (∃ message, result.2.heap fresh = some (.authMessage message)) ∧
      result.2.readPointer target a.output = fresh ∧
      result.2.acts = w.acts ++ [.free (w.readPointer target a.input),
        .allocate fresh (.authMessage, a.output)]) ∨
    result.1 ≠ .ok ∧ result.2.readPointer target a.output = 0 ∧
      result.2.acts = w.acts ++ [.free (w.readPointer target a.input)]

theorem finishOutcome {flow : Flow} {a : FinishArguments} {engine : Engine State} {fresh : ℕ}
    {state : State flow} {response : Rust.Bytes} {w : World State} (h : a.Valid target w flow)
    (hobject : w.heap (w.readPointer target a.input) = some (.client flow state))
    (hresponse : w.heap a.response = some (.authMessage response))
    (hfresh : Fresh target (w.boxFromRaw (w.readPointer target a.input)) fresh) :
    FinishOutcome target a fresh w (clientFinish target flow a engine fresh w) := by
  have hinput : (a.consumed target w).readPointer target a.input = 0 := readPointer_cleared
  have houtput : (a.consumed target w).readPointer target a.output = 0 := by
    have hapart : ¬ Share (slotRange target a.output) (slotRange target a.input) :=
      fun hshare => h.apart hshare.symm
    exact (readPointer_writePointer_of_apart hapart).trans readPointer_cleared
  rw [clientFinish_of_valid h hobject]
  rcases finishConsumed_cases (consumed_response hobject hresponse) with
    ⟨message, heq⟩ | ⟨status, hstatus, heq⟩
  · rw [heq]
    refine ⟨?_, .inl ⟨rfl, ⟨message, ?_⟩, readPointer_writePointer hfresh.fits, ?_⟩⟩
    · exact (readPointer_writePointer_of_apart h.apart).trans hinput
    · rw [World.writePointer_heap, World.boxIntoRaw_heap, Function.update_self]
    · rw [World.writePointer_acts, World.boxIntoRaw_acts, FinishArguments.consumed,
        World.boxFromRaw_acts, World.writePointer_acts, World.writePointer_acts]
      simp only [List.append_assoc, List.cons_append, List.nil_append, Object.kind]
  · rw [heq]
    exact ⟨hinput, .inr ⟨hstatus, houtput, rfl⟩⟩

/-- **Ownership of handles.** Over every sequence of permitted calls each live handle is owned by
    exactly one slot, none is freed twice and none is lost. A start or finish call that its checks
    refuse changes nothing; one that they pass consumes the input handle and nulls its slot, and
    its outputs are new handles exactly when it returns `Ok`. -/
theorem handle_ownership (target : Target) :
    (∀ w : World State, Reaches target w → OwnedOnce target w) ∧
    (∀ (flow : Flow) (a : StartArguments) (engine : Engine State) (freshState freshRequest : ℕ)
        (w : World State),
      (¬ a.Valid target w →
        clientStart target flow a engine freshState freshRequest w = (.invalidArgument, w)) ∧
      ∀ submission, a.Valid target w →
        w.heap (w.readPointer target a.submission) = some (.submission submission) →
        FreshPair target w (w.readPointer target a.submission) freshState freshRequest →
        StartOutcome target flow a engine freshState freshRequest submission w
          (clientStart target flow a engine freshState freshRequest w)) ∧
    ∀ (flow : Flow) (a : FinishArguments) (engine : Engine State) (fresh : ℕ) (w : World State),
      (¬ a.Valid target w flow →
        clientFinish target flow a engine fresh w = (.invalidArgument, w)) ∧
      ∀ (state : State flow) response, a.Valid target w flow →
        w.heap (w.readPointer target a.input) = some (.client flow state) →
        w.heap a.response = some (.authMessage response) →
        Fresh target (w.boxFromRaw (w.readPointer target a.input)) fresh →
        FinishOutcome target a fresh w (clientFinish target flow a engine fresh w) := by
  refine ⟨fun w h => h.ledgered.ownedOnce, fun flow a engine freshState freshRequest w => ⟨?_, ?_⟩,
    fun flow a engine fresh w => ⟨?_, ?_⟩⟩
  · exact clientStart_of_not_valid
  · exact fun submission hvalid hobject hfresh => startOutcome hvalid hobject hfresh
  · exact clientFinish_of_not_valid
  · exact fun state response hvalid hobject hresponse hfresh =>
      finishOutcome hvalid hobject hresponse hfresh

/-! ## A login with one key -/

section OneLogin

/-- An engine that keeps the password as its state, and finishes with it and the response. -/
def echoEngine : Engine fun _ => Rust.Bytes :=
  ⟨fun _ submission => .ok (submission.buffer.bytes, [1]),
    fun _ state response _ _ => .ok (state ++ response)⟩

/-- The identifier of a key is in memory at `0x6000`, a response at `0x6010`. -/
def keyWorld : World fun _ => Rust.Bytes :=
  ⟨write (write (fun _ => 0) 0x6000 (Rust.asBytes "digit-7")) 0x6010 [2], fun _ => none, []⟩

def createNumeric : Call fun _ => Rust.Bytes := .sessionNewNumeric 6 1000 0 0x1000 0x5000

def pressSeven : Call fun _ => Rust.Bytes := .sessionPressKey 0x1000 0x6000 7 0 0

def submitSeven : Call fun _ => Rust.Bytes := .sessionSubmit 0x1000 0x5010 0 0x2000

def startArguments : StartArguments := ⟨0x5010, 0x5020, 0x5030⟩

def startLogin : Call fun _ => Rust.Bytes :=
  .clientLoginStart startArguments echoEngine 0x3000 0x4000

def receiveResponse : Call fun _ => Rust.Bytes := .authMessageNew 0x6010 1 0x5040 0x7000

def finishArguments : FinishArguments := ⟨0x5020, 0x7000, 0x6000, 7, 0x6000, 7, 0x5050⟩

def finishLogin : Call fun _ => Rust.Bytes := .clientLoginFinish finishArguments echoEngine 0x8000

/-- A session at `0x1000`, with its handle in the slot at `0x5000`. -/
def createdWorld : World fun _ => Rust.Bytes := (createNumeric.exec wideTarget keyWorld).2

def pressedWorld : World fun _ => Rust.Bytes := (pressSeven.exec wideTarget createdWorld).2

/-- A submission at `0x2000`, with its handle in the slot at `0x5010`. -/
def sealedWorld : World fun _ => Rust.Bytes := (submitSeven.exec wideTarget pressedWorld).2

/-- A client state at `0x3000` and a request at `0x4000`, in the slots at `0x5020` and `0x5030`. -/
def startedWorld : World fun _ => Rust.Bytes := (startLogin.exec wideTarget sealedWorld).2

/-- A response at `0x7000`, in the slot at `0x5040`. -/
def answeredWorld : World fun _ => Rust.Bytes := (receiveResponse.exec wideTarget startedWorld).2

def finishedWorld : World fun _ => Rust.Bytes := (finishLogin.exec wideTarget answeredWorld).2

theorem clear_pressedWorld {slot : ℕ}
    (h : ¬ Share (slotRange wideTarget 0x5000) (slotRange wideTarget slot)) :
    Clear wideTarget pressedWorld.owners (slotRange wideTarget slot) := by
  have howners : pressedWorld.owners = Live.single 0x1000 (.session, 0x5000) := by
    with_unfolding_all rfl
  have hempty : Clear wideTarget Live.empty (slotRange wideTarget slot) :=
    fun _ _ _ hnone => nomatch hnone
  rw [howners]
  exact hempty.given h

theorem clear_sealedWorld {slot : ℕ}
    (h : ¬ Share (slotRange wideTarget 0x5000) (slotRange wideTarget slot))
    (h' : ¬ Share (slotRange wideTarget 0x5010) (slotRange wideTarget slot)) :
    Clear wideTarget sealedWorld.owners (slotRange wideTarget slot) := by
  have howners : sealedWorld.owners =
      Function.update pressedWorld.owners 0x2000 (some (.submission, 0x5010)) := by
    with_unfolding_all rfl
  rw [howners]
  exact (clear_pressedWorld h).given h'

theorem clear_startedWorld {slot : ℕ}
    (h : ∀ taken ∈ [0x5000, 0x5010, 0x5020, 0x5030],
      ¬ Share (slotRange wideTarget taken) (slotRange wideTarget slot)) :
    Clear wideTarget startedWorld.owners (slotRange wideTarget slot) := by
  have howners : startedWorld.owners =
      Function.update (Function.update (Function.update sealedWorld.owners 0x2000 none)
        0x3000 (some (.client .login, 0x5020))) 0x4000 (some (.authMessage, 0x5030)) := by
    with_unfolding_all rfl
  simp only [List.forall_mem_cons] at h
  rw [howners]
  exact (((clear_sealedWorld h.1 h.2.1).taken _).given h.2.2.1).given h.2.2.2.1

theorem createNumeric_permitted : createNumeric.Permitted wideTarget keyWorld keyWorld.owners :=
  ⟨⟨by decide, by decide, rfl⟩, .inr fun _ _ _ hnone => nomatch hnone⟩

theorem pressSeven_permitted :
    pressSeven.Permitted wideTarget createdWorld createdWorld.owners :=
  .inr ⟨0x5000, by with_unfolding_all rfl⟩

theorem submitSeven_permitted :
    submitSeven.Permitted wideTarget pressedWorld pressedWorld.owners :=
  ⟨.inr ⟨0x5000, by with_unfolding_all rfl⟩, .inr (clear_pressedWorld (by decide)), by decide,
    by decide, by with_unfolding_all rfl⟩

theorem startLogin_permitted : startLogin.Permitted wideTarget sealedWorld sealedWorld.owners :=
  ⟨.inr (.inr (by with_unfolding_all rfl)), .inr (clear_sealedWorld (by decide) (by decide)),
    .inr (clear_sealedWorld (by decide) (by decide)),
    ⟨by decide, by decide, by with_unfolding_all rfl⟩,
    ⟨by decide, by decide, by with_unfolding_all rfl⟩, by decide⟩

theorem receiveResponse_permitted :
    receiveResponse.Permitted wideTarget startedWorld startedWorld.owners :=
  ⟨.inr (clear_startedWorld (by decide)), by decide, by decide, by with_unfolding_all rfl⟩

theorem finishLogin_permitted :
    finishLogin.Permitted wideTarget answeredWorld answeredWorld.owners := by
  have howners : answeredWorld.owners =
      Function.update startedWorld.owners 0x7000 (some (.authMessage, 0x5040)) := by
    with_unfolding_all rfl
  refine ⟨.inr (.inr (by with_unfolding_all rfl)), .inr ⟨0x5040, by with_unfolding_all rfl⟩,
    .inr ?_, by decide, by decide, by with_unfolding_all rfl⟩
  rw [howners]
  exact (clear_startedWorld (by decide)).given (by decide)

/-- A key is pressed, the session is submitted, and a login is started and finished. -/
theorem handle_ownership_one_login :
    OwnedOnce wideTarget finishedWorld ∧
    (∃ submission : Submission, submission.buffer.bytes = [0x37] ∧
      StartOutcome wideTarget .login startArguments echoEngine 0x3000 0x4000 submission sealedWorld
        (startLogin.exec wideTarget sealedWorld)) ∧
    FinishOutcome wideTarget finishArguments 0x8000 answeredWorld
      (finishLogin.exec wideTarget answeredWorld) := by
  -- The world of the login, call by call.
  have hstart : Reaches wideTarget keyWorld := .start _
  have hcreated : Reaches wideTarget createdWorld := hstart.call createNumeric_permitted
  have hpressed : Reaches wideTarget pressedWorld := hcreated.call pressSeven_permitted
  have hsealed : Reaches wideTarget sealedWorld := hpressed.call submitSeven_permitted
  have hstarted : Reaches wideTarget startedWorld := hsealed.call startLogin_permitted
  have hanswered : Reaches wideTarget answeredWorld := hstarted.call receiveResponse_permitted
  refine ⟨(handle_ownership wideTarget).1 _ (hanswered.call finishLogin_permitted), ?_, ?_⟩
  · obtain ⟨submission, hobject, hbytes⟩ : ∃ submission : Submission,
        sealedWorld.heap (sealedWorld.readPointer wideTarget startArguments.submission) =
          some (.submission submission) ∧ submission.buffer.bytes = [0x37] :=
      ⟨_, by with_unfolding_all rfl, by with_unfolding_all rfl⟩
    -- The pointers of the arguments are aligned and apart.
    have hvalid : startArguments.Valid wideTarget sealedWorld := by
      have hpointer : sealedWorld.readPointer wideTarget startArguments.submission = 0x2000 := by
        with_unfolding_all rfl
      refine ⟨by decide, by decide, ?_, ?_⟩
      · rw [hpointer]
        decide
      · rw [hpointer]
        decide
    exact ⟨submission, hbytes, ((handle_ownership wideTarget).2.1 _ _ echoEngine _ _ _).2 submission
      hvalid hobject startLogin_permitted.fresh⟩
  · have hpointer : answeredWorld.readPointer wideTarget finishArguments.input = 0x3000 := by
      with_unfolding_all rfl
    have hvalid : finishArguments.Valid wideTarget answeredWorld .login := by
      refine ⟨by decide, by decide, ?_, ?_⟩
      · rw [hpointer]
        decide
      · rw [hpointer]
        decide
    have hstate : answeredWorld.heap (answeredWorld.readPointer wideTarget finishArguments.input) =
        some (.client .login [0x37]) := by with_unfolding_all rfl
    have hresponse : answeredWorld.heap finishArguments.response = some (.authMessage [2]) := by
      with_unfolding_all rfl
    exact ((handle_ownership wideTarget).2.2 _ _ echoEngine _ _).2 _ _ hvalid hstate hresponse
      finishLogin_permitted.fresh

end OneLogin

end SecureKeypad.Ffi
