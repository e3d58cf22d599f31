import SecureKeypad.Core.SubmissionText
import SecureKeypad.Native.AndroidSettled

/-!
# From the Core's Masked State to the Views

What a session shows crosses two boundaries before it is drawn. The C ABI narrows the length to 32
bits and writes it out with the code of the display state. On Android the JNI function packs both
into one `jlong`, in which the minimal value stands for a failure, and the view takes them apart
again; on iOS the view reads the two fields. Both views draw nothing but lengths up to 4096 and the
four known states, and release the session on anything else.

A session of any policy passes all of these checks at any time. What it then submits is exactly
what it showed the length of.

## Main results

- `writeMaskedState_eq`: what the C ABI writes
- `decodeMaskedState_packed`: the Android view reads what was packed
- `submission_content`: the whole way, over every sequence of calls
-/

namespace SecureKeypad.Native

open Rust
open SecureKeypad.Core (DisplayState MaskedState SecureSession TimedOp sessionAfter
  render textOf)

/-! ## The C ABI -/

/-- `SecureKeypadError`. -/
inductive SecureKeypadError where
  | ok
  | invalidArgument
  | invalidUtf8
  | invalidKey
  | limitReached
  | empty
  | inactive
  | internal
  | messageTooLarge
  | bufferTooSmall
  | authProtocol
  | authInvalidLogin
  | panic
deriving DecidableEq, Repr

/-- `SecureKeypadMaskedState`, with the display state by its code. -/
structure SecureKeypadMaskedState where
  length : BitVec 32
  displayState : BitVec 32
deriving DecidableEq

/-- The code of a `SecureKeypadDisplayState`. -/
def displayStateCode : DisplayState → BitVec 32
  | .empty => 0
  | .masked => 1
  | .submitted => 2
  | .cancelled => 3

/-- `write_masked_state`: the status, and what is written to the output. -/
def writeMaskedState (state : MaskedState) : SecureKeypadError × Option SecureKeypadMaskedState :=
  if state.length < 2 ^ 32 then
    (.ok, some ⟨BitVec.ofNat 32 state.length, displayStateCode state.displayState⟩)
  else (.internal, none)

/-- `nativeSessionRefresh` of the JNI library: an error is the minimal value, a state its length in
    the upper half over the code of its display state. -/
def nativeSessionRefresh (refreshed : SecureKeypadError × Option SecureKeypadMaskedState) :
    BitVec 64 :=
  match refreshed with
  | (.ok, written) =>
    -- the output is zero before the call
    let state := written.getD ⟨0, 0⟩
    (state.length.setWidth 64 <<< 32) ||| state.displayState.setWidth 64
  | _ => nativeRefreshError

/-! ## The checks of the views -/

/-- The Android view draws what it is given. -/
def AndroidShows (packed : BitVec 64) : Prop :=
  ∃ length displayState, decodeMaskedState packed = some (length, displayState) ∧
    0 ≤ length ∧ length ≤ maxRenderedLength ∧ isValidDisplayState displayState = true

/-- `secureKeypadIsValidRenderedLength` and `secureKeypadIsValidDisplayState` of the iOS view. -/
def IosShows (state : SecureKeypadMaskedState) : Prop :=
  state.length.toNat ≤ 4096 ∧ state.displayState.toNat ≤ 3

theorem displayStateCode_toNat_le (state : DisplayState) : (displayStateCode state).toNat ≤ 3 := by
  cases state <;> decide

theorem writeMaskedState_eq {state : MaskedState} (h : state.length ≤ 4096) :
    ∃ written, writeMaskedState state = (.ok, some written) ∧
      written.length.toNat = state.length ∧ IosShows written := by
  have hlt : state.length < 2 ^ 32 := by omega
  have hlength : (BitVec.ofNat 32 state.length).toNat = state.length := by
    rw [BitVec.toNat_ofNat, Nat.mod_eq_of_lt hlt]
  exact ⟨_, if_pos hlt, hlength, hlength.le.trans h, displayStateCode_toNat_le _⟩

/-- **The packed state can be taken apart**, and is never the value of a failure. -/
theorem decodeMaskedState_packed {state : SecureKeypadMaskedState} (h : IosShows state) :
    decodeMaskedState (nativeSessionRefresh (.ok, some state)) =
      some ((state.length.toNat : ℤ), (state.displayState.toNat : ℤ)) := by
  obtain ⟨hlength, hdisplay⟩ := h
  have hpacked : (nativeSessionRefresh (.ok, some state)).toNat =
      2 ^ 32 * state.length.toNat + state.displayState.toNat := by
    show ((state.length.setWidth 64 <<< 32) ||| state.displayState.setWidth 64).toNat = _
    rw [BitVec.toNat_or, BitVec.toNat_shiftLeft, BitVec.toNat_setWidth, BitVec.toNat_setWidth,
      Nat.shiftLeft_eq, Nat.two_pow_add_eq_or_of_lt (by omega)]
    congr 1
    · omega
    · omega
  have hne : nativeSessionRefresh (.ok, some state) ≠ nativeRefreshError := by
    intro heq
    rw [heq] at hpacked
    have hmin : nativeRefreshError.toNat = 2 ^ 63 := by decide
    omega
  have hhigh : ((nativeSessionRefresh (.ok, some state) >>> 32).setWidth 32) = state.length := by
    apply BitVec.eq_of_toNat_eq
    rw [BitVec.toNat_setWidth, BitVec.toNat_ushiftRight, Nat.shiftRight_eq_div_pow, hpacked]
    omega
  have hlow : (nativeSessionRefresh (.ok, some state)).setWidth 32 = state.displayState := by
    apply BitVec.eq_of_toNat_eq
    rw [BitVec.toNat_setWidth, hpacked]
    omega
  rw [decodeMaskedState, if_neg hne, hhigh, hlow, BitVec.toInt_eq_toNat_of_lt (by omega),
    BitVec.toInt_eq_toNat_of_lt (by omega)]

theorem androidShows_packed {state : SecureKeypadMaskedState} (h : IosShows state) :
    AndroidShows (nativeSessionRefresh (.ok, some state)) := by
  refine ⟨_, _, decodeMaskedState_packed h, Int.natCast_nonneg _, ?_, ?_⟩
  · exact Int.ofNat_le.mpr h.1
  · have hdisplay := h.2
    simp only [isValidDisplayState, Bool.and_eq_true, decide_eq_true_eq]
    omega

/-- The check of the view's model is that of the packed state. -/
theorem showsState_iff (reply : Android.Reply) : reply.ShowsState ↔ AndroidShows reply.packed := Iff.rfl

/-! ## The whole way -/

/-- The state of a session passes the C ABI and the checks of both views. -/
def PassesViews (state : MaskedState) : Prop :=
  ∃ written, writeMaskedState state = (.ok, some written) ∧
    written.length.toNat = state.length ∧ IosShows written ∧
    AndroidShows (nativeSessionRefresh (writeMaskedState state))

theorem passesViews_of_length {state : MaskedState} (h : state.length ≤ 4096) :
    PassesViews state := by
  obtain ⟨written, hwritten, hlength, hios⟩ := writeMaskedState_eq h
  refine ⟨written, hwritten, hlength, hios, ?_⟩
  rw [hwritten]
  exact androidShows_packed hios

/-- Between 0 and 4096 characters are shown, and one at least of a session that is not empty. -/
theorem maskedState_length_bounds {policy : Core.InputPolicy} (hpolicy : policy.IsConstructed)
    {session : SecureSession} (hproduced : session.Produced policy)
    (hfits : ∀ input, session.input = some input → input.Fits policy) :
    session.maskedState.length ≤ 4096 ∧ ∀ input, session.input = some input →
      input.isEmpty = false → 1 ≤ session.maskedState.length := by
  cases hinput : session.input with
  | none =>
    refine ⟨by simp [SecureSession.maskedState, hinput], ?_⟩
    intro input h
    cases h
  | some input =>
    obtain ⟨-, htokens⟩ := hproduced input hinput
    obtain ⟨hle, hpos⟩ := Core.render_length_bounds htokens
    rw [Core.SecretTokenBuffer.length_asSlice] at hle
    have hlen := (hfits input hinput).len_le.trans hpolicy.maxTokens_bounds.2
    rw [Core.SecureSession.maskedState_length hinput, Core.length_textOf]
    refine ⟨hle.trans hlen, ?_⟩
    intro input' h hne
    cases h
    refine hpos fun hnil => ?_
    have hzero := congrArg List.length hnil
    rw [Core.SecretTokenBuffer.length_asSlice] at hzero
    simp only [Core.SecretInput.isEmpty, Core.SecretTokenBuffer.isEmpty,
      decide_eq_false_iff_not] at hne
    exact hne hzero

/-- **Submission content.** For every policy, timeout and sequence of calls: at any time, whatever
    a refresh reads passes the C ABI and the checks of both views. And when the session holds
    input that has not expired, `submit` seals exactly the UTF-8 encoding of the rendered tokens:
    all of these are scalar values and stand in the text, decoding gives the text back, it has as
    many characters as the state showed, between 1 and 4096, and its bytes fit the capacity
    provisioned for them. -/
theorem submission_content (policy : Core.InputPolicy) (hpolicy : policy.IsConstructed)
    (timeout start : ℕ) (calls : List TimedOp) :
    (∀ j now, PassesViews (sessionAfter policy timeout start calls j).maskedState ∧
      PassesViews ((sessionAfter policy timeout start calls j).refresh now).1) ∧
    ∀ j now input, (sessionAfter policy timeout start calls j).input = some input →
      input.isEmpty = false → (sessionAfter policy timeout start calls j).isExpired now = false →
      ∃ buffer text,
        ((sessionAfter policy timeout start calls j).submit now).1 = .sealed (.ok ⟨buffer⟩) ∧
        (∀ codePoint ∈ render input.tokens.asSlice, codePoint.isValidChar) ∧
        text.toList.map Char.toNat = render input.tokens.asSlice ∧
        buffer.bytes = asBytes text ∧
        String.fromUTF8? ⟨buffer.bytes.toArray⟩ = some text ∧
        text.length = (sessionAfter policy timeout start calls j).maskedState.length ∧
        1 ≤ text.length ∧ text.length ≤ 4096 ∧
        buffer.bytes.length ≤ buffer.capacity := by
  have hproduced := Core.sessionAfter_produced policy timeout start calls
  have hinvariant := Core.sessionAfter_invariant policy timeout start calls
  have hbounds := fun j => maskedState_length_bounds hpolicy (hproduced j) (hinvariant j).fits
  refine ⟨?_, ?_⟩
  · intro j now
    refine ⟨passesViews_of_length (hbounds j).1, passesViews_of_length ?_⟩
    -- a refresh shows the session as it is, or closed
    rcases Core.expireIfNeeded_cases (sessionAfter policy timeout start calls j) now with
      ⟨-, hstep⟩ | ⟨-, hstep⟩
    · rw [SecureSession.refresh, hstep]
      exact Nat.zero_le _
    · rw [SecureSession.refresh, hstep]
      exact (hbounds j).1
  · intro j now input hinput hne hnow
    obtain ⟨hmax, hmin⟩ := hbounds j
    obtain ⟨-, htokens⟩ := hproduced j input hinput
    have hvalid := Core.render_isValidChar htokens
    have hlen := ((hinvariant j).fits input hinput).len_le.trans hpolicy.maxTokens_bounds.2
    have hshown := Core.SecureSession.maskedState_length hinput
    refine ⟨_, textOf (render input.tokens.asSlice),
      Core.SecureSession.submit_text (hproduced j) hinput hne hlen hnow, hvalid,
      Core.map_toNat_textOf hvalid, rfl, Core.fromUTF8?_asBytes _, hshown.symm, ?_, ?_, ?_⟩
    · rw [← hshown]
      exact hmin input hinput hne
    · rw [← hshown]
      exact hmax
    · exact Core.length_asBytes_textOf_le _

/-- A syllable of three keys and a digit pressed in vain: one character is shown and sealed. -/
theorem submission_content_syllable :
    let calls : List TimedOp := [⟨.pressKey ⟨"jamo-hieuh"⟩, 1, 0⟩, ⟨.pressKey ⟨"digit-1"⟩, 1, 0⟩,
      ⟨.pressKey ⟨"vowel-a"⟩, 1, 0⟩, ⟨.pressKey ⟨"tail-nieun"⟩, 1, 0⟩]
    let session := sessionAfter (.hangul 8) 60 0 calls 4
    PassesViews session.maskedState ∧
      ∃ buffer text, (session.submit 10).1 = .sealed (.ok ⟨buffer⟩) ∧
        String.fromUTF8? ⟨buffer.bytes.toArray⟩ = some text ∧
        text.toList.map Char.toNat = [0xD55C] := by
  intro calls session
  obtain ⟨hpasses, hsubmit⟩ :=
    submission_content (.hangul 8) ⟨8, .inr (.inl rfl)⟩ 60 0 calls
  obtain ⟨buffer, text, hsealed, -, htext, -, hdecode, -⟩ :=
    hsubmit 4 10 _ rfl (by decide +kernel) (by decide +kernel)
  refine ⟨(hpasses 4 10).1, buffer, text, hsealed, hdecode, htext.trans ?_⟩
  decide +kernel

end SecureKeypad.Native
