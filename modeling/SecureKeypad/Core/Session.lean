import SecureKeypad.Core.Composer
import SecureKeypad.Library.Machine

/-!
# Secure Sessions (`secure-core`)

Embeds `SecureSession` with everything it owns: the fixed token storage that is zeroized in
place, the secret input with its policy, the sealed submission, and the session state machine
with its implicit expiry.

A call reads the clock at most twice: once in `expire_if_needed`, once when it succeeds. A timed
call therefore carries the time that passes before each of the two readings, which makes the
clock nondecreasing by construction. An assertion or an index out of range panics; a panicking
call answers `panicked`.

## Main results

- `SecureSession.apply_effect`: everything one call can do to a session
- `session_run`: the guarantees of a session over every sequence of calls
-/

namespace SecureKeypad.Core

open Rust

/-! ## Buffers -/

/-- `SecretBuffer`: the sealed bytes and the capacity provisioned for them. -/
structure SecretBuffer where
  bytes : Bytes
  capacity : ℕ
deriving DecidableEq

/-- `SecretBuffer::with_capacity`. -/
def SecretBuffer.withCapacity (capacity : ℕ) : SecretBuffer := ⟨[], capacity⟩

/-- `SecretBuffer::extend_from_slice`; `none` where the capacity assertion fails. -/
def SecretBuffer.extendFromSlice (buffer : SecretBuffer) (bytes : Bytes) : Option SecretBuffer :=
  if buffer.bytes.length + bytes.length ≤ buffer.capacity then
    some { buffer with bytes := buffer.bytes ++ bytes }
  else none

/-- `SecretTokenBuffer`: fixed storage, of which the first `len` slots are in use. -/
structure SecretTokenBuffer where
  tokens : List UInt32
  len : ℕ
  len_le : len ≤ tokens.length
deriving DecidableEq

namespace SecretTokenBuffer

/-- `SecretTokenBuffer::with_capacity`. -/
def withCapacity (capacity : ℕ) : SecretTokenBuffer := ⟨List.replicate capacity 0, 0, Nat.zero_le _⟩

/-- `SecretTokenBuffer::push`; `none` where the index is out of range. -/
def push (buffer : SecretTokenBuffer) (token : UInt32) : Option SecretTokenBuffer :=
  if h : buffer.len < buffer.tokens.length then
    some ⟨buffer.tokens.set buffer.len token, buffer.len + 1, by rwa [List.length_set]⟩
  else none

/-- `SecretTokenBuffer::pop`. -/
def pop (buffer : SecretTokenBuffer) : SecretTokenBuffer :=
  if buffer.len = 0 then buffer
  else
    ⟨buffer.tokens.set (buffer.len - 1) 0, buffer.len - 1,
      by rw [List.length_set]; exact (Nat.sub_le _ _).trans buffer.len_le⟩

/-- `SecretTokenBuffer::is_empty`. -/
def isEmpty (buffer : SecretTokenBuffer) : Bool := buffer.len = 0

/-- `SecretTokenBuffer::as_slice`. -/
def asSlice (buffer : SecretTokenBuffer) : List UInt32 := buffer.tokens.take buffer.len

/-- `SecretTokenBuffer::clear`. -/
def clear (buffer : SecretTokenBuffer) : SecretTokenBuffer :=
  ⟨List.replicate buffer.len 0 ++ buffer.tokens.drop buffer.len, 0, Nat.zero_le _⟩

/-- Every slot that is not in use is zero. -/
def RestZero (buffer : SecretTokenBuffer) : Prop :=
  ∀ i token, buffer.len ≤ i → buffer.tokens[i]? = some token → token = 0

theorem withCapacity_restZero (capacity : ℕ) : (withCapacity capacity).RestZero := by
  intro i token _ hget
  exact List.eq_of_mem_replicate (List.mem_of_getElem? hget)

theorem push_eq_some {buffer buffer' : SecretTokenBuffer} {token : UInt32}
    (h : buffer.push token = some buffer') :
    buffer'.tokens = buffer.tokens.set buffer.len token ∧ buffer'.len = buffer.len + 1 := by
  unfold push at h
  split at h
  · cases h
    exact ⟨rfl, rfl⟩
  · cases h

theorem push_restZero {buffer buffer' : SecretTokenBuffer} {token : UInt32}
    (h : buffer.push token = some buffer') (hzero : buffer.RestZero) : buffer'.RestZero := by
  obtain ⟨htokens, hlen⟩ := push_eq_some h
  intro i t hi hget
  rw [htokens, List.getElem?_set_ne (by omega)] at hget
  exact hzero i t (by omega) hget

theorem pop_restZero {buffer : SecretTokenBuffer} (hzero : buffer.RestZero) :
    buffer.pop.RestZero := by
  unfold pop
  split
  · exact hzero
  · intro i t hi hget
    simp only at hi hget
    by_cases hlast : i = buffer.len - 1
    · -- The slot just vacated.
      subst hlast
      rw [List.getElem?_set_self (by have := buffer.len_le; omega), Option.some.injEq] at hget
      exact hget.symm
    · rw [List.getElem?_set_ne (by omega)] at hget
      exact hzero i t (by omega) hget

theorem clear_restZero {buffer : SecretTokenBuffer} (hzero : buffer.RestZero) :
    buffer.clear.RestZero := by
  intro i t _ hget
  simp only [clear] at hget
  by_cases hi : i < buffer.len
  · rw [List.getElem?_append_left (by rwa [List.length_replicate])] at hget
    exact List.eq_of_mem_replicate (List.mem_of_getElem? hget)
  · rw [List.getElem?_append_right (by rw [List.length_replicate]; omega), List.length_replicate,
      List.getElem?_drop] at hget
    exact hzero _ t (by omega) hget

theorem pop_length_tokens (buffer : SecretTokenBuffer) :
    buffer.pop.tokens.length = buffer.tokens.length := by
  unfold pop
  split
  · rfl
  · exact List.length_set

theorem pop_len (buffer : SecretTokenBuffer) : buffer.pop.len = buffer.len - 1 := by
  unfold pop
  split
  · next h => rw [h]
  · rfl

theorem clear_length_tokens (buffer : SecretTokenBuffer) :
    buffer.clear.tokens.length = buffer.tokens.length := by
  have := buffer.len_le
  simp only [clear, List.length_append, List.length_replicate, List.length_drop]
  omega

end SecretTokenBuffer

/-! ## The secret input -/

/-- `char::from_u32`. -/
def charFromU32 (codepoint : ℕ) : Option Char :=
  if codepoint.isValidChar then some (Char.ofNat codepoint) else none

/-- `hangul::encode_utf8`. -/
def encodeUtf8 (codepoints : List ℕ) (output : SecretBuffer) : Option SecretBuffer :=
  codepoints.foldlM (fun output codepoint =>
    match charFromU32 codepoint with
    | some character => output.extendFromSlice (String.utf8EncodeChar character)
    | none => some output) output

/-- `SecretInput`. -/
structure SecretInput where
  policy : InputPolicy
  tokens : SecretTokenBuffer

namespace SecretInput

/-- `SecretInput::new`. -/
def new (policy : InputPolicy) : SecretInput := ⟨policy, .withCapacity policy.maxTokens⟩

/-- `SecretInput::push`; `none` where the token buffer panics. -/
def push (input : SecretInput) (keyId : KeyId) : Option (Except InputError SecretInput) :=
  if input.tokens.len ≥ input.policy.maxTokens then some (.error .limitReached)
  else
    match input.policy.resolve keyId with
    | .error e => some (.error e)
    | .ok resolved =>
      (input.tokens.push (encodeKey resolved)).map fun tokens => .ok { input with tokens }

/-- `SecretInput::backspace`. -/
def backspace (input : SecretInput) : SecretInput := { input with tokens := input.tokens.pop }

/-- `SecretInput::clear`. -/
def clear (input : SecretInput) : SecretInput := { input with tokens := input.tokens.clear }

/-- `SecretInput::is_empty`. -/
def isEmpty (input : SecretInput) : Bool := input.tokens.isEmpty

/-- `SecretInput::rendered_length`. -/
def renderedLength (input : SecretInput) : ℕ := (render input.tokens.asSlice).length

/-- `SecretInput::into_secret_buffer`. -/
def intoSecretBuffer (input : SecretInput) : Option SecretBuffer :=
  let rendered := render input.tokens.asSlice
  encodeUtf8 rendered (.withCapacity (saturatingMulUsize rendered.length 4))

/-- An input of the policy: storage of the policy's size, never more than the policy's tokens in
    use, the other slots zero. -/
structure Fits (policy : InputPolicy) (input : SecretInput) : Prop where
  policy_eq : input.policy = policy
  storage : input.tokens.tokens.length = policy.maxTokens
  len_le : input.tokens.len ≤ policy.maxTokens
  restZero : input.tokens.RestZero

theorem Fits.new (policy : InputPolicy) : Fits policy (SecretInput.new policy) :=
  ⟨rfl, List.length_replicate, Nat.zero_le _, SecretTokenBuffer.withCapacity_restZero _⟩

/-- A successful push had room and stored one more token. -/
theorem push_eq_ok {input input' : SecretInput} {keyId : KeyId}
    (h : input.push keyId = some (.ok input')) :
    input.tokens.len < input.policy.maxTokens ∧ ∃ token tokens,
      input.tokens.push token = some tokens ∧ input' = { input with tokens } := by
  unfold SecretInput.push at h
  split at h
  · cases h
  · next hroom =>
    split at h
    · cases h
    · obtain ⟨tokens, htokens, hinput⟩ := Option.map_eq_some_iff.mp h
      cases hinput
      exact ⟨Nat.lt_of_not_le hroom, _, tokens, htokens, rfl⟩

theorem push_not_isEmpty {input input' : SecretInput} {keyId : KeyId}
    (h : input.push keyId = some (.ok input')) : input'.isEmpty = false := by
  obtain ⟨_, token, tokens, htokens, rfl⟩ := push_eq_ok h
  obtain ⟨_, hlen⟩ := SecretTokenBuffer.push_eq_some htokens
  simp only [isEmpty, SecretTokenBuffer.isEmpty, hlen, Nat.succ_ne_zero, decide_false]

theorem Fits.push {policy : InputPolicy} {input input' : SecretInput} {keyId : KeyId}
    (h : input.push keyId = some (.ok input')) (hfits : Fits policy input) :
    Fits policy input' := by
  obtain ⟨rfl, hstorage, _, hzero⟩ := hfits
  obtain ⟨hroom, token, tokens, htokens, rfl⟩ := push_eq_ok h
  obtain ⟨hset, hlen⟩ := SecretTokenBuffer.push_eq_some htokens
  exact ⟨rfl, by rw [hset, List.length_set]; exact hstorage, by rw [hlen]; exact hroom,
    SecretTokenBuffer.push_restZero htokens hzero⟩

/-- The limit check keeps the token buffer from panicking. -/
theorem Fits.push_ne_none {policy : InputPolicy} {input : SecretInput} (keyId : KeyId)
    (hfits : Fits policy input) : input.push keyId ≠ none := by
  obtain ⟨rfl, hstorage, _, _⟩ := hfits
  unfold SecretInput.push
  split
  · exact Option.some_ne_none _
  · next hroom =>
    split
    · exact Option.some_ne_none _
    · rw [SecretTokenBuffer.push, dif_pos (by omega), Option.map_some]
      exact Option.some_ne_none _

theorem Fits.backspace {policy : InputPolicy} {input : SecretInput} (hfits : Fits policy input) :
    Fits policy input.backspace := by
  obtain ⟨rfl, hstorage, hlen, hzero⟩ := hfits
  exact ⟨rfl, by rw [← hstorage]; exact SecretTokenBuffer.pop_length_tokens _,
    (SecretTokenBuffer.pop_len _).le.trans ((Nat.sub_le _ _).trans hlen),
    SecretTokenBuffer.pop_restZero hzero⟩

theorem Fits.clear {policy : InputPolicy} {input : SecretInput} (hfits : Fits policy input) :
    Fits policy input.clear := by
  obtain ⟨rfl, hstorage, hlen, hzero⟩ := hfits
  exact ⟨rfl, by rw [← hstorage]; exact SecretTokenBuffer.clear_length_tokens _, Nat.zero_le _,
    SecretTokenBuffer.clear_restZero hzero⟩

end SecretInput

/-! ## The session -/

/-- `DisplayState`. -/
inductive DisplayState where
  | empty
  | masked
  | submitted
  | cancelled
deriving DecidableEq

/-- `MaskedState`. -/
structure MaskedState where
  length : ℕ
  displayState : DisplayState
deriving DecidableEq

/-- `SessionError`. -/
inductive SessionError where
  | invalidKey (error : InputError)
  | limitReached
  | empty
  | inactive
deriving DecidableEq

/-- `Submission`. -/
structure Submission where
  buffer : SecretBuffer
deriving DecidableEq

/-- `SecureSession`. -/
structure SecureSession where
  input : Option SecretInput
  state : DisplayState
  timeout : ℕ
  lastActivity : ℕ

/-- What a call returns. -/
inductive SessionAnswer where
  | edited (result : Except SessionError Unit)
  | expired (occurred : Bool)
  | shown (state : MaskedState)
  | sealed (result : Except SessionError Submission)
  | cancelled
  | panicked

/-- The error a call was answered with. -/
def SessionAnswer.error? : SessionAnswer → Option SessionError
  | .edited (.error e) | .sealed (.error e) => some e
  | _ => none

/-- A successful `press_key`, `backspace` or `clear`. -/
def SessionAnswer.isEdit : SessionAnswer → Bool
  | .edited (.ok ()) => true
  | _ => false

/-- A successful `submit`. -/
def SessionAnswer.isSubmission : SessionAnswer → Bool
  | .sealed (.ok _) => true
  | _ => false

namespace SecureSession

/-- `SecureSession::begin_with_timeout` at the clock reading `now`. -/
def beginWithTimeout (policy : InputPolicy) (timeout now : ℕ) : SecureSession :=
  { input := some (.new policy), state := .empty, timeout, lastActivity := now }

/-- `SecureSession::cancel`. -/
def cancel (session : SecureSession) : SecureSession :=
  { session with input := none, state := .cancelled }

/-- The test of `expire_if_needed`; `elapsed` saturates at zero. -/
def isExpired (session : SecureSession) (now : ℕ) : Bool :=
  session.input.isSome && now - session.lastActivity ≥ session.timeout

/-- `SecureSession::expire_if_needed`. -/
def expireIfNeeded (session : SecureSession) (now : ℕ) : Bool × SecureSession :=
  if session.isExpired now then (true, session.cancel) else (false, session)

/-- `SecureSession::masked_state`. -/
def maskedState (session : SecureSession) : MaskedState :=
  { length := session.input.elim 0 SecretInput.renderedLength, displayState := session.state }

/-- `SecureSession::refresh`. -/
def refresh (session : SecureSession) (now : ℕ) : MaskedState × SecureSession :=
  let session := (session.expireIfNeeded now).2
  (session.maskedState, session)

/-- `SecureSession::press_key`; the clock reads `now` on entry and `done` on success. -/
def pressKey (session : SecureSession) (now done : ℕ) (keyId : KeyId) :
    SessionAnswer × SecureSession :=
  let session := (session.expireIfNeeded now).2
  match session.input with
  | none => (.edited (.error .inactive), session)
  | some input =>
    match input.push keyId with
    | none => (.panicked, session)
    | some (.error .limitReached) => (.edited (.error .limitReached), session)
    | some (.error .invalidKey) => (.edited (.error (.invalidKey .invalidKey)), session)
    | some (.ok input) =>
      (.edited (.ok ()),
        { session with input := some input, state := .masked, lastActivity := done })

/-- `SecureSession::backspace`. -/
def backspace (session : SecureSession) (now done : ℕ) : SessionAnswer × SecureSession :=
  let session := (session.expireIfNeeded now).2
  match session.input with
  | none => (.edited (.error .inactive), session)
  | some input =>
    let input := input.backspace
    (.edited (.ok ()),
      { session with input := some input, state := if input.isEmpty then .empty else .masked,
                     lastActivity := done })

/-- `SecureSession::clear`. -/
def clear (session : SecureSession) (now done : ℕ) : SessionAnswer × SecureSession :=
  let session := (session.expireIfNeeded now).2
  match session.input with
  | none => (.edited (.error .inactive), session)
  | some input =>
    (.edited (.ok ()),
      { session with input := some input.clear, state := .empty, lastActivity := done })

/-- `SecureSession::submit`. -/
def submit (session : SecureSession) (now : ℕ) : SessionAnswer × SecureSession :=
  let session := (session.expireIfNeeded now).2
  match session.input with
  | none => (.sealed (.error .inactive), session)
  | some input =>
    if input.isEmpty then (.sealed (.error .empty), session)
    else
      let session := { session with input := none, state := .submitted }
      match input.intoSecretBuffer with
      | some buffer => (.sealed (.ok ⟨buffer⟩), session)
      | none => (.panicked, session)

end SecureSession

/-- The public calls of a session. -/
inductive SessionOp where
  | pressKey (keyId : KeyId)
  | backspace
  | clear
  | expireIfNeeded
  | refresh
  | maskedState
  | submit
  | cancel
deriving DecidableEq

/-- The calls that need an active session. -/
def SessionOp.needsActive : SessionOp → Bool
  | .pressKey _ | .backspace | .clear | .submit => true
  | .expireIfNeeded | .refresh | .maskedState | .cancel => false

/-- One call on a session, with its two clock readings. -/
def SecureSession.apply (session : SecureSession) (now done : ℕ) :
    SessionOp → SessionAnswer × SecureSession
  | .pressKey keyId => session.pressKey now done keyId
  | .backspace => session.backspace now done
  | .clear => session.clear now done
  | .expireIfNeeded => ((.expired (session.expireIfNeeded now).1), (session.expireIfNeeded now).2)
  | .refresh => (.shown (session.refresh now).1, (session.refresh now).2)
  | .maskedState => (.shown session.maskedState, session)
  | .submit => session.submit now
  | .cancel => (.cancelled, session.cancel)

/-! ## What one call does -/

/-- Everything a call can do to a session: nothing, close it by cancellation or expiry, edit the
    input, or seal it. -/
inductive SessionEffect (session : SecureSession) (now done : ℕ) (answer : SessionAnswer) :
    SecureSession → Prop where
  | kept (hedit : answer.isEdit = false) (hsub : answer.isSubmission = false) :
      SessionEffect session now done answer session
  | closed (hedit : answer.isEdit = false) (hsub : answer.isSubmission = false)
      (hwhy : answer.error? = none ∨ session.isExpired now = true) :
      SessionEffect session now done answer session.cancel
  | edited {input input' : SecretInput} (hinput : session.input = some input)
      (hchange : ∀ policy, input.Fits policy → input'.Fits policy)
      (hedit : answer = .edited (.ok ())) :
      SessionEffect session now done answer
        { session with input := some input',
                       state := if input'.isEmpty then .empty else .masked,
                       lastActivity := done }
  | sealed {input : SecretInput} (hinput : session.input = some input)
      (herror : answer.error? = none) (hedit : answer.isEdit = false) :
      SessionEffect session now done answer { session with input := none, state := .submitted }

/-- A call that starts with the implicit expiry: it finds the session expired and closes it, or
    goes on with the session as it was. -/
theorem expireIfNeeded_cases (session : SecureSession) (now : ℕ) :
    (session.isExpired now = true ∧ session.expireIfNeeded now = (true, session.cancel)) ∨
      (session.isExpired now = false ∧ session.expireIfNeeded now = (false, session)) := by
  unfold SecureSession.expireIfNeeded
  cases h : session.isExpired now with
  | true => exact .inl ⟨rfl, rfl⟩
  | false => exact .inr ⟨rfl, rfl⟩

/-- **Everything one call can do to a session.** -/
theorem SecureSession.apply_effect (session : SecureSession) (now done : ℕ) (op : SessionOp) :
    SessionEffect session now done (session.apply now done op).1
      (session.apply now done op).2 := by
  rcases expireIfNeeded_cases session now with ⟨hexpired, hstep⟩ | ⟨_, hstep⟩
  · -- The session expires: every call that looks at it closes it first.
    cases op with
    | pressKey keyId =>
      simp only [apply, pressKey, hstep, cancel]
      exact .closed rfl rfl (.inr hexpired)
    | backspace =>
      simp only [apply, SecureSession.backspace, hstep, cancel]
      exact .closed rfl rfl (.inr hexpired)
    | clear =>
      simp only [apply, SecureSession.clear, hstep, cancel]
      exact .closed rfl rfl (.inr hexpired)
    | expireIfNeeded =>
      simp only [apply, hstep]
      exact .closed rfl rfl (.inr hexpired)
    | refresh =>
      simp only [apply, SecureSession.refresh, hstep]
      exact .closed rfl rfl (.inr hexpired)
    | maskedState => exact .kept rfl rfl
    | submit =>
      simp only [apply, SecureSession.submit, hstep, cancel]
      exact .closed rfl rfl (.inr hexpired)
    | cancel => exact .closed rfl rfl (.inl rfl)
  -- The session is still open: each call does what it is for.
  · cases op with
    | pressKey keyId =>
      simp only [apply, pressKey, hstep]
      cases hinput : session.input with
      | none => exact .kept rfl rfl
      | some input =>
        simp only
        cases hpush : input.push keyId with
        | none => exact .kept rfl rfl
        | some result =>
          cases result with
          | error e => cases e <;> exact .kept rfl rfl
          | ok input' =>
            have heffect : SessionEffect session now done (.edited (.ok ())) _ :=
              .edited hinput (fun _ hfits => SecretInput.Fits.push hpush hfits) rfl
            rwa [SecretInput.push_not_isEmpty hpush] at heffect
    | backspace =>
      simp only [apply, SecureSession.backspace, hstep]
      cases hinput : session.input with
      | none => exact .kept rfl rfl
      | some input => exact .edited hinput (fun _ h => h.backspace) rfl
    | clear =>
      simp only [apply, SecureSession.clear, hstep]
      cases hinput : session.input with
      | none => exact .kept rfl rfl
      | some input => exact .edited hinput (fun _ h => h.clear) rfl
    | expireIfNeeded =>
      simp only [apply, hstep]
      exact .kept rfl rfl
    | refresh =>
      simp only [apply, SecureSession.refresh, hstep]
      exact .kept rfl rfl
    | maskedState => exact .kept rfl rfl
    | submit =>
      simp only [apply, SecureSession.submit, hstep]
      cases hinput : session.input with
      | none => exact .kept rfl rfl
      | some input =>
        simp only
        split
        · exact .kept rfl rfl
        · cases input.intoSecretBuffer with
          | none => exact .sealed hinput rfl rfl
          | some buffer => exact .sealed hinput rfl rfl
    | cancel => exact .closed rfl rfl (.inl rfl)

/-- A call that needs an active session is answered `Inactive` by one that is closed or expired,
    and leaves it closed. -/
theorem SecureSession.apply_inactive {session : SecureSession} {now done : ℕ} {op : SessionOp}
    (hop : op.needsActive = true) (h : session.input = none ∨ session.isExpired now = true) :
    (session.apply now done op).1.error? = some .inactive ∧
      (session.apply now done op).2.input = none := by
  have hclosed : (session.expireIfNeeded now).2.input = none := by
    rcases expireIfNeeded_cases session now with ⟨_, hstep⟩ | ⟨hnot, hstep⟩
    · rw [hstep]
      rfl
    · rw [hstep]
      rcases h with h | h
      · exact h
      · rw [h] at hnot
        cases hnot
  cases op with
  | pressKey keyId => simp [apply, pressKey, hclosed, SessionAnswer.error?]
  | backspace => simp [apply, SecureSession.backspace, hclosed, SessionAnswer.error?]
  | clear => simp [apply, SecureSession.clear, hclosed, SessionAnswer.error?]
  | submit => simp [apply, SecureSession.submit, hclosed, SessionAnswer.error?]
  | expireIfNeeded | refresh | maskedState | cancel => cases hop

/-! ## The session invariant -/

/-- What holds of a session of the policy at any time. -/
structure SessionInvariant (policy : InputPolicy) (session : SecureSession) : Prop where
  closed_iff : session.input = none ↔ session.state = .submitted ∨ session.state = .cancelled
  empty_iff : session.state = .empty ↔
    ∃ input, session.input = some input ∧ input.tokens.len = 0
  masked_iff : session.state = .masked ↔
    ∃ input, session.input = some input ∧ 1 ≤ input.tokens.len
  fits : ∀ input, session.input = some input → input.Fits policy

theorem SessionInvariant.begin (policy : InputPolicy) (timeout now : ℕ) :
    SessionInvariant policy (.beginWithTimeout policy timeout now) where
  closed_iff := by simp [SecureSession.beginWithTimeout]
  empty_iff := by
    simp [SecureSession.beginWithTimeout, SecretInput.new, SecretTokenBuffer.withCapacity]
  masked_iff := by
    simp [SecureSession.beginWithTimeout, SecretInput.new, SecretTokenBuffer.withCapacity]
  fits := by
    intro input hinput
    cases hinput
    exact .new policy

/-- A session closed in one of the two closed states keeps the invariant. -/
private theorem SessionInvariant.of_closed {policy : InputPolicy} {session : SecureSession}
    (hinput : session.input = none)
    (hstate : session.state = .submitted ∨ session.state = .cancelled) :
    SessionInvariant policy session where
  closed_iff := by simp [hinput, hstate]
  empty_iff := by rcases hstate with h | h <;> simp [h, hinput]
  masked_iff := by rcases hstate with h | h <;> simp [h, hinput]
  fits := by
    intro input h
    rw [hinput] at h
    cases h

/-- An open session whose state follows from its input keeps the invariant. -/
private theorem SessionInvariant.of_open {policy : InputPolicy} {session : SecureSession}
    {input : SecretInput} (hinput : session.input = some input)
    (hstate : session.state = if input.isEmpty then .empty else .masked)
    (hfits : input.Fits policy) : SessionInvariant policy session := by
  have hempty : input.isEmpty = true ↔ input.tokens.len = 0 := decide_eq_true_iff
  refine ⟨?_, ?_, ?_, ?_⟩
  · rw [hinput, hstate]
    split <;> simp
  · rw [hstate]
    split
    · next h => simp [hinput, hempty.mp h]
    · next h => simp [hinput, mt hempty.mpr h]
  · rw [hstate]
    split
    · next h => simp [hinput, hempty.mp h]
    · next h => simp [hinput, Nat.one_le_iff_ne_zero, mt hempty.mpr h]
  · intro input' h
    rw [hinput] at h
    cases h
    exact hfits

theorem SessionEffect.invariant {policy : InputPolicy} {session session' : SecureSession}
    {now done : ℕ} {answer : SessionAnswer} (h : SessionEffect session now done answer session')
    (hinv : SessionInvariant policy session) : SessionInvariant policy session' := by
  cases h with
  | kept hedit hsub => exact hinv
  | closed hedit hsub hwhy => exact .of_closed rfl (.inr rfl)
  | edited hinput hchange hedit => exact .of_open rfl rfl (hchange policy (hinv.fits _ hinput))
  | sealed hinput herror hedit => exact .of_closed rfl (.inl rfl)

/-! ## Runs -/

/-- A call with the time that passes before its first and before its second clock reading. -/
structure TimedOp where
  op : SessionOp
  wait : ℕ
  work : ℕ

/-- What a timed call shows: its two clock readings and its answer. -/
structure SessionReply where
  issuedAt : ℕ
  completedAt : ℕ
  answer : SessionAnswer

/-- A session and the clock it is used under. -/
structure TimedSession where
  session : SecureSession
  clock : ℕ

/-- One timed call. -/
def TimedSession.step (timed : TimedSession) (call : TimedOp) : SessionReply × TimedSession :=
  let now := timed.clock + call.wait
  let done := now + call.work
  let (answer, session) := timed.session.apply now done call.op
  (⟨now, done, answer⟩, ⟨session, done⟩)

/-- A session begun with the policy and the timeout when the clock reads `start`. -/
def TimedSession.begin (policy : InputPolicy) (timeout start : ℕ) : TimedSession :=
  ⟨.beginWithTimeout policy timeout start, start⟩

/-- The answered calls of a run. -/
def sessionTrace (policy : InputPolicy) (timeout start : ℕ) (calls : List TimedOp) :
    List (TimedOp × SessionReply) :=
  Machine.trace TimedSession.step (.begin policy timeout start) calls

/-- The session after the first `j` calls of a run. -/
def sessionAfter (policy : InputPolicy) (timeout start : ℕ) (calls : List TimedOp) (j : ℕ) :
    SecureSession :=
  (Machine.run TimedSession.step (.begin policy timeout start) (calls.take j)).session

/-- When the last successful `press_key`, `backspace` or `clear` among the replies completed, or
    the session began. -/
def lastSuccess (start : ℕ) (replies : List (TimedOp × SessionReply)) : ℕ :=
  replies.foldl (fun t p => if p.2.answer.isEdit then p.2.completedAt else t) start

theorem SessionEffect.timeout_eq {session session' : SecureSession} {now done : ℕ}
    {answer : SessionAnswer} (h : SessionEffect session now done answer session') :
    session'.timeout = session.timeout := by
  cases h <;> rfl

/-- Only a successful edit moves the activity time, to its second reading. -/
theorem SessionEffect.lastActivity_eq {session session' : SecureSession} {now done : ℕ}
    {answer : SessionAnswer} (h : SessionEffect session now done answer session') :
    session'.lastActivity = if answer.isEdit then done else session.lastActivity := by
  cases h with
  | kept hedit hsub => simp [hedit]
  | closed hedit hsub hwhy => simp [hedit, SecureSession.cancel]
  | edited hinput hchange hedit => simp [hedit, SessionAnswer.isEdit]
  | sealed hinput herror hedit => simp [hedit]

/-- No call opens a closed session. -/
theorem SessionEffect.stays_closed {session session' : SecureSession} {now done : ℕ}
    {answer : SessionAnswer} (h : SessionEffect session now done answer session')
    (hclosed : session.input = none) : session'.input = none := by
  cases h with
  | kept hedit hsub => exact hclosed
  | closed hedit hsub hwhy => rfl
  | edited hinput hchange hedit =>
    rw [hclosed] at hinput
    cases hinput
  | sealed hinput herror hedit => rfl

/-- A successful `submit` takes the input of an open session. -/
theorem SessionEffect.submission {session session' : SecureSession} {now done : ℕ}
    {answer : SessionAnswer} (h : SessionEffect session now done answer session')
    (hsubmission : answer.isSubmission = true) :
    session.input ≠ none ∧ session'.input = none := by
  cases h with
  | kept hedit hsub | closed hedit hsub hwhy =>
    rw [hsub] at hsubmission
    cases hsubmission
  | edited hinput hchange hedit =>
    rw [hedit] at hsubmission
    cases hsubmission
  | sealed hinput herror hedit => exact ⟨by simp [hinput], rfl⟩

/-- A failing call that does not expire the session leaves all of it unchanged. -/
theorem SessionEffect.eq_of_error {session session' : SecureSession} {now done : ℕ}
    {answer : SessionAnswer} (h : SessionEffect session now done answer session')
    (herror : answer.error? ≠ none) (hexpired : session.isExpired now = false) :
    session' = session := by
  cases h with
  | kept hedit hsub => rfl
  | closed hedit hsub hwhy =>
    rcases hwhy with hnone | hyes
    · exact absurd hnone herror
    · rw [hexpired] at hyes
      cases hyes
  | edited hinput hchange hedit => exact absurd (by rw [hedit]; rfl) herror
  | sealed hinput hnone hedit => exact absurd hnone herror

section Run

variable (policy : InputPolicy) (timeout start : ℕ) (calls : List TimedOp)

/-- Call `j` of a run acts on the session after the first `j` calls. -/
theorem sessionTrace_effect {policy : InputPolicy} {timeout start : ℕ} {calls : List TimedOp}
    {j : ℕ} {call : TimedOp} {reply : SessionReply}
    (h : (sessionTrace policy timeout start calls)[j]? = some (call, reply)) :
    (sessionAfter policy timeout start calls j).apply reply.issuedAt reply.completedAt call.op =
      (reply.answer, sessionAfter policy timeout start calls (j + 1)) := by
  obtain ⟨hcall, rfl⟩ := Machine.trace_getElem?_eq_some _ h
  unfold sessionAfter
  rw [Machine.run_take_succ _ hcall]
  rfl

theorem sessionAfter_invariant (j : ℕ) :
    SessionInvariant policy (sessionAfter policy timeout start calls j) :=
  Machine.run_invariant TimedSession.step (P := fun timed => SessionInvariant policy timed.session)
    (fun timed _ hinv => (timed.session.apply_effect _ _ _).invariant hinv)
    (.begin policy timeout start) (calls.take j)

/-- The timeout is fixed, and the activity time is that of the last successful edit. -/
theorem run_lastActivity :
    (Machine.run TimedSession.step (.begin policy timeout start) calls).session.timeout = timeout ∧
      (Machine.run TimedSession.step (.begin policy timeout start) calls).session.lastActivity =
        lastSuccess start (sessionTrace policy timeout start calls) := by
  induction calls using List.reverseRecOn with
  | nil => exact ⟨rfl, rfl⟩
  | append_singleton calls call ih =>
    obtain ⟨htimeout, hactivity⟩ := ih
    have heffect := (Machine.run TimedSession.step (.begin policy timeout start)
      calls).session.apply_effect
        ((Machine.run TimedSession.step (.begin policy timeout start) calls).clock + call.wait)
        ((Machine.run TimedSession.step (.begin policy timeout start) calls).clock + call.wait
          + call.work) call.op
    rw [Machine.run_snoc, sessionTrace, Machine.trace_snoc, lastSuccess, List.foldl_append]
    refine ⟨heffect.timeout_eq.trans htimeout, heffect.lastActivity_eq.trans ?_⟩
    rw [hactivity]
    rfl

theorem sessionAfter_stays_closed {j k : ℕ} (hjk : j ≤ k)
    (hclosed : (sessionAfter policy timeout start calls j).input = none) :
    (sessionAfter policy timeout start calls k).input = none := by
  have hmono := Machine.run_take_mono TimedSession.step
    (f := fun timed : TimedSession => timed.session.input.isNone)
    (fun timed call hnone => by
      rw [Option.isNone_iff_eq_none] at hnone ⊢
      exact (timed.session.apply_effect _ _ _).stays_closed hnone)
    (.begin policy timeout start) calls hjk
  exact Option.isNone_iff_eq_none.mp (hmono (Option.isNone_iff_eq_none.mpr hclosed))

/-- No `submit` succeeds after another one did. -/
theorem submission_unique {policy : InputPolicy} {timeout start : ℕ} {calls : List TimedOp}
    {i j : ℕ} {p q : TimedOp × SessionReply} (hij : i < j)
    (hi : (sessionTrace policy timeout start calls)[i]? = some p)
    (hj : (sessionTrace policy timeout start calls)[j]? = some q)
    (hp : p.2.answer.isSubmission = true) : q.2.answer.isSubmission = false := by
  have heffectᵢ := (sessionAfter policy timeout start calls i).apply_effect p.2.issuedAt
    p.2.completedAt p.1.op
  have heffectⱼ := (sessionAfter policy timeout start calls j).apply_effect q.2.issuedAt
    q.2.completedAt q.1.op
  rw [sessionTrace_effect hi] at heffectᵢ
  rw [sessionTrace_effect hj] at heffectⱼ
  have hclosed := sessionAfter_stays_closed policy timeout start calls hij
    (heffectᵢ.submission hp).2
  cases hq : q.2.answer.isSubmission with
  | false => rfl
  | true => exact absurd hclosed (heffectⱼ.submission hq).1

/-- **A session over every sequence of calls**, for a policy made by one of the public
    constructors, any timeout and any nondecreasing clock: the display state tells exactly
    whether the session is closed, empty or holds tokens; the tokens stay within the policy's
    limit and the unused storage is zero; a closed session stays closed; `submit` succeeds at
    most once; a call that fails without expiring the session changes nothing; and a call that
    needs an active session, issued the timeout or more after the last successful edit, is
    answered `Inactive` and leaves the session closed. -/
theorem session_run (hpolicy : policy.IsConstructed) :
    (1 ≤ policy.maxTokens ∧ policy.maxTokens ≤ 4096) ∧
    (∀ j, SessionInvariant policy (sessionAfter policy timeout start calls j)) ∧
    (∀ j k, j ≤ k → (sessionAfter policy timeout start calls j).input = none →
      (sessionAfter policy timeout start calls k).input = none) ∧
    (∀ (i j : ℕ) p q, (sessionTrace policy timeout start calls)[i]? = some p →
      (sessionTrace policy timeout start calls)[j]? = some q →
      p.2.answer.isSubmission = true → q.2.answer.isSubmission = true → i = j) ∧
    (∀ (j : ℕ) call reply, (sessionTrace policy timeout start calls)[j]? = some (call, reply) →
      reply.answer.error? ≠ none →
      (sessionAfter policy timeout start calls j).isExpired reply.issuedAt = false →
      sessionAfter policy timeout start calls (j + 1) =
        sessionAfter policy timeout start calls j) ∧
    (∀ (j : ℕ) call reply, (sessionTrace policy timeout start calls)[j]? = some (call, reply) →
      call.op.needsActive = true →
      lastSuccess start (sessionTrace policy timeout start (calls.take j)) + timeout ≤
        reply.issuedAt →
      reply.answer.error? = some .inactive ∧
        (sessionAfter policy timeout start calls (j + 1)).input = none) := by
  refine ⟨hpolicy.maxTokens_bounds, sessionAfter_invariant policy timeout start calls, ?_, ?_, ?_,
    ?_⟩
  · intro j k hjk
    exact sessionAfter_stays_closed policy timeout start calls hjk
  · intro i j p q hi hj hp hq
    -- Behind the first submission there is no other.
    rcases Nat.lt_trichotomy i j with hij | hij | hij
    · rw [submission_unique hij hi hj hp] at hq
      cases hq
    · exact hij
    · rw [submission_unique hij hj hi hq] at hp
      cases hp
  · intro j call reply hget herror hexpired
    -- A call that fails in a session that has not expired changes nothing.
    have heffect := (sessionAfter policy timeout start calls j).apply_effect reply.issuedAt
      reply.completedAt call.op
    rw [sessionTrace_effect hget] at heffect
    exact heffect.eq_of_error herror hexpired
  · intro j call reply hget hop hlate
    obtain ⟨htimeout, hactivity⟩ := run_lastActivity policy timeout start (calls.take j)
    -- The deadline is past: the session is closed already, or closes at this call.
    have hinactive : (sessionAfter policy timeout start calls j).input = none ∨
        (sessionAfter policy timeout start calls j).isExpired reply.issuedAt = true := by
      cases hinput : (sessionAfter policy timeout start calls j).input with
      | none => exact .inl rfl
      | some input =>
        right
        simp only [SecureSession.isExpired, hinput, Option.isSome_some, Bool.true_and, ge_iff_le,
          decide_eq_true_eq]
        unfold sessionAfter
        rw [htimeout, hactivity]
        omega
    have hanswer := @SecureSession.apply_inactive _ _ reply.completedAt _ hop hinactive
    rw [sessionTrace_effect hget] at hanswer
    exact hanswer

/-- A numeric session of one digit: a second digit is refused, the digit is submitted, and a key
    pressed after the timeout finds the session closed. -/
theorem session_run_one_digit :
    let policy := InputPolicy.numeric 1
    let calls : List TimedOp := [⟨.pressKey ⟨"digit-7"⟩, 5, 1⟩, ⟨.pressKey ⟨"digit-8"⟩, 2, 0⟩,
      ⟨.submit, 1, 0⟩, ⟨.pressKey ⟨"digit-7"⟩, 60, 0⟩]
    policy.IsConstructed ∧
      (sessionTrace policy 60 0 calls).map (fun p => (p.2.issuedAt, p.2.answer.error?)) =
        [(5, none), (8, some .limitReached), (9, none), (69, some .inactive)] ∧
      sessionAfter policy 60 0 calls 2 = sessionAfter policy 60 0 calls 1 ∧
      (sessionAfter policy 60 0 calls 4).input = none := by
  intro policy calls
  have hpolicy : policy.IsConstructed := ⟨1, .inl rfl⟩
  obtain ⟨_, _, _, _, hkept, hlate⟩ := session_run policy 60 0 calls hpolicy
  refine ⟨hpolicy, by decide +kernel, ?_, ?_⟩
  · exact hkept 1 _ _ rfl (by decide +kernel) (by decide +kernel)
  · exact (hlate 3 _ _ rfl rfl (by decide +kernel)).2

end Run

end SecureKeypad.Core
