import SecureKeypad.Core.Incremental

/-!
# What Was Typed

What a session is for, on its own terms: a list of tokens that a key adds one to, that a backspace
takes the last one from and that clearing empties. The fixed storage, the expiry and the limit of
`SecureSession` are below this: an open session holds what was typed into it, and what it seals is
the text of that.

## Main results

- `SecureSession.Follows.apply`: one call, as an edit of what is typed
- `SecureSession.Follows.sealed`: what a successful `submit` seals
-/

namespace SecureKeypad.Core

open Rust

/-! ## Edits -/

/-- A change of what is typed. -/
inductive Edit where
  | press (keyId : KeyId)
  | backspace
  | clear
deriving DecidableEq

/-- The tokens after an edit. -/
def Edit.apply (policy : InputPolicy) (tokens : List UInt32) : Edit → List UInt32
  | .press keyId => tokens ++ ((policy.resolve keyId).toOption.map encodeKey).toList
  | .backspace => tokens.dropLast
  | .clear => []

/-- The tokens that a list of edits comes to. -/
def typed (policy : InputPolicy) (edits : List Edit) : List UInt32 :=
  edits.foldl (Edit.apply policy) []

/-- The bytes of the rendered tokens. -/
def passwordOf (tokens : List UInt32) : Bytes := asBytes (textOf (render tokens))

/-- The edit that a call asks for. -/
def SessionOp.edit : SessionOp → Option Edit
  | .pressKey keyId => some (.press keyId)
  | .backspace => some .backspace
  | .clear => some .clear
  | .expireIfNeeded | .refresh | .maskedState | .submit | .cancel => none

/-- The edit that an answered call has made: one that succeeded. -/
def SessionOp.made (op : SessionOp) (answer : SessionAnswer) : List Edit :=
  if answer.isEdit then op.edit.toList else []

/-! ## Inputs -/

theorem SecretInput.asSlice_push {input input' : SecretInput} {keyId : KeyId}
    (h : input.push keyId = some (.ok input')) :
    input'.policy = input.policy ∧
      input'.tokens.asSlice = (Edit.press keyId).apply input.policy input.tokens.asSlice := by
  unfold SecretInput.push at h
  split at h
  · cases h
  · split at h
    · cases h
    · next resolved hresolve =>
      obtain ⟨tokens, htokens, hinput⟩ := Option.map_eq_some_iff.mp h
      cases hinput
      refine ⟨rfl, ?_⟩
      rw [SecretTokenBuffer.asSlice_push htokens, Edit.apply, hresolve]
      rfl

/-! ## Sessions -/

/-- What a call that asks for an edit is answered with. -/
theorem SecureSession.answer_of_edit (session : SecureSession) (now done : ℕ) {op : SessionOp}
    {edit : Edit} (h : op.edit = some edit) :
    (session.apply now done op).1 = .panicked ∨
      ∃ result, (session.apply now done op).1 = .edited result := by
  cases op with
  | pressKey keyId =>
    simp only [apply, pressKey]
    split
    · exact .inr ⟨_, rfl⟩
    · split
      · exact .inl rfl
      · exact .inr ⟨_, rfl⟩
      · exact .inr ⟨_, rfl⟩
      · exact .inr ⟨_, rfl⟩
  | backspace =>
    simp only [apply, backspace]
    split
    · exact .inr ⟨_, rfl⟩
    · exact .inr ⟨_, rfl⟩
  | clear =>
    simp only [apply, clear]
    split
    · exact .inr ⟨_, rfl⟩
    · exact .inr ⟨_, rfl⟩
  | expireIfNeeded | refresh | maskedState | submit | cancel => cases h

/-- An open session of the policy holds these tokens. -/
def SecureSession.Types (policy : InputPolicy) (tokens : List UInt32) (session : SecureSession) :
    Prop :=
  ∀ input, session.input = some input → input.policy = policy ∧ input.tokens.asSlice = tokens

/-- A session of a policy, in which these edits were made. -/
structure SecureSession.Follows (policy : InputPolicy) (edits : List Edit)
    (session : SecureSession) : Prop where
  constructed : policy.IsConstructed
  invariant : SessionInvariant policy session
  produced : session.Produced policy
  types : session.Types policy (typed policy edits)

namespace SecureSession

variable {policy : InputPolicy} {tokens : List UInt32} {session : SecureSession}

theorem Types.begin (policy : InputPolicy) (timeout now : ℕ) :
    (beginWithTimeout policy timeout now).Types policy [] := by
  intro input hinput
  cases hinput
  exact ⟨rfl, List.take_zero⟩

theorem Types.of_closed (h : session.input = none) : session.Types policy tokens := by
  intro input hinput
  rw [h] at hinput
  cases hinput

theorem Types.expireIfNeeded (h : session.Types policy tokens) (now : ℕ) :
    (session.expireIfNeeded now).2.Types policy tokens := by
  rcases expireIfNeeded_cases session now with ⟨-, hstep⟩ | ⟨-, hstep⟩
  · rw [hstep]
    exact .of_closed rfl
  · rw [hstep]
    exact h

/-- **One call edits what is typed**, or leaves it; a closed session holds nothing any more. -/
theorem Types.apply (h : session.Types policy tokens) (now done : ℕ) (op : SessionOp) :
    (session.apply now done op).2.Types policy
      ((op.made (session.apply now done op).1).foldl (Edit.apply policy) tokens) := by
  -- Every call first lets an expired session close.
  have hentered := h.expireIfNeeded now
  cases op with
  | pressKey keyId =>
    simp only [SecureSession.apply, SecureSession.pressKey]
    cases hinput : (session.expireIfNeeded now).2.input with
    | none => exact hentered
    | some input =>
      obtain ⟨hpolicy, htokens⟩ := hentered input hinput
      simp only
      -- Only an accepted key reaches the tokens.
      cases hpush : input.push keyId with
      | none => exact hentered
      | some result =>
        cases result with
        | error e => cases e <;> exact hentered
        | ok input' =>
          obtain ⟨hsame, hslice⟩ := SecretInput.asSlice_push hpush
          rw [hpolicy, htokens] at hslice
          intro input'' hinput''
          cases hinput''
          exact ⟨hsame.trans hpolicy, hslice⟩
  | backspace =>
    simp only [SecureSession.apply, SecureSession.backspace]
    cases hinput : (session.expireIfNeeded now).2.input with
    | none => exact hentered
    | some input =>
      obtain ⟨hpolicy, htokens⟩ := hentered input hinput
      intro input'' hinput''
      cases hinput''
      refine ⟨hpolicy, (SecretTokenBuffer.asSlice_pop _).trans ?_⟩
      rw [htokens]
      rfl
  | clear =>
    simp only [SecureSession.apply, SecureSession.clear]
    cases hinput : (session.expireIfNeeded now).2.input with
    | none => exact hentered
    | some input =>
      obtain ⟨hpolicy, -⟩ := hentered input hinput
      intro input'' hinput''
      cases hinput''
      exact ⟨hpolicy, List.take_zero⟩
  | expireIfNeeded => exact hentered
  | refresh => exact hentered
  | maskedState => exact h
  -- Submitting closes the session, so there is no input left to speak of.
  | submit =>
    simp only [SecureSession.apply, SecureSession.submit]
    cases hinput : (session.expireIfNeeded now).2.input with
    | none => exact hentered
    | some input =>
      simp only
      split
      · exact hentered
      · split <;> exact .of_closed rfl
  | cancel => exact .of_closed rfl

theorem Follows.begin {policy : InputPolicy} (h : policy.IsConstructed) (timeout now : ℕ) :
    (beginWithTimeout policy timeout now).Follows policy [] := by
  refine ⟨h, .begin policy timeout now, ?_, .begin policy timeout now⟩
  intro input hinput
  cases hinput
  exact ⟨rfl, .new policy⟩

theorem Follows.apply {edits : List Edit} (h : session.Follows policy edits) (now done : ℕ)
    (op : SessionOp) :
    (session.apply now done op).2.Follows policy
      (edits ++ op.made (session.apply now done op).1) where
  constructed := h.constructed
  invariant := (apply_effect session now done op).invariant h.invariant
  produced := h.produced.apply now done op
  types := by
    rw [typed, List.foldl_append]
    exact h.types.apply now done op

/-- **What a successful `submit` seals**: the text of what was typed, which is not empty. -/
theorem Follows.sealed {edits : List Edit} (h : session.Follows policy edits) {now : ℕ}
    {submission : Submission} (hsubmit : (session.submit now).1 = .sealed (.ok submission)) :
    typed policy edits ≠ [] ∧ submission.buffer.bytes = passwordOf (typed policy edits) := by
  have hnow : session.isExpired now = false := by
    rcases expireIfNeeded_cases session now with ⟨-, hstep⟩ | ⟨hfalse, -⟩
    · rw [submit, hstep] at hsubmit
      cases hsubmit
    · exact hfalse
  have hstep : session.expireIfNeeded now = (false, session) := by
    rw [SecureSession.expireIfNeeded, hnow]
    rfl
  cases hinput : session.input with
  | none =>
    simp only [submit, hstep, hinput] at hsubmit
    cases hsubmit
  | some input =>
    obtain ⟨-, htokens⟩ := h.types input hinput
    cases hempty : input.isEmpty with
    | true =>
      simp only [submit, hstep, hinput, hempty, if_true] at hsubmit
      cases hsubmit
    | false =>
      have hlen := (h.invariant.fits input hinput).len_le.trans h.constructed.maxTokens_bounds.2
      have htext := submit_text h.produced hinput hempty hlen hnow
      rw [hsubmit] at htext
      cases htext
      refine ⟨?_, by rw [htokens]; rfl⟩
      -- an input in use holds a token
      intro hnil
      have hlength := SecretTokenBuffer.length_asSlice input.tokens
      rw [htokens, hnil, List.length_nil] at hlength
      rw [SecretInput.isEmpty, SecretTokenBuffer.isEmpty, ← hlength] at hempty
      cases hempty

end SecureSession

end SecureKeypad.Core
