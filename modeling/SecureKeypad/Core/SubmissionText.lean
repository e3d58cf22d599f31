import SecureKeypad.Core.Jamo
import SecureKeypad.Core.Session
import SecureKeypad.Library.Bytes

/-!
# What a Submission Holds

From the tokens of a session to the bytes that are sealed: the composer renders code points, each
is encoded in UTF-8 into a buffer of fixed capacity, and a code point that is no Unicode scalar
value would be skipped without an error. Tokens that came in through a policy never render to such
a code point, so that the sealed bytes are the encoding of the whole rendered text.

## Main results

- `render_isValidChar`: everything rendered from produced tokens is a scalar value
- `encodeUtf8_eq`: the encoder writes the whole text within four bytes for each character
- `sessionAfter_produced`: a session holds tokens its policy produced, at any time
- `submit_text`: what `submit` seals
-/

namespace SecureKeypad.Core

open Rust

/-! ## Rendered code points -/

/-- A chunk of keys in range renders to a scalar value. -/
theorem Chunk.isValidChar {consumed rest : List ResolvedKey} {c : ℕ}
    (h : Chunk consumed rest c) (hrange : ∀ key ∈ consumed, key.InRange) : c.isValidChar := by
  -- All of them lie below the surrogates; the syllables come closest to them.
  refine .inl ?_
  cases h with
  | @syllable l v t vs ts _ hv ht hend =>
    have hl : (ResolvedKey.leading l).InRange := hrange _ List.mem_cons_self
    obtain ⟨-, hvlt⟩ := hv.expands fun key hkey =>
      hrange key (List.mem_cons_of_mem _ (List.mem_append_left _ hkey))
    obtain ⟨-, htlt, -⟩ := ht.expands fun key hkey =>
      hrange key (List.mem_cons_of_mem _ (List.mem_append_right _ hkey))
    have hllt : l.toNat < Hangul.lCount := UInt8.lt_iff_toNat_lt.mp hl
    simp only [Hangul.syllable, Hangul.sBase, Hangul.lCount, Hangul.vCount, Hangul.tCount] at *
    omega
  | @leading l _ hend =>
    have hl := l.toNat_lt
    simp only [Hangul.lBase]
    omega
  | vowel v _ =>
    have hv := v.toNat_lt
    simp only [Hangul.vBase]
    omega
  | trailing t _ =>
    have ht := t.toNat_lt
    simp only [Hangul.tBase]
    omega
  | digit d _ => exact (0x30 + d).toNat_lt.trans (by decide)
  | ascii a _ => exact a.toNat_lt.trans (by decide)

theorem Chunks.isValidChar {keys : List ResolvedKey} {rendered : List ℕ} (h : Chunks keys rendered)
    (hrange : ∀ key ∈ keys, key.InRange) : ∀ c ∈ rendered, c.isValidChar := by
  induction h with
  | nil => exact fun c hc => absurd hc List.not_mem_nil
  | cons hchunk _ ih =>
    intro c hc
    rcases List.mem_cons.mp hc with rfl | hc
    · exact hchunk.isValidChar fun key hkey => hrange key (List.mem_append_left _ hkey)
    · exact ih (fun key hkey => hrange key (List.mem_append_right _ hkey)) c hc

/-- Every code point takes at least one key. -/
theorem Chunks.length_le {keys : List ResolvedKey} {rendered : List ℕ} (h : Chunks keys rendered) :
    rendered.length ≤ keys.length := by
  induction h with
  | nil => exact le_rfl
  | cons hchunk _ ih =>
    have hpos := hchunk.length_pos
    rw [List.length_cons, List.length_append]
    omega

theorem Chunks.length_pos {keys : List ResolvedKey} {rendered : List ℕ} (h : Chunks keys rendered)
    (hkeys : keys ≠ []) : 0 < rendered.length := by
  cases h with
  | nil => exact absurd rfl hkeys
  | cons => exact Nat.succ_pos _

/-- Tokens of a policy are the encoding of keys in range. -/
theorem exists_keys_of_produces {policy : InputPolicy} {tokens : List UInt32}
    (h : ∀ token ∈ tokens, policy.Produces token) :
    ∃ keys : List ResolvedKey, tokens = keys.map encodeKey ∧ ∀ key ∈ keys, key.InRange := by
  obtain ⟨keys, htokens, hkeys⟩ :=
    exists_keys_of_produced fun token htoken => (h token htoken).exists_key
  exact ⟨keys, htokens, fun key hkey => (hkeys key hkey).1⟩

/-- **Nothing is rendered that the encoder would skip.** -/
theorem render_isValidChar {policy : InputPolicy} {tokens : List UInt32}
    (h : ∀ token ∈ tokens, policy.Produces token) : ∀ c ∈ render tokens, c.isValidChar := by
  obtain ⟨keys, rfl, hrange⟩ := exists_keys_of_produces h
  exact (render_chunks keys).isValidChar hrange

theorem render_length_bounds {policy : InputPolicy} {tokens : List UInt32}
    (h : ∀ token ∈ tokens, policy.Produces token) :
    (render tokens).length ≤ tokens.length ∧ (tokens ≠ [] → 0 < (render tokens).length) := by
  obtain ⟨keys, rfl, -⟩ := exists_keys_of_produces h
  have hchunks := render_chunks keys
  refine ⟨by rw [List.length_map]; exact hchunks.length_le, ?_⟩
  intro hne
  exact hchunks.length_pos fun hkeys => hne (by rw [hkeys]; rfl)

/-! ## The encoder -/

/-- The text of code points that are scalar values. -/
def textOf (codepoints : List ℕ) : String := String.ofList (codepoints.map Char.ofNat)

theorem map_toNat_textOf {codepoints : List ℕ} (h : ∀ c ∈ codepoints, c.isValidChar) :
    (textOf codepoints).toList.map Char.toNat = codepoints := by
  rw [textOf, String.toList_ofList, List.map_map]
  conv_rhs => rw [← List.map_id codepoints]
  refine List.map_congr_left fun c hc => ?_
  show (Char.ofNat c).toNat = c
  rw [Char.toNat_ofNat, if_pos (h c hc)]

theorem length_textOf (codepoints : List ℕ) : (textOf codepoints).length = codepoints.length := by
  rw [← String.length_toList, textOf, String.toList_ofList, List.length_map]

theorem asBytes_textOf (codepoints : List ℕ) : asBytes (textOf codepoints) =
    codepoints.flatMap fun c => String.utf8EncodeChar (Char.ofNat c) := by
  rw [textOf, asBytes_ofList, List.flatMap_map]

/-- A buffer with room for the bytes takes them. -/
theorem SecretBuffer.extendFromSlice_eq {buffer : SecretBuffer} {bytes : Bytes}
    (h : buffer.bytes.length + bytes.length ≤ buffer.capacity) :
    buffer.extendFromSlice bytes = some { buffer with bytes := buffer.bytes ++ bytes } :=
  if_pos h

/-- **The encoder writes the whole text**, when four bytes for each character are left. -/
theorem encodeUtf8_eq {codepoints : List ℕ} {output : SecretBuffer}
    (hvalid : ∀ c ∈ codepoints, c.isValidChar)
    (hroom : output.bytes.length + 4 * codepoints.length ≤ output.capacity) :
    encodeUtf8 codepoints output =
      some { output with bytes := output.bytes ++ asBytes (textOf codepoints) } := by
  induction codepoints generalizing output with
  | nil => simp [encodeUtf8, textOf, asBytes]
  | cons c codepoints ih =>
    have hsize : (String.utf8EncodeChar (Char.ofNat c)).length ≤ 4 := by
      rw [String.length_utf8EncodeChar]
      exact Char.utf8Size_le_four _
    rw [List.length_cons] at hroom
    have hstep : output.extendFromSlice (String.utf8EncodeChar (Char.ofNat c)) = some
        { output with bytes := output.bytes ++ String.utf8EncodeChar (Char.ofNat c) } :=
      SecretBuffer.extendFromSlice_eq (by omega)
    have hchar : charFromU32 c = some (Char.ofNat c) := if_pos (hvalid c List.mem_cons_self)
    unfold encodeUtf8 at ih ⊢
    rw [List.foldlM_cons, hchar]
    simp only [hstep, Option.bind_eq_bind, Option.bind_some]
    rw [ih (fun c hc => hvalid c (List.mem_cons_of_mem _ hc))
      (by simp only [List.length_append]; omega)]
    rw [asBytes_textOf, asBytes_textOf, List.flatMap_cons, List.append_assoc]

/-! ## The tokens of a session -/

namespace SecretTokenBuffer

theorem length_asSlice (buffer : SecretTokenBuffer) : buffer.asSlice.length = buffer.len :=
  List.length_take_of_le buffer.len_le

theorem asSlice_push {buffer buffer' : SecretTokenBuffer} {token : UInt32}
    (h : buffer.push token = some buffer') : buffer'.asSlice = buffer.asSlice ++ [token] := by
  unfold push at h
  split at h
  · next hlt =>
    cases h
    simp only [asSlice]
    rw [List.take_add_one, List.take_set_of_le le_rfl, List.getElem?_set_self hlt]
    rfl
  · cases h

/-- Removing a token keeps only tokens that were there. -/
theorem mem_asSlice_pop {buffer : SecretTokenBuffer} {token : UInt32}
    (h : token ∈ buffer.pop.asSlice) : token ∈ buffer.asSlice := by
  unfold pop at h
  split at h
  · exact h
  · simp only [asSlice, List.take_set_of_le (le_refl (buffer.len - 1))] at h
    exact List.take_subset_take_left buffer.tokens (Nat.sub_le _ _) h

end SecretTokenBuffer

/-- Everything held came in through the policy. -/
def SecretInput.Produced (policy : InputPolicy) (input : SecretInput) : Prop :=
  ∀ token ∈ input.tokens.asSlice, policy.Produces token

namespace SecretInput

theorem Produced.new (policy : InputPolicy) : (SecretInput.new policy).Produced policy := by
  intro token htoken
  exact absurd htoken List.not_mem_nil

/-- A push adds the token of a key the policy resolves. -/
theorem Produced.push {policy : InputPolicy} {input input' : SecretInput} {keyId : KeyId}
    (h : input.push keyId = some (.ok input')) (hpolicy : input.policy = policy)
    (hproduced : input.Produced policy) : input'.Produced policy := by
  unfold SecretInput.push at h
  split at h
  · cases h
  · split at h
    · cases h
    · next resolved hresolve =>
      obtain ⟨tokens, htokens, hinput⟩ := Option.map_eq_some_iff.mp h
      cases hinput
      intro token htoken
      rw [SecretTokenBuffer.asSlice_push htokens, List.mem_append, List.mem_singleton] at htoken
      rcases htoken with htoken | rfl
      · exact hproduced token htoken
      · exact ⟨keyId, resolved, hpolicy ▸ hresolve, rfl⟩

theorem Produced.backspace {policy : InputPolicy} {input : SecretInput}
    (hproduced : input.Produced policy) : input.backspace.Produced policy :=
  fun token htoken => hproduced token (SecretTokenBuffer.mem_asSlice_pop htoken)

theorem Produced.clear (policy : InputPolicy) (input : SecretInput) :
    input.clear.Produced policy := by
  intro token htoken
  exact absurd htoken List.not_mem_nil

end SecretInput

/-- Everything a session holds came in through its policy. -/
def SecureSession.Produced (policy : InputPolicy) (session : SecureSession) : Prop :=
  ∀ input, session.input = some input → input.policy = policy ∧ input.Produced policy

namespace SecureSession

theorem Produced.of_closed {policy : InputPolicy} {session : SecureSession}
    (h : session.input = none) : session.Produced policy := by
  intro input hinput
  rw [h] at hinput
  cases hinput

theorem Produced.expireIfNeeded {policy : InputPolicy} {session : SecureSession} (now : ℕ)
    (h : session.Produced policy) : (session.expireIfNeeded now).2.Produced policy := by
  rcases expireIfNeeded_cases session now with ⟨-, hstep⟩ | ⟨-, hstep⟩
  · rw [hstep]
    exact .of_closed rfl
  · rw [hstep]
    exact h

theorem Produced.pressKey {policy : InputPolicy} {session : SecureSession} (now done : ℕ)
    (keyId : KeyId) (h : session.Produced policy) :
    (session.pressKey now done keyId).2.Produced policy := by
  have hentered := h.expireIfNeeded now
  simp only [SecureSession.pressKey]
  generalize (session.expireIfNeeded now).2 = entered at hentered ⊢
  cases hinput : entered.input with
  | none => exact hentered
  | some input =>
    obtain ⟨hpolicy, hproduced⟩ := hentered input hinput
    simp only
    cases hpush : input.push keyId with
    | none => exact hentered
    | some result =>
      cases result with
      | error e => cases e <;> exact hentered
      | ok input' =>
        intro input'' hinput''
        cases hinput''
        obtain ⟨-, -, _, -, hupdate⟩ := SecretInput.push_eq_ok hpush
        exact ⟨by rw [hupdate]; exact hpolicy, hproduced.push hpush hpolicy⟩

/-- An edit that takes no key. -/
private theorem Produced.edit {policy : InputPolicy} {session : SecureSession}
    {input' : SecretInput} (state : DisplayState) (done : ℕ)
    (hpolicy : input'.policy = policy) (hproduced : input'.Produced policy) :
    ({ session with input := some input', state, lastActivity := done } :
      SecureSession).Produced policy := by
  intro input'' hinput''
  cases hinput''
  exact ⟨hpolicy, hproduced⟩

/-- **No call brings in a token the policy does not produce.** -/
theorem Produced.apply {policy : InputPolicy} {session : SecureSession} (now done : ℕ)
    (op : SessionOp) (h : session.Produced policy) :
    (session.apply now done op).2.Produced policy := by
  have hentered := h.expireIfNeeded now
  -- Every call first lets an expired session close; what it then edits was made by the policy.
  cases op with
  | pressKey keyId => exact h.pressKey now done keyId
  | backspace =>
    simp only [SecureSession.apply, SecureSession.backspace]
    cases hinput : (session.expireIfNeeded now).2.input with
    | none => exact hentered
    | some input =>
      obtain ⟨hpolicy, hproduced⟩ := hentered input hinput
      exact .edit _ _ hpolicy hproduced.backspace
  | clear =>
    simp only [SecureSession.apply, SecureSession.clear]
    cases hinput : (session.expireIfNeeded now).2.input with
    | none => exact hentered
    | some input =>
      obtain ⟨hpolicy, -⟩ := hentered input hinput
      exact .edit _ _ hpolicy (.clear policy input)
  | expireIfNeeded => exact hentered
  | refresh => exact hentered
  | maskedState => exact h
  | submit =>
    simp only [SecureSession.apply, SecureSession.submit]
    cases hinput : (session.expireIfNeeded now).2.input with
    | none => exact hentered
    | some input =>
      simp only
      split
      · exact hentered
      · split <;> exact .of_closed rfl
  | cancel => exact .of_closed rfl

end SecureSession

theorem sessionAfter_produced (policy : InputPolicy) (timeout start : ℕ) (calls : List TimedOp)
    (j : ℕ) : (sessionAfter policy timeout start calls j).Produced policy := by
  refine Machine.run_invariant TimedSession.step (P := fun timed => timed.session.Produced policy)
    (fun timed _ hproduced => hproduced.apply _ _ _) ?_ (calls.take j)
  intro input hinput
  cases hinput
  exact ⟨rfl, .new policy⟩

/-! ## What `submit` seals -/

/-- The shown length of an open session is that of its rendered text. -/
theorem SecureSession.maskedState_length {session : SecureSession} {input : SecretInput}
    (h : session.input = some input) :
    session.maskedState.length = (textOf (render input.tokens.asSlice)).length := by
  rw [maskedState, h, length_textOf]
  rfl

/-- **What `submit` seals**: the encoding of the whole rendered text, in the capacity provisioned
    for it. -/
theorem SecureSession.submit_text {policy : InputPolicy} {session : SecureSession}
    {input : SecretInput} {now : ℕ} (hproduced : session.Produced policy)
    (hinput : session.input = some input) (hne : input.isEmpty = false)
    (hlen : input.tokens.len ≤ maxInputTokens) (hnow : session.isExpired now = false) :
    (session.submit now).1 = .sealed (.ok ⟨asBytes (textOf (render input.tokens.asSlice)),
      4 * (render input.tokens.asSlice).length⟩) := by
  have hstep : session.expireIfNeeded now = (false, session) := by
    rw [expireIfNeeded, hnow]
    rfl
  obtain ⟨-, htokens⟩ := hproduced input hinput
  have hbound := (render_length_bounds htokens).1
  rw [SecretTokenBuffer.length_asSlice] at hbound
  -- Four bytes for each of at most 4096 characters: the multiplication does not saturate.
  have hcapacity : saturatingMulUsize (render input.tokens.asSlice).length 4 =
      4 * (render input.tokens.asSlice).length := by
    have hsmall := hbound.trans hlen
    rw [maxInputTokens] at hsmall
    rw [saturatingMulUsize]
    omega
  have hbuffer : input.intoSecretBuffer = some ⟨asBytes (textOf (render input.tokens.asSlice)),
      4 * (render input.tokens.asSlice).length⟩ := by
    simp only [SecretInput.intoSecretBuffer, SecretBuffer.withCapacity, hcapacity]
    rw [encodeUtf8_eq (render_isValidChar htokens) (by simp)]
    rfl
  simp only [submit, hstep, hinput, hne, hbuffer]
  rfl

/-- The buffer holds no more than its capacity. -/
theorem length_asBytes_textOf_le (codepoints : List ℕ) :
    (asBytes (textOf codepoints)).length ≤ 4 * codepoints.length := by
  rw [asBytes_textOf]
  induction codepoints with
  | nil => exact le_rfl
  | cons c codepoints ih =>
    have hsize : (String.utf8EncodeChar (Char.ofNat c)).length ≤ 4 := by
      rw [String.length_utf8EncodeChar]
      exact Char.utf8Size_le_four _
    rw [List.flatMap_cons, List.length_append, List.length_cons]
    omega

/-- Decoding the bytes of a text gives the text back. -/
theorem fromUTF8?_asBytes (text : String) :
    String.fromUTF8? ⟨(asBytes text).toArray⟩ = some text :=
  dif_pos text.isValidUTF8

end SecureKeypad.Core
