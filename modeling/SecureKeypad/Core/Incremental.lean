import SecureKeypad.Core.SubmissionText
import SecureKeypad.Library.Scan

/-!
# Key Presses Are Incremental (`secure-core`)

The composer renders the whole token list again after every key press. It is a greedy scan that
looks one token past what it takes, so that a new last token can only join the last displayed
character or stand behind it: nothing before that character ever changes, a key press lengthens
the masked text by at most one character, and removing a token shortens it by at most one.

## Main results

- `keyStep_oneAhead`: a round of the loop looks one token past what it takes
- `render_scans`: the loop is the scan by such rounds
- `render_incremental`: key presses and backspaces, in every run of a session
-/

namespace SecureKeypad.Core

open Rust

/-! ## The lookahead of a round -/

private theorem combinedVowel_congr {xs ys : List UInt32} {k n : ℕ} {v v' : UInt8}
    (h : combinedVowel ys k v = (v', n)) (hagrees : Scan.Agrees xs ys (k + n)) :
    combinedVowel xs k v = (v', n) := by
  obtain ⟨htaken, hnext⟩ := hagrees
  unfold combinedVowel at h ⊢
  cases hsecond : ys[k + 1]?.bind vowel with
  | none =>
    rw [hsecond] at h
    cases h
    -- One vowel was taken: the token behind it is the lookahead.
    rcases hnext with hsame | hend
    · rw [hsame, hsecond]
    · rw [hend]
      rfl
  | some second =>
    rw [hsecond] at h
    cases htable : vowelTable v second with
    | none =>
      simp only [htable] at h
      cases h
      rcases hnext with hsame | hend
      · rw [hsame, hsecond]
        simp only [htable]
      · rw [hend]
        rfl
    | some combined =>
      simp only [htable] at h
      cases h
      rw [htaken (k + 1) (by omega), hsecond]
      simp only [htable]

private theorem trailingAt_congr {xs ys : List UInt32} {k n : ℕ} {t : UInt8}
    (h : trailingAt ys k = (t, n)) (hagrees : Scan.Agrees xs ys (k + n)) :
    trailingAt xs k = (t, n) := by
  obtain ⟨htaken, hnext⟩ := hagrees
  unfold trailingAt at h ⊢
  -- The tail has no jamo, one, or two that combine; `xs` agrees on what was read.
  cases hfirst : ys[k]?.bind trailing with
  | none =>
    rw [hfirst] at h
    cases h
    rcases hnext with hsame | hend
    · rw [Nat.add_zero] at hsame
      rw [hsame, hfirst]
    · rw [Nat.add_zero] at hend
      rw [hend]
      rfl
  | some first =>
    rw [hfirst] at h
    cases hsecond : ys[k + 1]?.bind trailing with
    | none =>
      simp only [hsecond] at h
      cases h
      rw [htaken k (by omega), hfirst]
      rcases hnext with hsame | hend
      · simp only [hsame, hsecond]
      · simp only [hend, Option.bind_none]
    | some second =>
      cases htable : combineTrailing first second with
      | none =>
        simp only [hsecond, htable] at h
        cases h
        rw [htaken k (by omega), hfirst]
        rcases hnext with hsame | hend
        · simp only [hsame, hsecond, htable]
        · simp only [hend, Option.bind_none]
      | some combined =>
        simp only [hsecond, htable] at h
        cases h
        simp only [htaken k (by omega), htaken (k + 1) (by omega), hfirst, hsecond, htable]

theorem combinedVowel_width_pos (tokens : List UInt32) (k : ℕ) (v : UInt8) :
    0 < (combinedVowel tokens k v).2 := by
  unfold combinedVowel
  split
  · exact Nat.one_pos
  · split
    · exact Nat.two_pos
    · exact Nat.one_pos

/-- A round that starts with a token that is no leading consonant reads that token only. -/
private theorem renderStep_of_not_leading {xs ys : List UInt32} (hfirst : xs[0]? = ys[0]?)
    (hlead : ys[0]?.bind leading = none) : renderStep xs 0 = renderStep ys 0 := by
  simp only [renderStep, hfirst, hlead]

/-- A round depends on the tokens it takes and on the next one. -/
theorem renderStep_congr {xs ys : List UInt32}
    (hagrees : Scan.Agrees xs ys (renderStep ys 0).2) : renderStep xs 0 = renderStep ys 0 := by
  -- A round reads as many tokens as it consumes, and at most one behind them.
  cases hlead : ys[0]?.bind leading with
  | none =>
    have hwidth : 0 < (renderStep ys 0).2 := by
      simp only [renderStep, hlead]
      repeat' split
      all_goals exact Nat.one_pos
    exact renderStep_of_not_leading (hagrees.1 0 hwidth) hlead
  | some lead =>
    cases hvowel : ys[0 + 1]?.bind vowel with
    | none =>
      have hstep : renderStep ys 0 = ([0x1100 + lead.toNat], 1) := by
        simp only [renderStep, hlead, hvowel]
      rw [hstep] at hagrees ⊢
      have hleadx : xs[0]?.bind leading = some lead := by
        rw [hagrees.1 0 Nat.one_pos, hlead]
      -- Behind a lone consonant the lists agree, or `xs` ends.
      have hvowelx : xs[0 + 1]?.bind vowel = none := by
        rcases hagrees.2 with hsame | hend
        · rw [hsame, hvowel]
        · rw [hend, Option.bind_none]
      simp only [renderStep, hleadx, hvowelx]
    | some first =>
      cases hcombined : combinedVowel ys (0 + 1) first with
      | mk v n =>
        cases htrailing : trailingAt ys (0 + 1 + n) with
        | mk t m =>
          have hpos : 0 < n := by
            have hwidth := combinedVowel_width_pos ys (0 + 1) first
            rwa [hcombined] at hwidth
          have hstep : renderStep ys 0 =
              ([0xAC00 + (lead.toNat * 21 + v.toNat) * 28 + t.toNat], 1 + n + m) := by
            simp only [renderStep, hlead, hvowel, hcombined, htrailing]
          rw [hstep] at hagrees ⊢
          have hleadx : xs[0]?.bind leading = some lead := by
            rw [hagrees.1 0 (by omega), hlead]
          have hvowelx : xs[0 + 1]?.bind vowel = some first := by
            rw [hagrees.1 (0 + 1) (by omega), hvowel]
          have hcombinedx := combinedVowel_congr hcombined (hagrees.of_le (by omega))
          have htrailingx := trailingAt_congr htrailing (hagrees.of_le (by omega))
          simp only [renderStep, hleadx, hvowelx, hcombinedx, htrailingx]

/-! ## The loop is a scan -/

/-- A round of `render` on keys. -/
def keyStep (keys : List ResolvedKey) : List ℕ × ℕ := renderStep (keys.map encodeKey) 0

/-- What a round does to keys, from the chunk it cuts off. -/
theorem keyStep_cons (key : ResolvedKey) (tail : List ResolvedKey) :
    ∃ c, (keyStep (key :: tail)).1 = [c] ∧ 0 < (keyStep (key :: tail)).2 ∧
      (keyStep (key :: tail)).2 ≤ (key :: tail).length := by
  obtain ⟨consumed, rest, c, hsplit, hstep, hchunk⟩ := renderStep_chunk key tail
  rw [keyStep, hstep]
  refine ⟨c, rfl, hchunk.length_pos, ?_⟩
  rw [hsplit, List.length_append]
  exact Nat.le_add_right _ _

/-- **A round looks one token past what it takes.** -/
theorem keyStep_oneAhead : Scan.OneAhead keyStep where
  pos := by
    intro keys hne
    obtain ⟨key, tail, rfl⟩ := List.exists_cons_of_ne_nil hne
    obtain ⟨-, -, hpos, -⟩ := keyStep_cons key tail
    exact hpos
  le := by
    intro keys hne
    obtain ⟨key, tail, rfl⟩ := List.exists_cons_of_ne_nil hne
    obtain ⟨-, -, -, hle⟩ := keyStep_cons key tail
    exact hle
  single := by
    intro keys hne
    obtain ⟨key, tail, rfl⟩ := List.exists_cons_of_ne_nil hne
    obtain ⟨c, hc, -, -⟩ := keyStep_cons key tail
    exact ⟨c, hc⟩
  congr := by
    intro xs ys hagrees
    apply renderStep_congr
    obtain ⟨htaken, hnext⟩ := hagrees
    constructor
    · intro i hi
      rw [List.getElem?_map, List.getElem?_map, htaken i hi]
    · rw [List.getElem?_map, List.getElem?_map]
      rcases hnext with hsame | hend
      · exact .inl (congrArg _ hsame)
      · exact .inr (congrArg _ hend)

private theorem renderLoop_scans (keys : List ResolvedKey) (rounds index : ℕ)
    (rendered : List ℕ) (hrounds : keys.length ≤ rounds + index) :
    ∃ out, renderLoop (keys.map encodeKey) rounds index rendered = rendered ++ out ∧
      Scan.Scans keyStep (keys.drop index) out := by
  induction rounds generalizing index rendered with
  | zero =>
    have hdone : keys.drop index = [] := List.drop_eq_nil_of_le (by omega)
    exact ⟨[], (List.append_nil _).symm, hdone ▸ .nil⟩
  | succ rounds ih =>
    rw [renderLoop, List.length_map]
    split
    · next hlt =>
      have hne : keys.drop index ≠ [] := mt List.drop_eq_nil_iff.mp (by omega)
      have hpos := keyStep_oneAhead.pos _ hne
      rw [renderStep_drop, ← List.map_drop]
      change ∃ out, renderLoop _ rounds (index + (keyStep (keys.drop index)).2)
        (rendered ++ (keyStep (keys.drop index)).1) = _ ∧ _
      obtain ⟨out, hout, hscans⟩ := ih (index + (keyStep (keys.drop index)).2)
        (rendered ++ (keyStep (keys.drop index)).1) (by omega)
      rw [← List.drop_drop] at hscans
      exact ⟨_, by rw [hout, List.append_assoc], .cons hne hscans⟩
    · next hge =>
      have hdone : keys.drop index = [] := List.drop_eq_nil_of_le (by omega)
      exact ⟨[], (List.append_nil _).symm, hdone ▸ .nil⟩

/-- `render` scans the keys round by round. -/
theorem render_scans (keys : List ResolvedKey) :
    Scan.Scans keyStep keys (render (keys.map encodeKey)) := by
  obtain ⟨out, hout, hscans⟩ := renderLoop_scans keys keys.length 0 [] (Nat.le_refl _)
  rw [render, List.length_map, hout, List.nil_append]
  rwa [List.drop_zero] at hscans

/-! ## One more token -/

/-- The token is one that `encode_key` produces. -/
def IsKeyToken (token : UInt32) : Prop := ∃ key, token = encodeKey key

/-- `after` is `before` with one more character behind it or with its last character replaced. -/
def ExtendsLast (before after : List ℕ) : Prop :=
  ∃ c, after = before ++ [c] ∨ (before ≠ [] ∧ after = before.dropLast ++ [c])

theorem ExtendsLast.length_eq {before after : List ℕ} (h : ExtendsLast before after) :
    after.length = before.length ∨ after.length = before.length + 1 := by
  obtain ⟨c, rfl | ⟨hne, rfl⟩⟩ := h
  · exact .inr List.length_append
  · left
    have hpos := List.length_pos_iff.mpr hne
    rw [List.length_append, List.length_dropLast, List.length_singleton]
    omega

/-- In front of the last character both texts are the same. -/
theorem ExtendsLast.dropLast_prefix {before after : List ℕ} (h : ExtendsLast before after) :
    before.dropLast <+: after ∧ after.dropLast <+: before := by
  obtain ⟨c, rfl | ⟨-, rfl⟩⟩ := h
  · rw [List.dropLast_concat]
    exact ⟨(List.dropLast_prefix _).trans (List.prefix_append _ _), List.prefix_refl _⟩
  · rw [List.dropLast_concat]
    exact ⟨List.prefix_append _ _, List.dropLast_prefix _⟩

theorem exists_keys_of_isKeyToken {tokens : List UInt32} (h : ∀ token ∈ tokens, IsKeyToken token) :
    ∃ keys : List ResolvedKey, tokens = keys.map encodeKey := by
  obtain ⟨keys, htokens, -⟩ := exists_keys_of_produced (P := fun _ => True) fun token htoken => by
    obtain ⟨key, hkey⟩ := h token htoken
    exact ⟨key, trivial, hkey⟩
  exact ⟨keys, htokens⟩

/-- **One more key token extends the text by a character or replaces its last one.** -/
theorem render_snoc {tokens : List UInt32} {token : UInt32}
    (htokens : ∀ t ∈ tokens, IsKeyToken t) (htoken : IsKeyToken token) :
    ExtendsLast (render tokens) (render (tokens ++ [token])) := by
  obtain ⟨keys, rfl⟩ := exists_keys_of_isKeyToken htokens
  obtain ⟨key, rfl⟩ := htoken
  have hscan := render_scans (keys ++ [key])
  rw [List.map_append] at hscan
  exact keyStep_oneAhead.scans_snoc (render_scans keys) hscan

theorem render_bounds {tokens : List UInt32} (htokens : ∀ t ∈ tokens, IsKeyToken t) :
    (render tokens).length ≤ tokens.length ∧ (tokens ≠ [] → render tokens ≠ []) := by
  obtain ⟨keys, rfl⟩ := exists_keys_of_isKeyToken htokens
  refine ⟨by rw [List.length_map]; exact (render_chunks keys).length_le, ?_⟩
  intro hne
  exact keyStep_oneAhead.scans_ne_nil (render_scans keys) fun hkeys => hne (by rw [hkeys]; rfl)

/-! ## Key presses in a session -/

/-- Removing a token drops the last one in use. -/
theorem SecretTokenBuffer.asSlice_pop (buffer : SecretTokenBuffer) :
    buffer.pop.asSlice = buffer.asSlice.dropLast := by
  unfold pop
  split
  · next hzero => simp [asSlice, hzero]
  · next hpos =>
    simp only [asSlice, List.take_set_of_le (le_refl (buffer.len - 1))]
    rw [List.dropLast_eq_take, List.length_take_of_le buffer.len_le, List.take_take,
      Nat.min_eq_left (Nat.sub_le _ _)]

/-- The characters behind the mask. -/
def SecureSession.rendered (session : SecureSession) : List ℕ :=
  session.input.elim [] fun input => render input.tokens.asSlice

theorem SecureSession.maskedState_length_eq (session : SecureSession) :
    session.maskedState.length = session.rendered.length := by
  unfold maskedState rendered
  cases session.input with
  | none => rfl
  | some input => rfl

/-- A key press that is accepted finds an open session and pushes its key. -/
theorem SecureSession.exists_push_of_accepted {session : SecureSession} {now done : ℕ}
    {keyId : KeyId} (h : (session.apply now done (.pressKey keyId)).1.isEdit = true) :
    ∃ input input', session.input = some input ∧ input.push keyId = some (.ok input') ∧
      (session.apply now done (.pressKey keyId)).2.input = some input' := by
  rcases expireIfNeeded_cases session now with ⟨-, hstep⟩ | ⟨-, hstep⟩
  · simp only [apply, pressKey, hstep, cancel] at h
    cases h
  · cases hinput : session.input with
    | none =>
      simp only [apply, pressKey, hstep, hinput] at h
      cases h
    | some input =>
      cases hpush : input.push keyId with
      | none =>
        simp only [apply, pressKey, hstep, hinput, hpush] at h
        cases h
      | some result =>
        cases result with
        | error e =>
          cases e <;> (simp only [apply, pressKey, hstep, hinput, hpush] at h; cases h)
        | ok input' =>
          refine ⟨input, input', rfl, hpush, ?_⟩
          simp only [apply, pressKey, hstep, hinput, hpush]

/-- A backspace that is accepted finds an open session and removes its last token. -/
theorem SecureSession.exists_input_of_backspace {session : SecureSession} {now done : ℕ}
    (h : (session.apply now done .backspace).1.isEdit = true) :
    ∃ input, session.input = some input ∧
      (session.apply now done .backspace).2.input = some input.backspace := by
  rcases expireIfNeeded_cases session now with ⟨-, hstep⟩ | ⟨-, hstep⟩
  · simp only [apply, SecureSession.backspace, hstep, cancel] at h
    cases h
  · cases hinput : session.input with
    | none =>
      simp only [apply, SecureSession.backspace, hstep, hinput] at h
      cases h
    | some input =>
      refine ⟨input, rfl, ?_⟩
      simp only [apply, SecureSession.backspace, hstep, hinput]

theorem SecureSession.Produced.isKeyToken {policy : InputPolicy} {session : SecureSession}
    {input : SecretInput} (h : session.Produced policy) (hinput : session.input = some input) :
    ∀ token ∈ input.tokens.asSlice, IsKeyToken token := by
  intro token htoken
  obtain ⟨-, key, -, hkey⟩ := (h input hinput).2 token htoken
  exact ⟨key, hkey⟩

/-- An accepted key press extends the text by a character or replaces its last one. -/
theorem SecureSession.rendered_pressKey {policy : InputPolicy} {session : SecureSession}
    {now done : ℕ} {keyId : KeyId} (hproduced : session.Produced policy)
    (h : (session.apply now done (.pressKey keyId)).1.isEdit = true) :
    ExtendsLast session.rendered (session.apply now done (.pressKey keyId)).2.rendered := by
  obtain ⟨input, input', hinput, hpush, hafter⟩ := exists_push_of_accepted h
  obtain ⟨-, token, tokens, htokens, rfl⟩ := SecretInput.push_eq_ok hpush
  have hslice := SecretTokenBuffer.asSlice_push htokens
  have hkeys := (hproduced.apply now done (.pressKey keyId)).isKeyToken hafter
  simp only [hslice, List.mem_append, List.mem_singleton] at hkeys
  rw [rendered, rendered, hinput, hafter, Option.elim_some, Option.elim_some, hslice]
  exact render_snoc (fun t ht => hkeys t (.inl ht)) (hkeys token (.inr rfl))

/-- An accepted backspace takes back what one key press did, or finds no text. -/
theorem SecureSession.rendered_backspace {policy : InputPolicy} {session : SecureSession}
    {now done : ℕ} (hproduced : session.Produced policy)
    (h : (session.apply now done .backspace).1.isEdit = true) :
    (session.rendered = [] ∧ (session.apply now done .backspace).2.rendered = []) ∨
      ExtendsLast (session.apply now done .backspace).2.rendered session.rendered := by
  obtain ⟨input, hinput, hafter⟩ := exists_input_of_backspace h
  have hkeys := hproduced.isKeyToken hinput
  rw [rendered, rendered, hinput, hafter, Option.elim_some, Option.elim_some,
    SecretInput.backspace, SecretTokenBuffer.asSlice_pop]
  rcases List.eq_nil_or_concat input.tokens.asSlice with hnil | ⟨tokens, token, hsnoc⟩
  · rw [hnil]
    exact .inl ⟨rfl, rfl⟩
  · right
    rw [List.concat_eq_append] at hsnoc
    rw [hsnoc] at hkeys ⊢
    simp only [List.mem_append, List.mem_singleton] at hkeys
    rw [List.dropLast_concat]
    exact render_snoc (fun t ht => hkeys t (.inl ht)) (hkeys token (.inr rfl))

section Run

variable (policy : InputPolicy) (timeout start : ℕ) (calls : List TimedOp)

/-- **Key presses are incremental.** For tokens of `encode_key`, one more token extends the
    rendered text by a character or replaces its last one, and the text never has more characters
    than there are tokens nor is empty for a nonempty list. In every run of a session, therefore,
    an accepted key press lengthens the masked text by 0 or 1, an accepted backspace shortens it
    by 0 or 1, and neither changes anything before the last displayed character. -/
theorem render_incremental :
    (∀ (tokens : List UInt32) (token : UInt32), (∀ t ∈ tokens, IsKeyToken t) →
      IsKeyToken token → ExtendsLast (render tokens) (render (tokens ++ [token]))) ∧
    (∀ tokens : List UInt32, (∀ t ∈ tokens, IsKeyToken t) →
      (render tokens).length ≤ tokens.length ∧ (tokens ≠ [] → render tokens ≠ [])) ∧
    (∀ (j : ℕ) (call : TimedOp) (reply : SessionReply),
      (sessionTrace policy timeout start calls)[j]? = some (call, reply) →
      reply.answer.isEdit = true →
      let before := sessionAfter policy timeout start calls j
      let after := sessionAfter policy timeout start calls (j + 1)
      (∀ keyId, call.op = .pressKey keyId →
        (after.maskedState.length = before.maskedState.length ∨
          after.maskedState.length = before.maskedState.length + 1) ∧
        before.rendered.dropLast <+: after.rendered) ∧
      (call.op = .backspace →
        (after.maskedState.length = before.maskedState.length ∨
          after.maskedState.length + 1 = before.maskedState.length) ∧
        before.rendered.dropLast <+: after.rendered ∧
        after.rendered.dropLast <+: before.rendered)) := by
  refine ⟨fun tokens token => render_snoc, fun tokens => render_bounds, ?_⟩
  intro j call reply hget hedit before after
  -- The tokens of a session that runs were made by keys of its policy.
  have hproduced := sessionAfter_produced policy timeout start calls j
  have happly := sessionTrace_effect hget
  have hanswer : (before.apply reply.issuedAt reply.completedAt call.op).1.isEdit = true := by
    rw [happly]
    exact hedit
  have hafter : (before.apply reply.issuedAt reply.completedAt call.op).2 = after := by
    rw [happly]
  simp only [SecureSession.maskedState_length_eq]
  constructor
  · intro keyId hop
    rw [hop] at hanswer hafter
    -- A key extends the last character or adds one.
    have hextends := SecureSession.rendered_pressKey hproduced hanswer
    rw [hafter] at hextends
    exact ⟨hextends.length_eq, hextends.dropLast_prefix.1⟩
  · intro hop
    rw [hop] at hanswer hafter
    -- Taking the last token away is the same step read backwards.
    have hback := SecureSession.rendered_backspace hproduced hanswer
    rw [hafter] at hback
    rcases hback with ⟨hbefore, hnil⟩ | hextends
    · change before.rendered = [] at hbefore
      rw [hbefore, hnil]
      exact ⟨.inl rfl, List.prefix_refl _, List.prefix_refl _⟩
    · refine ⟨?_, hextends.dropLast_prefix.2, hextends.dropLast_prefix.1⟩
      rcases hextends.length_eq with hsame | hmore
      · exact .inl hsame.symm
      · exact .inr hmore.symm

/-- ㄱ, ㅗ, ㅐ and a backspace: the vowel joins the consonant, the second vowel the first, and the
    backspace takes the second vowel out of the syllable again. -/
theorem render_incremental_syllable :
    let policy := InputPolicy.hangul 8
    let calls : List TimedOp := [⟨.pressKey ⟨"jamo-giyeok"⟩, 0, 0⟩, ⟨.pressKey ⟨"vowel-o"⟩, 0, 0⟩,
      ⟨.pressKey ⟨"vowel-ae"⟩, 0, 0⟩, ⟨.backspace, 0, 0⟩]
    ([0, 1, 2, 3, 4].map fun j => (sessionAfter policy 60 0 calls j).rendered) =
        [[], [0x1100], [0xACE0], [0xAD18], [0xACE0]] ∧
      ((sessionAfter policy 60 0 calls 4).maskedState.length =
          (sessionAfter policy 60 0 calls 3).maskedState.length ∨
        (sessionAfter policy 60 0 calls 4).maskedState.length + 1 =
          (sessionAfter policy 60 0 calls 3).maskedState.length) := by
  intro policy calls
  obtain ⟨-, -, hrun⟩ := render_incremental policy 60 0 calls
  refine ⟨by decide +kernel, ?_⟩
  obtain ⟨-, hback⟩ := hrun 3 ⟨.backspace, 0, 0⟩ ⟨0, 0, .edited (.ok ())⟩ rfl rfl
  exact (hback rfl).1

end Run

end SecureKeypad.Core
