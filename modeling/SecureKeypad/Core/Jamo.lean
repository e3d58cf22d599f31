import SecureKeypad.Core.Composer

/-!
# What the Composer Preserves

What the Hangul composer is for, stated without it. A key token and a rendered code point each
spell a list of basic jamo, compound vowels and trailing consonants taken apart; rendering
spells the same jamo as the keys. And the rendered text is in normalization form C, so the
verifier may normalize or not.

## Main results

- `render_conserves_jamo`: no jamo is lost, duplicated or reordered
- `render_is_nfc`: the output for Hangul keys is in normalization form C
-/

namespace SecureKeypad.Core

open Rust

/-! ## Basic jamo -/

/-- A basic jamo, or any other character by its code point. -/
inductive Jamo where
  | leading (index : UInt8)
  | vowel (index : UInt8)
  | trailing (index : UInt8)
  | plain (codePoint : ℕ)
deriving DecidableEq

/-- The components of a compound vowel. -/
def splitVowel : UInt8 → Option (UInt8 × UInt8)
  | 1 => some (0, 20)
  | 3 => some (2, 20)
  | 9 => some (8, 0)
  | 10 => some (8, 1)
  | 11 => some (8, 20)
  | 14 => some (13, 4)
  | 15 => some (13, 5)
  | 16 => some (13, 20)
  | 19 => some (18, 20)
  | _ => none

/-- The components of a compound trailing consonant. -/
def splitTrailing : UInt8 → Option (UInt8 × UInt8)
  | 3 => some (1, 19)
  | 5 => some (4, 22)
  | 6 => some (4, 27)
  | 9 => some (8, 1)
  | 10 => some (8, 16)
  | 11 => some (8, 17)
  | 12 => some (8, 19)
  | 13 => some (8, 25)
  | 14 => some (8, 26)
  | 15 => some (8, 27)
  | 18 => some (17, 19)
  | _ => none

/-- The compound vowels are exactly the entries of the vowel table. -/
theorem splitVowel_eq_some_iff {c a b : UInt8} :
    splitVowel c = some (a, b) ↔ vowelTable a b = some c := by
  constructor
  · intro h
    unfold splitVowel at h
    split at h <;> cases h <;> rfl
  · intro h
    unfold vowelTable at h
    split at h <;> cases h <;> rfl

/-- The compound trailing consonants are exactly the entries of the trailing table. -/
theorem splitTrailing_eq_some_iff {c a b : UInt8} :
    splitTrailing c = some (a, b) ↔ combineTrailing a b = some c := by
  constructor
  · intro h
    unfold splitTrailing at h
    split at h <;> cases h <;> rfl
  · intro h
    unfold combineTrailing at h
    split at h <;> cases h <;> rfl

/-- Replace a compound index by its components, `depth` times over. -/
def expandIndex (split : UInt8 → Option (UInt8 × UInt8)) : ℕ → UInt8 → List UInt8
  | 0, index => [index]
  | depth + 1, index =>
    match split index with
    | some (a, b) => expandIndex split depth a ++ expandIndex split depth b
    | none => [index]

/-- The basic vowels of a vowel. -/
def expandVowel (index : UInt8) : List UInt8 := expandIndex splitVowel 2 index

/-- The basic consonants of a trailing consonant. -/
def expandTrailing (index : UInt8) : List UInt8 := expandIndex splitTrailing 1 index

/-- The vowel expansion is complete: it satisfies the recursion without a depth. -/
theorem expandVowel_eq (index : UInt8) :
    expandVowel index = match splitVowel index with
      | some (a, b) => expandVowel a ++ expandVowel b
      | none => [index] := by
  unfold expandVowel
  conv_lhs => rw [expandIndex]
  cases hsplit : splitVowel index with
  | none => rfl
  | some pair =>
    unfold splitVowel at hsplit
    split at hsplit <;> cases hsplit <;> rfl

/-- The trailing expansion is complete. -/
theorem expandTrailing_eq (index : UInt8) :
    expandTrailing index = match splitTrailing index with
      | some (a, b) => expandTrailing a ++ expandTrailing b
      | none => [index] := by
  unfold expandTrailing
  conv_lhs => rw [expandIndex]
  cases hsplit : splitTrailing index with
  | none => rfl
  | some pair =>
    unfold splitTrailing at hsplit
    split at hsplit <;> cases hsplit <;> rfl

/-- The basic jamo of a resolved key. -/
def expandKey : ResolvedKey → List Jamo
  | .leading l => [.leading l]
  | .vowel v => (expandVowel v).map .vowel
  | .trailing t => (expandTrailing t).map .trailing
  | .digit d => [.plain (0x30 + d).toNat]
  | .ascii a => [.plain a.toNat]

/-- The basic jamo of a token; a token of no key spells nothing. -/
def expand (token : UInt32) : List Jamo :=
  match leading token, vowel token, trailing token, digit token, ascii token with
  | some l, _, _, _, _ => expandKey (.leading l)
  | none, some v, _, _, _ => expandKey (.vowel v)
  | none, none, some t, _, _ => expandKey (.trailing t)
  | none, none, none, some d, _ => expandKey (.digit d)
  | none, none, none, none, some a => expandKey (.ascii a)
  | none, none, none, none, none => []

/-- The basic jamo of a code point that is not a syllable. -/
def expandJamo (c : ℕ) : List Jamo :=
  if Hangul.IsLeading c then [.leading (UInt8.ofNat (c - Hangul.lBase))]
  else if Hangul.IsVowel c then (expandVowel (UInt8.ofNat (c - Hangul.vBase))).map .vowel
  else if Hangul.IsTrailing c then (expandTrailing (UInt8.ofNat (c - Hangul.tBase))).map .trailing
  else [.plain c]

/-- The basic jamo of a rendered code point, a syllable by its canonical decomposition. -/
def expandOut (c : ℕ) : List Jamo := (Hangul.decompose c).flatMap expandJamo

@[simp] theorem expand_encodeKey (key : ResolvedKey) : expand (encodeKey key) = expandKey key := by
  cases key <;> simp [expand]

theorem flatMap_expand_map (keys : List ResolvedKey) :
    (keys.map encodeKey).flatMap expand = keys.flatMap expandKey := by
  rw [List.flatMap_map]
  simp only [expand_encodeKey]

/-! ## Conservation, chunk by chunk -/

theorem VowelPart.expands {vs : List ResolvedKey} {v : UInt8} (h : VowelPart vs v)
    (hrange : ∀ key ∈ vs, key.InRange) :
    vs.flatMap expandKey = (expandVowel v).map .vowel ∧ v.toNat < Hangul.vCount := by
  cases h with
  | one v =>
    have hv : (ResolvedKey.vowel v).InRange := hrange _ List.mem_cons_self
    exact ⟨List.append_nil _, UInt8.lt_iff_toNat_lt.mp hv⟩
  | two htable =>
    rw [expandVowel_eq, splitVowel_eq_some_iff.mpr htable]
    refine ⟨by simp [expandKey], ?_⟩
    unfold vowelTable at htable
    split at htable <;> cases htable <;> decide

theorem TrailingPart.expands {ts : List ResolvedKey} {t : UInt8} (h : TrailingPart ts t)
    (hrange : ∀ key ∈ ts, key.InRange) :
    (ts.flatMap expandKey = if t.toNat = 0 then [] else (expandTrailing t).map .trailing) ∧
      t.toNat < Hangul.tCount ∧ (t.toNat = 0 → ts = []) := by
  cases h with
  | none => exact ⟨rfl, by decide, fun _ => rfl⟩
  | one t =>
    have ht : (ResolvedKey.trailing t).InRange := hrange _ List.mem_cons_self
    obtain ⟨hlow, hhigh⟩ := ht
    rw [UInt8.le_iff_toNat_le] at hlow hhigh
    have hpos : t.toNat ≠ 0 := Nat.ne_of_gt hlow
    exact ⟨by simp [expandKey, hpos], Nat.lt_succ_of_le hhigh, fun h => absurd h hpos⟩
  | two htable =>
    rw [expandTrailing_eq, splitTrailing_eq_some_iff.mpr htable]
    have hbounds : t.toNat ≠ 0 ∧ t.toNat < Hangul.tCount := by
      unfold combineTrailing at htable
      split at htable <;> cases htable <;> decide
    exact ⟨by simp [expandKey, hbounds.1], hbounds.2, fun h => absurd h hbounds.1⟩

private theorem expandJamo_leading {l : UInt8} (hl : l.toNat < Hangul.lCount) :
    expandJamo (Hangul.lBase + l.toNat) = [.leading l] := by
  rw [expandJamo, if_pos (Hangul.isLeading_add hl), Nat.add_sub_cancel_left, UInt8.ofNat_toNat]

private theorem expandJamo_vowel {v : UInt8} (hv : v.toNat < Hangul.vCount) :
    expandJamo (Hangul.vBase + v.toNat) = (expandVowel v).map .vowel := by
  have hnot : ¬ Hangul.IsLeading (Hangul.vBase + v.toNat) := by
    simp only [Hangul.IsLeading, Hangul.lBase, Hangul.lCount, Hangul.vBase]
    omega
  rw [expandJamo, if_neg hnot, if_pos (Hangul.isVowel_add hv), Nat.add_sub_cancel_left,
    UInt8.ofNat_toNat]

private theorem expandJamo_trailing {t : UInt8} (hpos : 0 < t.toNat)
    (ht : t.toNat < Hangul.tCount) :
    expandJamo (Hangul.tBase + t.toNat) = (expandTrailing t).map .trailing := by
  have hleading : ¬ Hangul.IsLeading (Hangul.tBase + t.toNat) := by
    simp only [Hangul.IsLeading, Hangul.lBase, Hangul.lCount, Hangul.tBase]
    omega
  have hvowel : ¬ Hangul.IsVowel (Hangul.tBase + t.toNat) := by
    simp only [Hangul.IsVowel, Hangul.vBase, Hangul.vCount, Hangul.tBase]
    omega
  rw [expandJamo, if_neg hleading, if_neg hvowel, if_pos (Hangul.isTrailing_add hpos ht),
    Nat.add_sub_cancel_left, UInt8.ofNat_toNat]

/-- A code point outside the syllable block spells what it is. -/
private theorem expandOut_of_not_syllable {c : ℕ} (h : ¬ Hangul.IsSyllable c) :
    expandOut c = expandJamo c := by
  rw [expandOut, Hangul.decompose_of_not_syllable h, List.flatMap_singleton]

private theorem not_isSyllable_of_lt {c : ℕ} (h : c < Hangul.sBase) : ¬ Hangul.IsSyllable c :=
  fun hc => absurd hc.1 (Nat.not_le_of_lt h)

/-- A code point below the jamo block spells itself. -/
private theorem expandOut_plain {c : ℕ} (h : c < Hangul.lBase) : expandOut c = [.plain c] := by
  have hsyllable : ¬ Hangul.IsSyllable c := by
    simp only [Hangul.IsSyllable, Hangul.sBase, Hangul.lBase] at *
    omega
  have hleading : ¬ Hangul.IsLeading c := fun hc => absurd hc.1 (Nat.not_le_of_lt h)
  have hvowel : ¬ Hangul.IsVowel c := by
    simp only [Hangul.IsVowel, Hangul.vBase, Hangul.lBase] at *
    omega
  have htrailing : ¬ Hangul.IsTrailing c := by
    simp only [Hangul.IsTrailing, Hangul.tBase, Hangul.lBase] at *
    omega
  rw [expandOut_of_not_syllable hsyllable, expandJamo, if_neg hleading, if_neg hvowel,
    if_neg htrailing]

/-- A syllable spells its leading consonant, its vowels and its trailing consonants. -/
private theorem expandOut_syllable {l v t : UInt8} (hl : l.toNat < Hangul.lCount)
    (hv : v.toNat < Hangul.vCount) (ht : t.toNat < Hangul.tCount) :
    expandOut (Hangul.syllable l.toNat v.toNat t.toNat) =
      .leading l :: ((expandVowel v).map .vowel ++
        if t.toNat = 0 then [] else (expandTrailing t).map .trailing) := by
  rw [expandOut, Hangul.decompose_syllable hl hv ht, List.flatMap_cons, List.flatMap_cons,
    expandJamo_leading hl, expandJamo_vowel hv]
  split
  · rfl
  · next hpos =>
    rw [List.flatMap_singleton, expandJamo_trailing (Nat.pos_of_ne_zero hpos) ht]
    rfl

/-- **A chunk spells the keys it consumed.** -/
theorem Chunk.expands {consumed rest : List ResolvedKey} {c : ℕ} (h : Chunk consumed rest c)
    (hrange : ∀ key ∈ consumed, key.InRange) : expandOut c = consumed.flatMap expandKey := by
  -- By the kind of the chunk; all but a full syllable lie outside the syllable block.
  cases h with
  | @syllable l v t vs ts _ hv ht hend =>
    have hl : (ResolvedKey.leading l).InRange := hrange _ List.mem_cons_self
    obtain ⟨hvs, hvlt⟩ := hv.expands fun key hkey =>
      hrange key (List.mem_cons_of_mem _ (List.mem_append_left _ hkey))
    obtain ⟨hts, htlt, _⟩ := ht.expands fun key hkey =>
      hrange key (List.mem_cons_of_mem _ (List.mem_append_right _ hkey))
    rw [expandOut_syllable (UInt8.lt_iff_toNat_lt.mp hl) hvlt htlt, List.flatMap_cons,
      List.flatMap_append, hvs, hts]
    rfl
  | @leading l _ hend =>
    have hl : (ResolvedKey.leading l).InRange := hrange _ List.mem_cons_self
    have hlt : l.toNat < Hangul.lCount := UInt8.lt_iff_toNat_lt.mp hl
    rw [expandOut_of_not_syllable (not_isSyllable_of_lt ?_), expandJamo_leading hlt]
    · rfl
    · simp only [Hangul.lBase, Hangul.lCount, Hangul.sBase] at *
      omega
  | vowel v _ =>
    have hv : (ResolvedKey.vowel v).InRange := hrange _ List.mem_cons_self
    have hlt : v.toNat < Hangul.vCount := UInt8.lt_iff_toNat_lt.mp hv
    rw [expandOut_of_not_syllable (not_isSyllable_of_lt ?_), expandJamo_vowel hlt]
    · exact (List.append_nil _).symm
    · simp only [Hangul.vBase, Hangul.vCount, Hangul.sBase] at *
      omega
  | trailing t _ =>
    have ht : (ResolvedKey.trailing t).InRange := hrange _ List.mem_cons_self
    obtain ⟨hlow, hhigh⟩ := ht
    rw [UInt8.le_iff_toNat_le] at hlow hhigh
    have hlt : t.toNat < Hangul.tCount := Nat.lt_succ_of_le hhigh
    rw [expandOut_of_not_syllable (not_isSyllable_of_lt ?_), expandJamo_trailing hlow hlt]
    · exact (List.append_nil _).symm
    · simp only [Hangul.tBase, Hangul.tCount, Hangul.sBase] at *
      omega
  | digit d _ =>
    have hlt : (0x30 + d).toNat < Hangul.lBase := (0x30 + d).toNat_lt.trans (by decide)
    rw [expandOut_plain hlt]
    rfl
  | ascii a _ =>
    rw [expandOut_plain (a.toNat_lt.trans (by decide))]
    rfl

/-- A run of chunks spells the keys. -/
theorem Chunks.expands {keys : List ResolvedKey} {rendered : List ℕ} (h : Chunks keys rendered)
    (hrange : ∀ key ∈ keys, key.InRange) :
    rendered.flatMap expandOut = keys.flatMap expandKey := by
  induction h with
  | nil => rfl
  | cons hchunk _ ih =>
    rw [List.flatMap_cons, List.flatMap_append,
      hchunk.expands fun key hkey => hrange key (List.mem_append_left _ hkey),
      ih fun key hkey => hrange key (List.mem_append_right _ hkey)]

/-! ## Injectivity without Hangul -/

/-- The code point of a digit or ASCII key. -/
def plainCode : ResolvedKey → ℕ
  | .digit d => (0x30 + d).toNat
  | .ascii a => a.toNat
  | .leading _ | .vowel _ | .trailing _ => 0

/-- Keys that are not jamo are rendered one by one. -/
theorem Chunks.eq_map_plainCode {keys : List ResolvedKey} {rendered : List ℕ}
    (h : Chunks keys rendered)
    (hplain : ∀ key ∈ keys, (∃ d, key = .digit d) ∨ ∃ a, key = .ascii a) :
    rendered = keys.map plainCode := by
  induction h with
  | nil => rfl
  | @cons consumed rest c rendered hchunk _ ih =>
    rw [ih fun key hkey => hplain key (List.mem_append_right _ hkey), List.map_append]
    cases hchunk with
    | digit d | ascii a => rfl
    | syllable | leading | vowel | trailing =>
      exact absurd (hplain _ List.mem_cons_self) (by simp)

/-- Keys of a policy without jamo are told apart by their code points. -/
private theorem plainCode_injOn {policy : InputPolicy} {key key' : ResolvedKey}
    (hpolicy : ∀ n normalization, policy ≠ .Hangul n normalization) (hkey : policy.Admits key)
    (hkey' : policy.Admits key') (h : plainCode key = plainCode key') : key = key' := by
  cases policy with
  | Hangul n normalization => exact absurd rfl (hpolicy n normalization)
  | Numeric n =>
    cases key <;> cases hkey
    cases key' <;> cases hkey'
    rw [add_left_cancel (UInt8.toNat_inj.mp h)]
  | Ascii n =>
    cases key <;> cases hkey
    cases key' <;> cases hkey'
    rw [UInt8.toNat_inj.mp h]

private theorem map_injOn {α β : Type*} {f : α → β} {P : α → Prop}
    (hf : ∀ a b, P a → P b → f a = f b → a = b) {l l' : List α} (hl : ∀ a ∈ l, P a)
    (hl' : ∀ a ∈ l', P a) (h : l.map f = l'.map f) : l = l' := by
  induction l generalizing l' with
  | nil => exact (List.map_eq_nil_iff.mp h.symm).symm
  | cons a l ih =>
    cases l' with
    | nil => cases h
    | cons a' l' =>
      rw [List.map_cons, List.map_cons, List.cons.injEq] at h
      rw [hf a a' (hl a List.mem_cons_self) (hl' a' List.mem_cons_self) h.1,
        ih (fun b hb => hl b (List.mem_cons_of_mem _ hb))
          (fun b hb => hl' b (List.mem_cons_of_mem _ hb)) h.2]

/-! ## The conservation theorem -/

private theorem render_expands {tokens : List UInt32}
    (h : ∀ token ∈ tokens, ∃ policy : InputPolicy, policy.Produces token) :
    (render tokens).flatMap expandOut = tokens.flatMap expand := by
  obtain ⟨keys, rfl, hrange⟩ := exists_keys_of_produced (P := ResolvedKey.InRange) (by
    intro token htoken
    obtain ⟨policy, hproduces⟩ := h token htoken
    obtain ⟨key, ⟨hkey, _⟩, rfl⟩ := hproduces.exists_key
    exact ⟨key, hkey, rfl⟩)
  rw [flatMap_expand_map]
  exact (render_chunks keys).expands hrange

private theorem render_injOn {policy : InputPolicy}
    (hpolicy : ∀ n normalization, policy ≠ .Hangul n normalization) :
    Set.InjOn render {tokens | ∀ token ∈ tokens, policy.Produces token} := by
  have hkeys : ∀ tokens : List UInt32, (∀ token ∈ tokens, policy.Produces token) →
      ∃ keys : List ResolvedKey, tokens = keys.map encodeKey ∧ ∀ key ∈ keys, policy.Admits key := by
    intro tokens h
    apply exists_keys_of_produced
    intro token htoken
    obtain ⟨key, ⟨_, hadmits⟩, rfl⟩ := (h token htoken).exists_key
    exact ⟨key, hadmits, rfl⟩
  have hplain : ∀ key, policy.Admits key → (∃ d, key = .digit d) ∨ ∃ a, key = .ascii a := by
    intro key hadmits
    cases policy with
    | Hangul n normalization => exact absurd rfl (hpolicy n normalization)
    | Numeric n => cases key <;> cases hadmits; exact .inl ⟨_, rfl⟩
    | Ascii n => cases key <;> cases hadmits; exact .inr ⟨_, rfl⟩
  intro tokens htokens tokens' htokens' heq
  obtain ⟨keys, rfl, hadmits⟩ := hkeys tokens htokens
  obtain ⟨keys', rfl, hadmits'⟩ := hkeys tokens' htokens'
  rw [(render_chunks keys).eq_map_plainCode fun key hkey => hplain key (hadmits key hkey),
    (render_chunks keys').eq_map_plainCode fun key hkey => hplain key (hadmits' key hkey)] at heq
  rw [map_injOn (fun _ _ => plainCode_injOn hpolicy) hadmits hadmits' heq]

/-- **Jamo conservation**: rendering the tokens of any keys spells exactly the basic jamo of the
    keys, in order. So key sequences with the same output spell the same jamo, and under the
    numeric and the ASCII policy they are the same. -/
theorem render_conserves_jamo (tokens : List UInt32)
    (htokens : ∀ token ∈ tokens, ∃ policy : InputPolicy, policy.Produces token) :
    (render tokens).flatMap expandOut = tokens.flatMap expand ∧
      (∀ tokens' : List UInt32,
        (∀ token ∈ tokens', ∃ policy : InputPolicy, policy.Produces token) →
        render tokens' = render tokens → tokens'.flatMap expand = tokens.flatMap expand) ∧
      (∀ n, Set.InjOn render {tokens | ∀ token ∈ tokens, (InputPolicy.Numeric n).Produces token}) ∧
      ∀ n, Set.InjOn render {tokens | ∀ token ∈ tokens, (InputPolicy.Ascii n).Produces token} := by
  refine ⟨render_expands htokens, ?_, ?_, ?_⟩
  · intro tokens' htokens' heq
    rw [← render_expands htokens', heq, render_expands htokens]
  · intro n
    exact render_injOn fun _ _ h => by cases h
  · intro n
    exact render_injOn fun _ _ h => by cases h

/-- Seven keys, ㄱ ㅗ ㅐ ㄹ ㄱ ㅎ and the digit 4: a compound vowel and a compound trailing
    consonant, one left over. -/
theorem render_conserves_jamo_compound :
    let keys : List (InputPolicy × KeyId) :=
      [(.hangul 8, ⟨"jamo-giyeok"⟩), (.hangul 8, ⟨"vowel-o"⟩), (.hangul 8, ⟨"vowel-ae"⟩),
        (.hangul 8, ⟨"tail-rieul"⟩), (.hangul 8, ⟨"tail-giyeok"⟩), (.hangul 8, ⟨"tail-hieuh"⟩),
        (.numeric 8, ⟨"digit-4"⟩)]
    let tokens : List UInt32 := [0x2000, 0x3008, 0x3001, 0x4008, 0x4001, 0x401B, 0x1004]
    (keys.map fun p => (p.1.resolve p.2).toOption.map encodeKey) = tokens.map some ∧
      render tokens = [0xAD21, 0x11C2, 0x34] ∧
      (render tokens).flatMap expandOut =
        [.leading 0, .vowel 8, .vowel 0, .vowel 20, .trailing 8, .trailing 1, .trailing 27,
          .plain 0x34] ∧
      (render tokens).flatMap expandOut = tokens.flatMap expand := by
  intro keys tokens
  have hkeys : (keys.map fun p => (p.1.resolve p.2).toOption.map encodeKey) = tokens.map some := by
    decide +kernel
  refine ⟨hkeys, by decide +kernel, by decide +kernel, (render_conserves_jamo tokens ?_).1⟩
  intro token htoken
  have hmem : some token ∈ keys.map fun p => (p.1.resolve p.2).toOption.map encodeKey := by
    rw [hkeys]
    exact List.mem_map_of_mem htoken
  obtain ⟨p, _, hp⟩ := List.mem_map.mp hmem
  exact ⟨p.1, .of_resolve hp⟩

/-! ## Normalization form C -/

/-- A key of the Hangul policy. -/
def IsJamoKey (key : ResolvedKey) : Prop :=
  key.InRange ∧ ((∃ l, key = .leading l) ∨ (∃ v, key = .vowel v) ∨ ∃ t, key = .trailing t)

/-- The four classes of code points the Hangul policy can render. -/
def IsHangul (c : ℕ) : Prop :=
  Hangul.IsSyllable c ∨ Hangul.IsLeading c ∨ Hangul.IsVowel c ∨ Hangul.IsTrailing c

/-- The class of a chunk's code point, with what the class says about the keys around it: a lone
    leading consonant has no vowel after it and an open syllable no trailing consonant, while a
    lone vowel or trailing consonant was pressed as such. -/
inductive ChunkClass (consumed rest : List ResolvedKey) (c : ℕ) : Prop where
  | syllable (hc : Hangul.IsSyllable c) (hend : Hangul.IsLV c → ¬ StartsTrailing rest)
  | leading (hc : Hangul.IsLeading c) (hend : ¬ StartsVowel rest)
  | vowel (hc : Hangul.IsVowel c) (hstart : StartsVowel (consumed ++ rest))
  | trailing (hc : Hangul.IsTrailing c) (hstart : StartsTrailing (consumed ++ rest))

theorem Chunk.classify {consumed rest : List ResolvedKey} {c : ℕ} (h : Chunk consumed rest c)
    (hkeys : ∀ key ∈ consumed, IsJamoKey key) : ChunkClass consumed rest c := by
  have hrange : ∀ key ∈ consumed, key.InRange := fun key hkey => (hkeys key hkey).1
  cases h with
  | @syllable l v t vs ts _ hv ht hend =>
    have hl : (ResolvedKey.leading l).InRange := hrange _ List.mem_cons_self
    have hllt : l.toNat < Hangul.lCount := UInt8.lt_iff_toNat_lt.mp hl
    obtain ⟨_, hvlt⟩ := hv.expands fun key hkey =>
      hrange key (List.mem_cons_of_mem _ (List.mem_append_left _ hkey))
    obtain ⟨_, htlt, htnil⟩ := ht.expands fun key hkey =>
      hrange key (List.mem_cons_of_mem _ (List.mem_append_right _ hkey))
    refine .syllable (Hangul.isSyllable_syllable hllt hvlt htlt) ?_
    intro hLV
    exact hend (htnil ((Hangul.isLV_syllable_iff hllt hvlt htlt).mp hLV))
  | @leading l _ hend =>
    have hl : (ResolvedKey.leading l).InRange := hrange _ List.mem_cons_self
    exact .leading (Hangul.isLeading_add (UInt8.lt_iff_toNat_lt.mp hl)) hend
  | vowel v _ =>
    have hv : (ResolvedKey.vowel v).InRange := hrange _ List.mem_cons_self
    exact .vowel (Hangul.isVowel_add (UInt8.lt_iff_toNat_lt.mp hv)) ⟨v, rest, rfl⟩
  | trailing t _ =>
    have ht : (ResolvedKey.trailing t).InRange := hrange _ List.mem_cons_self
    obtain ⟨hlow, hhigh⟩ := ht
    rw [UInt8.le_iff_toNat_le] at hlow hhigh
    exact .trailing (Hangul.isTrailing_add hlow (Nat.lt_succ_of_le hhigh)) ⟨t, rest, rfl⟩
  | digit d _ | ascii a _ => exact absurd (hkeys _ List.mem_cons_self).2 (by simp)

/-- The pairs the Hangul composition rules would compose. -/
def Composable (a b : ℕ) : Prop :=
  (Hangul.IsLeading a ∧ Hangul.IsVowel b) ∨ (Hangul.IsLV a ∧ Hangul.IsTrailing b)

theorem composePair_eq_none_of_not_composable {a b : ℕ} (h : ¬ Composable a b) :
    Hangul.composePair a b = none := by
  rw [Hangul.composePair, if_neg (fun hab => h (.inl hab)), if_neg (fun hab => h (.inr hab))]

/-- The code points of two neighbouring chunks do not compose. -/
theorem ChunkClass.not_composable {consumed consumed' rest : List ResolvedKey} {c c' : ℕ}
    (h : ChunkClass consumed (consumed' ++ rest) c) (h' : ChunkClass consumed' rest c') :
    ¬ Composable c c' := by
  -- Composition needs a vowel behind a leading jamo, or a tail behind an open syllable.
  rintro (⟨hleading, hvowel⟩ | ⟨hLV, htrailing⟩)
  · cases h' with
    | vowel hc' hstart =>
      cases h with
      | leading hc hend => exact hend hstart
      | syllable hc | vowel hc | trailing hc =>
        simp only [Hangul.IsLeading, Hangul.IsSyllable, Hangul.IsVowel, Hangul.IsTrailing,
          Hangul.lBase, Hangul.lCount, Hangul.sBase, Hangul.vBase, Hangul.tBase] at hleading hc
        omega
    | syllable hc' | leading hc' | trailing hc' =>
      simp only [Hangul.IsLeading, Hangul.IsSyllable, Hangul.IsVowel, Hangul.IsTrailing,
        Hangul.lBase, Hangul.lCount, Hangul.sBase, Hangul.vBase, Hangul.vCount, Hangul.tBase]
        at hvowel hc'
      omega
  · cases h' with
    | trailing hc' hstart =>
      cases h with
      | syllable hc hend => exact hend hLV hstart
      | leading hc | vowel hc | trailing hc =>
        have hsyllable := hLV.1
        simp only [Hangul.IsLeading, Hangul.IsSyllable, Hangul.IsVowel, Hangul.IsTrailing,
          Hangul.lBase, Hangul.lCount, Hangul.sBase, Hangul.vBase, Hangul.vCount, Hangul.tBase,
          Hangul.tCount] at hsyllable hc
        omega
    | syllable hc' | leading hc' | vowel hc' =>
      simp only [Hangul.IsLeading, Hangul.IsSyllable, Hangul.IsVowel, Hangul.IsTrailing,
        Hangul.lBase, Hangul.lCount, Hangul.sBase, Hangul.vBase, Hangul.vCount, Hangul.tBase,
        Hangul.tCount] at htrailing hc'
      omega

/-- Chunks of jamo keys give Hangul code points, no two neighbours of which compose. -/
theorem Chunks.isChain {keys : List ResolvedKey} {rendered : List ℕ} (h : Chunks keys rendered)
    (hkeys : ∀ key ∈ keys, IsJamoKey key) :
    (∀ c ∈ rendered, IsHangul c) ∧ rendered.IsChain fun a b => ¬ Composable a b := by
  induction h with
  | nil => exact ⟨by simp, .nil⟩
  | @cons consumed rest c rendered hchunk hrest ih =>
    have hclass := hchunk.classify fun key hkey => hkeys key (List.mem_append_left _ hkey)
    obtain ⟨hall, hchain⟩ := ih fun key hkey => hkeys key (List.mem_append_right _ hkey)
    refine ⟨?_, ?_⟩
    · intro c' hc'
      rcases List.mem_cons.mp hc' with rfl | hc'
      · cases hclass with
        | syllable hc => exact .inl hc
        | leading hc => exact .inr (.inl hc)
        | vowel hc => exact .inr (.inr (.inl hc))
        | trailing hc => exact .inr (.inr (.inr hc))
      · exact hall c' hc'
    · cases hrest with
      | nil => exact List.isChain_singleton _
      | cons hchunk' hrest' =>
        have hclass' := hchunk'.classify fun key hkey =>
          hkeys key (List.mem_append_right _ (List.mem_append_left _ hkey))
        exact List.isChain_cons_cons.mpr ⟨hclass.not_composable hclass', hchain⟩

/-- **The Hangul secret is in normalization form C**: for the tokens of any keys of the Hangul
    policy, every rendered code point is a precomposed syllable or a modern jamo, no leading
    consonant stands before a vowel and no open syllable before a trailing consonant, and so the
    rendered text is its own normalization form C. -/
theorem render_is_nfc (n : ℕ) (normalization : NormalizationPolicy) (tokens : List UInt32)
    (htokens : ∀ token ∈ tokens, (InputPolicy.Hangul n normalization).Produces token) :
    (∀ c ∈ render tokens, (0xAC00 ≤ c ∧ c ≤ 0xD7A3) ∨ Hangul.IsLeading c ∨ Hangul.IsVowel c ∨
        Hangul.IsTrailing c) ∧
      (render tokens).IsChain (fun a b => ¬ (Hangul.IsLeading a ∧ Hangul.IsVowel b) ∧
        ¬ (Hangul.IsLV a ∧ Hangul.IsTrailing b)) ∧
      Hangul.nfc (render tokens) = render tokens := by
  obtain ⟨keys, rfl, hkeys⟩ := exists_keys_of_produced (P := IsJamoKey) (by
    intro token htoken
    obtain ⟨key, ⟨hrange, hadmits⟩, rfl⟩ := (htokens token htoken).exists_key
    refine ⟨key, ⟨hrange, ?_⟩, rfl⟩
    cases key with
    | leading l => exact .inl ⟨l, rfl⟩
    | vowel v => exact .inr (.inl ⟨v, rfl⟩)
    | trailing t => exact .inr (.inr ⟨t, rfl⟩)
    | digit | ascii => cases hadmits)
  obtain ⟨hall, hchain⟩ := (render_chunks keys).isChain hkeys
  refine ⟨?_, ?_, ?_⟩
  · intro c hc
    rcases hall c hc with ⟨hlow, hhigh⟩ | hjamo
    · exact .inl ⟨hlow, Nat.le_of_lt_succ hhigh⟩
    · exact .inr hjamo
  · exact hchain.imp fun a b hab => not_or.mp hab
  · apply Hangul.nfc_eq_self
    exact hchain.imp fun a b hab => composePair_eq_none_of_not_composable hab

/-- A lone leading consonant, an open syllable with a vowel after it and a closed one with a
    trailing consonant after it. -/
theorem render_is_nfc_leftovers :
    let keys : List KeyId := [⟨"jamo-nieun"⟩, ⟨"jamo-giyeok"⟩, ⟨"vowel-a"⟩, ⟨"vowel-o"⟩,
      ⟨"jamo-giyeok"⟩, ⟨"vowel-a"⟩, ⟨"tail-giyeok"⟩, ⟨"tail-giyeok"⟩]
    let tokens : List UInt32 :=
      [0x2002, 0x2000, 0x3000, 0x3008, 0x2000, 0x3000, 0x4001, 0x4001]
    (keys.map fun key => ((InputPolicy.Hangul 8 .nfc).resolve key).toOption.map encodeKey) =
        tokens.map some ∧
      render tokens = [0x1102, 0xAC00, 0x1169, 0xAC01, 0x11A8] ∧
      Hangul.nfc (render tokens) = render tokens := by
  intro keys tokens
  have hkeys : (keys.map fun key =>
      ((InputPolicy.Hangul 8 .nfc).resolve key).toOption.map encodeKey) = tokens.map some := by
    decide +kernel
  refine ⟨hkeys, by decide +kernel, (render_is_nfc 8 .nfc tokens ?_).2.2⟩
  intro token htoken
  have hmem : some token ∈ keys.map fun key =>
      ((InputPolicy.Hangul 8 .nfc).resolve key).toOption.map encodeKey := by
    rw [hkeys]
    exact List.mem_map_of_mem htoken
  obtain ⟨key, _, hkey⟩ := List.mem_map.mp hmem
  exact .of_resolve hkey

end SecureKeypad.Core
