import SecureKeypad.Core.Keys
import SecureKeypad.Library.Hangul

/-!
# The Hangul Composer (`secure-core::hangul`)

Embeds the token encoding and the composer: `render` walks the stored tokens by index with up
to five tokens of lookahead, merges vowels and trailing consonants through two tables, and
pushes code points. A `u8` index times 588 stays far below `2^32`, so the `u32` arithmetic on
code points never wraps and code points are natural numbers.

The proofs never return to the loop: `render_chunks` says once, as an inductive relation, how
the loop cuts any list of key tokens into chunks, and every property of the output is an
induction over that relation.

## Main results

- `renderStep_chunk`: one round of the loop cuts one chunk off the front
- `render_chunks`: how `render` cuts key tokens into chunks of one code point each
-/

namespace SecureKeypad.Core

open Rust

/-! ## Tokens -/

def tagDigit : UInt32 := 0x1000
def tagLeading : UInt32 := 0x2000
def tagVowel : UInt32 := 0x3000
def tagTrailing : UInt32 := 0x4000
def tagAscii : UInt32 := 0x5000
def tagMask : UInt32 := 0xF000

/-- `hangul::encode_key`. -/
def encodeKey : ResolvedKey → UInt32
  | .digit value => tagDigit ||| value.toUInt32
  | .ascii value => tagAscii ||| value.toUInt32
  | .leading value => tagLeading ||| value.toUInt32
  | .vowel value => tagVowel ||| value.toUInt32
  | .trailing value => tagTrailing ||| value.toUInt32

/-- The common body of the token readers: the payload of a token carrying `tag`. -/
def payload (tag token : UInt32) : Option UInt8 :=
  if token &&& tagMask = tag then u8TryFrom (token &&& ~~~tagMask).toNat else none

/-- `hangul::leading`. -/
def leading (token : UInt32) : Option UInt8 := payload tagLeading token

/-- `hangul::vowel`. -/
def vowel (token : UInt32) : Option UInt8 := payload tagVowel token

/-- `hangul::trailing`. -/
def trailing (token : UInt32) : Option UInt8 := payload tagTrailing token

/-- `hangul::ascii`. -/
def ascii (token : UInt32) : Option UInt8 := payload tagAscii token

/-- `hangul::digit`. -/
def digit (token : UInt32) : Option UInt8 := payload tagDigit token

private theorem toUInt32_and_tagMask (value : UInt8) :
    value.toUInt32 &&& tagMask = 0 ∧ value.toUInt32 &&& ~~~tagMask = value.toUInt32 := by
  have hnat : ∀ n < 256, n &&& 0xF000 = 0 ∧ n &&& 0xFFFF0FFF = n := by decide +kernel
  obtain ⟨htag, hrest⟩ := hnat value.toNat value.toNat_lt
  constructor
  · apply UInt32.toNat_inj.mp
    rw [UInt32.toNat_and, UInt8.toNat_toUInt32]
    exact htag
  · apply UInt32.toNat_inj.mp
    rw [UInt32.toNat_and, UInt8.toNat_toUInt32]
    exact hrest

private theorem or_and_mask (x y mask : UInt32) :
    (x ||| y) &&& mask = (x &&& mask) ||| (y &&& mask) := by
  apply UInt32.toNat_inj.mp
  simp only [UInt32.toNat_and, UInt32.toNat_or, Nat.and_or_distrib_right]

/-- Reading a token under its own tag gives its payload back, under another tag nothing. -/
private theorem payload_or {tag tag' : UInt32} (value : UInt8) (htag : tag' &&& tagMask = tag')
    (hrest : tag' &&& ~~~tagMask = 0) :
    payload tag (tag' ||| value.toUInt32) = if tag' = tag then some value else none := by
  obtain ⟨hvalue, hkeep⟩ := toUInt32_and_tagMask value
  have hread : (tag' ||| value.toUInt32) &&& tagMask = tag' := by
    rw [or_and_mask, htag, hvalue, UInt32.or_zero]
  have hpayload : (tag' ||| value.toUInt32) &&& ~~~tagMask = value.toUInt32 := by
    rw [or_and_mask, hrest, hkeep, UInt32.zero_or]
  rw [payload, hread, hpayload, UInt8.toNat_toUInt32, u8TryFrom, if_pos value.toNat_lt,
    UInt8.ofNat_toNat]

@[simp] theorem leading_encodeKey (key : ResolvedKey) :
    leading (encodeKey key) = match key with | .leading value => some value | _ => none := by
  cases key <;> exact payload_or _ (by decide) (by decide)

@[simp] theorem vowel_encodeKey (key : ResolvedKey) :
    vowel (encodeKey key) = match key with | .vowel value => some value | _ => none := by
  cases key <;> exact payload_or _ (by decide) (by decide)

@[simp] theorem trailing_encodeKey (key : ResolvedKey) :
    trailing (encodeKey key) = match key with | .trailing value => some value | _ => none := by
  cases key <;> exact payload_or _ (by decide) (by decide)

@[simp] theorem ascii_encodeKey (key : ResolvedKey) :
    ascii (encodeKey key) = match key with | .ascii value => some value | _ => none := by
  cases key <;> exact payload_or _ (by decide) (by decide)

@[simp] theorem digit_encodeKey (key : ResolvedKey) :
    digit (encodeKey key) = match key with | .digit value => some value | _ => none := by
  cases key <;> exact payload_or _ (by decide) (by decide)

/-! ## The composer -/

/-- The table of `combined_vowel`. -/
def vowelTable : UInt8 → UInt8 → Option UInt8
  | 0, 20 => some 1
  | 2, 20 => some 3
  | 8, 0 => some 9
  | 8, 1 => some 10
  | 8, 20 => some 11
  | 13, 4 => some 14
  | 13, 5 => some 15
  | 13, 20 => some 16
  | 18, 20 => some 19
  | _, _ => none

/-- `hangul::combined_vowel`: the vowel at `index` merged with its successor where the table
    has the pair, and how many tokens it takes. -/
def combinedVowel (tokens : List UInt32) (index : ℕ) (first : UInt8) : UInt8 × ℕ :=
  match tokens[index + 1]?.bind vowel with
  | none => (first, 1)
  | some second =>
    match vowelTable first second with
    | some combined => (combined, 2)
    | none => (first, 1)

/-- `hangul::combine_trailing`. -/
def combineTrailing : UInt8 → UInt8 → Option UInt8
  | 1, 19 => some 3
  | 4, 22 => some 5
  | 4, 27 => some 6
  | 8, 1 => some 9
  | 8, 16 => some 10
  | 8, 17 => some 11
  | 8, 19 => some 12
  | 8, 25 => some 13
  | 8, 26 => some 14
  | 8, 27 => some 15
  | 17, 19 => some 18
  | _, _ => none

/-- The trailing part of a syllable at `index`: its index, zero without one, and its width. -/
def trailingAt (tokens : List UInt32) (index : ℕ) : UInt8 × ℕ :=
  match tokens[index]?.bind trailing with
  | none => (0, 0)
  | some first =>
    match tokens[index + 1]?.bind trailing with
    | none => (first, 1)
    | some second =>
      match combineTrailing first second with
      | some combined => (combined, 2)
      | none => (first, 1)

/-- One round of the loop of `render`: the code points pushed and the tokens consumed. -/
def renderStep (tokens : List UInt32) (index : ℕ) : List ℕ × ℕ :=
  match tokens[index]?.bind leading with
  | some lead =>
    match tokens[index + 1]?.bind vowel with
    | some firstVowel =>
      let (vowelIndex, vowelWidth) := combinedVowel tokens (index + 1) firstVowel
      let (trailingIndex, trailingWidth) := trailingAt tokens (index + 1 + vowelWidth)
      ([0xAC00 + (lead.toNat * 21 + vowelIndex.toNat) * 28 + trailingIndex.toNat],
        1 + vowelWidth + trailingWidth)
    | none => ([0x1100 + lead.toNat], 1)
  | none =>
    match tokens[index]?.bind vowel with
    | some vowel => ([0x1161 + vowel.toNat], 1)
    | none =>
      match tokens[index]?.bind trailing with
      | some trailing => ([0x11A7 + trailing.toNat], 1)
      | none =>
        -- The two last readers are independent `if`s in the source; at most one of them fires.
        (((tokens[index]?.bind digit).toList.map fun digit => (0x30 + digit).toNat) ++
          ((tokens[index]?.bind ascii).toList.map UInt8.toNat), 1)

/-- The loop of `render` from `index` on; every round consumes a token, so as many rounds as
    there are tokens suffice. -/
def renderLoop (tokens : List UInt32) : ℕ → ℕ → List ℕ → List ℕ
  | 0, _, rendered => rendered
  | rounds + 1, index, rendered =>
    if index < tokens.length then
      let (pushed, width) := renderStep tokens index
      renderLoop tokens rounds (index + width) (rendered ++ pushed)
    else rendered

/-- `hangul::render`. -/
def render (tokens : List UInt32) : List ℕ := renderLoop tokens tokens.length 0 []

/-! ## How the composer cuts key tokens -/

/-- The vowel part of a syllable: one vowel, or a pair of the vowel table. -/
inductive VowelPart : List ResolvedKey → UInt8 → Prop where
  | one (v : UInt8) : VowelPart [.vowel v] v
  | two {a b v : UInt8} (h : vowelTable a b = some v) : VowelPart [.vowel a, .vowel b] v

/-- The trailing part of a syllable: nothing, one consonant, or a pair of the table. -/
inductive TrailingPart : List ResolvedKey → UInt8 → Prop where
  | none : TrailingPart [] 0
  | one (t : UInt8) : TrailingPart [.trailing t] t
  | two {a b t : UInt8} (h : combineTrailing a b = some t) :
      TrailingPart [.trailing a, .trailing b] t

/-- The list starts with a vowel key. -/
def StartsVowel (keys : List ResolvedKey) : Prop := ∃ v rest, keys = .vowel v :: rest

/-- The list starts with a trailing-consonant key. -/
def StartsTrailing (keys : List ResolvedKey) : Prop := ∃ t rest, keys = .trailing t :: rest

/-- `Chunk consumed rest c`: in front of `rest` the composer turns the keys `consumed` into the
    one code point `c`. -/
inductive Chunk : List ResolvedKey → List ResolvedKey → ℕ → Prop where
  | syllable {l v t : UInt8} {vs ts rest : List ResolvedKey} (hv : VowelPart vs v)
      (ht : TrailingPart ts t) (hend : ts = [] → ¬ StartsTrailing rest) :
      Chunk (.leading l :: (vs ++ ts)) rest (Hangul.syllable l.toNat v.toNat t.toNat)
  | leading {l : UInt8} {rest : List ResolvedKey} (hend : ¬ StartsVowel rest) :
      Chunk [.leading l] rest (Hangul.lBase + l.toNat)
  | vowel (v : UInt8) (rest : List ResolvedKey) : Chunk [.vowel v] rest (Hangul.vBase + v.toNat)
  | trailing (t : UInt8) (rest : List ResolvedKey) :
      Chunk [.trailing t] rest (Hangul.tBase + t.toNat)
  | digit (d : UInt8) (rest : List ResolvedKey) : Chunk [.digit d] rest (0x30 + d).toNat
  | ascii (a : UInt8) (rest : List ResolvedKey) : Chunk [.ascii a] rest a.toNat

/-- A whole run of the composer over `keys`, chunk by chunk. -/
inductive Chunks : List ResolvedKey → List ℕ → Prop where
  | nil : Chunks [] []
  | cons {consumed rest : List ResolvedKey} {c : ℕ} {rendered : List ℕ}
      (hchunk : Chunk consumed rest c) (hrest : Chunks rest rendered) :
      Chunks (consumed ++ rest) (c :: rendered)

/-! ### One round -/

theorem combinedVowel_drop (tokens : List UInt32) (index k : ℕ) (first : UInt8) :
    combinedVowel tokens (index + k) first = combinedVowel (tokens.drop index) k first := by
  simp only [combinedVowel, List.getElem?_drop, Nat.add_assoc]

theorem trailingAt_drop (tokens : List UInt32) (index k : ℕ) :
    trailingAt tokens (index + k) = trailingAt (tokens.drop index) k := by
  simp only [trailingAt, List.getElem?_drop, Nat.add_assoc]

/-- A round looks only at the tokens from its index on. -/
theorem renderStep_drop (tokens : List UInt32) (index : ℕ) :
    renderStep tokens index = renderStep (tokens.drop index) 0 := by
  simp only [renderStep, List.getElem?_drop, Nat.add_zero, Nat.zero_add, Nat.add_assoc,
    combinedVowel_drop, trailingAt_drop]

/-- What `combined_vowel` takes from the front of the keys. -/
private theorem combinedVowel_spec (v : UInt8) (tail : List ResolvedKey) :
    ∃ vs v' rest, .vowel v :: tail = vs ++ rest ∧ VowelPart vs v' ∧
      combinedVowel ((.vowel v :: tail).map encodeKey) 0 v = (v', vs.length) := by
  rcases tail with _ | ⟨key, tail⟩
  · exact ⟨_, v, [], rfl, .one v, rfl⟩
  · cases key with
    | vowel second =>
      cases htable : vowelTable v second with
      | none => exact ⟨[.vowel v], v, _, rfl, .one v, by simp [combinedVowel, htable]⟩
      | some combined =>
        exact ⟨[.vowel v, .vowel second], combined, tail, rfl, .two htable,
          by simp [combinedVowel, htable]⟩
    | digit d => exact ⟨[.vowel v], v, _, rfl, .one v, by simp [combinedVowel]⟩
    | ascii a => exact ⟨[.vowel v], v, _, rfl, .one v, by simp [combinedVowel]⟩
    | leading l => exact ⟨[.vowel v], v, _, rfl, .one v, by simp [combinedVowel]⟩
    | trailing t => exact ⟨[.vowel v], v, _, rfl, .one v, by simp [combinedVowel]⟩

private theorem trailingAt_not_starts {keys : List ResolvedKey} (h : ¬ StartsTrailing keys) :
    trailingAt (keys.map encodeKey) 0 = (0, 0) := by
  rcases keys with _ | ⟨key, tail⟩
  · rfl
  · cases key with
    | trailing t => exact absurd ⟨t, tail, rfl⟩ h
    | digit | ascii | leading | vowel => simp [trailingAt]

/-- What the trailing part takes from the front of the keys. -/
private theorem trailingAt_spec (keys : List ResolvedKey) :
    ∃ ts t rest, keys = ts ++ rest ∧ TrailingPart ts t ∧ (ts = [] → ¬ StartsTrailing rest) ∧
      trailingAt (keys.map encodeKey) 0 = (t, ts.length) := by
  by_cases hstarts : StartsTrailing keys
  · obtain ⟨first, tail, rfl⟩ := hstarts
    have hone : ∀ h : trailingAt ((.trailing first :: tail).map encodeKey) 0 = (first, 1),
        ∃ ts t rest, .trailing first :: tail = ts ++ rest ∧ TrailingPart ts t ∧
          (ts = [] → ¬ StartsTrailing rest) ∧
          trailingAt ((.trailing first :: tail).map encodeKey) 0 = (t, ts.length) := fun h =>
      ⟨[.trailing first], first, tail, rfl, .one first,
        fun hnil => absurd hnil (List.cons_ne_nil _ _), h⟩
    rcases tail with _ | ⟨key, tail⟩
    · exact hone (by simp [trailingAt])
    · cases key with
      | trailing second =>
        cases htable : combineTrailing first second with
        | none => exact hone (by simp [trailingAt, htable])
        | some combined =>
          exact ⟨[.trailing first, .trailing second], combined, tail, rfl, .two htable,
            fun hnil => absurd hnil (List.cons_ne_nil _ _), by simp [trailingAt, htable]⟩
      | digit | ascii | leading | vowel => exact hone (by simp [trailingAt])
  · exact ⟨[], 0, keys, rfl, .none, fun _ => hstarts, trailingAt_not_starts hstarts⟩

/-- A leading consonant in front of a vowel opens a syllable. -/
private theorem renderStep_syllable (l v : UInt8) (tail : List ResolvedKey) :
    ∃ consumed rest c, .leading l :: .vowel v :: tail = consumed ++ rest ∧
      renderStep ((.leading l :: .vowel v :: tail).map encodeKey) 0 = ([c], consumed.length) ∧
      Chunk consumed rest c := by
  obtain ⟨vs, v', afterVowel, hvs, hvowel, hcombined⟩ := combinedVowel_spec v tail
  obtain ⟨ts, t, rest, rfl, htrailing, hend, hat⟩ := trailingAt_spec afterVowel
  refine ⟨.leading l :: (vs ++ ts), rest, _, by simp [hvs], ?_, .syllable hvowel htrailing hend⟩
  have hdrop : ((.leading l :: .vowel v :: tail).map encodeKey).drop (0 + 1 + vs.length) =
      (ts ++ rest).map encodeKey := by
    rw [hvs, ← List.map_drop, Nat.zero_add, Nat.add_comm, List.drop_succ_cons, List.drop_left]
  have hvowelAt : combinedVowel ((.leading l :: .vowel v :: tail).map encodeKey) (0 + 1) v =
      (v', vs.length) := by
    rw [Nat.zero_add, show (1 : ℕ) = 1 + 0 from rfl, combinedVowel_drop]
    exact hcombined
  have htrailingAt : trailingAt ((.leading l :: .vowel v :: tail).map encodeKey)
      (0 + 1 + vs.length) = (t, ts.length) := by
    rw [← Nat.add_zero (0 + 1 + vs.length), trailingAt_drop, hdrop]
    exact hat
  have hlead : ((.leading l :: .vowel v :: tail).map encodeKey)[0]?.bind leading = some l := by
    simp
  have hfirst : ((.leading l :: .vowel v :: tail).map encodeKey)[0 + 1]?.bind vowel = some v := by
    simp
  simp only [renderStep, hlead, hfirst, hvowelAt, htrailingAt, Prod.mk.injEq, List.length_cons,
    List.length_append]
  exact ⟨rfl, by omega⟩

/-- **One round**: the composer cuts a chunk off the front of the keys. -/
theorem renderStep_chunk (key : ResolvedKey) (tail : List ResolvedKey) :
    ∃ consumed rest c, key :: tail = consumed ++ rest ∧
      renderStep ((key :: tail).map encodeKey) 0 = ([c], consumed.length) ∧
      Chunk consumed rest c := by
  cases key with
  | leading l =>
    by_cases hvowel : StartsVowel tail
    · obtain ⟨v, tail, rfl⟩ := hvowel
      exact renderStep_syllable l v tail
    · refine ⟨[.leading l], tail, _, rfl, ?_, .leading hvowel⟩
      rcases tail with _ | ⟨key, tail⟩
      · simp [renderStep, Hangul.lBase]
      · cases key with
        | vowel v => exact absurd ⟨v, tail, rfl⟩ hvowel
        | digit | ascii | leading | trailing => simp [renderStep, Hangul.lBase]
  | vowel v => exact ⟨[.vowel v], tail, _, rfl, by simp [renderStep, Hangul.vBase], .vowel v tail⟩
  | trailing t =>
    exact ⟨[.trailing t], tail, _, rfl, by simp [renderStep, Hangul.tBase], .trailing t tail⟩
  | digit d => exact ⟨[.digit d], tail, _, rfl, by simp [renderStep], .digit d tail⟩
  | ascii a => exact ⟨[.ascii a], tail, _, rfl, by simp [renderStep], .ascii a tail⟩

/-! ### The whole loop -/

theorem Chunk.length_pos {consumed rest : List ResolvedKey} {c : ℕ} (h : Chunk consumed rest c) :
    0 < consumed.length := by
  cases h <;> exact Nat.succ_pos _

private theorem renderLoop_chunks (keys : List ResolvedKey) (rounds index : ℕ)
    (rendered : List ℕ) (hrounds : keys.length ≤ rounds + index) :
    ∃ out, renderLoop (keys.map encodeKey) rounds index rendered = rendered ++ out ∧
      Chunks (keys.drop index) out := by
  induction rounds generalizing index rendered with
  | zero =>
    have hdone : keys.drop index = [] := List.drop_eq_nil_of_le (by omega)
    exact ⟨[], (List.append_nil _).symm, hdone ▸ .nil⟩
  -- A round consumes one chunk, so the rounds last for the keys that are left.
  | succ rounds ih =>
    rw [renderLoop, List.length_map]
    split
    · next hlt =>
      have hcons : keys.drop index = keys[index] :: keys.drop (index + 1) :=
        List.drop_eq_getElem_cons hlt
      obtain ⟨consumed, rest, c, hsplit, hstep, hchunk⟩ :=
        renderStep_chunk keys[index] (keys.drop (index + 1))
      rw [← hcons] at hsplit hstep
      rw [renderStep_drop, ← List.map_drop, hstep]
      have hpos := hchunk.length_pos
      obtain ⟨out, hout, hchunks⟩ := ih (index + consumed.length) (rendered ++ [c]) (by omega)
      refine ⟨c :: out, ?_, ?_⟩
      · simp only [hout, List.append_assoc, List.singleton_append]
      · rw [hsplit]
        have hrest : keys.drop (index + consumed.length) = rest := by
          rw [← List.drop_drop, hsplit, List.drop_left]
        exact .cons hchunk (hrest ▸ hchunks)
    · next hge =>
      have hdone : keys.drop index = [] := List.drop_eq_nil_of_le (by omega)
      exact ⟨[], (List.append_nil _).symm, hdone ▸ .nil⟩

/-- **How `render` cuts key tokens**: into consecutive chunks, one code point each. -/
theorem render_chunks (keys : List ResolvedKey) : Chunks keys (render (keys.map encodeKey)) := by
  obtain ⟨out, hout, hchunks⟩ := renderLoop_chunks keys keys.length 0 [] (Nat.le_refl _)
  rw [render, List.length_map, hout, List.nil_append]
  rwa [List.drop_zero] at hchunks

/-! ## Tokens a policy produces -/

/-- The token is what some key identifier of the policy is stored as. -/
def InputPolicy.Produces (policy : InputPolicy) (token : UInt32) : Prop :=
  ∃ keyId key, policy.resolve keyId = .ok key ∧ token = encodeKey key

/-- A produced token, read off the result of resolving its identifier. -/
theorem InputPolicy.Produces.of_resolve {policy : InputPolicy} {keyId : KeyId} {token : UInt32}
    (h : (policy.resolve keyId).toOption.map encodeKey = some token) : policy.Produces token := by
  cases hresolve : policy.resolve keyId with
  | error e =>
    rw [hresolve] at h
    cases h
  | ok key =>
    rw [hresolve] at h
    cases h
    exact ⟨keyId, key, hresolve, rfl⟩

/-- Tokens that all encode keys with a property are the encoding of a list of such keys. -/
theorem exists_keys_of_produced {P : ResolvedKey → Prop} {tokens : List UInt32}
    (h : ∀ token ∈ tokens, ∃ key, P key ∧ token = encodeKey key) :
    ∃ keys : List ResolvedKey, tokens = keys.map encodeKey ∧ ∀ key ∈ keys, P key := by
  induction tokens with
  | nil => exact ⟨[], rfl, by simp⟩
  | cons token tokens ih =>
    obtain ⟨key, hkey, rfl⟩ := h token List.mem_cons_self
    obtain ⟨keys, rfl, hkeys⟩ := ih fun t ht => h t (List.mem_cons_of_mem _ ht)
    refine ⟨key :: keys, rfl, ?_⟩
    intro k hk
    rcases List.mem_cons.mp hk with rfl | hk
    · exact hkey
    · exact hkeys k hk

theorem InputPolicy.Produces.exists_key {policy : InputPolicy} {token : UInt32}
    (h : policy.Produces token) :
    ∃ key : ResolvedKey, (key.InRange ∧ policy.Admits key) ∧ token = encodeKey key := by
  obtain ⟨keyId, key, hresolve, rfl⟩ := h
  exact ⟨key, resolve_inRange hresolve, rfl⟩

end SecureKeypad.Core
