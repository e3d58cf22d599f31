import Mathlib

/-!
# Hangul Syllables and Their Normalization

Conjoining jamo behavior of the Unicode Standard (section 3.12) on code points: canonical
decomposition of precomposed syllables, canonical composition, and normalization form C of a
text of modern jamo and syllables. All of these characters have combining class zero, so no
reordering takes place between decomposition and composition.

## Main results

- `decompose_syllable`: the canonical decomposition of a syllable given by its indices
- `nfc_eq_self`: a text without a composable pair is its own normalization form C
-/

namespace Hangul

def sBase : ℕ := 0xAC00
def lBase : ℕ := 0x1100
def vBase : ℕ := 0x1161
def tBase : ℕ := 0x11A7
def lCount : ℕ := 19
def vCount : ℕ := 21
def tCount : ℕ := 28
def nCount : ℕ := vCount * tCount
def sCount : ℕ := lCount * nCount

/-! ## Classes of code points -/

/-- A precomposed syllable. -/
def IsSyllable (c : ℕ) : Prop := sBase ≤ c ∧ c < sBase + sCount

/-- A precomposed syllable without a trailing consonant. -/
def IsLV (c : ℕ) : Prop := IsSyllable c ∧ (c - sBase) % tCount = 0

/-- A modern leading consonant. -/
def IsLeading (c : ℕ) : Prop := lBase ≤ c ∧ c < lBase + lCount

/-- A modern vowel. -/
def IsVowel (c : ℕ) : Prop := vBase ≤ c ∧ c < vBase + vCount

/-- A modern trailing consonant; `tBase` itself is not one. -/
def IsTrailing (c : ℕ) : Prop := tBase < c ∧ c < tBase + tCount

instance (c : ℕ) : Decidable (IsSyllable c) := inferInstanceAs (Decidable (_ ∧ _))
instance (c : ℕ) : Decidable (IsLV c) := inferInstanceAs (Decidable (_ ∧ _))
instance (c : ℕ) : Decidable (IsLeading c) := inferInstanceAs (Decidable (_ ∧ _))
instance (c : ℕ) : Decidable (IsVowel c) := inferInstanceAs (Decidable (_ ∧ _))
instance (c : ℕ) : Decidable (IsTrailing c) := inferInstanceAs (Decidable (_ ∧ _))

/-- The syllable with the given leading, vowel and trailing indices; trailing index zero means
    no trailing consonant. -/
def syllable (l v t : ℕ) : ℕ := sBase + (l * vCount + v) * tCount + t

/-! ## Decomposition and composition -/

/-- Canonical decomposition of one code point. -/
def decompose (c : ℕ) : List ℕ :=
  if IsSyllable c then
    let s := c - sBase
    (lBase + s / nCount) :: (vBase + s % nCount / tCount) ::
      if s % tCount = 0 then [] else [tBase + s % tCount]
  else [c]

/-- The composite of two adjacent code points, if they have one. -/
def composePair (last c : ℕ) : Option ℕ :=
  if IsLeading last ∧ IsVowel c then some (syllable (last - lBase) (c - vBase) 0)
  else if IsLV last ∧ IsTrailing c then some (last + (c - tBase))
  else none

/-- Compose a text behind the code point `last`. -/
def composeFrom : ℕ → List ℕ → List ℕ
  | last, [] => [last]
  | last, c :: rest =>
    match composePair last c with
    | some composite => composeFrom composite rest
    | none => last :: composeFrom c rest

/-- Canonical composition. -/
def compose : List ℕ → List ℕ
  | [] => []
  | c :: rest => composeFrom c rest

/-- Normalization form C of a text of jamo and syllables. -/
def nfc (text : List ℕ) : List ℕ := compose (text.flatMap decompose)

/-! ## Lemmas -/

theorem isSyllable_syllable {l v t : ℕ} (hl : l < lCount) (hv : v < vCount) (ht : t < tCount) :
    IsSyllable (syllable l v t) := by
  simp only [IsSyllable, syllable, sBase, sCount, nCount, lCount, vCount, tCount] at *
  omega

/-- Every syllable is given by its three indices. -/
theorem exists_syllable {c : ℕ} (h : IsSyllable c) :
    ∃ l v t, l < lCount ∧ v < vCount ∧ t < tCount ∧ c = syllable l v t := by
  refine ⟨(c - sBase) / nCount, (c - sBase) % nCount / tCount, (c - sBase) % tCount, ?_⟩
  simp only [IsSyllable, syllable, sBase, sCount, nCount, lCount, vCount, tCount] at *
  omega

/-- A syllable has no trailing consonant exactly when its trailing index is zero. -/
theorem isLV_syllable_iff {l v t : ℕ} (hl : l < lCount) (hv : v < vCount) (ht : t < tCount) :
    IsLV (syllable l v t) ↔ t = 0 := by
  simp only [IsLV, IsSyllable, syllable, sBase, sCount, nCount, lCount, vCount, tCount] at *
  omega

/-- **The canonical decomposition of a syllable.** -/
theorem decompose_syllable {l v t : ℕ} (hl : l < lCount) (hv : v < vCount) (ht : t < tCount) :
    decompose (syllable l v t) =
      (lBase + l) :: (vBase + v) :: if t = 0 then [] else [tBase + t] := by
  have hindex : syllable l v t - sBase = (l * vCount + v) * tCount + t := by
    simp only [syllable]
    omega
  rw [decompose, if_pos (isSyllable_syllable hl hv ht)]
  simp only [hindex, nCount, lCount, vCount, tCount] at *
  have h1 : ((l * 21 + v) * 28 + t) / (21 * 28) = l := by omega
  have h2 : ((l * 21 + v) * 28 + t) % (21 * 28) / 28 = v := by omega
  have h3 : ((l * 21 + v) * 28 + t) % 28 = t := by omega
  rw [h1, h2, h3]

theorem decompose_of_not_syllable {c : ℕ} (h : ¬ IsSyllable c) : decompose c = [c] :=
  if_neg h

theorem isLeading_add {l : ℕ} (hl : l < lCount) : IsLeading (lBase + l) :=
  ⟨Nat.le_add_right _ _, Nat.add_lt_add_left hl _⟩

theorem isVowel_add {v : ℕ} (hv : v < vCount) : IsVowel (vBase + v) :=
  ⟨Nat.le_add_right _ _, Nat.add_lt_add_left hv _⟩

theorem isTrailing_add {t : ℕ} (hpos : 0 < t) (ht : t < tCount) : IsTrailing (tBase + t) :=
  ⟨Nat.lt_add_of_pos_right hpos, Nat.add_lt_add_left ht _⟩

/-- Nothing composes with a following leading consonant. -/
theorem composePair_leading (last : ℕ) {c : ℕ} (h : IsLeading c) : composePair last c = none := by
  have hvowel : ¬ IsVowel c := by
    simp only [IsLeading, IsVowel, lBase, lCount, vBase, vCount] at *
    omega
  have htrailing : ¬ IsTrailing c := by
    simp only [IsLeading, IsTrailing, lBase, lCount, tBase, tCount] at *
    omega
  rw [composePair, if_neg (fun hc => hvowel hc.2), if_neg (fun hc => htrailing hc.2)]

/-- A decomposed syllable recomposes to itself in front of any text. -/
theorem composeFrom_decompose {c : ℕ} (h : IsSyllable c) :
    ∃ first tail, decompose c = first :: tail ∧ IsLeading first ∧
      ∀ rest, composeFrom first (tail ++ rest) = composeFrom c rest := by
  obtain ⟨l, v, t, hl, hv, ht, rfl⟩ := exists_syllable h
  refine ⟨lBase + l, (vBase + v) :: if t = 0 then [] else [tBase + t],
    decompose_syllable hl hv ht, isLeading_add hl, ?_⟩
  intro rest
  have hLV : composePair (lBase + l) (vBase + v) = some (syllable l v 0) := by
    rw [composePair, if_pos ⟨isLeading_add hl, isVowel_add hv⟩, Nat.add_sub_cancel_left,
      Nat.add_sub_cancel_left]
  rw [List.cons_append, composeFrom, hLV]
  simp only
  by_cases hzero : t = 0
  · rw [if_pos hzero, List.nil_append, hzero]
  · have hT : composePair (syllable l v 0) (tBase + t) = some (syllable l v t) := by
      have hnot : ¬ IsLeading (syllable l v 0) := by
        simp only [IsLeading, syllable, sBase, lBase, lCount, vCount, tCount] at *
        omega
      rw [composePair, if_neg (fun hc => hnot hc.1),
        if_pos ⟨(isLV_syllable_iff hl hv (by decide)).mpr rfl,
          isTrailing_add (Nat.pos_of_ne_zero hzero) ht⟩, Nat.add_sub_cancel_left]
      rfl
    rw [if_neg hzero, List.singleton_append, composeFrom, hT]

/-! ## Stability -/

/-- No two adjacent code points compose. -/
def Stable (text : List ℕ) : Prop := text.IsChain fun a b => composePair a b = none

/-- Composing the decomposition of a stable text behind `last` restores the text. -/
theorem composeFrom_flatMap_decompose {last : ℕ} {text : List ℕ} (h : Stable (last :: text)) :
    composeFrom last (text.flatMap decompose) = last :: text := by
  induction text generalizing last with
  | nil => rfl
  | cons c text ih =>
    obtain ⟨hpair, hrest⟩ := List.isChain_cons_cons.mp h
    by_cases hc : IsSyllable c
    · obtain ⟨first, tail, hdec, hleading, hcompose⟩ := composeFrom_decompose hc
      rw [List.flatMap_cons, hdec, List.cons_append, composeFrom,
        composePair_leading last hleading]
      simp only
      rw [hcompose, ih hrest]
    · rw [List.flatMap_cons, decompose_of_not_syllable hc, List.singleton_append, composeFrom,
        hpair]
      simp only
      rw [ih hrest]

/-- **A stable text is its own normalization form C.** -/
theorem nfc_eq_self {text : List ℕ} (h : Stable text) : nfc text = text := by
  cases text with
  | nil => rfl
  | cons c text =>
    unfold nfc
    by_cases hc : IsSyllable c
    · obtain ⟨first, tail, hdec, _, hcompose⟩ := composeFrom_decompose hc
      rw [List.flatMap_cons, hdec, List.cons_append, compose, hcompose,
        composeFrom_flatMap_decompose h]
    · rw [List.flatMap_cons, decompose_of_not_syllable hc, List.singleton_append, compose,
        composeFrom_flatMap_decompose h]

end Hangul
