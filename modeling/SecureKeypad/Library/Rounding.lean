import Mathlib

/-!
# Rounding to Binary Floating Point

Rounding of a rational to a binary format, to nearest with ties to even, as conversions and
operations of IEEE 754 formats do while the result stays in range. A format is given by the bits
of its significand and the exponent of its smallest step.

## Main results

- `le_toBinary`, `toBinary_le`: rounding does not cross a value the format has
-/

namespace Rounding

/-- The nearest integer, of two the even one. -/
def roundHalfEven (y : ℚ) : ℤ :=
  if y - ⌊y⌋ < 1 / 2 then ⌊y⌋
  else if 1 / 2 < y - ⌊y⌋ then ⌊y⌋ + 1
  else if Even ⌊y⌋ then ⌊y⌋
  else ⌊y⌋ + 1

theorem le_roundHalfEven {k : ℤ} {y : ℚ} (h : (k : ℚ) ≤ y) : k ≤ roundHalfEven y := by
  have hfloor : k ≤ ⌊y⌋ := Int.le_floor.mpr h
  unfold roundHalfEven
  split_ifs <;> omega

theorem roundHalfEven_le {k : ℤ} {y : ℚ} (h : y ≤ (k : ℚ)) : roundHalfEven y ≤ k := by
  have hfloor : ⌊y⌋ ≤ k := by
    have hle := (Int.floor_le y).trans h
    exact_mod_cast hle
  -- above the floor only when there is a fraction, and then the floor is not `k`
  have hfraction : 0 < y - ⌊y⌋ → ⌊y⌋ + 1 ≤ k := by
    intro hpos
    have hlt : (⌊y⌋ : ℚ) < k := lt_of_lt_of_le (by linarith) h
    exact_mod_cast hlt
  unfold roundHalfEven
  split_ifs with hlow hhigh heven
  · exact hfloor
  · exact hfraction (by linarith)
  · exact hfloor
  · exact hfraction (by linarith)

/-- The exponent of the step between neighbours of `x`. -/
def stepExponent (bits : ℕ) (least : ℤ) (x : ℚ) : ℤ := max (Int.log 2 |x| - bits + 1) least

/-- `x` rounded to a format with a significand of `bits` and smallest step `2 ^ least`. -/
def toBinary (bits : ℕ) (least : ℤ) (x : ℚ) : ℚ :=
  roundHalfEven (x / 2 ^ stepExponent bits least x) * 2 ^ stepExponent bits least x

section Bounds

variable {bits : ℕ} {least exponent : ℤ} {bound : ℤ} {x : ℚ}

/-- A multiple of a coarser step, in steps. -/
private theorem eq_steps (hexponent : stepExponent bits least x ≤ exponent) :
    ∃ k : ℤ, (bound : ℚ) * 2 ^ exponent = k * 2 ^ stepExponent bits least x := by
  obtain ⟨n, hn⟩ := Int.le.dest hexponent
  refine ⟨bound * 2 ^ n, ?_⟩
  rw [← hn, zpow_add₀ two_ne_zero]
  push_cast
  rw [zpow_natCast]
  ring

theorem le_toBinary (hexponent : stepExponent bits least x ≤ exponent)
    (h : (bound : ℚ) * 2 ^ exponent ≤ x) : (bound : ℚ) * 2 ^ exponent ≤ toBinary bits least x := by
  have hstep : (0 : ℚ) < 2 ^ stepExponent bits least x := zpow_pos two_pos _
  obtain ⟨k, hk⟩ := @eq_steps bits least exponent bound x hexponent
  rw [hk] at h ⊢
  rw [toBinary, mul_le_mul_iff_left₀ hstep, Int.cast_le]
  exact le_roundHalfEven ((le_div_iff₀ hstep).mpr h)

theorem toBinary_le (hexponent : stepExponent bits least x ≤ exponent)
    (h : x ≤ (bound : ℚ) * 2 ^ exponent) : toBinary bits least x ≤ (bound : ℚ) * 2 ^ exponent := by
  have hstep : (0 : ℚ) < 2 ^ stepExponent bits least x := zpow_pos two_pos _
  obtain ⟨k, hk⟩ := @eq_steps bits least exponent bound x hexponent
  rw [hk] at h ⊢
  rw [toBinary, mul_le_mul_iff_left₀ hstep, Int.cast_le]
  exact roundHalfEven_le ((div_le_iff₀ hstep).mpr h)

/-- A value the format has is kept. -/
theorem toBinary_eq (hexponent : stepExponent bits least x ≤ exponent)
    (h : x = (bound : ℚ) * 2 ^ exponent) : toBinary bits least x = x := by
  apply le_antisymm
  · exact (toBinary_le hexponent h.le).trans h.ge
  · exact h.le.trans (le_toBinary hexponent h.ge)

/-- A number from a power of two on stays there. -/
theorem two_pow_le_toBinary {top : ℕ} (hbits : 0 < bits) (hleast : least + bits ≤ top + 1)
    (hx : 2 ^ top ≤ x) : 2 ^ top ≤ toBinary bits least x := by
  have hpos : (0 : ℚ) < x := lt_of_lt_of_le (by positivity) hx
  have habs : |x| = x := abs_of_pos hpos
  have hlog : (top : ℤ) ≤ Int.log 2 |x| := by
    rw [habs, ← Int.zpow_le_iff_le_log one_lt_two hpos]
    exact_mod_cast hx
  -- The power of two below `x` has the step of `x`.
  have hstep : stepExponent bits least x = Int.log 2 |x| - bits + 1 := by
    rw [stepExponent]
    exact max_eq_left (by omega)
  have hsplit : ((2 ^ (bits - 1) : ℤ) : ℚ) * 2 ^ stepExponent bits least x =
      2 ^ Int.log 2 |x| := by
    have hexponent : Int.log 2 |x| = ((bits - 1 : ℕ) : ℤ) + stepExponent bits least x := by
      rw [hstep]
      omega
    conv_rhs => rw [hexponent]
    rw [zpow_add₀ two_ne_zero, zpow_natCast]
    push_cast
    rfl
  have hbelow : ((2 ^ (bits - 1) : ℤ) : ℚ) * 2 ^ stepExponent bits least x ≤ x := by
    rw [hsplit, habs]
    exact_mod_cast Int.zpow_log_le_self one_lt_two hpos
  have hround := le_toBinary (le_refl (stepExponent bits least x)) hbelow
  rw [hsplit] at hround
  refine le_trans ?_ hround
  rw [← zpow_natCast]
  exact zpow_le_zpow_right₀ one_le_two hlog

/-- The step of a small number is small. -/
theorem stepExponent_le {top : ℕ} (hpos : 0 < top) (hx : |x| < 2 ^ top)
    (htop : (top : ℤ) ≤ bits + exponent) (hleast : least ≤ exponent) :
    stepExponent bits least x ≤ exponent := by
  refine max_le ?_ hleast
  have hlog : Int.log 2 |x| < top := by
    rcases (abs_nonneg x).eq_or_lt with hzero | habs
    · rw [← hzero, Int.log_zero_right]
      exact_mod_cast hpos
    · rw [← Int.lt_zpow_iff_log_lt one_lt_two habs]
      exact_mod_cast hx
  omega

end Bounds

end Rounding
