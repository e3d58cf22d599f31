import Mathlib

/-!
# Shuffling by Swaps

The shuffle of an array that runs an index from the last position down to the second and swaps
each position with a drawn one at or before it. Which permutation results depends on the draws
only, and every permutation comes from exactly one sequence of draws, so that independent uniform
draws give a uniform permutation.

## Main definitions

- `Shuffle.down`: the loop, with every access to the array checked
- `Shuffle.Draws`: the sequences of draws for `n` positions
- `Shuffle.arrangement`: the permutation a sequence of draws makes

## Main results

- `down_eq`: the loop never leaves the array and arranges it by that permutation
- `arrangement_bijective`: draws and permutations correspond one to one
-/

namespace Shuffle

open Equiv

universe u

variable {α : Type u}

/-! ## The loop -/

/-- Exchange two elements; `none` for an index out of range. -/
def swapAt (items : List α) (i j : ℕ) : Option (List α) :=
  match items[i]?, items[j]? with
  | some a, some b => some ((items.set i b).set j a)
  | _, _ => none

/-- The loop from index `i` down to 1; `draw i` is what is drawn for index `i`. -/
def down (draw : ℕ → ℕ) : ℕ → List α → Option (List α)
  | 0, items => some items
  | i + 1, items => (swapAt items (i + 1) (draw (i + 1))).bind (down draw i)

/-! ## Draws and the permutation they make -/

/-- A draw for each of `n` positions, at or before it. -/
abbrev Draws (n : ℕ) := (i : Fin n) → Fin (i.val + 1)

variable {n : ℕ}

/-- The draw for an index. -/
def Draws.at (draws : Draws n) (i : ℕ) : ℕ := if h : i < n then draws ⟨i, h⟩ else 0

/-- The position drawn for an index. -/
def Draws.position (draws : Draws n) (i : Fin n) : Fin n :=
  ⟨draws i, Nat.lt_of_lt_of_le (draws i).isLt i.isLt⟩

theorem Draws.at_eq (draws : Draws n) (i : Fin n) : draws.at i = draws.position i := by
  rw [Draws.at, dif_pos i.isLt]
  rfl

/-- What the swaps of the indices below `k` make, the highest index first. -/
def order (draws : Draws n) : (k : ℕ) → k ≤ n → Perm (Fin n)
  | 0, _ => 1
  | k + 1, h => swap ⟨k, h⟩ (draws.position ⟨k, h⟩) * order draws k (Nat.le_of_succ_le h)

/-- The permutation a sequence of draws makes. -/
def arrangement (draws : Draws n) : Perm (Fin n) := order draws n (Nat.le_refl n)

theorem swapAt_ofFn (f : Fin n → α) (i j : Fin n) :
    swapAt (List.ofFn f) i j = some (List.ofFn (f ∘ swap i j)) := by
  have hi : (List.ofFn f)[i.val]? = some (f i) := by
    rw [List.getElem?_ofFn, dif_pos i.isLt]
  have hj : (List.ofFn f)[j.val]? = some (f j) := by
    rw [List.getElem?_ofFn, dif_pos j.isLt]
  simp only [swapAt, hi, hj, Option.some.injEq]
  apply List.ext_getElem
  · simp
  · intro k hk hk'
    rw [List.getElem_set, List.getElem_set, List.getElem_ofFn, List.getElem_ofFn,
      Function.comp_apply]
    rw [List.length_ofFn] at hk'
    by_cases hkj : j.val = k
    · have hj' : j = ⟨k, hk'⟩ := Fin.ext hkj
      rw [if_pos hkj, ← hj', swap_apply_right]
    · by_cases hki : i.val = k
      · have hi' : i = ⟨k, hk'⟩ := Fin.ext hki
        rw [if_neg hkj, if_pos hki, ← hi', swap_apply_left]
      · rw [if_neg hkj, if_neg hki, swap_apply_of_ne_of_ne]
        · intro heq
          exact hki (congrArg Fin.val heq).symm
        · intro heq
          exact hkj (congrArg Fin.val heq).symm

/-- **The loop arranges the array by the permutation of the draws.** -/
theorem down_ofFn (draws : Draws n) (f : Fin n → α) (k : ℕ) (hk : k < n) :
    down draws.at k (List.ofFn f) = some (List.ofFn (f ∘ order draws (k + 1) hk)) := by
  induction k generalizing f with
  | zero =>
    -- The only draw for the first position is the position itself.
    have hself : draws.position ⟨0, hk⟩ = ⟨0, hk⟩ :=
      Fin.ext (Nat.lt_one_iff.mp (draws ⟨0, hk⟩).isLt)
    rw [down, order, order, hself, swap_self]
    rfl
  | succ k ih =>
    rw [down, draws.at_eq ⟨k + 1, hk⟩, swapAt_ofFn f ⟨k + 1, hk⟩, Option.bind_some,
      ih _ (Nat.lt_of_succ_lt hk)]
    rfl

theorem down_eq (items : List α) (draws : Draws items.length) :
    down draws.at (items.length - 1) items =
      some (List.ofFn fun k => items.get (arrangement draws k)) := by
  have hitems : items = List.ofFn items.get := (List.ofFn_get items).symm
  rcases Nat.eq_zero_or_pos items.length with hzero | hpos
  · have hnil := List.eq_nil_of_length_eq_zero hzero
    subst hnil
    rfl
  · have hlast : items.length - 1 < items.length := Nat.sub_lt hpos Nat.one_pos
    conv_lhs => arg 3; rw [hitems]
    rw [down_ofFn draws items.get _ hlast]
    have horder : ∀ k (hk : k ≤ items.length), k = items.length →
        order draws k hk = arrangement draws := by
      intro k hk heq
      subst heq
      rfl
    rw [horder _ _ (Nat.sub_add_cancel hpos)]
    rfl

/-! ## One sequence of draws for each permutation -/

/-- Positions from `k` on are not touched below index `k`. -/
theorem order_apply_of_le (draws : Draws n) (k : ℕ) (hk : k ≤ n) {j : Fin n} (hj : k ≤ j.val) :
    order draws k hk j = j := by
  induction k with
  | zero => rfl
  | succ k ih =>
    rw [order, Perm.mul_apply, ih _ (Nat.le_of_succ_le hj)]
    apply swap_apply_of_ne_of_ne
    · intro heq
      rw [heq] at hj
      exact Nat.not_succ_le_self k hj
    · intro heq
      rw [heq] at hj
      have hlt : (draws.position ⟨k, hk⟩).val ≤ k := Nat.lt_succ_iff.mp (draws ⟨k, hk⟩).isLt
      omega

/-- The highest position shows what was drawn for it. -/
theorem order_apply_top (draws : Draws n) (k : ℕ) (hk : k + 1 ≤ n) :
    order draws (k + 1) hk ⟨k, hk⟩ = draws.position ⟨k, hk⟩ := by
  rw [order, Perm.mul_apply, order_apply_of_le draws k _ (Nat.le_refl k), swap_apply_left]

theorem order_injective {draws draws' : Draws n} (k : ℕ) (hk : k ≤ n)
    (h : order draws k hk = order draws' k hk) : ∀ i : Fin n, i.val < k → draws i = draws' i := by
  induction k with
  | zero => exact fun i hi => absurd hi (Nat.not_lt_zero _)
  | succ k ih =>
    have htop : draws.position ⟨k, hk⟩ = draws'.position ⟨k, hk⟩ := by
      rw [← order_apply_top, ← order_apply_top, h]
    have hrest : order draws k (Nat.le_of_succ_le hk) = order draws' k (Nat.le_of_succ_le hk) := by
      rw [order, order, htop] at h
      exact mul_left_cancel h
    intro i hi
    rcases Nat.lt_succ_iff_lt_or_eq.mp hi with hlt | heq
    · exact ih _ hrest i hlt
    · have hi' : i = ⟨k, hk⟩ := Fin.ext heq
      subst hi'
      have hval : (draws.position ⟨k, hk⟩).val = (draws'.position ⟨k, hk⟩).val :=
        congrArg Fin.val htop
      exact Fin.ext hval

theorem card_draws (n : ℕ) : Fintype.card (Draws n) = n.factorial := by
  rw [Fintype.card_pi]
  simp only [Fintype.card_fin]
  rw [Fin.prod_univ_eq_prod_range (fun i => i + 1) n, Finset.prod_range_add_one_eq_factorial]

/-- **Every permutation comes from exactly one sequence of draws.** -/
theorem arrangement_bijective (n : ℕ) :
    Function.Bijective (arrangement : Draws n → Perm (Fin n)) := by
  rw [Fintype.bijective_iff_injective_and_card]
  constructor
  · intro draws draws' h
    funext i
    exact order_injective n (Nat.le_refl n) h i i.isLt
  · rw [card_draws, Fintype.card_perm, Fintype.card_fin]

end Shuffle
