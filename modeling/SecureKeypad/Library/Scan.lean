import Mathlib

/-!
# Greedy Scans

A scanner cuts a list into consecutive pieces: one round looks at what is left, takes some items
off its front and puts out one symbol for them. This module fixes what a scan is and shows that a
scanner which never looks further than one item past what it takes is *incremental*: one more
item at the end of the list changes nothing but the last symbol.

## Main definitions

- `Scan.Scans`: the whole scan of a list
- `Scan.OneAhead`: a round takes at least one item, puts out one symbol, and depends on the items
  it takes and on the next one only

## Main rules

- `OneAhead.round_append`, `OneAhead.round_take`: the same round on a longer and a shorter list
- `OneAhead.scans_snoc`: one more item extends the output by a symbol or replaces its last one
-/

namespace Scan

universe u v

variable {α : Type u} {β : Type v} {round : List α → List β × ℕ}

/-- `Scans round xs ys`: scanning `xs` round by round puts out `ys`. -/
inductive Scans (round : List α → List β × ℕ) : List α → List β → Prop where
  | nil : Scans round [] []
  | cons {xs : List α} {ys : List β} (hne : xs ≠ [])
      (hrest : Scans round (xs.drop (round xs).2) ys) : Scans round xs ((round xs).1 ++ ys)

theorem Scans.eq_nil {ys : List β} (h : Scans round [] ys) : ys = [] := by
  cases h with
  | nil => rfl
  | cons hne _ => exact absurd rfl hne

/-- A scan of something starts with a round. -/
theorem Scans.exists_round {xs : List α} {ys : List β} (h : Scans round xs ys) (hne : xs ≠ []) :
    ∃ rest, Scans round (xs.drop (round xs).2) rest ∧ ys = (round xs).1 ++ rest := by
  cases h with
  | nil => exact absurd rfl hne
  | cons _ hrest => exact ⟨_, hrest, rfl⟩

/-- A scan of one round. -/
theorem Scans.eq_round {xs : List α} {ys : List β} (h : Scans round xs ys) (hne : xs ≠ [])
    (hall : xs.length ≤ (round xs).2) : ys = (round xs).1 := by
  obtain ⟨rest, hrest, rfl⟩ := h.exists_round hne
  rw [List.drop_eq_nil_of_le hall] at hrest
  rw [hrest.eq_nil, List.append_nil]

/-- The two lists agree on their first `n` items, and so they do on the next one unless the first
    list ends there. -/
def Agrees (xs ys : List α) (n : ℕ) : Prop :=
  (∀ i < n, xs[i]? = ys[i]?) ∧ (xs[n]? = ys[n]? ∨ xs[n]? = none)

theorem Agrees.of_le {xs ys : List α} {m n : ℕ} (h : Agrees xs ys n) (hle : m ≤ n) :
    Agrees xs ys m := by
  obtain ⟨htaken, hnext⟩ := h
  constructor
  · intro i hi
    exact htaken i (Nat.lt_of_lt_of_le hi hle)
  · rcases Nat.lt_or_eq_of_le hle with hlt | rfl
    · exact .inl (htaken m hlt)
    · exact hnext

/-- Scanners that look at most one item past what they take. -/
structure OneAhead (round : List α → List β × ℕ) : Prop where
  /-- A round takes at least one item. -/
  pos : ∀ xs, xs ≠ [] → 0 < (round xs).2
  /-- A round takes no more than there is. -/
  le : ∀ xs, xs ≠ [] → (round xs).2 ≤ xs.length
  /-- A round puts out one symbol. -/
  single : ∀ xs, xs ≠ [] → ∃ y, (round xs).1 = [y]
  /-- A round depends on what it takes and the next item, and not on that one if it is absent. -/
  congr : ∀ xs ys, Agrees ys xs (round xs).2 → round ys = round xs

namespace OneAhead

variable (h : OneAhead round)

include h

/-- Items behind the lookahead of a round make no difference to it. -/
theorem round_append {xs : List α} (more : List α) (hlt : (round xs).2 < xs.length) :
    round (xs ++ more) = round xs := by
  apply h.congr
  constructor
  · intro i hi
    exact List.getElem?_append_left (hi.trans hlt)
  · exact .inl (List.getElem?_append_left hlt)

/-- A round that took nothing of the appended items is the round without them. -/
theorem round_take {xs more : List α} (hle : (round (xs ++ more)).2 ≤ xs.length) :
    round xs = round (xs ++ more) := by
  apply h.congr
  constructor
  · intro i hi
    exact (List.getElem?_append_left (Nat.lt_of_lt_of_le hi hle)).symm
  · rcases Nat.lt_or_eq_of_le hle with hlt | heq
    · exact .inl (List.getElem?_append_left hlt).symm
    · exact .inr (List.getElem?_eq_none heq.ge)

theorem scans_ne_nil {xs : List α} {ys : List β} (hscan : Scans round xs ys) (hne : xs ≠ []) :
    ys ≠ [] := by
  obtain ⟨rest, -, rfl⟩ := hscan.exists_round hne
  obtain ⟨y, hy⟩ := h.single xs hne
  rw [hy]
  exact List.cons_ne_nil _ _

/-- One item is scanned in one round. -/
theorem scans_singleton {x : α} {ys : List β} (hscan : Scans round [x] ys) : ∃ y, ys = [y] := by
  have hne : [x] ≠ [] := List.cons_ne_nil _ _
  obtain ⟨y, hy⟩ := h.single [x] hne
  exact ⟨y, (hscan.eq_round hne (h.pos [x] hne)).trans hy⟩

/-- **One more item extends the output or replaces its last symbol.** -/
theorem scans_snoc {xs : List α} {x : α} {ys ys' : List β} (hscan : Scans round xs ys)
    (hscan' : Scans round (xs ++ [x]) ys') :
    ∃ y, ys' = ys ++ [y] ∨ (ys ≠ [] ∧ ys' = ys.dropLast ++ [y]) := by
  induction hscan generalizing ys' with
  | nil =>
    obtain ⟨y, hy⟩ := h.scans_singleton hscan'
    exact ⟨y, .inl hy⟩
  | @cons xs ys hne hrest ih =>
    obtain ⟨y₀, hy₀⟩ := h.single xs hne
    have hsnoc : xs ++ [x] ≠ [] := List.append_ne_nil_of_right_ne_nil _ (List.cons_ne_nil _ _)
    rcases Nat.lt_or_ge (round xs).2 xs.length with hlt | hge
    · -- The first round ends before the end of the list and stays as it is.
      obtain ⟨rest, hrest', rfl⟩ := hscan'.exists_round hsnoc
      rw [h.round_append [x] hlt, List.drop_append_of_le_length hlt.le] at hrest'
      rw [h.round_append [x] hlt]
      obtain ⟨y, hy⟩ := ih hrest'
      refine ⟨y, ?_⟩
      rcases hy with rfl | ⟨hys, rfl⟩
      · exact .inl (List.append_assoc _ _ _).symm
      · refine .inr ⟨List.append_ne_nil_of_right_ne_nil _ hys, ?_⟩
        rw [List.dropLast_append_of_ne_nil hys, List.append_assoc]
    · -- The first round is the whole scan.
      have hdone : xs.drop (round xs).2 = [] := List.drop_eq_nil_of_le hge
      rw [hdone] at hrest
      rw [hrest.eq_nil, List.append_nil, hy₀]
      rcases Nat.lt_or_ge xs.length (round (xs ++ [x])).2 with hmore | hsame
      · -- It takes the new item as well: its symbol is replaced.
        obtain ⟨y, hy⟩ := h.single (xs ++ [x]) hsnoc
        have hall := hscan'.eq_round hsnoc (by rw [List.length_append]; exact hmore)
        exact ⟨y, .inr ⟨List.cons_ne_nil _ _, by rw [hall, hy]; rfl⟩⟩
      · -- It leaves the new item to a round of its own.
        have hround := h.round_take hsame
        have hlen : (round xs).2 = xs.length := Nat.le_antisymm (h.le xs hne) hge
        obtain ⟨rest, hrest', rfl⟩ := hscan'.exists_round hsnoc
        rw [← hround, hlen, List.drop_left] at hrest'
        obtain ⟨y, rfl⟩ := h.scans_singleton hrest'
        exact ⟨y, .inl (by rw [← hround, hy₀])⟩

end OneAhead

end Scan
