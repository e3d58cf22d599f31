import Mathlib

/-!
# Views on Byte Buffers

Buffers of bytes with views on ranges of them, as in ECMAScript: several views may share bytes,
and what is written through one is seen through the others. The memory is total; a view names the
bytes it covers. No buffer is ever detached, so that a view keeps its length.

## Main results

- `zeroAll_apply`: what clearing a list of views leaves of the memory
- `isZero_zeroAll_iff`: when a view holds zeros after others have been cleared
-/

namespace ByteViews

/-- The bytes of every buffer. -/
abbrev Memory := ℕ → ℕ → UInt8

/-- A range of a buffer. -/
structure View where
  buffer : ℕ
  byteOffset : ℕ
  byteLength : ℕ
deriving DecidableEq, Repr

/-- The view covers a byte of a buffer. -/
def View.Covers (view : View) (buffer index : ℕ) : Prop :=
  view.buffer = buffer ∧ view.byteOffset ≤ index ∧ index < view.byteOffset + view.byteLength

instance (view : View) (buffer index : ℕ) : Decidable (view.Covers buffer index) :=
  inferInstanceAs (Decidable (_ ∧ _ ∧ _))

/-- What is seen through a view. -/
def read (memory : Memory) (view : View) : List UInt8 :=
  (List.range view.byteLength).map fun i => memory view.buffer (view.byteOffset + i)

/-- `view.fill(0)`. -/
def zero (memory : Memory) (view : View) : Memory := fun buffer index =>
  if view.Covers buffer index then 0 else memory buffer index

/-- Clear views one after the other. -/
def zeroAll (memory : Memory) (views : List View) : Memory := views.foldl zero memory

/-- The view holds zeros only. -/
def IsZero (memory : Memory) (view : View) : Prop :=
  ∀ index, view.Covers view.buffer index → memory view.buffer index = 0

@[simp] theorem length_read (memory : Memory) (view : View) :
    (read memory view).length = view.byteLength := by
  rw [read, List.length_map, List.length_range]

@[simp] theorem zeroAll_nil (memory : Memory) : zeroAll memory [] = memory := rfl

@[simp] theorem zeroAll_cons (memory : Memory) (view : View) (views : List View) :
    zeroAll memory (view :: views) = zeroAll (zero memory view) views := rfl

/-- **Cleared bytes are zero, all others are as before.** -/
theorem zeroAll_apply (memory : Memory) (views : List View) (buffer index : ℕ) :
    zeroAll memory views buffer index =
      if ∃ view ∈ views, view.Covers buffer index then 0 else memory buffer index := by
  induction views generalizing memory with
  | nil => simp
  | cons view views ih =>
    rw [zeroAll_cons, ih]
    by_cases hrest : ∃ view ∈ views, view.Covers buffer index
    · obtain ⟨other, hmem, hcovers⟩ := hrest
      rw [if_pos ⟨other, hmem, hcovers⟩, if_pos ⟨other, List.mem_cons_of_mem _ hmem, hcovers⟩]
    · rw [if_neg hrest, zero]
      by_cases hview : view.Covers buffer index
      · rw [if_pos hview, if_pos ⟨view, List.mem_cons_self, hview⟩]
      · rw [if_neg hview, if_neg]
        intro ⟨other, hmem, hcovers⟩
        rcases List.mem_cons.mp hmem with rfl | hmem
        · exact hview hcovers
        · exact hrest ⟨other, hmem, hcovers⟩

theorem isZero_zeroAll_iff {memory : Memory} {views : List View} {view : View} :
    IsZero (zeroAll memory views) view ↔ ∀ index, view.Covers view.buffer index →
      memory view.buffer index = 0 ∨ ∃ other ∈ views, other.Covers view.buffer index := by
  constructor
  · intro h index hindex
    have hzero := h index hindex
    rw [zeroAll_apply] at hzero
    split at hzero
    · next hcovered => exact .inr hcovered
    · exact .inl hzero
  · intro h index hindex
    rw [zeroAll_apply]
    split
    · rfl
    · next hfree => exact (h index hindex).resolve_right hfree

/-- A cleared view holds zeros. -/
theorem isZero_zeroAll {views : List View} {view : View} (memory : Memory) (h : view ∈ views) :
    IsZero (zeroAll memory views) view :=
  isZero_zeroAll_iff.mpr fun _ hindex => .inr ⟨view, h, hindex⟩

/-- Clearing keeps zeros. -/
theorem IsZero.zeroAll {memory : Memory} {view : View} (h : IsZero memory view)
    (views : List View) : IsZero (zeroAll memory views) view :=
  isZero_zeroAll_iff.mpr fun index hindex => .inl (h index hindex)

/-- Clearing twice is clearing once. -/
theorem zeroAll_zeroAll (memory : Memory) (views : List View) :
    ByteViews.zeroAll (ByteViews.zeroAll memory views) views = ByteViews.zeroAll memory views := by
  funext buffer index
  rw [zeroAll_apply, zeroAll_apply]
  split <;> rfl

end ByteViews
