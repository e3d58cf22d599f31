import Mathlib

/-!
# Byte-Addressed Memory

Memory as bytes at addresses, words of any width in it, and ranges of addresses. What is written
to one range is read back from it and leaves every range alone that it shares no address with.

## Main results

- `share_iff`: when two ranges share an address
- `readWord_writeWord`: a word is read back
- `readWord_write`: a write leaves a word apart from it alone
-/

namespace ByteMemory

/-- What is stored at each address. -/
abbrev Memory := ℕ → UInt8

/-! ## Ranges -/

/-- `length` addresses from `start` on. -/
structure Range where
  start : ℕ
  length : ℕ
deriving DecidableEq

/-- An address of a range. -/
def Range.Has (range : Range) (address : ℕ) : Prop :=
  range.start ≤ address ∧ address < range.start + range.length

/-- Two ranges have an address in common. -/
def Share (first second : Range) : Prop := ∃ address, first.Has address ∧ second.Has address

theorem share_iff {first second : Range} : Share first second ↔
    0 < first.length ∧ 0 < second.length ∧ first.start < second.start + second.length ∧
      second.start < first.start + first.length := by
  constructor
  · intro ⟨address, ⟨hfirst, hfirst'⟩, hsecond, hsecond'⟩
    omega
  · intro ⟨hfirst, hsecond, hbefore, hbehind⟩
    refine ⟨max first.start second.start, ⟨le_max_left .., ?_⟩, le_max_right .., ?_⟩
    · exact max_lt (by omega) hbehind
    · exact max_lt hbefore (by omega)

instance (first second : Range) : Decidable (Share first second) := decidable_of_iff _ share_iff.symm

theorem Share.symm {first second : Range} (h : Share first second) : Share second first :=
  let ⟨address, hfirst, hsecond⟩ := h
  ⟨address, hsecond, hfirst⟩

/-! ## Bytes -/

/-- The bytes of a range. -/
def read (memory : Memory) (start length : ℕ) : List UInt8 :=
  (List.range length).map fun i => memory (start + i)

/-- The memory behind a write of bytes from `start` on. -/
def write (memory : Memory) (start : ℕ) (bytes : List UInt8) : Memory := fun address =>
  if start ≤ address ∧ address < start + bytes.length then bytes.getD (address - start) 0
  else memory address

theorem write_apply_of_not_has {memory : Memory} {start address : ℕ} {bytes : List UInt8}
    (h : ¬ (Range.mk start bytes.length).Has address) :
    write memory start bytes address = memory address := if_neg h

theorem write_apply {memory : Memory} {start i : ℕ} {bytes : List UInt8} (h : i < bytes.length) :
    write memory start bytes (start + i) = bytes.getD i 0 := by
  rw [write, if_pos (by omega), Nat.add_sub_cancel_left]

/-- To write what is there already changes nothing. -/
theorem write_eq_self {memory : Memory} {start : ℕ} {bytes : List UInt8}
    (h : ∀ i < bytes.length, memory (start + i) = bytes.getD i 0) :
    write memory start bytes = memory := by
  funext address
  by_cases hhas : (Range.mk start bytes.length).Has address
  · obtain ⟨i, rfl⟩ := Nat.exists_eq_add_of_le hhas.1
    have hi : i < bytes.length := Nat.lt_of_add_lt_add_left hhas.2
    rw [write_apply hi, h i hi]
  · exact write_apply_of_not_has hhas

/-! ## Words -/

/-- The bytes of a word of some width, the lowest first. -/
def wordBytes : ℕ → ℕ → List UInt8
  | 0, _ => []
  | width + 1, value => UInt8.ofNat value :: wordBytes width (value / 256)

/-- The word that bytes stand for. -/
def wordOf : List UInt8 → ℕ
  | [] => 0
  | byte :: bytes => byte.toNat + 256 * wordOf bytes

@[simp] theorem length_wordBytes (width value : ℕ) : (wordBytes width value).length = width := by
  induction width generalizing value with
  | zero => rfl
  | succ width ih => rw [wordBytes, List.length_cons, ih]

theorem wordOf_wordBytes {width value : ℕ} (h : value < 256 ^ width) :
    wordOf (wordBytes width value) = value := by
  induction width generalizing value with
  | zero =>
    rw [Nat.pow_zero, Nat.lt_one_iff] at h
    rw [wordBytes, wordOf, h]
  | succ width ih =>
    have hrest : value / 256 < 256 ^ width := by
      rw [Nat.div_lt_iff_lt_mul (by decide)]
      rwa [Nat.pow_succ] at h
    rw [wordBytes, wordOf, ih hrest, UInt8.toNat_ofNat']
    exact Nat.mod_add_div value 256

theorem wordBytes_zero (width : ℕ) : wordBytes width 0 = List.replicate width 0 := by
  induction width with
  | zero => rfl
  | succ width ih =>
    rw [wordBytes, Nat.zero_div, ih]
    rfl

/-- The word at an address. -/
def readWord (width : ℕ) (memory : Memory) (start : ℕ) : ℕ := wordOf (read memory start width)

/-- The memory behind a write of a word. -/
def writeWord (width : ℕ) (memory : Memory) (start value : ℕ) : Memory :=
  write memory start (wordBytes width value)

theorem read_write (memory : Memory) (start : ℕ) (bytes : List UInt8) :
    read (write memory start bytes) start bytes.length = bytes := by
  apply List.ext_getElem
  · rw [read, List.length_map, List.length_range]
  · intro i _ hi
    simp only [read, List.getElem_map, List.getElem_range, write_apply hi]
    exact (List.getElem_eq_getD 0).symm

/-- **A word is read back.** -/
theorem readWord_writeWord {width value : ℕ} (memory : Memory) (start : ℕ)
    (h : value < 256 ^ width) : readWord width (writeWord width memory start value) start = value := by
  have hread := read_write memory start (wordBytes width value)
  rw [length_wordBytes] at hread
  rw [readWord, writeWord, hread, wordOf_wordBytes h]

/-- **A write leaves a word apart from it alone.** -/
theorem readWord_write {width start address : ℕ} {memory : Memory} {bytes : List UInt8}
    (h : ¬ Share ⟨address, width⟩ ⟨start, bytes.length⟩) :
    readWord width (write memory start bytes) address = readWord width memory address := by
  rw [readWord, readWord, read, read]
  congr 1
  apply List.map_congr_left
  intro i hi
  apply write_apply_of_not_has
  intro hhas
  have hword : (Range.mk address width).Has (address + i) :=
    ⟨Nat.le_add_right _ _, Nat.add_lt_add_left (List.mem_range.mp hi) _⟩
  exact h ⟨address + i, hword, hhas⟩

theorem readWord_writeWord_of_apart {width start address value : ℕ} {memory : Memory}
    (h : ¬ Share ⟨address, width⟩ ⟨start, width⟩) :
    readWord width (writeWord width memory start value) address = readWord width memory address :=
  readWord_write (by rwa [length_wordBytes])

theorem wordOf_eq_zero_iff {bytes : List UInt8} : wordOf bytes = 0 ↔ ∀ byte ∈ bytes, byte = 0 := by
  induction bytes with
  | nil => simp [wordOf]
  | cons byte bytes ih =>
    rw [wordOf, Nat.add_eq_zero_iff, List.forall_mem_cons, ← ih, ← UInt8.toNat_inj]
    simp

/-- To clear a word changes nothing exactly when it is clear already. -/
theorem writeWord_zero_eq_self_iff {width start : ℕ} {memory : Memory} :
    writeWord width memory start 0 = memory ↔ readWord width memory start = 0 := by
  constructor
  · intro h
    have hread := readWord_writeWord memory start (Nat.pow_pos (by decide) : 0 < 256 ^ width)
    rwa [h] at hread
  · intro h
    apply write_eq_self
    intro i hi
    rw [length_wordBytes] at hi
    have hmem : memory (start + i) ∈ read memory start width :=
      List.mem_map.mpr ⟨i, List.mem_range.mpr hi, rfl⟩
    rw [wordOf_eq_zero_iff.mp h _ hmem, wordBytes_zero, List.getD_replicate _ hi]

end ByteMemory
