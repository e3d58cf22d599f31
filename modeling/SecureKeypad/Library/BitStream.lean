import Mathlib

/-!
# Digits as Streams of Bits

A list of digits of `n` bits is a stream of bits, the most significant first. Encodings such as
base32 and base64 regroup such a stream: the bits of `m`-bit digits, up to less than one digit of
zero bits at the end, are the bits of `n`-bit digits.

## Main definitions

- `BitStream.bitsOf`, `BitStream.stream`: the bits of a digit and of a list of digits
- `BitStream.Regroups`: two lists of digits have the same bits, but for zeros at the end

## Main results

- `bitsOf_add`: the bits of a number are those of its upper part and then of its lower part
- `Regroups.eq_left`, `Regroups.eq_right`: each of the two lists determines the other
-/

namespace BitStream

/-- The lowest `n` bits of a number, the most significant first. -/
def bitsOf : ℕ → ℕ → List Bool
  | 0, _ => []
  | n + 1, v => v.testBit n :: bitsOf n v

@[simp] theorem length_bitsOf (n v : ℕ) : (bitsOf n v).length = n := by
  induction n with
  | zero => rfl
  | succ n ih => rw [bitsOf, List.length_cons, ih]

theorem bitsOf_congr {n v w : ℕ} (h : ∀ i < n, v.testBit i = w.testBit i) :
    bitsOf n v = bitsOf n w := by
  induction n with
  | zero => rfl
  | succ n ih =>
    rw [bitsOf, bitsOf, h n (Nat.lt_succ_self n), ih fun i hi => h i (Nat.lt_succ_of_lt hi)]

theorem testBit_eq_of_bitsOf_eq {n v w : ℕ} (h : bitsOf n v = bitsOf n w) :
    ∀ i < n, v.testBit i = w.testBit i := by
  induction n with
  | zero => exact fun i hi => absurd hi (Nat.not_lt_zero i)
  | succ n ih =>
    rw [bitsOf, bitsOf, List.cons.injEq] at h
    obtain ⟨htop, hrest⟩ := h
    intro i hi
    rcases Nat.lt_succ_iff_lt_or_eq.mp hi with hlt | rfl
    · exact ih hrest i hlt
    · exact htop

/-- Only the lowest bits count. -/
theorem bitsOf_mod (n v : ℕ) : bitsOf n (v % 2 ^ n) = bitsOf n v := by
  apply bitsOf_congr
  intro i hi
  rw [Nat.testBit_mod_two_pow, decide_eq_true hi, Bool.true_and]

theorem bitsOf_eq_iff {n v w : ℕ} : bitsOf n v = bitsOf n w ↔ v % 2 ^ n = w % 2 ^ n := by
  constructor
  · intro h
    apply Nat.eq_of_testBit_eq
    intro i
    rw [Nat.testBit_mod_two_pow, Nat.testBit_mod_two_pow]
    by_cases hi : i < n
    · rw [testBit_eq_of_bitsOf_eq h i hi]
    · rw [decide_eq_false hi, Bool.false_and, Bool.false_and]
  · intro h
    rw [← bitsOf_mod, h, bitsOf_mod]

theorem bitsOf_zero (n : ℕ) : bitsOf n 0 = List.replicate n false := by
  induction n with
  | zero => rfl
  | succ n ih => rw [bitsOf, ih, Nat.zero_testBit, List.replicate_succ]

/-- **The bits of a number are those of its upper part and then those of its lower part.** -/
theorem bitsOf_add (m n v : ℕ) : bitsOf (m + n) v = bitsOf m (v / 2 ^ n) ++ bitsOf n v := by
  induction m with
  | zero => rw [Nat.zero_add, bitsOf, List.nil_append]
  | succ m ih =>
    rw [Nat.succ_add, bitsOf, bitsOf, ih, List.cons_append, Nat.testBit_div_two_pow]

/-- Two numbers joined bitwise. -/
theorem bitsOf_or_shift (m : ℕ) {n a b : ℕ} (hb : b < 2 ^ n) :
    bitsOf (m + n) (a <<< n ||| b) = bitsOf m a ++ bitsOf n b := by
  rw [← Nat.shiftLeft_add_eq_or_of_lt hb, Nat.shiftLeft_eq, bitsOf_add]
  congr 1
  · rw [Nat.mul_comm, Nat.mul_add_div (Nat.two_pow_pos n), Nat.div_eq_of_lt hb, Nat.add_zero]
  · rw [bitsOf_eq_iff, Nat.mul_comm, Nat.mul_add_mod]

/-- A mask of ones changes nothing below its end. -/
theorem bitsOf_and_ones (n v : ℕ) : bitsOf n (v &&& (2 ^ n - 1)) = bitsOf n v := by
  rw [Nat.and_two_pow_sub_one_eq_mod, bitsOf_mod]

/-! ## Streams -/

/-- The bits of digits of `n` bits, in order. -/
def stream (n : ℕ) (digits : List ℕ) : List Bool := digits.flatMap (bitsOf n)

@[simp] theorem stream_nil (n : ℕ) : stream n [] = [] := rfl

@[simp] theorem stream_cons (n d : ℕ) (ds : List ℕ) : stream n (d :: ds) = bitsOf n d ++ stream n ds :=
  rfl

@[simp] theorem stream_append (n : ℕ) (ds es : List ℕ) :
    stream n (ds ++ es) = stream n ds ++ stream n es := List.flatMap_append

@[simp] theorem length_stream (n : ℕ) (ds : List ℕ) : (stream n ds).length = n * ds.length := by
  induction ds with
  | nil => rfl
  | cons d ds ih =>
    rw [stream_cons, List.length_append, length_bitsOf, ih, List.length_cons, Nat.mul_succ,
      Nat.add_comm]

/-- Digits in range are determined by their stream. -/
theorem stream_injOn {n : ℕ} {ds es : List ℕ} (hds : ∀ d ∈ ds, d < 2 ^ n) (hes : ∀ e ∈ es, e < 2 ^ n)
    (hlength : ds.length = es.length) (h : stream n ds = stream n es) : ds = es := by
  induction ds generalizing es with
  | nil =>
    rw [List.length_nil] at hlength
    rw [List.eq_nil_of_length_eq_zero hlength.symm]
  | cons d ds ih =>
    cases es with
    | nil => cases hlength
    | cons e es =>
      rw [stream_cons, stream_cons] at h
      obtain ⟨hhead, htail⟩ := List.append_inj h (by rw [length_bitsOf, length_bitsOf])
      have hd := bitsOf_eq_iff.mp hhead
      rw [Nat.mod_eq_of_lt (hds d List.mem_cons_self),
        Nat.mod_eq_of_lt (hes e List.mem_cons_self)] at hd
      rw [hd, ih (fun x hx => hds x (List.mem_cons_of_mem _ hx))
        (fun x hx => hes x (List.mem_cons_of_mem _ hx)) (Nat.succ.inj hlength) htail]

/-! ## Regrouping -/

/-- `Regroups m n xs ys`: the `n`-bit digits `ys` have the bits of the `m`-bit digits `xs`, which
    end with less than a digit of zero bits. -/
def Regroups (m n : ℕ) (xs ys : List ℕ) : Prop :=
  (∀ x ∈ xs, x < 2 ^ m) ∧ (∀ y ∈ ys, y < 2 ^ n) ∧
    ∃ k < m, stream m xs = stream n ys ++ List.replicate k false

namespace Regroups

variable {m n : ℕ} {xs xs' ys ys' : List ℕ}

theorem length_eq (h : Regroups m n xs ys) : ∃ k < m, m * xs.length = n * ys.length + k := by
  obtain ⟨-, -, k, hk, hstream⟩ := h
  have hlength := congrArg List.length hstream
  rw [length_stream, List.length_append, length_stream, List.length_replicate] at hlength
  exact ⟨k, hk, hlength⟩

/-- The encoded digits are determined by the plain ones. -/
theorem eq_left (h : Regroups m n xs ys) (h' : Regroups m n xs' ys) : xs = xs' := by
  obtain ⟨k₀, hk₀, hlen₀⟩ := h.length_eq
  obtain ⟨k₁, hk₁, hlen₁⟩ := h'.length_eq
  obtain ⟨hxs, -, k, hk, hstream⟩ := h
  obtain ⟨hxs', -, k', hk', hstream'⟩ := h'
  have hpos : 0 < m := Nat.zero_lt_of_lt hk
  -- Both lengths are the least number of digits that hold the bits.
  have hlength : xs.length = xs'.length := by
    have hle : m * xs.length < m * (xs'.length + 1) := by rw [Nat.mul_succ]; omega
    have hge : m * xs'.length < m * (xs.length + 1) := by rw [Nat.mul_succ]; omega
    have hlt := Nat.lt_of_mul_lt_mul_left hle
    have hgt := Nat.lt_of_mul_lt_mul_left hge
    omega
  have hlens := congrArg List.length hstream
  have hlens' := congrArg List.length hstream'
  rw [length_stream, List.length_append, List.length_replicate] at hlens hlens'
  have hkk : k = k' := by
    rw [hlength] at hlens
    omega
  apply stream_injOn hxs hxs' hlength
  rw [hstream, hstream', hkk]

/-- The plain digits are determined by the encoded ones, if they are not the smaller ones. -/
theorem eq_right (hmn : m ≤ n) (h : Regroups m n xs ys) (h' : Regroups m n xs ys') : ys = ys' := by
  obtain ⟨k₀, hk₀, hlen₀⟩ := h.length_eq
  obtain ⟨k₁, hk₁, hlen₁⟩ := h'.length_eq
  obtain ⟨-, hys, k, hk, hstream⟩ := h
  obtain ⟨-, hys', k', hk', hstream'⟩ := h'
  have hlength : ys.length = ys'.length := by
    have hle : n * ys.length < n * (ys'.length + 1) := by rw [Nat.mul_succ]; omega
    have hge : n * ys'.length < n * (ys.length + 1) := by rw [Nat.mul_succ]; omega
    have hlt := Nat.lt_of_mul_lt_mul_left hle
    have hgt := Nat.lt_of_mul_lt_mul_left hge
    omega
  apply stream_injOn hys hys' hlength
  rw [hstream] at hstream'
  exact (List.append_inj hstream' (by rw [length_stream, length_stream, hlength])).1

end Regroups

end BitStream
