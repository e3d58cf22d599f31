import Mathlib

/-!
# Rust Standard-Library Vocabulary

The small part of the Rust standard library the models in this project speak: byte vectors,
poisonable mutexes, machine arithmetic, durations and instants, and the `?` operator.

## Main results

- `tryOp_eq_ok`: when a chain of `?` steps succeeds
-/

namespace Rust

/-- `Vec<u8>` and `&[u8]`. -/
abbrev Bytes := List UInt8

/-- `str::as_bytes`. -/
def asBytes (s : String) : Bytes := s.toUTF8.data.toList

/-- `x?` followed by `f` succeeds exactly when both do. -/
theorem tryOp_eq_ok {ε : Type*} {α β : Type _} {x : Except ε α} {f : α → Except ε β} {b : β} :
    (x >>= f) = .ok b ↔ ∃ a, x = .ok a ∧ f a = .ok b := by
  cases x <;> simp [bind, Except.bind]

/-- `map_err` only touches failures. -/
theorem mapErr_eq_ok {ε ε' : Type*} {α : Type*} {x : Except ε α} {f : ε → ε'} {a : α} :
    x.mapError f = .ok a ↔ x = .ok a := by
  cases x with
  | error e => constructor <;> rintro ⟨⟩
  | ok value => constructor <;> rintro ⟨⟩ <;> rfl

/-! ## Mutex -/

/-- A `std::sync::Mutex`: the protected value and whether a panicking holder poisoned it. -/
structure Mutex (α : Type*) where
  value : α
  poisoned : Bool
deriving DecidableEq

namespace Mutex

variable {α : Type*}

/-- `Mutex::new`. -/
def new (value : α) : Mutex α := ⟨value, false⟩

/-- `Mutex::lock`, which fails once the mutex is poisoned. -/
def lock (m : Mutex α) : Option α := if m.poisoned then none else some m.value

/-- Write the protected value back at the end of the critical section. -/
def store (m : Mutex α) (value : α) : Mutex α := { m with value }

/-- A holder panicked inside the critical section. -/
def poison (m : Mutex α) : Mutex α := { m with poisoned := true }

@[simp] theorem store_value (m : Mutex α) (value : α) : (m.store value).value = value := rfl

@[simp] theorem poison_value (m : Mutex α) : m.poison.value = m.value := rfl

@[simp] theorem new_value (value : α) : (new value).value = value := rfl

theorem lock_eq_some {m : Mutex α} {value : α} (h : m.lock = some value) : m.value = value := by
  unfold lock at h
  split at h
  · cases h
  · exact Option.some.inj h

end Mutex

/-! ## Machine integers -/

/-- `u64::MAX`. -/
def u64Max : ℕ := 2 ^ 64 - 1

/-- `u64::saturating_add`. -/
def saturatingAddU64 (a b : ℕ) : ℕ := min (a + b) u64Max

/-- `usize::saturating_mul` on a 64-bit platform. -/
def saturatingMulUsize (a b : ℕ) : ℕ := min (a * b) (2 ^ 64 - 1)

/-- `+` on `u32`, as a release build computes it. -/
def addU32 (a b : ℕ) : ℕ := (a + b) % 2 ^ 32

/-- `-` on `u32`, as a release build computes it. -/
def subU32 (a b : ℕ) : ℕ := (a + (2 ^ 32 - b)) % 2 ^ 32

theorem addU32_eq {a b : ℕ} (h : a + b < 2 ^ 32) : addU32 a b = a + b := Nat.mod_eq_of_lt h

theorem subU32_eq {a b : ℕ} (ha : a < 2 ^ 32) (h : b ≤ a) : subU32 a b = a - b := by
  have hsum : a + (2 ^ 32 - b) = (a - b) + 2 ^ 32 := by omega
  rw [subU32, hsum, Nat.add_mod_right]
  exact Nat.mod_eq_of_lt ((Nat.sub_le a b).trans_lt ha)

/-- `u32::checked_add`, and `+` as a build with overflow checks runs it (`none` is the panic). -/
def checkedAddU32 (a b : ℕ) : Option ℕ := if a + b < 2 ^ 32 then some (a + b) else none

/-- `u32::checked_sub`, and `-` as a build with overflow checks runs it. -/
def checkedSubU32 (a b : ℕ) : Option ℕ := if b ≤ a then some (a - b) else none

/-- `u8::try_from` on an unsigned integer. -/
def u8TryFrom (n : ℕ) : Option UInt8 := if n < 256 then some (UInt8.ofNat n) else none

theorem toNat_of_u8TryFrom {n : ℕ} {value : UInt8} (h : u8TryFrom n = some value) :
    value.toNat = n := by
  unfold u8TryFrom at h
  split at h
  · next hlt =>
    cases h
    exact UInt8.toNat_ofNat_of_lt hlt
  · cases h

/-! ## ASCII bytes -/

/-- `u8::is_ascii_digit`. -/
def isAsciiDigit (byte : UInt8) : Bool := 0x30 ≤ byte && byte ≤ 0x39

theorem sub_le_nine_of_isAsciiDigit {byte : UInt8} (h : isAsciiDigit byte = true) :
    byte - 0x30 ≤ 9 := by
  simp only [isAsciiDigit, Bool.and_eq_true, decide_eq_true_eq] at h
  obtain ⟨hlow, hhigh⟩ := h
  rw [UInt8.le_iff_toNat_le] at hhigh ⊢
  rw [UInt8.toNat_sub_of_le _ _ hlow]
  exact Nat.sub_le_of_le_add hhigh

/-- The value of a hexadecimal digit. -/
def hexDigitValue (byte : UInt8) : Option ℕ :=
  if isAsciiDigit byte then some (byte.toNat - 0x30)
  else if 0x61 ≤ byte && byte ≤ 0x66 then some (byte.toNat - 0x61 + 10)
  else if 0x41 ≤ byte && byte ≤ 0x46 then some (byte.toNat - 0x41 + 10)
  else none

/-- `u8::from_str_radix(_, 16)` on an unsigned numeral. -/
def fromStrRadix16 (digits : Bytes) : Option UInt8 :=
  if digits.isEmpty then none
  else
    (digits.foldlM (fun value byte => (hexDigitValue byte).map (16 * value + ·)) 0).bind u8TryFrom

/-! ## Time

Instants and durations are counted in nanoseconds. How far the process clock reaches depends
on the platform and is a parameter. -/

/-- `Duration::from_secs`. -/
def durationFromSecs (secs : ℕ) : ℕ := secs * 1000000000

/-- `Instant::checked_add` on a clock that ends at `instantMax`. -/
def checkedAddInstant (instantMax instant duration : ℕ) : Option ℕ :=
  if instant + duration ≤ instantMax then some (instant + duration) else none

/-- `Instant::checked_duration_since`. -/
def checkedDurationSince (now earlier : ℕ) : Option ℕ :=
  if earlier ≤ now then some (now - earlier) else none

theorem checkedAddInstant_eq_some {instantMax instant duration t : ℕ}
    (h : checkedAddInstant instantMax instant duration = some t) : t = instant + duration := by
  unfold checkedAddInstant at h
  split at h
  · exact (Option.some.inj h).symm
  · cases h

end Rust
