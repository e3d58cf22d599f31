import SecureKeypad.Server.PostgresLoginStore
import SecureKeypad.Webauthn.Ceremony

/-!
# Times to Live in Whole Milliseconds

Three functions turn a duration into the milliseconds a backend is given: `ttl_millis` of the Redis
and of the PostgreSQL login store, and `validate_backend_ttl` of the ceremony stores. The login
stores refuse a duration that truncates to zero milliseconds. The ceremony stores test the duration
itself, so that one below a millisecond passes and truncates to zero.

## Main results

- `ttlMillis_millis`, `validateBackendTtl_eq`: what each of the three yields
- `ttlsAgree_iff`: exactly when they agree
-/

namespace SecureKeypad.Webauthn

open Rust Server

/-- The whole milliseconds of a duration of one millisecond up to fifteen minutes. -/
def wholeMillis (ttl : ℕ) : Option ℕ :=
  if 1000000 ≤ ttl ∧ ttl ≤ maxDistributedLoginStateTtl then some (ttl / 1000000) else none

theorem wholeMillis_bounds {ttl millis : ℕ} (h : wholeMillis ttl = some millis) :
    1 ≤ millis ∧ millis ≤ 900000 := by
  unfold wholeMillis at h
  split at h
  · next hbounds =>
    obtain rfl := Option.some.inj h
    have hmax : ttl ≤ 900000000000 := hbounds.2
    exact ⟨Nat.div_pos hbounds.1 (by decide), Nat.div_le_of_le_mul hmax⟩
  · cases h

/-! ## The three conversions -/

theorem ttlMillis_millis (ttl : ℕ) :
    (ttlMillis ttl).toOption.map TtlMillis.millis = wholeMillis ttl := by
  unfold ttlMillis wholeMillis
  by_cases hbounds : 1000000 ≤ ttl ∧ ttl ≤ maxDistributedLoginStateTtl
  · have hmax : ttl ≤ 900000000000 := hbounds.2
    have htest : (ttl / 1000000 < 2 ^ 64 ∧ 0 < ttl / 1000000 ∧ ttl / 1000000 < 2 ^ 63) ∧
        ttl ≤ maxDistributedLoginStateTtl := by
      refine ⟨?_, hbounds.2⟩
      omega
    rw [if_pos hbounds]
    simp only [dif_pos htest]
    rfl
  · have htest : ¬ ((ttl / 1000000 < 2 ^ 64 ∧ 0 < ttl / 1000000 ∧ ttl / 1000000 < 2 ^ 63) ∧
        ttl ≤ maxDistributedLoginStateTtl) := by
      intro ⟨⟨_, hpos, _⟩, hmax⟩
      exact hbounds ⟨(Nat.div_pos_iff.mp hpos).2, hmax⟩
    rw [if_neg hbounds]
    simp only [dif_neg htest]
    rfl

theorem postgres_ttlMillis_millis (ttl : ℕ) :
    (PostgresOneTimeStateConfigError.ttlMillis ttl).toOption.map TtlMillis.millis =
      wholeMillis ttl := by
  unfold PostgresOneTimeStateConfigError.ttlMillis wholeMillis
  by_cases houter : ttl = 0 ∨ ttl > maxDistributedLoginStateTtl
  · have hbounds : ¬ (1000000 ≤ ttl ∧ ttl ≤ maxDistributedLoginStateTtl) := by
      intro ⟨hmin, hmax⟩
      rcases houter with rfl | hgt
      · exact absurd hmin (by decide)
      · exact absurd hmax (Nat.not_le.mpr hgt)
    rw [if_neg hbounds]
    simp only [dif_pos houter]
    rfl
  · have hmax : ttl ≤ 900000000000 := Nat.le_of_not_lt fun hgt => houter (.inr hgt)
    simp only [dif_neg houter]
    by_cases hmin : 1000000 ≤ ttl
    · -- Fifteen minutes of milliseconds are far below `i64::MAX`.
      have htest : ttl / 1000000 < 2 ^ 63 ∧ ttl / 1000000 > 0 := by omega
      rw [dif_pos htest, if_pos ⟨hmin, hmax⟩]
      rfl
    · have htest : ¬ (ttl / 1000000 < 2 ^ 63 ∧ ttl / 1000000 > 0) := by omega
      rw [dif_neg htest, if_neg fun hbounds => hmin hbounds.1]
      rfl

/-- The ceremony stores truncate last, and nothing looks at the outcome again. -/
theorem validateBackendTtl_eq (instantMax now ttl : ℕ) :
    (validateBackendTtl instantMax now ttl).toOption =
      if ttl = 0 ∨ ttl > maxCeremonyTtl ∨ now + ttl > instantMax then none
      else some (ttl / 1000000) := by
  have hclock : (checkedAddInstant instantMax now ttl).isNone = true ↔ now + ttl > instantMax := by
    unfold checkedAddInstant
    split
    · next hle => exact iff_of_false nofun (Nat.not_lt.mpr hle)
    · next hlt => exact iff_of_true rfl (Nat.lt_of_not_le hlt)
  unfold validateBackendTtl validateCeremonyTtl
  simp only [hclock]
  by_cases hrefused : ttl = 0 ∨ ttl > maxCeremonyTtl ∨ now + ttl > instantMax
  · rw [if_pos hrefused, if_pos hrefused]
    rfl
  · have hmax : ttl ≤ 900000000000 := Nat.le_of_not_lt fun hgt => hrefused (.inr (.inl hgt))
    have hfits : ttl / 1000000 < 2 ^ 63 := by omega
    rw [if_neg hrefused, if_neg hrefused]
    change (if ttl / 1000000 < 2 ^ 63 then Except.ok (ttl / 1000000)
      else .error CeremonyStoreError.invalidTtl).toOption = _
    rw [if_pos hfits]
    rfl

/-! ## When they agree -/

/-- All three refuse the duration, or yield the same milliseconds, which are in range. -/
structure TtlsAgree (instantMax now ttl : ℕ) : Prop where
  redis : (ttlMillis ttl).toOption.map TtlMillis.millis =
    (validateBackendTtl instantMax now ttl).toOption
  postgres : (PostgresOneTimeStateConfigError.ttlMillis ttl).toOption.map TtlMillis.millis =
    (validateBackendTtl instantMax now ttl).toOption
  bounds : ∀ millis, validateBackendTtl instantMax now ttl = .ok millis →
    1 ≤ millis ∧ millis ≤ 900000

theorem ttlsAgree_iff_wholeMillis {instantMax now ttl : ℕ} :
    TtlsAgree instantMax now ttl ↔
      (validateBackendTtl instantMax now ttl).toOption = wholeMillis ttl := by
  constructor
  · intro h
    rw [← h.redis, ttlMillis_millis]
  · intro h
    refine ⟨(ttlMillis_millis ttl).trans h.symm, (postgres_ttlMillis_millis ttl).trans h.symm, ?_⟩
    intro millis hok
    rw [hok] at h
    exact wholeMillis_bounds h.symm

/-- **The three agree** on a duration of zero, on one above fifteen minutes, and otherwise exactly
    when it has a whole millisecond and the monotonic clock reaches that far, or neither. -/
theorem ttlsAgree_iff (instantMax now ttl : ℕ) :
    TtlsAgree instantMax now ttl ↔
      ttl = 0 ∨ ttl > durationFromSecs (15 * 60) ∨ (1000000 ≤ ttl ↔ now + ttl ≤ instantMax) := by
  have hmax : maxCeremonyTtl = durationFromSecs (15 * 60) := rfl
  have hsame : maxDistributedLoginStateTtl = durationFromSecs (15 * 60) := rfl
  rw [ttlsAgree_iff_wholeMillis, validateBackendTtl_eq, wholeMillis, hmax, hsame]
  by_cases hzero : ttl = 0
  · subst hzero
    exact iff_of_true rfl (.inl rfl)
  by_cases hlarge : ttl > durationFromSecs (15 * 60)
  · rw [if_pos (.inr (.inl hlarge)), if_neg fun h => Nat.not_le.mpr hlarge h.2]
    exact iff_of_true rfl (.inr (.inl hlarge))
  -- Within the bounds only the millisecond and the clock are left.
  simp only [hzero, hlarge, false_or]
  by_cases hclock : now + ttl > instantMax
  · rw [if_pos hclock, iff_false_right (Nat.not_le.mpr hclock)]
    constructor
    · intro h hmin
      rw [if_pos ⟨hmin, Nat.le_of_not_lt hlarge⟩] at h
      cases h
    · intro hmin
      rw [if_neg fun h => hmin h.1]
  · rw [if_neg hclock, iff_true_right (Nat.le_of_not_lt hclock)]
    constructor
    · intro h
      by_contra hmin
      rw [if_neg fun hbounds => hmin hbounds.1] at h
      cases h
    · intro hmin
      rw [if_pos ⟨hmin, Nat.le_of_not_lt hlarge⟩]

/-- Half a millisecond passes as zero milliseconds, where both login stores refuse it. -/
theorem not_ttlsAgree_of_half_millisecond :
    ¬ ∀ instantMax now ttl, TtlsAgree instantMax now ttl := by
  intro h
  have hzero : validateBackendTtl (2 ^ 63) 0 500000 = .ok 0 := rfl
  exact absurd ((h (2 ^ 63) 0 500000).bounds 0 hzero).1 (by decide)

end SecureKeypad.Webauthn
