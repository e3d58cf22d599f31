import SecureKeypad.Library.Machine
import SecureKeypad.Library.Redis

/-!
# One-Time Keys Behind an Expiry Index

A store that hands each value out once keeps a Redis key an id, and one sorted set that counts
the ids still alive. `Layout` says where they are, `Tracked` what its scripts keep true, and
`Effect` all a script run may do; whatever scripts a store has, once each run is an `Effect` the
store is a one-time store with a bounded number of live keys.

## Main definitions

- `Layout`: the key and the index member of an id
- `Tracked`: the index counts every live key, under its expiry
- `Effect`: what one script run may do, with the event it shows
- `Guarantee`: what a reader of the keys sees

## Main results

- `Tracked.advance`, `Effect.tracked`: time and scripts keep the index true
- `Tracked.guarantee`: tracking, the bound on live keys, and type safety
- `Tracked.effect_refuse`, `effect_enrol`, `effect_withdraw`, `effect_forget`, `effect_redeem`:
  the moves scripts are made of
- `refinement_of_effects`: runs of effects refine the one-time store of the keys
-/

namespace Redis

open Machine Machine.Ledger

universe u v w x

variable {ι : Type x} {K : Type u} {V : Type v} {M : Type w}

/-! ## Layouts -/

/-- Where a store keeps its values, and the index that counts them. -/
structure Layout (ι : Type x) (K : Type u) (M : Type w) where
  key : ι → K
  member : ι → M
  index : K
  key_injective : Function.Injective key
  member_injective : Function.Injective member
  key_ne_index : ∀ id, key id ≠ index

/-- The value stored under an id, with its expiry. -/
def Layout.stored (L : Layout ι K M) (ks : Keyspace K V M) (id : ι) : Option (V × ℕ) :=
  match ks (L.key id) with
  | some ⟨.string value, some e⟩ => some (value, e)
  | _ => none

namespace Layout

variable {L : Layout ι K M} {ks ks' : Keyspace K V M} {id : ι}

theorem stored_eq_some {value : V} {e : ℕ} :
    L.stored ks id = some (value, e) ↔ ks (L.key id) = some ⟨.string value, some e⟩ := by
  unfold stored
  constructor
  · intro h
    split at h
    · next heq =>
      cases h
      exact heq
    · cases h
  · intro h
    rw [h]

theorem stored_congr (h : ks' (L.key id) = ks (L.key id)) : L.stored ks' id = L.stored ks id := by
  rw [stored, stored, h]

theorem stored_of_none (h : ks (L.key id) = none) : L.stored ks id = none := by
  rw [stored, h]

end Layout

/-! ## What holds of the keys -/

variable [DecidableEq M]

/-- What scripts keep true of the keys, seen at the millisecond `now`: the index outlives its
    members and counts at most `capacity` unexpired ones, and every key is a string with an
    expiry which, while ahead, is its score in the index. -/
structure Tracked (L : Layout ι K M) (capacity now : ℕ) (ks : Keyspace K V M) : Prop where
  index : IndexOk ks L.index
  size_le : (pending now ks L.index).size ≤ capacity
  states : ∀ id, ks (L.key id) = none ∨
    ∃ value e, ks (L.key id) = some ⟨.string value, some e⟩ ∧
      (now < e → (pending now ks L.index).lookup (L.member id) = some e)

/-- What a reader of the keys sees at the millisecond `now`. -/
structure Guarantee (L : Layout ι K M) (capacity now : ℕ) (ks : Keyspace K V M) : Prop where
  /-- A key with `PTTL > 0` is in the index, its score being its expiry. -/
  tracked : ∀ id, 0 < pttl now ks (L.key id) →
    ∃ e : ℕ, (e : ℤ) = now + pttl now ks (L.key id) ∧
      (scores now ks L.index).lookup (L.member id) = some e
  /-- The index expires no earlier than any of its scores. -/
  outlives : ∀ member score, (scores now ks L.index).lookup member = some score →
    (score : ℤ) ≤ now + pttl now ks L.index
  /-- Live keys are bounded. -/
  bounded : {id | 0 < pttl now ks (L.key id)}.encard ≤ capacity
  /-- The wrong-type branch on the index is not taken. -/
  index_type : ¬ (type now ks L.index ≠ .none ∧ type now ks L.index ≠ .zset)
  /-- Nor is the one on a key. -/
  key_type : ∀ id, ¬ (type now ks (L.key id) ≠ .none ∧ type now ks (L.key id) ≠ .string)

/-- None of the layout's keys exist. -/
def Layout.EmptyIn (L : Layout ι K M) (ks : Keyspace K V M) : Prop :=
  ks L.index = none ∧ ∀ id, ks (L.key id) = none

namespace Tracked

variable {L : Layout ι K M} {capacity now : ℕ} {ks : Keyspace K V M}

theorem of_emptyIn (h : L.EmptyIn ks) : Tracked L capacity now ks where
  index := .inl h.1
  size_le := by
    rw [pending, scores_of_none h.1]
    exact Nat.zero_le _
  states id := .inl (h.2 id)

/-- Time passing keeps the index true. -/
theorem advance (h : Tracked L capacity now ks) {now' : ℕ} (hnow : now ≤ now') :
    Tracked L capacity now' ks where
  index := h.index
  size_le := by
    refine le_trans (KeyedMap.size_le_of_lookup ?_) h.size_le
    intro member score hlookup
    exact ⟨score, ((lookup_pending_advance h.index hnow).mp hlookup).1⟩
  states := by
    intro id
    rcases h.states id with hnone | ⟨value, e, hkey, htracked⟩
    · exact .inl hnone
    · refine .inr ⟨value, e, hkey, fun hlt => ?_⟩
      exact (lookup_pending_advance h.index hnow).mpr ⟨htracked (hnow.trans_lt hlt), hlt⟩

/-- A visible key is a string whose expiry has not passed. -/
theorem state_of_find (h : Tracked L capacity now ks) {id : ι} {t : ℕ}
    (hfind : find t ks (L.key id) ≠ none) :
    ∃ value e, ks (L.key id) = some ⟨.string value, some e⟩ ∧ t ≤ e := by
  rcases h.states id with hkey | ⟨value, e, hkey, -⟩
  · exact absurd (find_of_none hkey) hfind
  · refine ⟨value, e, hkey, le_of_not_gt fun hlt => hfind ?_⟩
    rw [find_of_some hkey, if_neg (not_le.mpr hlt)]

/-- A script's test for a foreign type never fires on a key. -/
theorem key_type_ok (h : Tracked L capacity now ks) (id : ι) (t : ℕ) :
    ¬ (type t ks (L.key id) ≠ .none ∧ type t ks (L.key id) ≠ .string) := by
  rintro ⟨hnone, hstring⟩
  by_cases hfind : find t ks (L.key id) = none
  · exact hnone (by rw [type, hfind])
  · obtain ⟨value, e, hkey, hle⟩ := h.state_of_find hfind
    exact hstring (by rw [type, find_of_some hkey, if_pos hle])

/-- A live key is an unexpired member of the index, its score being its expiry. -/
theorem tracked (h : Tracked L capacity now ks) {id : ι} (hpttl : 0 < pttl now ks (L.key id)) :
    ∃ e : ℕ, (e : ℤ) = now + pttl now ks (L.key id) ∧
      (pending now ks L.index).lookup (L.member id) = some e := by
  rcases h.states id with hnone | ⟨value, e, hkey, htracked⟩
  · simp only [pttl, find_of_none hnone] at hpttl
    omega
  · by_cases hle : now ≤ e
    · have hfind : find now ks (L.key id) = some ⟨.string value, some e⟩ := by
        rw [find_of_some hkey, if_pos hle]
      simp only [pttl, hfind] at hpttl ⊢
      exact ⟨e, by omega, htracked (by omega)⟩
    · have hfind : find now ks (L.key id) = none := by
        rw [find_of_some hkey, if_neg hle]
      simp only [pttl, hfind] at hpttl
      omega

theorem guarantee (h : Tracked L capacity now ks) : Guarantee L capacity now ks where
  tracked := by
    intro id hpttl
    obtain ⟨e, he, hlookup⟩ := h.tracked hpttl
    exact ⟨e, he, (lookup_pending.mp hlookup).1⟩
  outlives := fun member score hlookup => h.index.score_le hlookup
  bounded := by
    -- Distinct live ids are distinct members of the index.
    rw [← L.member_injective.encard_image]
    refine le_trans (KeyedMap.encard_le_size ?_) (Nat.cast_le.mpr h.size_le)
    rintro member ⟨id, hpttl, rfl⟩
    obtain ⟨e, -, hlookup⟩ := h.tracked hpttl
    exact ⟨e, hlookup⟩
  index_type := h.index.type_ok now
  key_type id := h.key_type_ok id now

end Tracked

/-! ## What a script run does -/

/-- All a script run for the id can do to keys with a true index, with the event it shows. -/
inductive Effect (L : Layout ι K M) (capacity now : ℕ) (id : ι) (ks ks' : Keyspace K V M) :
    Event ι V → Prop where
  /-- Only the purge of the index. -/
  | refused
      (hks : Rewritten now L.index (L.key id) ks (pending now ks L.index) ks')
      (hkey : ks' (L.key id) = ks (L.key id)) :
      Effect L capacity now id ks ks' .quiet
  /-- A fresh value, recorded in the index under its expiry. -/
  | stored (value : V) (e : ℕ)
      (hroom : (pending now ks L.index).size < capacity)
      (hks : Rewritten now L.index (L.key id) ks
        ((pending now ks L.index).insert (L.member id) e) ks')
      (hkey : ks' (L.key id) = some ⟨.string value, some e⟩) :
      Effect L capacity now id ks ks' (.issue id value e)
  /-- The value is gone, from the index as well, and nothing is handed out. -/
  | dropped
      (hks : Rewritten now L.index (L.key id) ks
        ((pending now ks L.index).erase (L.member id)) ks')
      (hkey : ks' (L.key id) = none ∨
        ks' (L.key id) = ks (L.key id) ∧ find now ks (L.key id) = none) :
      Effect L capacity now id ks ks' .quiet
  /-- An unexpired value is handed out and gone. -/
  | redeemed (value : V) (e : ℕ) (hlt : now < e)
      (hold : ks (L.key id) = some ⟨.string value, some e⟩)
      (hks : Rewritten now L.index (L.key id) ks
        ((pending now ks L.index).erase (L.member id)) ks')
      (hkey : ks' (L.key id) = none) :
      Effect L capacity now id ks ks' (.redeem id value now)

namespace Effect

variable {L : Layout ι K M} {capacity now : ℕ} {id : ι} {ks ks' : Keyspace K V M}
  {event : Event ι V}

/-- Another id's value and score are left alone. -/
theorem other (heffect : Effect L capacity now id ks ks' event) {other : ι} (hne : other ≠ id) :
    ks' (L.key other) = ks (L.key other) ∧
      ∀ e, (pending now ks L.index).lookup (L.member other) = some e →
        (pending now ks' L.index).lookup (L.member other) = some e := by
  have hmember : L.member other ≠ L.member id := fun h => hne (L.member_injective h)
  have hkey : L.key other ≠ L.key id := fun h => hne (L.key_injective h)
  have hindex := L.key_ne_index other
  -- What the index becomes agrees with the old one away from the id.
  have hpending : ∀ {members : KeyedMap M ℕ}, scores now ks' L.index = members →
      members.lookup (L.member other) = (pending now ks L.index).lookup (L.member other) →
      ∀ e, (pending now ks L.index).lookup (L.member other) = some e →
        (pending now ks' L.index).lookup (L.member other) = some e := by
    intro members hscores hlookup e he
    rw [lookup_pending, hscores, hlookup]
    exact ⟨he, (lookup_pending.mp he).2⟩
  cases heffect with
  | refused hks _ => exact ⟨hks.frame _ hindex hkey, hpending hks.scores_eq rfl⟩
  | stored value e _ hks _ =>
    exact ⟨hks.frame _ hindex hkey, hpending hks.scores_eq (AList.lookup_insert_ne hmember)⟩
  | dropped hks _ =>
    exact ⟨hks.frame _ hindex hkey, hpending hks.scores_eq (AList.lookup_erase_ne hmember)⟩
  | redeemed value e _ _ hks _ =>
    exact ⟨hks.frame _ hindex hkey, hpending hks.scores_eq (AList.lookup_erase_ne hmember)⟩

/-- A script run leaves at most `capacity` members in the index. -/
theorem size_le (h : Tracked L capacity now ks) (heffect : Effect L capacity now id ks ks' event) :
    IndexOk ks' L.index ∧ (scores now ks' L.index).size ≤ capacity := by
  cases heffect with
  | refused hks _ => exact ⟨hks.index_ok, hks.scores_eq ▸ h.size_le⟩
  | stored value e hroom hks _ =>
    exact ⟨hks.index_ok, hks.scores_eq ▸ (KeyedMap.size_insert_le _ _ _).trans hroom⟩
  | dropped hks _ =>
    exact ⟨hks.index_ok, hks.scores_eq ▸ (KeyedMap.size_erase_le _ _).trans h.size_le⟩
  | redeemed value e _ _ hks _ =>
    exact ⟨hks.index_ok, hks.scores_eq ▸ (KeyedMap.size_erase_le _ _).trans h.size_le⟩

/-- **A script run keeps the index true.** -/
theorem tracked (h : Tracked L capacity now ks) (heffect : Effect L capacity now id ks ks' event) :
    Tracked L capacity now ks' where
  index := (heffect.size_le h).1
  size_le := (KeyedMap.size_retain_le _ _).trans (heffect.size_le h).2
  states := by
    intro other
    by_cases hother : other = id
    · subst hother
      cases heffect with
      | refused hks hkey =>
        rw [hkey]
        rcases h.states other with hnone | ⟨value, e, hstate, htracked⟩
        · exact .inl hnone
        · refine .inr ⟨value, e, hstate, fun hlt => ?_⟩
          rw [lookup_pending, hks.scores_eq]
          exact ⟨htracked hlt, hlt⟩
      | stored value e _ hks hkey =>
        refine .inr ⟨value, e, hkey, fun hlt => ?_⟩
        rw [lookup_pending, hks.scores_eq, AList.lookup_insert]
        exact ⟨rfl, hlt⟩
      | dropped hks hkey =>
        rcases hkey with hnone | ⟨hsame, hfind⟩
        · exact .inl hnone
        · rw [hsame]
          rcases h.states other with hnone | ⟨value, e, hstate, -⟩
          · exact .inl hnone
          · -- An invisible key has expired, so nothing is asked of the index.
            refine .inr ⟨value, e, hstate, fun hlt => ?_⟩
            rw [find_of_some hstate, if_pos hlt.le] at hfind
            cases hfind
      | redeemed value e _ _ _ hkey => exact .inl hkey
    · obtain ⟨hsame, hpending⟩ := heffect.other hother
      rw [hsame]
      rcases h.states other with hnone | ⟨value, e, hstate, htracked⟩
      · exact .inl hnone
      · exact .inr ⟨value, e, hstate, fun hlt => hpending e (htracked hlt)⟩

/-- What is stored after a script run was stored before it or is what the run shows. -/
theorem appears (heffect : Effect L capacity now id ks ks' event) {other : ι} {value : V} {e : ℕ}
    (hafter : L.stored ks' other = some (value, e)) :
    L.stored ks other = some (value, e) ∨ event = .issue other value e := by
  by_cases hid : other = id
  · subst hid
    rw [Layout.stored_eq_some] at hafter
    cases heffect with
    | refused _ hkey =>
      rw [hkey] at hafter
      exact .inl (Layout.stored_eq_some.mpr hafter)
    | stored _ _ _ _ hkey =>
      rw [hkey] at hafter
      cases hafter
      exact .inr rfl
    | dropped _ hkey =>
      rcases hkey with hnone | ⟨hsame, -⟩
      · rw [hnone] at hafter
        cases hafter
      · rw [hsame] at hafter
        exact .inl (Layout.stored_eq_some.mpr hafter)
    | redeemed _ _ _ _ _ hkey =>
      rw [hkey] at hafter
      cases hafter
  · rw [Layout.stored_congr (heffect.other hid).1] at hafter
    exact .inl hafter

end Effect

/-! ## The moves of a script

A script first purges the index; what it does then is one of five moves. -/

section Moves

variable [DecidableEq K] {L : Layout ι K M} {capacity now : ℕ} {ks : Keyspace K V M}

/-- The keys after the purge a script begins with. -/
def Layout.purged (L : Layout ι K M) (now : ℕ) (ks : Keyspace K V M) : Keyspace K V M :=
  zremrangebyscore now now L.index ks

omit [DecidableEq M] in
theorem Layout.purged_key (L : Layout ι K M) (now : ℕ) (ks : Keyspace K V M) (id : ι) :
    L.purged now ks (L.key id) = ks (L.key id) :=
  zremrangebyscore_of_ne (L.key_ne_index id)

theorem Tracked.purge (h : Tracked L capacity now ks) (id : ι) :
    Rewritten now L.index (L.key id) ks (pending now ks L.index) (L.purged now ks) :=
  h.index.purge now (L.key id)

/-- Nothing but the purge. -/
theorem Tracked.effect_refuse (h : Tracked L capacity now ks) (id : ι) :
    Effect L capacity now id ks (L.purged now ks) .quiet :=
  .refused (h.purge id) (L.purged_key now ks id)

/-- A value is set and recorded, below the capacity. -/
theorem Tracked.effect_enrol (h : Tracked L capacity now ks) (id : ι) (value : V) (ttl : ℕ)
    (hroom : ¬ capacity ≤ zcard now (L.purged now ks) L.index) :
    Effect L capacity now id ks
      (extendTo now ttl L.index (zadd now (now + ttl) (L.member id) L.index
        (setPx now ttl (L.key id) value (L.purged now ks))))
      (.issue id value (now + ttl)) := by
  have hne := L.key_ne_index id
  rw [zcard, (h.purge id).scores_eq, not_le] at hroom
  refine .stored value (now + ttl) hroom
    (((h.purge id).setPx hne ttl value).register (le_refl _) (L.member id)) ?_
  rw [extendTo_of_ne hne, zadd_of_ne hne, setPx_self]

/-- The keys a script leaves that deletes the key and withdraws its member. -/
theorem Tracked.rewritten_withdraw (h : Tracked L capacity now ks) (id : ι) :
    Rewritten now L.index (L.key id) ks ((pending now ks L.index).erase (L.member id))
      (zrem now (L.member id) L.index (del (L.key id) (L.purged now ks))) ∧
    zrem now (L.member id) L.index (del (L.key id) (L.purged now ks)) (L.key id) = none := by
  have hne := L.key_ne_index id
  exact ⟨((h.purge id).del hne).zrem (L.member id), by rw [zrem_of_ne hne, del_self]⟩

/-- The key is deleted and its member withdrawn. -/
theorem Tracked.effect_withdraw (h : Tracked L capacity now ks) (id : ι) :
    Effect L capacity now id ks
      (zrem now (L.member id) L.index (del (L.key id) (L.purged now ks))) .quiet :=
  .dropped (h.rewritten_withdraw id).1 (.inl (h.rewritten_withdraw id).2)

/-- The member of an invisible key is withdrawn. -/
theorem Tracked.effect_forget (h : Tracked L capacity now ks) (id : ι)
    (hfind : find now (L.purged now ks) (L.key id) = none) :
    Effect L capacity now id ks (zrem now (L.member id) L.index (L.purged now ks)) .quiet := by
  have hne := L.key_ne_index id
  rw [find_congr (L.purged_key now ks id)] at hfind
  refine .dropped ((h.purge id).zrem (L.member id)) (.inr ⟨?_, hfind⟩)
  rw [zrem_of_ne hne, L.purged_key]

/-- What is visible is a string, so `GET` misses nothing. -/
theorem Tracked.find_of_get_none (h : Tracked L capacity now ks) {id : ι}
    (hget : Redis.get now (L.purged now ks) (L.key id) = none) :
    find now (L.purged now ks) (L.key id) = none := by
  by_contra hfind
  rw [find_congr (L.purged_key now ks id)] at hfind
  obtain ⟨value, e, hold, hle⟩ := h.state_of_find hfind
  rw [Redis.get, find_congr (L.purged_key now ks id), find_of_some hold, if_pos hle] at hget
  cases hget

/-- A visible value before its last millisecond is handed out. -/
theorem Tracked.effect_redeem (h : Tracked L capacity now ks) (id : ι) {value : V}
    (hget : Redis.get now (L.purged now ks) (L.key id) = some value)
    (hpttl : pttl now (L.purged now ks) (L.key id) ≠ 0) :
    Effect L capacity now id ks
      (zrem now (L.member id) L.index (del (L.key id) (L.purged now ks)))
      (.redeem id value now) := by
  have hfind : find now ks (L.key id) ≠ none := by
    intro hnone
    rw [Redis.get, find_congr (L.purged_key now ks id), hnone] at hget
    cases hget
  obtain ⟨stored, e, hold, hle⟩ := h.state_of_find hfind
  have hpurged : find now (L.purged now ks) (L.key id) = some ⟨.string stored, some e⟩ := by
    rw [find_congr (L.purged_key now ks id), find_of_some hold, if_pos hle]
  rw [Redis.get, hpurged] at hget
  cases hget
  -- At the millisecond of its expiry the value is still visible, with `PTTL` zero.
  have hlt : now < e := by
    refine lt_of_le_of_ne hle fun heq => hpttl ?_
    simp only [pttl, hpurged]
    omega
  exact .redeemed value e hlt hold (h.rewritten_withdraw id).1 (h.rewritten_withdraw id).2

end Moves

/-! ## Runs -/

section Runs

variable {σ κ ω : Type*} {step : σ → κ → ω × σ} {observe : κ → ω → Event ι V}
  {now : σ → ℕ} {keys : σ → Keyspace K V M} {target : κ → ι} {L : Layout ι K M} {capacity : ℕ}

/-- Every step of the machine is a script run, at a millisecond no earlier than the last one. -/
def StepsAreEffects (step : σ → κ → ω × σ) (observe : κ → ω → Event ι V) (now : σ → ℕ)
    (keys : σ → Keyspace K V M) (target : κ → ι) (L : Layout ι K M) (capacity : ℕ) : Prop :=
  ∀ s i, Tracked L capacity (now s) (keys s) → now s ≤ now (step s i).2 ∧
    Effect L capacity (now (step s i).2) (target i) (keys s) (keys (step s i).2)
      (observe i (step s i).1)

theorem StepsAreEffects.tracked (h : StepsAreEffects step observe now keys target L capacity)
    {s : σ} (hs : Tracked L capacity (now s) (keys s)) (i : κ) :
    Tracked L capacity (now (step s i).2) (keys (step s i).2) :=
  (h s i hs).2.tracked (hs.advance (h s i hs).1)

/-- **Runs of script effects refine the one-time store of the keys.** -/
theorem refinement_of_effects (h : StepsAreEffects step observe now keys target L capacity) :
    Refinement step observe (fun s => L.stored (keys s))
      (fun s => Tracked L capacity (now s) (keys s)) where
  inv _ i hs := h.tracked hs i
  appears s i _ _ _ hs hafter := (h s i hs).2.appears hafter
  redeems := by
    intro s i id value t hs hevent
    have heffect := (h s i hs).2
    rw [hevent] at heffect
    cases heffect with
    | redeemed _ e hlt hold _ _ => exact ⟨e, Layout.stored_eq_some.mpr hold, hlt⟩
  removes := by
    intro s i id value t hs hevent
    have heffect := (h s i hs).2
    rw [hevent] at heffect
    cases heffect with
    | redeemed _ _ _ _ _ hkey => exact Layout.stored_of_none hkey

end Runs

end Redis
