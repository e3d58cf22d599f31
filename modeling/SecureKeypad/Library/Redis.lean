import SecureKeypad.Library.KeyedMap

/-!
# Redis Keys, Expiry and Sorted Sets

The part of Redis that Lua scripts over strings and one sorted set use. A script runs
atomically and reads one clock value `now` (milliseconds), which every command below takes.
A key with expiry `e` is visible exactly while `now ≤ e`; a command never sees a key past its
expiry, and writing such a key starts from nothing.

Scripts look at `TYPE` before any typed command, so a command that meets a value of another type
(a script error in Redis) is given no effect here.

## Main definitions

- `Keyspace`, `find`: the stored keys and the visible ones
- `type`, `pttl`, `del`, `setPx`, `setNxPx`, `get`, `zcard`, `zadd`, `zrem`,
  `zremrangebyscore`, `pexpire`, `extendTo`: the commands
- `IndexOk`, `pending`: an expiry index that outlives its members, and its unexpired members
- `Rewritten`: what a script has done to the index and to the one key it is about

## Main results

- `zremrangebyscore_spec`, `zrem_spec`, `register_spec`: what each command does to an expiry index
- `lookup_pending_advance`: the clock moving on removes from the unexpired members exactly
  those that expire
-/

namespace Redis

universe u v w

variable {K : Type u} {V : Type v} {M : Type w}

/-! ## The clock

The server clock counts microseconds. Expiry is measured on its milliseconds, and `TIME` answers
seconds and microseconds apart. -/

/-- The millisecond clock of key expiry. -/
def mstime (clock : ℕ) : ℕ := clock / 1000

/-- `TIME`. -/
def time (clock : ℕ) : ℕ × ℕ := (clock / 1000000, clock % 1000000)

/-- The scripts' `time[1] * 1000 + math.floor(time[2] / 1000)`. -/
def scriptNow (clock : ℕ) : ℕ := (time clock).1 * 1000 + (time clock).2 / 1000

/-- The scripts compute the very clock that key expiry is measured on. -/
theorem scriptNow_eq (clock : ℕ) : scriptNow clock = mstime clock := by
  simp only [scriptNow, time, mstime]
  omega

theorem mstime_mono {a b : ℕ} (h : a ≤ b) : mstime a ≤ mstime b := Nat.div_le_div_right h

/-! ## Keys -/

/-- A stored value: a string, a sorted set, or any of the types the scripts do not use. -/
inductive Value (V : Type v) (M : Type w) where
  | string (value : V)
  | zset (members : KeyedMap M ℕ)
  | other

/-- A key's value and its expiry, if it has one. -/
structure Slot (V : Type v) (M : Type w) where
  value : Value V M
  expireAt : Option ℕ

/-- The stored keys. -/
abbrev Keyspace (K : Type u) (V : Type v) (M : Type w) := K → Option (Slot V M)

/-- The key is visible while `now ≤ e`. -/
def Slot.visibleAt (now : ℕ) (slot : Slot V M) : Bool := slot.expireAt.all (now ≤ ·)

/-- What a command finds under a key. -/
def find (now : ℕ) (ks : Keyspace K V M) (k : K) : Option (Slot V M) :=
  (ks k).filter (·.visibleAt now)

theorem find_of_none {now : ℕ} {ks : Keyspace K V M} {k : K} (h : ks k = none) :
    find now ks k = none := by
  rw [find, h, Option.filter_none]

/-- A key with an expiry is found exactly until then. -/
theorem find_of_some {now : ℕ} {ks : Keyspace K V M} {k : K} {value : Value V M} {e : ℕ}
    (h : ks k = some ⟨value, some e⟩) :
    find now ks k = if now ≤ e then some ⟨value, some e⟩ else none := by
  simp only [find, h, Option.filter_some, Slot.visibleAt, Option.all_some, decide_eq_true_eq]

theorem find_congr {now : ℕ} {ks ks' : Keyspace K V M} {k : K} (h : ks k = ks' k) :
    find now ks k = find now ks' k := by
  rw [find, find, h]

/-! ## Reading commands -/

/-- The answers of `TYPE`. -/
inductive KeyType where
  | none
  | string
  | zset
  | other
deriving DecidableEq, Repr

/-- `TYPE`. -/
def type (now : ℕ) (ks : Keyspace K V M) (k : K) : KeyType :=
  match find now ks k with
  | Option.none => .none
  | some ⟨.string _, _⟩ => .string
  | some ⟨.zset _, _⟩ => .zset
  | some ⟨.other, _⟩ => .other

/-- `PTTL`: `-2` for a missing key, `-1` for a key without expiry. -/
def pttl (now : ℕ) (ks : Keyspace K V M) (k : K) : ℤ :=
  match find now ks k with
  | none => -2
  | some ⟨_, none⟩ => -1
  | some ⟨_, some e⟩ => (e : ℤ) - now

/-- The `PTTL` of a visible key with expiry. -/
theorem pttl_of_some {now : ℕ} {ks : Keyspace K V M} {k : K} {value : Value V M} {e : ℕ}
    (h : ks k = some ⟨value, some e⟩) (hnow : now ≤ e) : pttl now ks k = (e : ℤ) - now := by
  rw [pttl, find_of_some h, if_pos hnow]

/-- `PTTL` answers `-2` for nothing but a missing key. -/
theorem find_of_pttl {now : ℕ} {ks : Keyspace K V M} {k : K} (h : pttl now ks k = -2) :
    find now ks k = none := by
  rcases hfind : find now ks k with _ | ⟨value, _ | e⟩
  · rfl
  · simp only [pttl, hfind] at h
    omega
  · have hvisible := (Option.filter_eq_some_iff.mp hfind).2
    simp only [Slot.visibleAt, Option.all_some, decide_eq_true_eq] at hvisible
    simp only [pttl, hfind] at h
    omega

/-- `GET`. -/
def get (now : ℕ) (ks : Keyspace K V M) (k : K) : Option V :=
  match find now ks k with
  | some ⟨.string value, _⟩ => some value
  | _ => none

/-- `STRLEN`: 0 for a missing key. -/
def strlen (length : V → ℕ) (now : ℕ) (ks : Keyspace K V M) (k : K) : ℕ :=
  ((get now ks k).map length).getD 0

/-- The members a sorted-set command finds, with their scores. -/
def scores (now : ℕ) (ks : Keyspace K V M) (k : K) : KeyedMap M ℕ :=
  match find now ks k with
  | some ⟨.zset members, _⟩ => members
  | _ => ∅

/-- `ZCARD`. -/
def zcard (now : ℕ) (ks : Keyspace K V M) (k : K) : ℕ := (scores now ks k).size

/-! ## An expiry index

A script that bounds the number of live keys records every key it sets, under its expiry, in a
sorted set. The set must not expire before the keys it counts. -/

section Index

variable {now : ℕ} {ks ks' : Keyspace K V M} {index : K}

theorem scores_of_none (h : ks index = none) : scores now ks index = ∅ := by
  rw [scores, find_of_none h]

theorem scores_of_zset {members : KeyedMap M ℕ} {e : ℕ}
    (h : ks index = some ⟨.zset members, some e⟩) :
    scores now ks index = if now ≤ e then members else ∅ := by
  rw [scores, find_of_some h]
  by_cases hnow : now ≤ e
  · rw [if_pos hnow, if_pos hnow]
  · rw [if_neg hnow, if_neg hnow]

theorem scores_congr (heq : ks' index = ks index) :
    scores now ks' index = scores now ks index := by
  rw [scores, scores, find_congr heq]

/-- The members whose expiry lies ahead. -/
def pending (now : ℕ) (ks : Keyspace K V M) (index : K) : KeyedMap M ℕ :=
  (scores now ks index).retain fun _ score => now < score

variable [DecidableEq M]

/-- The index is absent, or a sorted set that expires no earlier than any of its scores. -/
def IndexOk (ks : Keyspace K V M) (index : K) : Prop :=
  ks index = none ∨ ∃ members e, ks index = some ⟨.zset members, some e⟩ ∧
    ∀ member score, members.lookup member = some score → score ≤ e

theorem IndexOk.congr (h : IndexOk ks index) (heq : ks' index = ks index) :
    IndexOk ks' index := by
  rwa [IndexOk, heq]

/-- A script's test for a foreign type never fires on an intact index. -/
theorem IndexOk.type_ok (h : IndexOk ks index) (now : ℕ) :
    ¬ (type now ks index ≠ .none ∧ type now ks index ≠ .zset) := by
  rintro ⟨hnone, hzset⟩
  rcases h with h | ⟨members, e, h, -⟩
  · exact hnone (by rw [type, find_of_none h])
  · by_cases he : now ≤ e
    · exact hzset (by rw [type, find_of_some h, if_pos he])
    · exact hnone (by rw [type, find_of_some h, if_neg he])

/-- An intact index expires no earlier than any score found in it. -/
theorem IndexOk.score_le (h : IndexOk ks index) {member : M} {score : ℕ}
    (hlookup : (scores now ks index).lookup member = some score) :
    (score : ℤ) ≤ now + pttl now ks index := by
  rcases h with h | ⟨members, e, h, hle⟩
  · rw [scores_of_none h] at hlookup
    cases hlookup
  · rw [scores_of_zset h] at hlookup
    split at hlookup
    · next hnow =>
      have hscore := hle member score hlookup
      rw [pttl, find_of_some h, if_pos hnow]
      dsimp only
      omega
    · cases hlookup

theorem lookup_pending {member : M} {score : ℕ} :
    (pending now ks index).lookup member = some score ↔
      (scores now ks index).lookup member = some score ∧ now < score := by
  rw [pending, KeyedMap.lookup_retain_eq_some, decide_eq_true_eq]

/-- The clock moving on takes away the members that expire and no others. -/
theorem lookup_pending_advance {now' : ℕ} (h : IndexOk ks index) (hnow : now ≤ now') {member : M}
    {score : ℕ} :
    (pending now' ks index).lookup member = some score ↔
      (pending now ks index).lookup member = some score ∧ now' < score := by
  rw [lookup_pending, lookup_pending]
  rcases h with h | ⟨members, e, h, hle⟩
  · simp [scores_of_none h]
  · rw [scores_of_zset h, scores_of_zset h]
    -- Past the index's own expiry no score lies ahead, so nothing is lost with it.
    by_cases he : now' ≤ e
    · rw [if_pos he, if_pos (hnow.trans he)]
      constructor
      · rintro ⟨hlookup, hlt⟩
        exact ⟨⟨hlookup, hnow.trans_lt hlt⟩, hlt⟩
      · rintro ⟨⟨hlookup, -⟩, hlt⟩
        exact ⟨hlookup, hlt⟩
    · rw [if_neg he]
      constructor
      · rintro ⟨hlookup, -⟩
        cases hlookup
      · rintro ⟨⟨hlookup, -⟩, hlt⟩
        split at hlookup
        · exact absurd (hlt.le.trans (hle member score hlookup)) he
        · cases hlookup

/-- A script has brought the index to `members` and written no other key but `k`. -/
structure Rewritten (now : ℕ) (index k : K) (ks : Keyspace K V M) (members : KeyedMap M ℕ)
    (ks' : Keyspace K V M) : Prop where
  index_ok : IndexOk ks' index
  scores_eq : scores now ks' index = members
  frame : ∀ k', k' ≠ index → k' ≠ k → ks' k' = ks k'

/-- Writing `k` keeps what was brought about. -/
theorem Rewritten.of_frame {members : KeyedMap M ℕ} {k : K} {mid : Keyspace K V M}
    (h : Rewritten now index k ks members mid) (hne : k ≠ index)
    (hframe : ∀ k', k' ≠ k → ks' k' = mid k') : Rewritten now index k ks members ks' where
  index_ok := h.index_ok.congr (hframe index hne.symm)
  scores_eq := by rw [scores_congr (hframe index hne.symm), h.scores_eq]
  frame k' hk' hk := by rw [hframe k' hk, h.frame k' hk' hk]

end Index

/-! ## Writing commands -/

variable [DecidableEq K]

/-- `DEL`. -/
def del (k : K) (ks : Keyspace K V M) : Keyspace K V M := Function.update ks k none

/-- `SET k value PX ttl`. -/
def setPx (now ttl : ℕ) (k : K) (value : V) (ks : Keyspace K V M) : Keyspace K V M :=
  Function.update ks k (some ⟨.string value, some (now + ttl)⟩)

/-- `SET k value NX PX ttl`; the answer says whether the key was set. -/
def setNxPx (now ttl : ℕ) (k : K) (value : V) (ks : Keyspace K V M) : Bool × Keyspace K V M :=
  match find now ks k with
  | some _ => (false, ks)
  | none => (true, setPx now ttl k value ks)

/-- `PEXPIRE`. -/
def pexpire (now ttl : ℕ) (k : K) (ks : Keyspace K V M) : Keyspace K V M :=
  match find now ks k with
  | none => ks
  | some slot => Function.update ks k (some { slot with expireAt := some (now + ttl) })

/-- The scripts' idiom `if PTTL k < ttl then PEXPIRE k ttl`. -/
def extendTo (now ttl : ℕ) (k : K) (ks : Keyspace K V M) : Keyspace K V M :=
  if pttl now ks k < ttl then pexpire now ttl k ks else ks

/-- `INCR` of a 64-bit counter kept as text; the expiry stays. `none` is the error answered for
    a value that is no such number, or would leave its range. -/
def incr (parse : V → Option ℤ) (print : ℤ → V) (now : ℕ) (k : K) (ks : Keyspace K V M) :
    Option ℤ × Keyspace K V M :=
  match find now ks k with
  | none => (some 1, Function.update ks k (some ⟨.string (print 1), none⟩))
  | some ⟨.string value, expireAt⟩ =>
    match parse value with
    | none => (none, ks)
    | some n =>
      if n + 1 < 2 ^ 63 then
        (some (n + 1), Function.update ks k (some ⟨.string (print (n + 1)), expireAt⟩))
      else (none, ks)
  | some _ => (none, ks)

/-! ### What they leave alone, and extending an expiry -/

section Frame

variable {k k' : K} {ks : Keyspace K V M}

@[simp] theorem del_self : del k ks k = none := Function.update_self ..

@[simp] theorem del_of_ne (h : k' ≠ k) : del k ks k' = ks k' := Function.update_of_ne h ..

@[simp] theorem setPx_self {now ttl : ℕ} {value : V} :
    setPx now ttl k value ks k = some ⟨.string value, some (now + ttl)⟩ := Function.update_self ..

@[simp] theorem setPx_of_ne {now ttl : ℕ} {value : V} (h : k' ≠ k) :
    setPx now ttl k value ks k' = ks k' := Function.update_of_ne h ..

@[simp] theorem extendTo_of_ne {now ttl : ℕ} (h : k' ≠ k) :
    extendTo now ttl k ks k' = ks k' := by
  unfold extendTo
  split
  · rcases hf : find now ks k with _ | slot
    · simp only [pexpire, hf]
    · simp only [pexpire, hf, Function.update_of_ne h]
  · rfl

/-- Extending a key without expiry gives it the new one. -/
theorem extendTo_of_persistent (now ttl : ℕ) {value : Value V M}
    (h : ks k = some ⟨value, none⟩) :
    extendTo now ttl k ks k = some ⟨value, some (now + ttl)⟩ := by
  have hfind : find now ks k = some ⟨value, none⟩ := by
    simp only [find, h, Option.filter_some, Slot.visibleAt, Option.all_none, if_true]
  have hpttl : pttl now ks k < ttl := by
    simp only [pttl, hfind]
    omega
  rw [extendTo, if_pos hpttl, pexpire, hfind]
  exact Function.update_self ..

/-- Extending a visible key with expiry keeps the later of the two. -/
theorem extendTo_of_volatile {now e : ℕ} (ttl : ℕ) {value : Value V M}
    (h : ks k = some ⟨value, some e⟩) (hnow : now ≤ e) :
    extendTo now ttl k ks k = some ⟨value, some (max e (now + ttl))⟩ := by
  have hfind : find now ks k = some ⟨value, some e⟩ := by rw [find_of_some h, if_pos hnow]
  have hpttl : pttl now ks k = (e : ℤ) - now := by simp only [pttl, hfind]
  unfold extendTo
  split
  · next hlt =>
    rw [hpttl] at hlt
    rw [pexpire, hfind, max_eq_right (by omega)]
    exact Function.update_self ..
  · next hge =>
    rw [hpttl] at hge
    rw [h, max_eq_left (by omega)]

/-- `INCR` of a visible counter writes the next number and keeps the expiry. -/
theorem incr_of_find {now : ℕ} {parse : V → Option ℤ} (print : ℤ → V) {value : V}
    {expireAt : Option ℕ} {n : ℤ} (hfind : find now ks k = some ⟨.string value, expireAt⟩)
    (hparse : parse value = some n) (hn : n + 1 < 2 ^ 63) :
    incr parse print now k ks =
      (some (n + 1), Function.update ks k (some ⟨.string (print (n + 1)), expireAt⟩)) := by
  simp only [incr, hfind, hparse, if_pos hn]

end Frame

/-! ## Sorted-set commands -/

/-- Write a sorted set back; an empty one is removed. -/
def putMembers (k : K) (members : KeyedMap M ℕ) (expireAt : Option ℕ) (ks : Keyspace K V M) :
    Keyspace K V M :=
  if members.size = 0 then del k ks else Function.update ks k (some ⟨.zset members, expireAt⟩)

/-- `ZREMRANGEBYSCORE k -inf max`. -/
def zremrangebyscore (now max : ℕ) (k : K) (ks : Keyspace K V M) : Keyspace K V M :=
  match find now ks k with
  | some ⟨.zset members, expireAt⟩ =>
    putMembers k (members.retain fun _ score => max < score) expireAt ks
  | _ => ks

theorem putMembers_of_ne {k k' : K} {ks : Keyspace K V M} {members : KeyedMap M ℕ}
    {expireAt : Option ℕ} (h : k' ≠ k) : putMembers k members expireAt ks k' = ks k' := by
  unfold putMembers
  split
  · exact del_of_ne h
  · exact Function.update_of_ne h ..

@[simp] theorem zremrangebyscore_of_ne {k k' : K} {ks : Keyspace K V M} {now max : ℕ}
    (h : k' ≠ k) : zremrangebyscore now max k ks k' = ks k' := by
  rcases hf : find now ks k with _ | ⟨_ | _ | _, _⟩ <;>
    simp only [zremrangebyscore, hf, putMembers_of_ne h]

variable [DecidableEq M]

/-- `ZADD k score member`. A new set starts without expiry; an old one keeps its own. -/
def zadd (now score : ℕ) (member : M) (k : K) (ks : Keyspace K V M) : Keyspace K V M :=
  match find now ks k with
  | none => Function.update ks k (some ⟨.zset (AList.insert member score ∅), none⟩)
  | some ⟨.zset members, expireAt⟩ =>
    Function.update ks k (some ⟨.zset (members.insert member score), expireAt⟩)
  | some _ => ks

/-- `ZREM k member`. -/
def zrem (now : ℕ) (member : M) (k : K) (ks : Keyspace K V M) : Keyspace K V M :=
  match find now ks k with
  | some ⟨.zset members, expireAt⟩ => putMembers k (members.erase member) expireAt ks
  | _ => ks

@[simp] theorem zadd_of_ne {k k' : K} {ks : Keyspace K V M} {now score : ℕ} {member : M}
    (h : k' ≠ k) : zadd now score member k ks k' = ks k' := by
  rcases hf : find now ks k with _ | ⟨_ | _ | _, _⟩ <;>
    simp only [zadd, hf, Function.update_of_ne h]

@[simp] theorem zrem_of_ne {k k' : K} {ks : Keyspace K V M} {now : ℕ} {member : M}
    (h : k' ≠ k) : zrem now member k ks k' = ks k' := by
  rcases hf : find now ks k with _ | ⟨_ | _ | _, _⟩ <;>
    simp only [zrem, hf, putMembers_of_ne h]

/-! ## What the commands do to an expiry index -/

section IndexCommands

variable {now : ℕ} {ks : Keyspace K V M} {index : K}

/-- Writing back fewer members of an intact index leaves it intact. -/
theorem putMembers_spec {members : KeyedMap M ℕ} {e : ℕ} (hnow : now ≤ e)
    (hle : ∀ member score, members.lookup member = some score → score ≤ e) :
    IndexOk (putMembers index members (some e) ks) index ∧
      scores now (putMembers index members (some e) ks) index = members := by
  unfold putMembers
  split
  · next hsize =>
    have hempty : members = ∅ := AList.ext (List.length_eq_zero_iff.mp hsize)
    exact ⟨.inl del_self, by rw [scores_of_none del_self, hempty]⟩
  · have hself : Function.update ks index (some (⟨.zset members, some e⟩ : Slot V M)) index =
        some ⟨.zset members, some e⟩ := Function.update_self ..
    exact ⟨.inr ⟨members, e, hself, hle⟩, by rw [scores_of_zset hself, if_pos hnow]⟩

/-- `ZREMRANGEBYSCORE index -inf now` leaves the unexpired members. -/
theorem zremrangebyscore_spec (now : ℕ) (h : IndexOk ks index) :
    IndexOk (zremrangebyscore now now index ks) index ∧
      scores now (zremrangebyscore now now index ks) index = pending now ks index := by
  rcases h with h | ⟨members, e, h, hle⟩
  · have hks : zremrangebyscore now now index ks = ks := by
      rw [zremrangebyscore, find_of_none h]
    rw [hks, pending, scores_of_none h]
    exact ⟨.inl h, rfl⟩
  · by_cases hnow : now ≤ e
    · have hks : zremrangebyscore now now index ks =
          putMembers index (members.retain fun _ score => now < score) (some e) ks := by
        rw [zremrangebyscore, find_of_some h, if_pos hnow]
      rw [hks, pending, scores_of_zset h, if_pos hnow]
      apply putMembers_spec hnow
      intro member score hlookup
      exact hle member score (KeyedMap.lookup_retain_eq_some.mp hlookup).1
    · have hks : zremrangebyscore now now index ks = ks := by
        rw [zremrangebyscore, find_of_some h, if_neg hnow]
      rw [hks, pending, scores_of_zset h, if_neg hnow]
      exact ⟨.inr ⟨members, e, h, hle⟩, rfl⟩

/-- `ZREM index member` removes one member. -/
theorem zrem_spec (now : ℕ) (h : IndexOk ks index) (member : M) :
    IndexOk (zrem now member index ks) index ∧
      scores now (zrem now member index ks) index = (scores now ks index).erase member := by
  rcases h with h | ⟨members, e, h, hle⟩
  · have hks : zrem now member index ks = ks := by rw [zrem, find_of_none h]
    rw [hks, scores_of_none h]
    exact ⟨.inl h, (KeyedMap.erase_of_lookup_none rfl).symm⟩
  · by_cases hnow : now ≤ e
    · have hks : zrem now member index ks =
          putMembers index (members.erase member) (some e) ks := by
        rw [zrem, find_of_some h, if_pos hnow]
      rw [hks, scores_of_zset h, if_pos hnow]
      apply putMembers_spec hnow
      intro member' score hlookup
      rw [KeyedMap.lookup_erase_ite] at hlookup
      split at hlookup
      · cases hlookup
      · exact hle member' score hlookup
    · have hks : zrem now member index ks = ks := by rw [zrem, find_of_some h, if_neg hnow]
      rw [hks, scores_of_zset h, if_neg hnow]
      exact ⟨.inr ⟨members, e, h, hle⟩, (KeyedMap.erase_of_lookup_none rfl).symm⟩

/-- `ZADD` followed by the extension of the index's expiry records one member. -/
theorem register_spec (h : IndexOk ks index) {score ttl : ℕ} (hscore : score ≤ now + ttl)
    (member : M) :
    IndexOk (extendTo now ttl index (zadd now score member index ks)) index ∧
      scores now (extendTo now ttl index (zadd now score member index ks)) index =
        (scores now ks index).insert member score := by
  by_cases hfind : find now ks index = none
  · -- A fresh set: one member, under the expiry just given.
    have hzadd : zadd now score member index ks index =
        some ⟨.zset (AList.insert member score ∅), none⟩ := by
      rw [zadd, hfind]
      exact Function.update_self ..
    have hscores : scores now ks index = ∅ := by rw [scores, hfind]
    rw [hscores]
    have hself := extendTo_of_persistent now ttl hzadd
    refine ⟨.inr ⟨_, _, hself, ?_⟩, ?_⟩
    · intro member' score' hlookup
      rw [KeyedMap.lookup_insert_ite] at hlookup
      split at hlookup
      · cases hlookup
        exact hscore
      · cases hlookup
    · rw [scores_of_zset hself, if_pos (Nat.le_add_right now ttl)]
  -- The set is there: it gains the member, and its expiry is not shortened.
  · obtain ⟨members, e, hks, hle, hnow⟩ : ∃ members e, ks index = some ⟨.zset members, some e⟩ ∧
        (∀ member score, members.lookup member = some score → score ≤ e) ∧ now ≤ e := by
      rcases h with h | ⟨members, e, h, hle⟩
      · exact absurd (find_of_none h) hfind
      · by_cases hnow : now ≤ e
        · exact ⟨members, e, h, hle, hnow⟩
        · exact absurd (by rw [find_of_some h, if_neg hnow]) hfind
    have hzadd : zadd now score member index ks index =
        some ⟨.zset (members.insert member score), some e⟩ := by
      rw [zadd, find_of_some hks, if_pos hnow]
      exact Function.update_self ..
    have hself := extendTo_of_volatile ttl hzadd hnow
    rw [scores_of_zset hks, if_pos hnow]
    refine ⟨.inr ⟨_, _, hself, ?_⟩, ?_⟩
    · intro member' score' hlookup
      rw [KeyedMap.lookup_insert_ite] at hlookup
      split at hlookup
      · cases hlookup
        exact le_max_of_le_right hscore
      · exact le_max_of_le_left (hle member' score' hlookup)
    · rw [scores_of_zset hself, if_pos (le_max_of_le_left hnow)]

end IndexCommands

/-! ## Script idioms

A script first purges the index. It then withdraws a key together with its member, or enrols a
key under its expiry. -/

section Idioms

variable {now : ℕ} {ks mid : Keyspace K V M} {index k : K} {members : KeyedMap M ℕ}

theorem IndexOk.purge (h : IndexOk ks index) (now : ℕ) (k : K) :
    Rewritten now index k ks (pending now ks index) (zremrangebyscore now now index ks) where
  index_ok := (zremrangebyscore_spec now h).1
  scores_eq := (zremrangebyscore_spec now h).2
  frame _ hk' _ := zremrangebyscore_of_ne hk'

theorem Rewritten.del (h : Rewritten now index k ks members mid) (hne : k ≠ index) :
    Rewritten now index k ks members (del k mid) :=
  h.of_frame hne fun _ hk => del_of_ne hk

theorem Rewritten.setPx (h : Rewritten now index k ks members mid) (hne : k ≠ index) (ttl : ℕ)
    (value : V) : Rewritten now index k ks members (setPx now ttl k value mid) :=
  h.of_frame hne fun _ hk => setPx_of_ne hk

theorem Rewritten.zrem (h : Rewritten now index k ks members mid) (member : M) :
    Rewritten now index k ks (members.erase member) (zrem now member index mid) where
  index_ok := (zrem_spec now h.index_ok member).1
  scores_eq := by rw [(zrem_spec now h.index_ok member).2, h.scores_eq]
  frame k' hk' hk := by rw [zrem_of_ne hk', h.frame k' hk' hk]

theorem Rewritten.register (h : Rewritten now index k ks members mid) {score ttl : ℕ}
    (hscore : score ≤ now + ttl) (member : M) :
    Rewritten now index k ks (members.insert member score)
      (extendTo now ttl index (zadd now score member index mid)) where
  index_ok := (register_spec h.index_ok hscore member).1
  scores_eq := by rw [(register_spec h.index_ok hscore member).2, h.scores_eq]
  frame k' hk' hk := by rw [extendTo_of_ne hk', zadd_of_ne hk', h.frame k' hk' hk]

end Idioms

end Redis
