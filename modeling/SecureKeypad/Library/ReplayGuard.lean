import SecureKeypad.Library.KeyedMap
import SecureKeypad.Library.Machine

/-!
# Bounded Replay Guards

A replay guard remembers the keys it admitted until their expiry, in a map of bounded size.
Every attempt first purges what has expired at the attempt's own clock reading, then admits the
key if it is absent and there is room.

The map alone does not make an admission unique: an attempt with a late reading purges the entry
of an earlier admission. `readmission_needs_expired_reading` says that this is the only way, for
every machine that keeps such a map: if a key is admitted twice, some attempt after the first
admission and no later than the second read the clock at or past the first expiry.
-/

namespace ReplayGuard

variable {K : Type*} {T : Type*} [DecidableEq K] [LinearOrder T]

/-! ## One attempt -/

/-- The answer to one attempt. -/
inductive Decision where
  | consumed
  | replayed
  | unavailable
deriving DecidableEq

/-- Drop the entries whose expiry the reading `now` has reached. -/
def purge (now : T) (entries : KeyedMap K T) : KeyedMap K T :=
  KeyedMap.retain (fun _ expiresAt => decide (now < expiresAt)) entries

/-- One attempt: purge at `now`, then record `key` until `expiresAt` if it is absent and fewer
    than `capacity` entries remain. -/
def attemptOnce (capacity : ℕ) (entries : KeyedMap K T) (key : K) (expiresAt now : T) :
    Decision × KeyedMap K T :=
  let entries := purge now entries
  if (entries.lookup key).isSome then (.replayed, entries)
  else if KeyedMap.size entries ≥ capacity then (.unavailable, entries)
  else (.consumed, entries.insert key expiresAt)

theorem lookup_purge_of_lt {now expiresAt : T} {entries : KeyedMap K T} {key : K}
    (hentry : entries.lookup key = some expiresAt) (hnow : now < expiresAt) :
    (purge now entries).lookup key = some expiresAt :=
  KeyedMap.lookup_retain_eq_some.mpr ⟨hentry, by simpa using hnow⟩

/-- An attempt leaves the purged map, or the purged map with the free key filed. -/
theorem attemptOnce_entries (capacity : ℕ) (entries : KeyedMap K T) (key : K) (expiresAt now : T) :
    (attemptOnce capacity entries key expiresAt now).2 = purge now entries ∨
    ((purge now entries).lookup key = none ∧
      (attemptOnce capacity entries key expiresAt now).2 =
        (purge now entries).insert key expiresAt) := by
  by_cases hkey : ((purge now entries).lookup key).isSome
  · simp only [attemptOnce, hkey, if_true]
    exact .inl trivial
  · have hnone : (purge now entries).lookup key = none := by simpa using hkey
    simp only [attemptOnce, hkey, Bool.false_eq_true, if_false]
    split
    · exact .inl rfl
    · exact .inr ⟨hnone, rfl⟩

/-- An admission found its key free after the purge and files it. -/
theorem attemptOnce_eq_consumed {capacity : ℕ} {entries : KeyedMap K T} {key : K} {expiresAt now : T}
    (h : (attemptOnce capacity entries key expiresAt now).1 = .consumed) :
    (purge now entries).lookup key = none ∧
      (attemptOnce capacity entries key expiresAt now).2.lookup key = some expiresAt := by
  by_cases hkey : ((purge now entries).lookup key).isSome
  · simp [attemptOnce, hkey] at h
  · have hnone : (purge now entries).lookup key = none := by simpa using hkey
    simp only [attemptOnce, hkey, Bool.false_eq_true, if_false] at h ⊢
    split at h
    · cases h
    · rename_i hcap
      rw [if_neg hcap]
      exact ⟨hnone, AList.lookup_insert _⟩

/-- A filed entry outlives every attempt that reads the clock before its expiry. -/
theorem attemptOnce_keeps_entry {capacity : ℕ} {entries : KeyedMap K T} {key key' : K}
    {expiresAt expiresAt' now : T} (hentry : entries.lookup key = some expiresAt)
    (hnow : now < expiresAt) :
    (attemptOnce capacity entries key' expiresAt' now).2.lookup key = some expiresAt := by
  have hpurged := lookup_purge_of_lt hentry hnow
  rcases attemptOnce_entries capacity entries key' expiresAt' now with hv | ⟨hnone, hv⟩
  · rw [hv, hpurged]
  · -- An insertion needs a free key, so it cannot overwrite this one.
    have hne : key ≠ key' := by
      rintro rfl
      rw [hpurged] at hnone
      cases hnone
    rw [hv, AList.lookup_insert_ne hne, hpurged]

/-- The bound on the map is kept by every attempt. -/
theorem size_attemptOnce_le {capacity : ℕ} {entries : KeyedMap K T} (key : K) (expiresAt now : T)
    (h : KeyedMap.size entries ≤ capacity) :
    KeyedMap.size (attemptOnce capacity entries key expiresAt now).2 ≤ capacity := by
  have hpurged : KeyedMap.size (purge now entries) ≤ capacity :=
    le_trans (KeyedMap.size_retain_le _ _) h
  by_cases hkey : ((purge now entries).lookup key).isSome
  · simpa only [attemptOnce, hkey, if_true] using hpurged
  · have hnone : (purge now entries).lookup key = none := by simpa using hkey
    simp only [attemptOnce, hkey, Bool.false_eq_true, if_false]
    split
    · exact hpurged
    · rename_i hcap
      rw [KeyedMap.size_insert_of_lookup_none _ hnone]
      omega

/-! ## Machines that keep a replay map -/

/-- What an attempt was about and how it was answered. -/
structure Attempt (K : Type*) (T : Type*) where
  key : K
  expiresAt : T
  now : T
  decision : Decision

variable {σ : Type*} {ι : Type*} {ω : Type*}

/-- The machine keeps a replay map, seen through `view`: it changes only by attempts, which are
    `attemptOnce` on it (or fail before touching it). -/
structure Keeps (step : σ → ι → ω × σ) (view : σ → KeyedMap K T)
    (observe : ω → Option (Attempt K T)) : Prop where
  quiet : ∀ s i, observe (step s i).1 = none → view (step s i).2 = view s
  attempt : ∀ s i a, observe (step s i).1 = some a →
    (a.decision ≠ .consumed ∧ view (step s i).2 = view s) ∨
    ∃ capacity, a.decision = (attemptOnce capacity (view s) a.key a.expiresAt a.now).1 ∧
      view (step s i).2 = (attemptOnce capacity (view s) a.key a.expiresAt a.now).2

/-- The moment `j` of a run was the attempt `a`. -/
def AttemptAt (observe : ω → Option (Attempt K T)) (answers : List (ι × ω)) (j : ℕ)
    (a : Attempt K T) : Prop :=
  ∃ i o, answers[j]? = some (i, o) ∧ observe o = some a

variable {step : σ → ι → ω × σ} {view : σ → KeyedMap K T} {observe : ω → Option (Attempt K T)}

omit [DecidableEq K] [LinearOrder T] in
/-- An attempt of a run is taken by the state the earlier inputs led to. -/
theorem attemptAt_step {s : σ} {inputs : List ι} {j : ℕ} {a : Attempt K T}
    (h : AttemptAt observe (Machine.trace step s inputs) j a) :
    ∃ i, inputs[j]? = some i ∧
      observe (step (Machine.run step s (inputs.take j)) i).1 = some a := by
  obtain ⟨i, o, htr, hobs⟩ := h
  obtain ⟨hget, rfl⟩ := Machine.trace_getElem?_eq_some step htr
  exact ⟨i, hget, hobs⟩

/-- An entry before its expiry outlives one input. -/
private theorem Keeps.entry_survives (keeps : Keeps step view observe) {s : σ} {i : ι} {key : K}
    {expiresAt : T} (hentry : (view s).lookup key = some expiresAt)
    (hnow : ∀ a, observe (step s i).1 = some a → a.now < expiresAt) :
    (view (step s i).2).lookup key = some expiresAt := by
  cases hobs : observe (step s i).1 with
  | none => rw [keeps.quiet s i hobs, hentry]
  | some a =>
    rcases keeps.attempt s i a hobs with ⟨_, hview⟩ | ⟨capacity, _, hview⟩
    · rw [hview, hentry]
    · rw [hview]
      exact attemptOnce_keeps_entry hentry (hnow a hobs)

/-- **Readmission**: if a run admits one key at two moments, then some attempt after the first
    of them, up to and including the second, read the clock at or past the first expiry. -/
theorem readmission_needs_expired_reading (keeps : Keeps step view observe) {s : σ}
    {inputs : List ι} {i j : ℕ} {a b : Attempt K T} (hij : i < j)
    (hi : AttemptAt observe (Machine.trace step s inputs) i a) (ha : a.decision = .consumed)
    (hj : AttemptAt observe (Machine.trace step s inputs) j b) (hb : b.decision = .consumed)
    (hkey : a.key = b.key) :
    ∃ k c, i < k ∧ k ≤ j ∧ AttemptAt observe (Machine.trace step s inputs) k c ∧
      a.expiresAt ≤ c.now := by
  by_contra hnone
  -- Otherwise every reading in between is early, and the entry filed at `i` is still there at `j`.
  have hearly : ∀ k c, i < k → k ≤ j → AttemptAt observe (Machine.trace step s inputs) k c →
      c.now < a.expiresAt := by
    intro k c hik hkj hk
    by_contra hlate
    exact hnone ⟨k, c, hik, hkj, hk, not_lt.mp hlate⟩
  obtain ⟨ii, hgeti, hobsi⟩ := attemptAt_step hi
  obtain ⟨ij, hgetj, hobsj⟩ := attemptAt_step hj
  have hjlen : j ≤ inputs.length := Nat.le_of_lt (List.getElem?_eq_some_iff.mp hgetj).1
  have hentry : (view (Machine.run step s (inputs.take j))).lookup a.key = some a.expiresAt := by
    apply Machine.run_take_window step (P := fun s => (view s).lookup a.key = some a.expiresAt)
      (Nat.succ_le_of_lt hij) hjlen
    · rw [Machine.run_take_succ step hgeti]
      rcases keeps.attempt _ _ a hobsi with ⟨hne, _⟩ | ⟨capacity, hdec, hview⟩
      · exact absurd ha hne
      · rw [hview]
        exact (attemptOnce_eq_consumed (hdec.symm.trans ha)).2
    · intro n input hn hnj hget hentry
      apply keeps.entry_survives hentry
      intro c hc
      exact hearly n c hn (Nat.le_of_lt hnj)
        ⟨input, _, Machine.trace_getElem?_of_getElem? step hget, hc⟩
  rcases keeps.attempt _ _ b hobsj with ⟨hne, _⟩ | ⟨capacity, hdec, _⟩
  · exact hne hb
  · have hfree := (attemptOnce_eq_consumed (hdec.symm.trans hb)).1
    rw [← hkey, lookup_purge_of_lt hentry (hearly j b hij (le_refl j) hj)] at hfree
    cases hfree

/-! ## Attempts in clock order

A machine that only makes attempts, with readings that never run backwards, answers every one of
them by what its history admitted: the map is the unexpired part of that history. -/

/-- The machine holds one replay map, placed in its state by `wrap`, and every input is one
    attempt on it. -/
structure Guards (step : σ → ι → Decision × σ) (wrap : KeyedMap K T → σ) (capacity : ℕ)
    (key : ι → K) (expiresAt now : ι → T) : Prop where
  answer : ∀ m i, (step (wrap m) i).1 =
    (attemptOnce capacity m (key i) (expiresAt i) (now i)).1
  next : ∀ m i, (step (wrap m) i).2 =
    wrap (attemptOnce capacity m (key i) (expiresAt i) (now i)).2

/-- The admissions of a history that the reading `at'` finds unexpired. -/
def unexpired (expiresAt : ι → T) (at' : T) (history : List (ι × Decision)) :
    List (ι × Decision) :=
  history.filter fun answered => decide (answered.2 = .consumed ∧ at' < expiresAt answered.1)

omit [DecidableEq K] in
theorem mem_unexpired {expiresAt : ι → T} {at' : T} {history : List (ι × Decision)}
    {answered : ι × Decision} : answered ∈ unexpired expiresAt at' history ↔
      answered ∈ history ∧ answered.2 = .consumed ∧ at' < expiresAt answered.1 := by
  rw [unexpired, List.mem_filter, decide_eq_true_eq]

/-- The entry an admission files. -/
def entryOf (key : ι → K) (expiresAt : ι → T) (answered : ι × Decision) : Sigma fun _ : K => T :=
  ⟨key answered.1, expiresAt answered.1⟩

/-- The map is the unexpired part of the history, for every reading the clock may still give. -/
def Tracks (key : ι → K) (expiresAt now : ι → T) (history : List (ι × Decision))
    (m : KeyedMap K T) : Prop :=
  ∀ later, (∀ answered ∈ history, now answered.1 ≤ later) →
    ((unexpired expiresAt later history).map (entryOf key expiresAt)).Perm (purge later m).entries

omit [DecidableEq K] in
/-- Purging at an earlier reading first changes nothing. -/
theorem purge_purge {earlier later : T} (h : earlier ≤ later) (m : KeyedMap K T) :
    purge later (purge earlier m) = purge later m := by
  apply AList.ext
  show List.filter _ (List.filter _ m.entries) = List.filter _ m.entries
  rw [List.filter_filter]
  apply List.filter_congr
  intro entry _
  by_cases hlater : later < entry.2
  · simp [hlater, lt_of_le_of_lt h hlater]
  · simp [hlater]

variable {key : ι → K} {expiresAt now : ι → T} {capacity : ℕ} {wrap : KeyedMap K T → σ}
  {history : List (ι × Decision)} {m : KeyedMap K T} {i : ι}

/-- A key is filed after the purge exactly when an unexpired admission of the history was for
    it. -/
theorem Tracks.isSome_lookup_iff (htracks : Tracks key expiresAt now history m)
    (hclock : ∀ answered ∈ history, now answered.1 ≤ now i) (k : K) :
    ((purge (now i) m).lookup k).isSome = true ↔
      ∃ answered ∈ unexpired expiresAt (now i) history, key answered.1 = k := by
  rw [Option.isSome_iff_exists]
  constructor
  · intro ⟨expiry, hlookup⟩
    have hmem := (htracks (now i) hclock).mem_iff.mpr (KeyedMap.lookup_eq_some_iff.mp hlookup)
    obtain ⟨answered, hlive, hentry⟩ := List.mem_map.mp hmem
    exact ⟨answered, hlive, congrArg Sigma.fst hentry⟩
  · intro ⟨answered, hlive, hkey⟩
    subst hkey
    refine ⟨expiresAt answered.1, KeyedMap.lookup_eq_some_iff.mpr ?_⟩
    exact (htracks (now i) hclock).mem_iff.mp (List.mem_map_of_mem hlive)

omit [DecidableEq K] in
/-- As many entries survive the purge as the history has unexpired admissions. -/
theorem Tracks.length_unexpired (htracks : Tracks key expiresAt now history m)
    (hclock : ∀ answered ∈ history, now answered.1 ≤ now i) :
    (unexpired expiresAt (now i) history).length = KeyedMap.size (purge (now i) m) := by
  rw [KeyedMap.size, ← (htracks (now i) hclock).length_eq, List.length_map]

/-- One more attempt: the history grows by its answer, the map by what it filed. -/
theorem Tracks.snoc (htracks : Tracks key expiresAt now history m) :
    Tracks key expiresAt now
      (history ++ [(i, (attemptOnce capacity m (key i) (expiresAt i) (now i)).1)])
      (attemptOnce capacity m (key i) (expiresAt i) (now i)).2 := by
  intro later hlater
  have hi : now i ≤ later := hlater (i, _) (List.mem_append_right _ (List.mem_singleton_self _))
  have hpast := htracks later fun answered h => hlater answered (List.mem_append_left _ h)
  rw [unexpired, List.filter_append, List.map_append]
  by_cases hconsumed :
      (attemptOnce capacity m (key i) (expiresAt i) (now i)).1 = .consumed
  · -- The key was free, so the filed entry is a new one; it survives `later` like any other.
    obtain ⟨hfree, hfiled⟩ := attemptOnce_eq_consumed hconsumed
    have hnext : (attemptOnce capacity m (key i) (expiresAt i) (now i)).2 =
        (purge (now i) m).insert (key i) (expiresAt i) := by
      rcases attemptOnce_entries capacity m (key i) (expiresAt i) (now i) with hkept | ⟨_, hins⟩
      · rw [hkept, hfree] at hfiled
        cases hfiled
      · exact hins
    have hentries : (purge later ((purge (now i) m).insert (key i) (expiresAt i))).entries =
        (([⟨key i, expiresAt i⟩] : List (Sigma fun _ : K => T)).filter
          fun entry => decide (later < entry.2)) ++ (purge later m).entries := by
      rw [← purge_purge hi m]
      show List.filter _ (AList.entries _) = _
      rw [AList.entries_insert_of_notMem (AList.lookup_eq_none.mp hfree), ← List.singleton_append,
        List.filter_append]
      rfl
    rw [hnext, hentries, hconsumed]
    refine List.perm_append_comm.trans (List.Perm.append ?_ hpast)
    by_cases hlive : later < expiresAt i
    · simp [hlive, entryOf]
    · simp [hlive]
  · have hkept : (attemptOnce capacity m (key i) (expiresAt i) (now i)).2 =
        purge (now i) m := by
      rcases attemptOnce_entries capacity m (key i) (expiresAt i) (now i) with hkept | ⟨hfree, hins⟩
      · exact hkept
      · -- Filing the key is what an admission does.
        exfalso
        apply hconsumed
        simp only [attemptOnce, hfree, Option.isSome_none, Bool.false_eq_true,
          if_false] at hins ⊢
        split at hins
        · have hlookup := congrArg (fun m => AList.lookup (key i) m) hins
          simp only [hfree, AList.lookup_insert] at hlookup
          cases hlookup
        · next hroom => rw [if_neg hroom]
    rw [hkept, purge_purge hi m]
    simpa [hconsumed, unexpired] using hpast

/-- The answer to an attempt, by the history behind the map. -/
theorem Tracks.answer_iff (htracks : Tracks key expiresAt now history m)
    (hclock : ∀ answered ∈ history, now answered.1 ≤ now i)
    (hsize : KeyedMap.size m ≤ capacity) :
    ((attemptOnce capacity m (key i) (expiresAt i) (now i)).1 = .replayed ↔
      ∃ answered ∈ unexpired expiresAt (now i) history, key answered.1 = key i) ∧
    ((attemptOnce capacity m (key i) (expiresAt i) (now i)).1 = .unavailable ↔
      (¬ ∃ answered ∈ unexpired expiresAt (now i) history, key answered.1 = key i) ∧
        (unexpired expiresAt (now i) history).length = capacity) := by
  have hpurged : KeyedMap.size (purge (now i) m) ≤ capacity :=
    (KeyedMap.size_retain_le _ _).trans hsize
  rw [← htracks.isSome_lookup_iff hclock, htracks.length_unexpired hclock]
  by_cases hfiled : ((purge (now i) m).lookup (key i)).isSome
  · simp [attemptOnce, hfiled]
  · by_cases hfull : KeyedMap.size (purge (now i) m) ≥ capacity
    · simp [attemptOnce, hfiled, le_antisymm hpurged hfull]
    · simp [attemptOnce, hfiled, hfull, ne_of_lt (not_le.mp hfull)]

/-- After a run of attempts the state holds a map within the bound that is the unexpired part of
    the history. -/
theorem Guards.run_tracks {step : σ → ι → Decision × σ}
    (guards : Guards step wrap capacity key expiresAt now) (calls : List ι) :
    ∃ m, Machine.run step (wrap ∅) calls = wrap m ∧ KeyedMap.size m ≤ capacity ∧
      Tracks key expiresAt now (Machine.trace step (wrap ∅) calls) m := by
  induction calls using List.reverseRecOn with
  | nil =>
    refine ⟨∅, rfl, Nat.zero_le _, ?_⟩
    intro later _
    exact List.Perm.nil
  | append_singleton calls i ih =>
    obtain ⟨m, hrun, hsize, htracks⟩ := ih
    refine ⟨_, ?_, size_attemptOnce_le (key i) (expiresAt i) (now i) hsize, ?_⟩
    · rw [Machine.run_snoc, hrun, guards.next]
    · rw [Machine.trace_snoc, hrun, guards.answer]
      exact htracks.snoc

/-- **Answers by history**: in a run of attempts in clock order an attempt is answered `replayed`
    exactly when an earlier one for its key was admitted until later than its reading, and
    refused for want of room exactly when that is not so and as many earlier admissions as the
    map has room for are unexpired. -/
theorem Guards.answer_iff {step : σ → ι → Decision × σ}
    (guards : Guards step wrap capacity key expiresAt now) {calls : List ι}
    (hclock : calls.Pairwise fun a b => now a ≤ now b) {j : ℕ} {decision : Decision}
    (hj : (Machine.trace step (wrap ∅) calls)[j]? = some (i, decision)) :
    let earlier := (Machine.trace step (wrap ∅) calls).take j
    (decision = .replayed ↔
      ∃ answered ∈ unexpired expiresAt (now i) earlier, key answered.1 = key i) ∧
    (decision = .unavailable ↔
      (¬ ∃ answered ∈ unexpired expiresAt (now i) earlier, key answered.1 = key i) ∧
        (unexpired expiresAt (now i) earlier).length = capacity) := by
  obtain ⟨hget, hdecision⟩ := Machine.trace_getElem?_eq_some step hj
  have hsplit : calls = calls.take j ++ i :: calls.drop (j + 1) := by
    rw [← List.getElem?_eq_some_iff.mp hget |>.2, ← List.drop_eq_getElem_cons,
      List.take_append_drop]
  have hpairs := hclock
  rw [hsplit] at hpairs
  obtain ⟨_, _, hlast⟩ := List.pairwise_append.mp hpairs
  -- The map before the call holds what was admitted before it and has not expired.
  obtain ⟨m, hrun, hsize, htracks⟩ := guards.run_tracks (calls.take j)
  have htake : (Machine.trace step (wrap ∅) calls).take j =
      Machine.trace step (wrap ∅) (calls.take j) := by
    have hlen : (Machine.trace step (wrap ∅) (calls.take j)).length = j := by
      rw [Machine.length_trace, List.length_take]
      exact min_eq_left (List.getElem?_eq_some_iff.mp hget).1.le
    conv_lhs => rw [hsplit, Machine.trace_append]
    exact List.take_left' hlen
  rw [htake, hdecision, hrun, guards.answer]
  apply htracks.answer_iff _ hsize
  intro answered hanswered
  obtain ⟨n, hn, _⟩ := Machine.exists_of_mem_trace step hanswered
  exact hlast answered.1 (List.mem_of_getElem? hn) i List.mem_cons_self

end ReplayGuard
