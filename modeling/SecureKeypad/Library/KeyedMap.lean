import Mathlib

/-!
# Finite Maps with Retention

Hash maps whose iteration order nobody observes are modelled by Mathlib's `AList`. This
module adds the two operations such maps have and `AList` lacks, `retain` (drop every entry
that fails a test) and `size`, with the lemmas that push `lookup` and `size` through them.

## Main results

- `lookup_retain`: `retain` filters the value a key maps to
- `size_insert_of_lookup_none`, `size_erase_le`, `size_retain_le`: how the entry count moves
- `size_eq_of_injOn`: maps whose keys correspond under a function injective on them have
  equal size
- `card_le_size`: a finite set of present keys is no larger than the map
-/

/-- A finite map from keys `K` to values `V`. -/
abbrev KeyedMap (K : Type*) (V : Type*) := AList (fun _ : K => V)

namespace KeyedMap

variable {K : Type*} {V : Type*}

/-- Related values that pass related tests stay related. -/
theorem rel_filter {α β : Type*} {r : α → β → Prop} {p : α → Bool} {q : β → Bool} {a : Option α}
    {b : Option β} (h : Option.Rel r a b) (hpq : ∀ x y, r x y → p x = q y) :
    Option.Rel r (a.filter p) (b.filter q) := by
  cases h with
  | none => exact .none
  | @some x y hxy =>
    have hsame := hpq x y hxy
    cases hq : q y with
    | false =>
      rw [Option.filter_some_neg (by simp [hsame, hq]), Option.filter_some_neg (by simp [hq])]
      exact .none
    | true =>
      rw [Option.filter_some_pos (hsame.trans hq), Option.filter_some_pos hq]
      exact .some hxy

/-! ## Retention and size -/

/-- Keep the entries that pass the test `p`. -/
def retain (p : K → V → Bool) (m : KeyedMap K V) : KeyedMap K V :=
  ⟨m.entries.filter fun x => p x.1 x.2, m.nodupKeys.sublist List.filter_sublist⟩

/-- The number of entries. -/
def size (m : KeyedMap K V) : ℕ := m.entries.length

@[simp] theorem size_empty : size (∅ : KeyedMap K V) = 0 := rfl

theorem size_eq_length_keys (m : KeyedMap K V) : size m = m.keys.length := by
  simp only [size, AList.keys, List.keys, List.length_map]

theorem size_retain_le (p : K → V → Bool) (m : KeyedMap K V) : size (retain p m) ≤ size m :=
  List.length_filter_le _ _

variable [DecidableEq K]

theorem lookup_eq_some_iff {m : KeyedMap K V} {k : K} {v : V} :
    m.lookup k = some v ↔ (⟨k, v⟩ : Sigma fun _ : K => V) ∈ m.entries :=
  AList.mem_lookup_iff

theorem lookup_retain_eq_some {p : K → V → Bool} {m : KeyedMap K V} {k : K} {v : V} :
    (retain p m).lookup k = some v ↔ m.lookup k = some v ∧ p k v = true := by
  rw [lookup_eq_some_iff, lookup_eq_some_iff]
  simp only [retain, List.mem_filter]

/-- `retain` filters the value of every key. -/
@[simp] theorem lookup_retain (p : K → V → Bool) (m : KeyedMap K V) (k : K) :
    (retain p m).lookup k = (m.lookup k).filter (p k) := by
  apply Option.ext
  intro v
  rw [lookup_retain_eq_some, Option.filter_eq_some_iff]

/-- `lookup` after an insertion. -/
theorem lookup_insert_ite (m : KeyedMap K V) (k k' : K) (v : V) :
    (m.insert k v).lookup k' = if k' = k then some v else m.lookup k' := by
  by_cases h : k' = k
  · subst h
    rw [if_pos rfl, AList.lookup_insert]
  · rw [if_neg h, AList.lookup_insert_ne h]

/-- `lookup` after a removal. -/
theorem lookup_erase_ite (m : KeyedMap K V) (k k' : K) :
    (m.erase k).lookup k' = if k' = k then none else m.lookup k' := by
  by_cases h : k' = k
  · subst h
    rw [if_pos rfl, AList.lookup_erase]
  · rw [if_neg h, AList.lookup_erase_ne h]

theorem mem_keys_iff_lookup {m : KeyedMap K V} {k : K} :
    k ∈ m.keys ↔ ∃ v, m.lookup k = some v := by
  rw [← AList.mem_keys, ← AList.lookup_isSome, Option.isSome_iff_exists]

theorem size_insert_of_lookup_none {m : KeyedMap K V} {k : K} (v : V) (h : m.lookup k = none) :
    size (m.insert k v) = size m + 1 := by
  simp only [size, AList.entries_insert_of_notMem (AList.lookup_eq_none.mp h), List.length_cons]

theorem size_erase_le (m : KeyedMap K V) (k : K) : size (m.erase k) ≤ size m := by
  rw [size_eq_length_keys, size_eq_length_keys, AList.keys_erase]
  exact List.length_erase_le

theorem erase_of_lookup_none {m : KeyedMap K V} {k : K} (h : m.lookup k = none) :
    m.erase k = m := by
  apply AList.ext
  exact List.kerase_of_notMem_keys (AList.lookup_eq_none.mp h)

/-- Overwriting a present key leaves the number of entries as it is. -/
theorem size_insert_of_lookup_some {m : KeyedMap K V} {k : K} {v₀ : V} (v : V)
    (h : m.lookup k = some v₀) : size (m.insert k v) = size m := by
  have hmem : k ∈ m.keys := mem_keys_iff_lookup.mpr ⟨v₀, h⟩
  have hpos : 0 < m.keys.length := List.length_pos_of_mem hmem
  rw [size_eq_length_keys, size_eq_length_keys, AList.keys_insert, List.length_cons,
    List.length_erase_of_mem hmem]
  omega

theorem size_insert_le (m : KeyedMap K V) (k : K) (v : V) : size (m.insert k v) ≤ size m + 1 := by
  rcases h : m.lookup k with _ | v₀
  · exact (size_insert_of_lookup_none v h).le
  · exact (size_insert_of_lookup_some v h).le.trans (Nat.le_succ _)

private theorem filter_key_of_nodupKeys (k : K) (p : V → Bool) (l : List (Sigma fun _ : K => V))
    (h : l.NodupKeys) :
    (l.filter fun entry => entry.1 = k && p entry.2) =
      ((l.dlookup k).filter p).toList.map fun v => ⟨k, v⟩ := by
  induction l with
  | nil => rfl
  | cons entry l ih =>
    obtain ⟨k', v⟩ := entry
    rw [List.nodupKeys_cons] at h
    by_cases hk : k' = k
    · subst hk
      -- No later entry has the key.
      have hrest : (l.filter fun entry => entry.1 = k' && p entry.2) = [] := by
        rw [ih h.2, List.dlookup_eq_none.mpr h.1]
        rfl
      rw [List.dlookup_cons_eq]
      cases hp : p v with
      | false => simp [hp, hrest]
      | true =>
        rw [Option.filter_some_pos hp]
        simp [hp, hrest]
    · rw [List.dlookup_cons_ne l ⟨k', v⟩ (Ne.symm hk), ← ih h.2]
      simp [hk]

/-- The entries of one key that pass a test. -/
theorem entries_filter_key (m : KeyedMap K V) (k : K) (p : V → Bool) :
    (m.entries.filter fun entry => entry.1 = k && p entry.2) =
      ((m.lookup k).filter p).toList.map fun v => ⟨k, v⟩ :=
  filter_key_of_nodupKeys k p m.entries m.nodupKeys

/-! ## Counting keys -/

theorem size_eq_card_keys (m : KeyedMap K V) : size m = m.keys.toFinset.card := by
  rw [size_eq_length_keys, List.toFinset_card_of_nodup m.keys_nodup]

/-- A finite set of keys that are all present is no larger than the map. -/
theorem card_le_size {m : KeyedMap K V} {s : Finset K} (h : ∀ k ∈ s, ∃ v, m.lookup k = some v) :
    s.card ≤ size m := by
  rw [size_eq_card_keys]
  apply Finset.card_le_card
  intro k hk
  exact List.mem_toFinset.mpr (mem_keys_iff_lookup.mpr (h k hk))

/-- A map whose keys are all present in another is no larger. -/
theorem size_le_of_lookup {V' : Type*} {m : KeyedMap K V} {m' : KeyedMap K V'}
    (h : ∀ k v, m.lookup k = some v → ∃ v', m'.lookup k = some v') : size m ≤ size m' := by
  rw [size_eq_card_keys]
  apply card_le_size
  intro k hk
  obtain ⟨v, hv⟩ := mem_keys_iff_lookup.mp (List.mem_toFinset.mp hk)
  exact h k v hv

/-- The set of keys passing a test that only present keys pass is no larger than the map. -/
theorem encard_le_size {m : KeyedMap K V} {P : K → Prop}
    (h : ∀ k, P k → ∃ v, m.lookup k = some v) : {k | P k}.encard ≤ size m := by
  have hsub : {k | P k} ⊆ (m.keys.toFinset : Set K) := by
    intro k hk
    exact List.mem_toFinset.mpr (mem_keys_iff_lookup.mpr (h k hk))
  calc {k | P k}.encard ≤ (m.keys.toFinset : Set K).encard := Set.encard_le_encard hsub
    _ = size m := by rw [Set.encard_coe_eq_coe_finsetCard, size_eq_card_keys]

/-- Two maps whose keys correspond under `f`, injective on the keys of the first, have the
    same number of entries. -/
theorem size_eq_of_injOn {K' : Type*} {V' : Type*} [DecidableEq K'] {m : KeyedMap K V}
    {m' : KeyedMap K' V'} (f : K → K') (hinj : Set.InjOn f {k | k ∈ m.keys})
    (hkeys : ∀ k', k' ∈ m'.keys ↔ ∃ k ∈ m.keys, f k = k') : size m' = size m := by
  have himage : m'.keys.toFinset = m.keys.toFinset.image f := by
    ext k'
    rw [List.mem_toFinset, hkeys, Finset.mem_image]
    simp only [List.mem_toFinset]
  rw [size_eq_card_keys, size_eq_card_keys, himage]
  apply Finset.card_image_of_injOn
  intro a ha b hb hab
  exact hinj (List.mem_toFinset.mp ha) (List.mem_toFinset.mp hb) hab

end KeyedMap
