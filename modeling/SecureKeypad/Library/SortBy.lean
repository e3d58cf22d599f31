import Mathlib

/-!
# Sorting by Keys

A comparison that the language leaves to the locale orders the keys that occur, and it need not
order others. Where it does, and the keys are different, a list is sorted to the same whatever
order it comes in.

## Main results

- `pairwise_sortBy`: what is sorted is in order
- `sortBy_eq_of_perm`: the order before does not matter
-/

variable {α κ : Type}

/-- The comparison is a strict total order on the keys. -/
structure StrictTotalOn (compare : κ → κ → Ordering) (keys : List κ) : Prop where
  eq_iff : ∀ a ∈ keys, ∀ b ∈ keys, compare a b = .eq ↔ a = b
  swap : ∀ a ∈ keys, ∀ b ∈ keys, compare b a = (compare a b).swap
  trans : ∀ a ∈ keys, ∀ b ∈ keys, ∀ c ∈ keys,
    compare a b = .lt → compare b c = .lt → compare a c = .lt

/-- The first does not come after the second. -/
def NotAfter (compare : κ → κ → Ordering) (key : α → κ) (a b : α) : Prop :=
  compare (key a) (key b) ≠ .gt

instance (compare : κ → κ → Ordering) (key : α → κ) : DecidableRel (NotAfter compare key) :=
  fun _ _ => inferInstanceAs (Decidable (_ ≠ _))

/-- `sort((left, right) => compare(key(left), key(right)))`, which is stable. -/
def sortBy (compare : κ → κ → Ordering) (key : α → κ) (items : List α) : List α :=
  items.insertionSort (NotAfter compare key)

theorem perm_sortBy (compare : κ → κ → Ordering) (key : α → κ) (items : List α) :
    (sortBy compare key items).Perm items :=
  List.perm_insertionSort _ items

@[simp] theorem mem_sortBy {compare : κ → κ → Ordering} {key : α → κ} {items : List α} {item : α} :
    item ∈ sortBy compare key items ↔ item ∈ items :=
  (perm_sortBy compare key items).mem_iff

namespace StrictTotalOn

variable {compare : κ → κ → Ordering} {keys : List κ} (h : StrictTotalOn compare keys)

include h

theorem mono {keys' : List κ} (hsub : ∀ a ∈ keys', a ∈ keys) : StrictTotalOn compare keys' where
  eq_iff a ha b hb := h.eq_iff a (hsub a ha) b (hsub b hb)
  swap a ha b hb := h.swap a (hsub a ha) b (hsub b hb)
  trans a ha b hb c hc := h.trans a (hsub a ha) b (hsub b hb) c (hsub c hc)

theorem total {a b : κ} (ha : a ∈ keys) (hb : b ∈ keys) :
    compare a b ≠ .gt ∨ compare b a ≠ .gt := by
  rw [h.swap a ha b hb]
  cases compare a b <;> simp

theorem antisymm {a b : κ} (ha : a ∈ keys) (hb : b ∈ keys) (hab : compare a b ≠ .gt)
    (hba : compare b a ≠ .gt) : a = b := by
  rw [h.swap a ha b hb] at hba
  apply (h.eq_iff a ha b hb).mp
  revert hab hba
  cases compare a b <;> simp

theorem trans' {a b c : κ} (ha : a ∈ keys) (hb : b ∈ keys) (hc : c ∈ keys)
    (hab : compare a b ≠ .gt) (hbc : compare b c ≠ .gt) : compare a c ≠ .gt := by
  by_cases hfirst : a = b
  · rwa [hfirst]
  by_cases hsecond : b = c
  · rwa [← hsecond]
  have hless : ∀ {x y}, x ∈ keys → y ∈ keys → compare x y ≠ .gt → x ≠ y → compare x y = .lt := by
    intro x y hx hy hle hne
    have hneq : compare x y ≠ .eq := fun heq => hne ((h.eq_iff x hx y hy).mp heq)
    revert hle hneq
    cases compare x y <;> simp
  rw [h.trans a ha b hb c hc (hless ha hb hab hfirst) (hless hb hc hbc hsecond)]
  exact Ordering.noConfusion

end StrictTotalOn

section Sorted

variable {compare : κ → κ → Ordering} {key : α → κ} {items : List α}
  (h : StrictTotalOn compare (items.map key))

include h

/-- **What is sorted is in order.** -/
theorem pairwise_sortBy : (sortBy compare key items).Pairwise (NotAfter compare key) := by
  -- among the items themselves the comparison is total and transitive without exception
  let r : {item // item ∈ items} → {item // item ∈ items} → Prop :=
    fun a b => NotAfter compare key a.1 b.1
  have hkey : ∀ a : {item // item ∈ items}, key a.1 ∈ items.map key :=
    fun a => List.mem_map_of_mem a.2
  have : DecidableRel r := fun a b => inferInstanceAs (Decidable (NotAfter compare key a.1 b.1))
  have : Std.Total r := ⟨fun a b => h.total (hkey a) (hkey b)⟩
  have : IsTrans _ r := ⟨fun a b c => h.trans' (hkey a) (hkey b) (hkey c)⟩
  have hsorted := List.pairwise_insertionSort r items.attach
  have hmap := List.map_insertionSort (r := r) (s := NotAfter compare key) Subtype.val items.attach
    fun _ _ _ _ => Iff.rfl
  rw [List.attach_map_subtype_val] at hmap
  rw [sortBy, ← hmap]
  exact hsorted.map _ fun _ _ hab => hab

/-- **The order before does not matter**, where the keys are different. -/
theorem sortBy_eq_of_perm {items' : List α} (hperm : items.Perm items')
    (hnodup : (items.map key).Nodup) : sortBy compare key items = sortBy compare key items' := by
  have h' : StrictTotalOn compare (items'.map key) :=
    h.mono fun _ ha => (hperm.map key).mem_iff.mpr ha
  have hsorted : (sortBy compare key items).Perm (sortBy compare key items') :=
    (perm_sortBy _ _ _).trans (hperm.trans (perm_sortBy _ _ _).symm)
  refine List.Perm.eq_of_pairwise ?_ (pairwise_sortBy h) (pairwise_sortBy h') hsorted
  intro a b ha hb hab hba
  rw [mem_sortBy] at ha hb
  have hb' := hperm.mem_iff.mpr hb
  exact List.inj_on_of_nodup_map hnodup ha hb'
    (h.antisymm (List.mem_map_of_mem ha) (List.mem_map_of_mem hb') hab hba)

end Sorted
