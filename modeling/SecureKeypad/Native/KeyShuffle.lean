import SecureKeypad.Library.Shuffle
import SecureKeypad.Native.Layout

/-!
# Randomized Key Positions (`native/android`, `native/ios`)

Embeds `secureKeypadPresentationRows` of both platforms: the input keys of a grid are taken out in
reading order, shuffled in place, and put back slot by slot. The random source is what it draws
for each index of the loop; `none` is the failure of an index out of range.

## Main results

- `refillRows_spec`: putting the keys back keeps every row and every other key
- `secureKeypadPresentationRows_uniform`: both platforms make the same permutation of the input
  keys, each one for exactly one sequence of draws
-/

namespace SecureKeypad.Native

universe u

variable {Item : Type u}

/-! ## The two functions -/

/-- The inner loop of both: `inputIndex` is the next input key to be put back. -/
def refillRow (isInput : Item → Bool) (inputItems : List Item) :
    List Item → ℕ → Option (List Item × ℕ)
  | [], inputIndex => some ([], inputIndex)
  | item :: row, inputIndex =>
    if isInput item then do
      let next ← inputItems[inputIndex]?
      let (row, inputIndex) ← refillRow isInput inputItems row (inputIndex + 1)
      some (next :: row, inputIndex)
    else do
      let (row, inputIndex) ← refillRow isInput inputItems row inputIndex
      some (item :: row, inputIndex)

/-- The outer loop of both. -/
def refillRows (isInput : Item → Bool) (inputItems : List Item) :
    List (List Item) → ℕ → Option (List (List Item) × ℕ)
  | [], inputIndex => some ([], inputIndex)
  | row :: rows, inputIndex => do
    let (row, inputIndex) ← refillRow isInput inputItems row inputIndex
    let (rows, inputIndex) ← refillRows isInput inputItems rows inputIndex
    some (row :: rows, inputIndex)

namespace Android

/-- The shuffle loop of `secureKeypadPresentationRows` from `index` down to 1; `draw index` is
    `random.nextInt(index + 1)`. -/
def shuffleDownTo1 (draw : ℕ → ℕ) : ℕ → List KeySpec → Option (List KeySpec)
  | 0, inputKeys => some inputKeys
  | index + 1, inputKeys => do
    let swapIndex := draw (index + 1)
    let value ← inputKeys[index + 1]?
    let other ← inputKeys[swapIndex]?
    let inputKeys := inputKeys.set (index + 1) other
    shuffleDownTo1 draw index (inputKeys.set swapIndex value)

/-- `secureKeypadPresentationRows`. -/
def secureKeypadPresentationRows (rows : List (List KeySpec)) (randomizeInputKeys : Bool)
    (draw : ℕ → ℕ) : Option (List (List KeySpec)) :=
  if !randomizeInputKeys then some rows
  else do
    let inputKeys := rows.flatten.filter fun key => key.role = .input
    -- Without input keys the last index is -1, without a second one it is 0: no round either way.
    let inputKeys ← shuffleDownTo1 draw (inputKeys.length - 1) inputKeys
    let (grid, _) ← refillRows (fun key => key.role = .input) inputKeys rows 0
    some grid

end Android

namespace Ios

/-- `secureKeypadPresentationRows`; `draw index` is `Int.random(in: 0...index)`. -/
def secureKeypadPresentationRows (rows : List (List Item)) (randomizeInputKeys : Bool)
    (isInput : Item → Bool) (draw : ℕ → ℕ) : Option (List (List Item)) :=
  if !randomizeInputKeys then some rows
  else
    let inputItems := rows.flatten.filter isInput
    if inputItems.length > 1 then do
      let inputItems ← Shuffle.down draw (inputItems.length - 1) inputItems
      let (grid, _) ← refillRows isInput inputItems rows 0
      some grid
    else some rows

end Ios

/-! ## Putting the keys back -/

section Refill

variable (isInput : Item → Bool)

/-- What may stand in the slot of an item: an input for an input, and else the item itself. -/
def Slot (item placed : Item) : Prop :=
  isInput placed = isInput item ∧ (isInput item = false → placed = item)

theorem Slot.refl (item : Item) : Slot isInput item item := ⟨rfl, fun _ => rfl⟩

/-- A row is refilled with the next items, one for each of its inputs. -/
theorem refillRow_spec {inputItems : List Item} (hinputs : ∀ item ∈ inputItems, isInput item = true)
    (row : List Item) (inputIndex : ℕ)
    (hroom : inputIndex + (row.filter isInput).length ≤ inputItems.length) :
    ∃ placed, refillRow isInput inputItems row inputIndex =
        some (placed, inputIndex + (row.filter isInput).length) ∧
      List.Forall₂ (Slot isInput) row placed ∧
      placed.filter isInput =
        (inputItems.drop inputIndex).take (row.filter isInput).length := by
  induction row generalizing inputIndex with
  | nil => exact ⟨[], rfl, .nil, by simp⟩
  | cons item row ih =>
    cases hitem : isInput item with
    -- An input key takes the next of the shuffled items.
    | true =>
      rw [List.filter_cons_of_pos hitem, List.length_cons] at hroom ⊢
      have hlt : inputIndex < inputItems.length := by omega
      obtain ⟨placed, hrefill, hslots, hfilter⟩ := ih (inputIndex + 1) (by omega)
      have hnext := hinputs _ (List.getElem_mem hlt)
      refine ⟨inputItems[inputIndex] :: placed, ?_, ?_, ?_⟩
      · simp only [refillRow, hitem, if_true, List.getElem?_eq_getElem hlt, hrefill]
        simp only [Option.bind_eq_bind, Option.bind_some, Option.some.injEq, Prod.mk.injEq,
          true_and]
        omega
      · refine .cons ⟨by rw [hnext, hitem], ?_⟩ hslots
        intro hfalse
        rw [hitem] at hfalse
        cases hfalse
      · rw [List.filter_cons_of_pos hnext, hfilter, List.drop_eq_getElem_cons hlt,
          List.take_succ_cons]
    -- Any other key keeps its place.
    | false =>
      have hneg : ¬ isInput item = true := by rw [hitem]; exact Bool.false_ne_true
      rw [List.filter_cons_of_neg hneg] at hroom ⊢
      obtain ⟨placed, hrefill, hslots, hfilter⟩ := ih inputIndex hroom
      refine ⟨item :: placed, ?_, .cons (.refl isInput item) hslots, ?_⟩
      · simp only [refillRow, hitem, Bool.false_eq_true, if_false, hrefill]
        rfl
      · rw [List.filter_cons_of_neg hneg, hfilter]

/-- **The grid is refilled with all items in order.** -/
theorem refillRows_spec {inputItems : List Item}
    (hinputs : ∀ item ∈ inputItems, isInput item = true) (rows : List (List Item)) (inputIndex : ℕ)
    (hroom : inputIndex + (rows.flatten.filter isInput).length ≤ inputItems.length) :
    ∃ grid, refillRows isInput inputItems rows inputIndex =
        some (grid, inputIndex + (rows.flatten.filter isInput).length) ∧
      List.Forall₂ (List.Forall₂ (Slot isInput)) rows grid ∧
      grid.flatten.filter isInput =
        (inputItems.drop inputIndex).take (rows.flatten.filter isInput).length := by
  induction rows generalizing inputIndex with
  | nil => exact ⟨[], rfl, .nil, by simp⟩
  | cons row rows ih =>
    rw [List.flatten_cons, List.filter_append, List.length_append] at hroom ⊢
    obtain ⟨placed, hrow, hslots, hfilter⟩ :=
      refillRow_spec isInput hinputs row inputIndex (by omega)
    obtain ⟨grid, hrows, hgrid, hrest⟩ :=
      ih (inputIndex + (row.filter isInput).length) (by omega)
    refine ⟨placed :: grid, ?_, .cons hslots hgrid, ?_⟩
    · simp only [refillRows, hrow, hrows, Option.bind_eq_bind, Option.bind_some]
      rw [Nat.add_assoc]
    · rw [List.flatten_cons, List.filter_append, hfilter, hrest, ← List.drop_drop, ← List.take_add]

/-- The inputs decide what stands in the slots of a row. -/
theorem eq_of_slots {row placed : List Item} (h : List.Forall₂ (Slot isInput) row placed)
    (hfilter : placed.filter isInput = row.filter isInput) : placed = row := by
  induction h with
  | nil => rfl
  | @cons item next row placed hslot _ ih =>
    obtain ⟨hrole, hother⟩ := hslot
    cases hitem : isInput item with
    | true =>
      rw [List.filter_cons_of_pos hitem, List.filter_cons_of_pos (by rw [hrole, hitem]),
        List.cons.injEq] at hfilter
      rw [hfilter.1, ih hfilter.2]
    | false =>
      have hneg : ¬ isInput item = true := by rw [hitem]; exact Bool.false_ne_true
      rw [List.filter_cons_of_neg hneg, List.filter_cons_of_neg (by rw [hrole]; exact hneg)]
        at hfilter
      rw [hother hitem, ih hfilter]

theorem length_filter_of_slots {row placed : List Item}
    (h : List.Forall₂ (Slot isInput) row placed) :
    (placed.filter isInput).length = (row.filter isInput).length := by
  induction h with
  | nil => rfl
  | cons hslot _ ih =>
    simp only [List.filter_cons, hslot.1]
    split
    · rw [List.length_cons, List.length_cons, ih]
    · exact ih

theorem eq_of_grid_slots {rows grid : List (List Item)}
    (h : List.Forall₂ (List.Forall₂ (Slot isInput)) rows grid)
    (hfilter : grid.flatten.filter isInput = rows.flatten.filter isInput) : grid = rows := by
  induction h with
  | nil => rfl
  | cons hslots _ ih =>
    rw [List.flatten_cons, List.flatten_cons, List.filter_append, List.filter_append] at hfilter
    obtain ⟨hrow, hrest⟩ := List.append_inj hfilter (length_filter_of_slots isInput hslots)
    rw [eq_of_slots isInput hslots hrow, ih hrest]

end Refill

private theorem exists_getElem?_of_forall₂ {α : Type*} {R : α → α → Prop} {xs ys : List α}
    (h : List.Forall₂ R xs ys) {i : ℕ} {x : α} (hx : xs[i]? = some x) :
    ∃ y, ys[i]? = some y ∧ R x y := by
  induction h generalizing i with
  | nil => cases hx
  | cons hxy _ ih =>
    cases i with
    | zero =>
      rw [List.getElem?_cons_zero, Option.some.injEq] at hx
      exact ⟨_, rfl, hx ▸ hxy⟩
    | succ i => exact ih hx

/-- What stands in a grid at a row and a column. -/
def slotAt (rows : List (List Item)) (row column : ℕ) : Option Item :=
  rows[row]?.bind fun items => items[column]?

theorem exists_slotAt {isInput : Item → Bool} {rows grid : List (List Item)}
    (h : List.Forall₂ (List.Forall₂ (Slot isInput)) rows grid) {row column : ℕ} {item : Item}
    (hitem : slotAt rows row column = some item) :
    ∃ placed, slotAt grid row column = some placed ∧ Slot isInput item placed := by
  obtain ⟨items, hitems, hcolumn⟩ := Option.bind_eq_some_iff.mp hitem
  obtain ⟨items', hitems', hslots⟩ := exists_getElem?_of_forall₂ h hitems
  obtain ⟨placed, hplaced, hslot⟩ := exists_getElem?_of_forall₂ hslots hcolumn
  exact ⟨placed, by rw [slotAt, hitems', Option.bind_some, hplaced], hslot⟩

theorem map_length_of_slots {isInput : Item → Bool} {rows grid : List (List Item)}
    (h : List.Forall₂ (List.Forall₂ (Slot isInput)) rows grid) :
    grid.map List.length = rows.map List.length := by
  induction h with
  | nil => rfl
  | cons hslots _ ih => rw [List.map_cons, List.map_cons, hslots.length_eq, ih]

/-! ## The permutation of the input keys -/

theorem Android.shuffleDownTo1_eq (draw : ℕ → ℕ) (index : ℕ) (inputKeys : List KeySpec) :
    Android.shuffleDownTo1 draw index inputKeys = Shuffle.down draw index inputKeys := by
  induction index generalizing inputKeys with
  | zero => rfl
  | succ index ih =>
    simp only [Android.shuffleDownTo1, Shuffle.down, Shuffle.swapAt, ih]
    cases inputKeys[index + 1]? with
    | none => rfl
    | some value =>
      cases inputKeys[draw (index + 1)]? with
      | none => rfl
      | some other => rfl

def isInputKey (key : KeySpec) : Bool := key.role = .input

/-- The input keys of a grid, in reading order. -/
def inputKeys (rows : List (List KeySpec)) : List KeySpec := rows.flatten.filter isInputKey

/-- Both platforms refill the grid with the input keys in the order of the shuffle. -/
theorem presentationRows_eq (rows : List (List KeySpec))
    (draws : Shuffle.Draws (inputKeys rows).length) :
    ∃ grid, Android.secureKeypadPresentationRows rows true draws.at = some grid ∧
      Ios.secureKeypadPresentationRows rows true isInputKey draws.at = some grid ∧
      List.Forall₂ (List.Forall₂ (Slot isInputKey)) rows grid ∧
      inputKeys grid =
        List.ofFn fun k => (inputKeys rows).get (Shuffle.arrangement draws k) := by
  have hdown := Shuffle.down_eq (inputKeys rows) draws
  generalize hshuffled : (List.ofFn fun k => (inputKeys rows).get (Shuffle.arrangement draws k)) =
    shuffled at hdown
  have hlength : shuffled.length = (inputKeys rows).length := by
    rw [← hshuffled, List.length_ofFn]
  have hinputs : ∀ item ∈ shuffled, isInputKey item = true := by
    intro item hitem
    rw [← hshuffled, List.mem_ofFn] at hitem
    obtain ⟨k, rfl⟩ := hitem
    exact List.of_mem_filter (List.get_mem _ _)
  obtain ⟨grid, hrefill, hgrid, hfilter⟩ :=
    refillRows_spec isInputKey hinputs rows 0 (by rw [hlength, Nat.zero_add]; exact le_rfl)
  have hall : inputKeys grid = shuffled := by
    rw [inputKeys, hfilter, List.drop_zero]
    exact List.take_of_length_le hlength.le
  refine ⟨grid, ?_, ?_, hgrid, hall⟩
  · change (do
      let inputKeys ← Android.shuffleDownTo1 draws.at ((inputKeys rows).length - 1) (inputKeys rows)
      let (grid, _) ← refillRows isInputKey inputKeys rows 0
      some grid) = some grid
    rw [Android.shuffleDownTo1_eq, hdown]
    simp only [Option.bind_eq_bind, Option.bind_some, hrefill]
  · change (if (inputKeys rows).length > 1 then do
      let inputItems ← Shuffle.down draws.at ((inputKeys rows).length - 1) (inputKeys rows)
      let (grid, _) ← refillRows isInputKey inputItems rows 0
      some grid
      else some rows) = some grid
    split
    · rw [hdown]
      simp only [Option.bind_eq_bind, Option.bind_some, hrefill]
    · next hfew =>
      -- A single input key is put back where it was.
      have hzero : (inputKeys rows).length - 1 = 0 := by omega
      rw [hzero, Shuffle.down, Option.some.injEq] at hdown
      rw [eq_of_grid_slots isInputKey hgrid (by
        change inputKeys grid = inputKeys rows
        rw [hall, hdown])]

/-- **Key shuffling is a uniform permutation of the input keys.** For `n` input keys there is one
    map from the sequences of draws to the permutations of their positions, a bijection; and for
    every grid with `n` input keys and every sequence of draws both platforms return, with no
    index out of range, the same grid: of the shape of the original, every other key in its place,
    an input key in every slot of one, and in the `k`-th of these the one the permutation names. -/
theorem secureKeypadPresentationRows_uniform (n : ℕ) :
    ∃ arrangement : Shuffle.Draws n → Equiv.Perm (Fin n), Function.Bijective arrangement ∧
      ∀ (rows : List (List KeySpec)) (draws : Shuffle.Draws n), (inputKeys rows).length = n →
        ∃ grid, Android.secureKeypadPresentationRows rows true draws.at = some grid ∧
          Ios.secureKeypadPresentationRows rows true isInputKey draws.at = some grid ∧
          grid.map List.length = rows.map List.length ∧
          (∀ row column key, slotAt rows row column = some key → isInputKey key = false →
            slotAt grid row column = some key) ∧
          (∀ row column key, slotAt rows row column = some key → isInputKey key = true →
            ∃ placed, slotAt grid row column = some placed ∧ isInputKey placed = true) ∧
          (∀ k : Fin n, (inputKeys grid)[k.val]? =
            (inputKeys rows)[(arrangement draws k).val]?) ∧
          (inputKeys grid).Perm (inputKeys rows) := by
  refine ⟨Shuffle.arrangement, Shuffle.arrangement_bijective n, ?_⟩
  intro rows draws hn
  subst hn
  -- Both platforms place the same arrangement of the input keys.
  obtain ⟨grid, hkotlin, hswift, hgrid, hkeys⟩ := presentationRows_eq rows draws
  refine ⟨grid, hkotlin, hswift, map_length_of_slots hgrid, ?_, ?_, ?_, ?_⟩
  · intro row column key hkey hother
    obtain ⟨placed, hplaced, hslot⟩ := exists_slotAt hgrid hkey
    rw [hplaced, hslot.2 hother]
  · intro row column key hkey hinput
    obtain ⟨placed, hplaced, hslot⟩ := exists_slotAt hgrid hkey
    exact ⟨placed, hplaced, by rw [hslot.1, hinput]⟩
  · intro k
    rw [hkeys, List.getElem?_ofFn, dif_pos k.isLt, List.getElem?_eq_getElem (Fin.isLt _)]
    rfl
  · rw [hkeys]
    have hperm := Equiv.Perm.ofFn_comp_perm (Shuffle.arrangement draws) (inputKeys rows).get
    rw [List.ofFn_get] at hperm
    exact hperm

/-- Two digits around a backspace: the draw 0 for the second digit swaps them. -/
theorem secureKeypadPresentationRows_uniform_two :
    let key := fun (id : String) (role : KeyRole) => (⟨id, id, role, id, none⟩ : KeySpec)
    let one := key "digit-1" .input
    let two := key "digit-2" .input
    let back := key "backspace" .backspace
    let draws : Shuffle.Draws 2 := fun _ => 0
    ∃ grid, Android.secureKeypadPresentationRows [[one, back, two]] true draws.at = some grid ∧
      grid = [[two, back, one]] ∧ slotAt grid 0 1 = some back ∧
      (inputKeys grid).Perm [one, two] := by
  intro key one two back draws
  obtain ⟨arrangement, -, hrows⟩ := secureKeypadPresentationRows_uniform 2
  obtain ⟨grid, hkotlin, -, -, hother, -, -, hperm⟩ := hrows [[one, back, two]] draws rfl
  have hgrid : Android.secureKeypadPresentationRows [[one, back, two]] true draws.at =
      some [[two, back, one]] := by decide
  refine ⟨grid, hkotlin, ?_, hother 0 1 back rfl rfl, hperm⟩
  rw [hkotlin] at hgrid
  exact Option.some.inj hgrid

end SecureKeypad.Native
