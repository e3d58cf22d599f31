import SecureKeypad.Library.Json

/-!
# The Parts of a JSON Value

What can be found in a value: the entries of an object, each name once, and the values at any
depth. Two values are the same when the same is found at every path, whatever the order of their
fields.

## Main results

- `lookup_entries`, `nodup_entries`: the entries are what can be looked up
- `induction`: induction over what can be looked up in a value
- `same_arr`, `same_obj`: values are the same when what is in them is
- `Same.lookup`: what is found in the same values is the same
-/

namespace Json

/-! ## Entries -/

/-- The entries of an object whose names are not among those seen. -/
def entriesFrom : List String → List (String × Json) → List (String × Json)
  | _, [] => []
  | seen, (key, value) :: fields =>
    if seen.contains key then entriesFrom seen fields
    else (key, value) :: entriesFrom (key :: seen) fields

/-- `Object.entries`: the first field of each name. -/
def entries (fields : List (String × Json)) : List (String × Json) := entriesFrom [] fields

theorem lookup_cons_eq {α : Type} {fields : List (String × α)} {key name : String} {value : α} :
    List.lookup name ((key, value) :: fields) =
      if name = key then some value else fields.lookup name := by
  rw [List.lookup_cons]
  by_cases h : name = key
  · rw [if_pos h, beq_iff_eq.mpr h]
  · rw [if_neg h, beq_eq_false_iff_ne.mpr h]

theorem mem_entriesFrom {seen : List String} {fields : List (String × Json)} {key : String}
    {value : Json} :
    (key, value) ∈ entriesFrom seen fields ↔ key ∉ seen ∧ fields.lookup key = some value := by
  induction fields generalizing seen with
  | nil => simp [entriesFrom]
  | cons field fields ih =>
    obtain ⟨name, first⟩ := field
    rw [entriesFrom, lookup_cons_eq]
    split
    · next hseen =>
      have hname : name ∈ seen := List.contains_iff_mem.mp hseen
      rw [ih]
      refine and_congr_right fun hkey => ?_
      have hne : key ≠ name := by
        rintro rfl
        exact hkey hname
      rw [if_neg hne]
    · next hnew =>
      have hname : name ∉ seen := fun hmem => hnew (List.contains_iff_mem.mpr hmem)
      rw [List.mem_cons, ih, Prod.mk.injEq, List.mem_cons, not_or]
      by_cases heq : key = name
      · subst heq
        simp [hname, eq_comm]
      · simp [heq]

/-- The entries are what can be looked up. -/
theorem mem_entries {fields : List (String × Json)} {key : String} {value : Json} :
    (key, value) ∈ entries fields ↔ fields.lookup key = some value := by
  simp [entries, mem_entriesFrom]

theorem nodup_entriesFrom (seen : List String) (fields : List (String × Json)) :
    ((entriesFrom seen fields).map Prod.fst).Nodup := by
  induction fields generalizing seen with
  | nil => exact List.nodup_nil
  | cons field fields ih =>
    obtain ⟨name, first⟩ := field
    rw [entriesFrom]
    split
    · exact ih seen
    · rw [List.map_cons, List.nodup_cons]
      refine ⟨?_, ih _⟩
      rintro hmem
      obtain ⟨⟨key, value⟩, hentry, rfl⟩ := List.mem_map.mp hmem
      exact (mem_entriesFrom.mp hentry).1 List.mem_cons_self

/-- No name comes twice. -/
theorem nodup_entries (fields : List (String × Json)) : ((entries fields).map Prod.fst).Nodup :=
  nodup_entriesFrom [] fields

/-- A field with a name of its own is what is looked up under the name. -/
theorem lookup_of_mem {α : Type} {fields : List (String × α)}
    (hnodup : (fields.map Prod.fst).Nodup) {key : String} {value : α} (h : (key, value) ∈ fields) :
    fields.lookup key = some value := by
  induction fields with
  | nil => cases h
  | cons field fields ih =>
    obtain ⟨name, first⟩ := field
    rw [List.map_cons, List.nodup_cons] at hnodup
    rw [lookup_cons_eq]
    rcases List.mem_cons.mp h with heq | hmem
    · cases heq
      exact if_pos rfl
    · have hne : key ≠ name := by
        rintro rfl
        exact hnodup.1 (List.mem_map.mpr ⟨_, hmem, rfl⟩)
      rw [if_neg hne]
      exact ih hnodup.2 hmem

theorem mem_of_lookup {α : Type} {fields : List (String × α)} {key : String} {value : α}
    (h : fields.lookup key = some value) : (key, value) ∈ fields := by
  induction fields with
  | nil => cases h
  | cons field fields ih =>
    obtain ⟨name, first⟩ := field
    rw [lookup_cons_eq] at h
    split at h
    · next heq =>
      cases h
      rw [heq]
      exact List.mem_cons_self
    · exact List.mem_cons_of_mem _ (ih h)

/-- With names of their own, fields are looked up alike in any order. -/
theorem lookup_perm {fields fields' : List (String × Json)} (h : fields.Perm fields')
    (hnodup : (fields.map Prod.fst).Nodup) (key : String) :
    fields.lookup key = fields'.lookup key := by
  have hnodup' : (fields'.map Prod.fst).Nodup := (h.map Prod.fst).nodup_iff.mp hnodup
  ext value
  exact ⟨fun hvalue => lookup_of_mem hnodup' (h.mem_iff.mp (mem_of_lookup hvalue)),
    fun hvalue => lookup_of_mem hnodup (h.mem_iff.mpr (mem_of_lookup hvalue))⟩

theorem lookup_entries (fields : List (String × Json)) (key : String) :
    (entries fields).lookup key = fields.lookup key := by
  ext value
  rw [← @mem_entries fields]
  exact ⟨mem_of_lookup, lookup_of_mem (nodup_entries fields)⟩

/-- What is looked up in fields whose values went through a function. -/
theorem lookup_map (f : Json → Json) (fields : List (String × Json)) (key : String) :
    (fields.map fun field => (field.1, f field.2)).lookup key = (fields.lookup key).map f := by
  induction fields with
  | nil => rfl
  | cons field fields ih =>
    obtain ⟨name, first⟩ := field
    rw [List.map_cons, lookup_cons_eq, lookup_cons_eq, ih]
    split <;> rfl

/-! ## Induction -/

theorem sizeOf_lt_of_lookup {fields : List (String × Json)} {key : String} {value : Json}
    (h : fields.lookup key = some value) : sizeOf value < sizeOf fields := by
  have hfield := List.sizeOf_lt_of_mem (mem_of_lookup h)
  simp only [Prod.mk.sizeOf_spec] at hfield
  omega

/-- Induction over what can be looked up. -/
@[elab_as_elim]
theorem induction {motive : Json → Prop} (null : motive .null) (bool : ∀ b, motive (.bool b))
    (number : ∀ n, motive (.number n)) (str : ∀ text, motive (.str text))
    (arr : ∀ items, (∀ item ∈ items, motive item) → motive (.arr items))
    (obj : ∀ fields, (∀ key value, fields.lookup key = some value → motive value) →
      motive (.obj fields)) : ∀ value, motive value
  | .null => null
  | .bool b => bool b
  | .number n => number n
  | .str text => str text
  | .arr items => arr items fun item hitem =>
    have := List.sizeOf_lt_of_mem hitem
    induction null bool number str arr obj item
  | .obj fields => obj fields fun key value hvalue =>
    have := sizeOf_lt_of_lookup hvalue
    induction null bool number str arr obj value

/-! ## Values at any depth -/

/-- A value and a part of it, at any depth. -/
inductive Within : Json → Json → Prop
  | refl (value : Json) : Within value value
  | field {fields : List (String × Json)} {key : String} {value part : Json} :
      fields.lookup key = some value → Within value part → Within (.obj fields) part
  | item {items : List Json} {value part : Json} :
      value ∈ items → Within value part → Within (.arr items) part

/-! ## Levels -/

mutual

/-- The levels of a value, each the value of a field or an item of the one above. -/
def levels : Json → ℕ
  | .arr items => itemLevels items + 1
  | .obj fields => fieldLevels [] fields + 1
  | _ => 1

/-- The levels of the items. -/
def itemLevels : List Json → ℕ
  | [] => 0
  | item :: items => max (levels item) (itemLevels items)

/-- The levels of the fields whose names are not among those seen. -/
def fieldLevels : List String → List (String × Json) → ℕ
  | _, [] => 0
  | seen, (key, value) :: fields =>
    if seen.contains key then fieldLevels seen fields
    else max (levels value) (fieldLevels (key :: seen) fields)

end

mutual

/-- The levels of arrays in a value, which are gone down when it is made a string. -/
def arrayLevels : Json → ℕ
  | .arr items => itemArrayLevels items + 1
  | _ => 0

/-- The levels of arrays in the items. -/
def itemArrayLevels : List Json → ℕ
  | [] => 0
  | item :: items => max (arrayLevels item) (itemArrayLevels items)

end

/-! ## Sameness -/

/-- A step into a value. -/
inductive Step where
  | key (name : String)
  | index (i : ℕ)

/-- What stands at a place, without what is in it. A number is known by its text. -/
inductive Shape where
  | null
  | bool (value : Bool)
  | number (text : String)
  | str (value : String)
  | arr (length : ℕ)
  | obj

def shape : Json → Shape
  | .null => .null
  | .bool value => .bool value
  | .number value => .number value.text
  | .str value => .str value
  | .arr items => .arr items.length
  | .obj _ => .obj

/-- One step into a value. -/
def step? : Step → Json → Option Json
  | .key name, .obj fields => fields.lookup name
  | .index i, .arr items => items[i]?
  | _, _ => none

/-- What a path leads to. -/
def at? : List Step → Json → Option Json
  | [], value => some value
  | step :: path, value => (step? step value).bind (at? path)

/-- **The same value**, up to the order of fields: every path leads to the same in both. -/
def Same (a b : Json) : Prop := ∀ path, (at? path a).map shape = (at? path b).map shape

theorem Same.refl (a : Json) : Same a a := fun _ => rfl

theorem Same.symm {a b : Json} (h : Same a b) : Same b a := fun path => (h path).symm

theorem Same.trans {a b c : Json} (hab : Same a b) (hbc : Same b c) : Same a c :=
  fun path => (hab path).trans (hbc path)

/-- Values are the same when they have the same shape and every step into them leads to the same,
    or leads nowhere in both. -/
theorem same_iff {a b : Json} :
    Same a b ↔ shape a = shape b ∧ ∀ step, Option.Rel Same (step? step a) (step? step b) := by
  constructor
  · intro h
    refine ⟨Option.some.inj (h []), fun step => ?_⟩
    have hsteps : ∀ path, ((step? step a).bind (at? path)).map shape =
        ((step? step b).bind (at? path)).map shape := fun path => h (step :: path)
    cases ha : step? step a with
    | none =>
      cases hb : step? step b with
      | none => exact .none
      | some b' =>
        have hnil := hsteps []
        rw [ha, hb] at hnil
        cases hnil
    | some a' =>
      cases hb : step? step b with
      | none =>
        have hnil := hsteps []
        rw [ha, hb] at hnil
        cases hnil
      | some b' =>
        refine .some fun path => ?_
        have hpath := hsteps path
        rwa [ha, hb] at hpath
  -- A path is empty, or a step and the rest of it.
  · intro ⟨hshape, hsteps⟩ path
    cases path with
    | nil => exact congrArg some hshape
    | cons step path =>
      rw [at?, at?]
      have hstep := hsteps step
      generalize step? step a = a' at hstep
      generalize step? step b = b' at hstep
      cases hstep with
      | none => rfl
      | some h => exact h path

/-- What is looked up in lists of the same entries is the same. -/
theorem entry_lookup {l l' : List (String × Json)}
    (h : List.Forall₂ (fun a b => a.1 = b.1 ∧ Same a.2 b.2) l l') (key : String) :
    Option.Rel Same (l.lookup key) (l'.lookup key) := by
  induction h with
  | nil => exact .none
  | @cons a b _ _ hfirst _ ih =>
    obtain ⟨name, value⟩ := a
    obtain ⟨name', value'⟩ := b
    obtain ⟨rfl, hvalue⟩ := hfirst
    rw [lookup_cons_eq, lookup_cons_eq]
    split
    · exact .some hvalue
    · exact ih

/-- Arrays are the same when their items are. -/
theorem same_arr {items items' : List Json} (h : List.Forall₂ Same items items') :
    Same (.arr items) (.arr items') := by
  refine same_iff.mpr ⟨congrArg Shape.arr h.length_eq, fun step => ?_⟩
  cases step with
  | key name => exact .none
  | index i =>
    show Option.Rel Same items[i]? items'[i]?
    induction h generalizing i with
    | nil => exact .none
    | cons hfirst _ ih =>
      cases i with
      | zero => exact .some hfirst
      | succ i => exact ih i

/-- Objects are the same when what is looked up in them is. -/
theorem same_obj {fields fields' : List (String × Json)}
    (h : ∀ key, Option.Rel Same (fields.lookup key) (fields'.lookup key)) :
    Same (.obj fields) (.obj fields') := by
  refine same_iff.mpr ⟨rfl, fun step => ?_⟩
  cases step with
  | key name => exact h name
  | index i => exact .none

/-- What is looked up in the same objects is the same. -/
theorem Same.lookup {fields fields' : List (String × Json)} (h : Same (.obj fields) (.obj fields'))
    (key : String) : Option.Rel Same (fields.lookup key) (fields'.lookup key) :=
  (same_iff.mp h).2 (.key key)

/-- The same as a text is the text. -/
theorem Same.eq_str {a : Json} {text : String} (h : Same a (.str text)) : a = .str text := by
  have hshape := (same_iff.mp h).1
  cases a with
  | str value =>
    cases hshape
    rfl
  | _ => cases hshape

theorem Same.eq_obj {a : Json} {fields : List (String × Json)} (h : Same a (.obj fields)) :
    ∃ fields', a = .obj fields' := by
  have hshape := (same_iff.mp h).1
  cases a with
  | obj fields' => exact ⟨fields', rfl⟩
  | _ => cases hshape

end Json
