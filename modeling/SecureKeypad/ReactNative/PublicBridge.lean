import SecureKeypad.Contracts.Validation
import SecureKeypad.Library.Budget
import SecureKeypad.Library.JsonParts

/-!
# Copying Public Configuration off the Bridge (React Native, `SecureKeypadViewManager.kt`)

Embeds the traversal of `toPublicMap` and `toPublicList`, with its limits on depth, visits, keys,
items and texts and its sets of allowed keys, and compares them with those of the contract's
validators.

## Main results

- `Passes.obj`, `Passes.arr`: what a map or a list costs from what is in it
- `arraysAround_le_of_getPublicValue`: what has got through stands in few arrays
- `bridge_accepts_contract`: which of what is accepted by contract gets through, unchanged
-/

namespace SecureKeypad.ReactNative

open Contracts Budget

/-! ## The traversal -/

def maxPublicBridgeDepth : ℕ := 8
def maxPublicBridgeNodes : ℕ := 4096
def maxPublicBridgeKeys : ℕ := 64
def maxPublicBridgeItems : ℕ := 512
def maxPublicBridgeStringLength : ℕ := 256

def layoutKeys : List String :=
  ["schemaVersion", "id", "locale", "direction", "randomizeInputKeys", "rows", "slots"]

def themeKeys : List String :=
  ["schemaVersion", "colors", "metrics", "typography", "animation", "feedback"]

def nestedPublicKeys : List String :=
  ["schemaVersion", "id", "locale", "direction", "randomizeInputKeys", "rows", "slots", "header",
    "display", "footer", "error", "label", "icon", "role", "accessibilityLabel", "testId",
    "colors", "background", "keyBackground", "keyForeground", "keyPressedBackground",
    "keyDisabledBackground", "metrics", "keyHeight", "keyGap", "keyRadius", "contentPadding",
    "typography", "keyFontSize", "keyFontWeight", "animation", "pressDurationMs",
    "maskRevealDurationMs", "feedback", "haptic", "sound", "token", "keyId"]

/-- Kotlin's `String.length`: UTF-16 code units. -/
def utf16Length (text : String) : ℕ :=
  (text.toList.map fun c => if c.toNat ≤ 0xffff then 1 else 2).sum

/-- `PublicBridgeBudget.visit`. -/
def budgetVisit : Budget Unit := visit maxPublicBridgeNodes

/-- `requirePublicString`. -/
def requirePublicString (value : String) : Budget Unit := do
  budgetVisit
  require (utf16Length value ≤ maxPublicBridgeStringLength)

mutual

/-- `getPublicValue`, which is also what is done with each item of a list. -/
def getPublicValue (depth : ℕ) : Json → Budget Json
  | .obj fields => do
    -- `toPublicMap` of the nested keys
    require (depth ≤ maxPublicBridgeDepth)
    budgetVisit
    return .obj (← publicEntries nestedPublicKeys depth 0 [] fields)
  | .arr items => do
    -- `toPublicList`
    require (depth ≤ maxPublicBridgeDepth)
    require (items.length ≤ maxPublicBridgeItems)
    budgetVisit
    return .arr (← publicItems depth items)
  | .str value => do
    requirePublicString value
    return .str value
  | .number value => do
    budgetVisit
    return .number value
  | .bool value => do
    budgetVisit
    return .bool value
  | .null => do
    budgetVisit
    return .null

/-- The loop of `toPublicMap` over the keys, each once. -/
def publicEntries (allowedKeys : List String) (depth keyCount : ℕ) :
    List String → List (String × Json) → Budget (List (String × Json))
  | _, [] => return []
  | seen, (key, value) :: fields =>
    if seen.contains key then publicEntries allowedKeys depth keyCount seen fields
    else do
      require (keyCount + 1 ≤ maxPublicBridgeKeys)
      require (key ∈ allowedKeys)
      let copy ← getPublicValue (depth + 1) value
      let rest ← publicEntries allowedKeys depth (keyCount + 1) (key :: seen) fields
      return (key, copy) :: rest

/-- The loop of `toPublicList` over the items. -/
def publicItems (depth : ℕ) : List Json → Budget (List Json)
  | [] => return []
  | item :: items => do
    let copy ← getPublicValue (depth + 1) item
    let rest ← publicItems depth items
    return copy :: rest

end

/-- `toPublicMap`. -/
def toPublicMap (allowedKeys : List String) (depth : ℕ) (fields : List (String × Json)) :
    Budget (List (String × Json)) := do
  require (depth ≤ maxPublicBridgeDepth)
  budgetVisit
  publicEntries allowedKeys depth 0 [] fields

/-- A map inside is copied by `toPublicMap` with the nested keys. -/
theorem getPublicValue_obj (depth : ℕ) (fields : List (String × Json)) :
    getPublicValue depth (.obj fields) = Json.obj <$> toPublicMap nestedPublicKeys depth fields := by
  rw [getPublicValue, toPublicMap, map_eq_pure_bind]
  simp only [bind_assoc]

/-! ## What a value costs -/

/-- Where there is room for so many visits, the value gets through as it is. -/
def Passes (depth : ℕ) (value : Json) (cost : ℕ) : Prop :=
  Affords maxPublicBridgeNodes (getPublicValue depth value) cost (Json.Same value)

/-- The copy of a map's entries has the names of the entries and the same values. -/
def SameEntries (entries copies : List (String × Json)) : Prop :=
  List.Forall₂ (fun a b => a.1 = b.1 ∧ Json.Same a.2 b.2) entries copies

theorem publicEntries_affords {allowedKeys : List String} {depth : ℕ} {cost : String → ℕ}
    (fields : List (String × Json)) : ∀ (keyCount : ℕ) (seen : List String),
    keyCount + (Json.entriesFrom seen fields).length ≤ maxPublicBridgeKeys →
    (∀ entry ∈ Json.entriesFrom seen fields,
      entry.1 ∈ allowedKeys ∧ Passes (depth + 1) entry.2 (cost entry.1)) →
    Affords maxPublicBridgeNodes (publicEntries allowedKeys depth keyCount seen fields)
      ((Json.entriesFrom seen fields).map fun entry => cost entry.1).sum
      (SameEntries (Json.entriesFrom seen fields)) := by
  induction fields with
  | nil =>
    intro keyCount seen _ _
    rw [publicEntries, Json.entriesFrom]
    exact .pure .nil
  | cons field fields ih =>
    intro keyCount seen hcount hentries
    obtain ⟨key, value⟩ := field
    rw [publicEntries]
    rw [Json.entriesFrom] at hcount hentries ⊢
    split
    -- A repeated key stands for its first field, which has been copied.
    · next hseen =>
      rw [if_pos hseen] at hcount hentries
      exact ih keyCount seen hcount hentries
    · next hnew =>
      rw [if_neg hnew] at hcount hentries
      rw [List.length_cons] at hcount
      obtain ⟨⟨hallowed, hvalue⟩, hrest⟩ := List.forall_mem_cons.mp hentries
      rw [List.map_cons, List.sum_cons]
      -- The key is counted and allowed, the value is copied, and the rest follows.
      refine ((affords_require (by omega)).bind fun _ _ =>
        (affords_require hallowed).bind fun _ _ => hvalue.bind fun copy hcopy =>
          (ih (keyCount + 1) (key :: seen) (by omega) hrest).bind fun rest hsame =>
            .pure (List.Forall₂.cons ⟨rfl, hcopy⟩ hsame)).mono ?_ fun _ h => h
      omega

/-- **A map gets through** when its keys are allowed and its values get through, and costs no more
    than itself and what all its possible keys cost. -/
theorem toPublicMap_affords {allowedKeys names : List String} {depth : ℕ} {cost : String → ℕ}
    {fields : List (String × Json)} (hdepth : depth ≤ maxPublicBridgeDepth)
    (hnames : Json.onlyKeys fields names = true) (hlength : names.length ≤ maxPublicBridgeKeys)
    (hallowed : names ⊆ allowedKeys)
    (hvalues : ∀ key value, fields.lookup key = some value →
      Passes (depth + 1) value (cost key)) :
    Affords maxPublicBridgeNodes (toPublicMap allowedKeys depth fields)
      (1 + (names.map cost).sum) fun copy => Json.Same (.obj fields) (.obj copy) := by
  -- the entries are among the names, each once
  have hsub : (Json.entries fields).map Prod.fst ⊆ names := by
    intro key hkey
    obtain ⟨⟨_, value⟩, hentry, rfl⟩ := List.mem_map.mp hkey
    exact Json.onlyKeys_iff.mp hnames _ value (Json.mem_entries.mp hentry)
  have hnodup := Json.nodup_entries fields
  have hcount : 0 + (Json.entries fields).length ≤ maxPublicBridgeKeys := by
    have hle := (List.subperm_of_subset hnodup hsub).length_le
    rw [List.length_map] at hle
    omega
  have hcost : ((Json.entries fields).map fun entry => cost entry.1).sum ≤
      (names.map cost).sum := by
    have hle := @sum_map_le _ _ cost _ _ hnodup hsub
    rwa [List.map_map] at hle
  have hpasses : ∀ entry ∈ Json.entries fields,
      entry.1 ∈ allowedKeys ∧ Passes (depth + 1) entry.2 (cost entry.1) := fun entry hentry =>
    ⟨hallowed (hsub (List.mem_map_of_mem hentry)),
      hvalues entry.1 entry.2 (Json.mem_entries.mp hentry)⟩
  have hentries := publicEntries_affords fields 0 [] hcount hpasses
  refine ((affords_require hdepth).bind fun _ _ => affords_visit.bind fun _ _ => hentries).mono
    ?_ fun copy hsame => ?_
  · rw [Json.entries] at hcost
    omega
  refine Json.same_obj fun key => ?_
  rw [← Json.lookup_entries fields]
  exact Json.entry_lookup hsame key

theorem Passes.mono {depth cost cost' : ℕ} {value : Json} (h : Passes depth value cost)
    (hcost : cost ≤ cost') : Passes depth value cost' := Affords.mono h hcost fun _ hsame => hsame

theorem Passes.obj {names : List String} {depth : ℕ} {cost : String → ℕ}
    {fields : List (String × Json)} (hdepth : depth ≤ maxPublicBridgeDepth)
    (hnames : Json.onlyKeys fields names = true) (hlength : names.length ≤ maxPublicBridgeKeys)
    (hallowed : names ⊆ nestedPublicKeys)
    (hvalues : ∀ key value, fields.lookup key = some value →
      Passes (depth + 1) value (cost key)) :
    Passes depth (.obj fields) (1 + (names.map cost).sum) := by
  rw [Passes, getPublicValue_obj, map_eq_pure_bind]
  exact (toPublicMap_affords hdepth hnames hlength hallowed hvalues).bind fun _ hsame => .pure hsame

theorem publicItems_affords {depth cost : ℕ} {items : List Json}
    (h : ∀ item ∈ items, Passes (depth + 1) item cost) :
    Affords maxPublicBridgeNodes (publicItems depth items) (items.length * cost)
      (List.Forall₂ Json.Same items) := by
  induction items with
  | nil =>
    rw [publicItems]
    exact Affords.mono (.pure .nil) (Nat.zero_le _) fun _ hsame => hsame
  | cons item items ih =>
    obtain ⟨hitem, hitems⟩ := List.forall_mem_cons.mp h
    rw [publicItems]
    refine (hitem.bind fun copy hcopy => (ih hitems).bind fun rest hsame =>
      .pure (List.Forall₂.cons hcopy hsame)).mono ?_ fun _ h => h
    rw [List.length_cons, Nat.succ_mul]
    omega

/-- **A list gets through** when its items do. -/
theorem Passes.arr {depth cost : ℕ} {items : List Json} (hdepth : depth ≤ maxPublicBridgeDepth)
    (hlength : items.length ≤ maxPublicBridgeItems)
    (h : ∀ item ∈ items, Passes (depth + 1) item cost) :
    Passes depth (.arr items) (1 + items.length * cost) := by
  rw [Passes, getPublicValue]
  refine ((affords_require hdepth).bind fun _ _ => (affords_require hlength).bind fun _ _ =>
    affords_visit.bind fun _ _ => (publicItems_affords h).bind fun copy hsame =>
      .pure (Json.same_arr hsame)).mono ?_ fun _ h => h
  omega

theorem Passes.str (depth : ℕ) {text : String} (h : utf16Length text ≤ maxPublicBridgeStringLength) :
    Passes depth (.str text) 1 := by
  rw [Passes, getPublicValue]
  exact (affords_visit.bind fun _ _ => affords_require h).bind fun _ _ => .pure (.refl _)

theorem Passes.number (depth : ℕ) (value : JsNumber) : Passes depth (.number value) 1 := by
  rw [Passes, getPublicValue]
  exact affords_visit.bind fun _ _ => .pure (.refl _)

theorem Passes.bool (depth : ℕ) (value : Bool) : Passes depth (.bool value) 1 := by
  rw [Passes, getPublicValue]
  exact affords_visit.bind fun _ _ => .pure (.refl _)

/-- Any number gets through. -/
theorem Passes.of_asNumber (depth : ℕ) {value : Json} {x : ℚ} (h : value.asNumber? = some x) :
    Passes depth value 1 := by
  cases value with
  | number n => exact .number depth n
  | _ => cases h

/-! ## Texts of the contract in UTF-16 -/

theorem utf16Length_le_bytes (text : String) : utf16Length text ≤ text.utf8ByteSize := by
  rw [← utf8ByteLength_eq, utf16Length, utf8ByteLength]
  apply List.sum_le_sum
  intro c _
  simp only
  split_ifs <;> omega

theorem utf16Length_le_twice (text : String) : utf16Length text ≤ 2 * text.toList.length := by
  rw [utf16Length, Nat.mul_comm, ← smul_eq_mul]
  apply List.sum_le_card_nsmul _ _ _ |>.trans_eq (by rw [List.length_map])
  intro units hunits
  obtain ⟨c, -, rfl⟩ := List.mem_map.mp hunits
  split_ifs <;> omega

/-- A text of a pattern for texts of at most 128 characters gets through. -/
theorem Passes.of_match (depth : ℕ) {pattern : Regex} {text : String} {bound : ℕ}
    (h : pattern.wholeMatch text = true) (hlongest : pattern.longest = some bound)
    (hbound : bound ≤ 128) : Passes depth (.str text) 1 := by
  apply Passes.str
  have hlength := Regex.length_le_longest (Regex.wholeMatch_iff.mp h) hlongest
  have hunits := utf16Length_le_twice text
  rw [maxPublicBridgeStringLength]
  omega

theorem Passes.of_keyId (depth : ℕ) {text : String} (h : keyIdPattern.wholeMatch text = true) :
    Passes depth (.str text) 1 := .of_match depth h rfl (by decide : 64 ≤ 128)

theorem Passes.of_bytes (depth : ℕ) {text : String} {bytes : ℕ} (h : text.utf8ByteSize ≤ bytes)
    (hbytes : bytes ≤ maxPublicBridgeStringLength) : Passes depth (.str text) 1 :=
  .str depth ((utf16Length_le_bytes text).trans (h.trans hbytes))

/-- A word of a list of short ones gets through. -/
theorem Passes.of_word (depth : ℕ) {text : String} {words : List String} (h : text ∈ words)
    (hwords : words.all (fun word => utf16Length word ≤ maxPublicBridgeStringLength) = true) :
    Passes depth (.str text) 1 :=
  .str depth (of_decide_eq_true (List.all_eq_true.mp hwords text h))

/-! ## Layouts -/

/-- A key is a map and at most six texts. -/
theorem Passes.key {fields : List (String × Json)} {id role : String}
    (h : AcceptedKey fields id role) : Passes 3 (.obj fields) 7 := by
  refine @Passes.obj ["id", "label", "icon", "role", "accessibilityLabel", "testId"] 3
    (fun _ => 1) fields (by decide) h.onlyKeys (by decide) (by decide) fun key value hvalue => ?_
  have hkey := Json.onlyKeys_iff.mp h.onlyKeys key value hvalue
  simp only [List.mem_cons, List.not_mem_nil, or_false] at hkey
  rcases hkey with rfl | rfl | rfl | rfl | rfl | rfl
  · cases h.id_eq.symm.trans hvalue
    exact .of_keyId 4 h.id_matches
  · obtain ⟨text, rfl, hbytes⟩ := h.label value hvalue
    exact .of_bytes 4 hbytes (by decide)
  · obtain ⟨text, rfl, hmatch⟩ := h.icon value hvalue
    exact .of_keyId 4 hmatch
  · cases h.role_eq.symm.trans hvalue
    exact .of_word 4 h.role_mem (by decide)
  · obtain ⟨text, rfl, hbytes⟩ := h.accessibilityLabel value hvalue
    exact .of_bytes 4 hbytes (by decide)
  · obtain ⟨text, rfl, hmatch⟩ := h.testId value hvalue
    exact .of_keyId 4 hmatch

/-- The rows are at most 16 lists of at most 32 keys. -/
theorem Passes.rows {fields : List (String × Json)} {rows : List (List Json)}
    (h : ValidLayout fields rows) : Passes 1 (.arr (rows.map .arr)) 3601 := by
  have hrow : ∀ item ∈ rows.map Json.arr, Passes 2 item 225 := by
    intro item hitem
    obtain ⟨row, hrow, rfl⟩ := List.mem_map.mp hitem
    have hlength := (h.row_length row hrow).2
    have hkeys : ∀ key ∈ row, Passes 3 key 7 := by
      intro key hkey
      obtain ⟨keyFields, id, role, rfl, hshape⟩ := h.keys key (List.mem_flatten_of_mem hrow hkey)
      exact .key hshape
    refine (Passes.arr (by decide) ?_ hkeys).mono (by omega)
    exact hlength.trans (by decide)
  have hlength := h.rows_length.2
  refine (Passes.arr (by decide) ?_ hrow).mono ?_
  · rw [List.length_map]
    exact hlength.trans (by decide)
  · rw [List.length_map]
    omega

/-- The slots are a map of at most four booleans. -/
theorem Passes.slots {slots : List (String × Json)}
    (honly : Json.onlyKeys slots ["header", "display", "footer", "error"] = true)
    (hvalues : ∀ value ∈ Json.values slots, ∃ b, value = .bool b) : Passes 1 (.obj slots) 5 := by
  refine @Passes.obj ["header", "display", "footer", "error"] 1 (fun _ => 1) slots (by decide)
    honly (by decide) (by decide) fun key value hvalue => ?_
  obtain ⟨b, rfl⟩ := hvalues value (Json.mem_values.mpr ⟨key, hvalue⟩)
  exact .bool 2 b

/-- `toPublicMap` succeeds on a budget of its own, with what it was given. -/
def Bridged (allowedKeys : List String) (fields : List (String × Json)) : Prop :=
  ∃ copy nodes, toPublicMap allowedKeys 0 fields 0 = some (copy, nodes) ∧
    Json.Same (.obj fields) (.obj copy)

theorem Bridged.of_affords {allowedKeys : List String} {fields : List (String × Json)} {cost : ℕ}
    (h : Affords maxPublicBridgeNodes (toPublicMap allowedKeys 0 fields) cost
      fun copy => Json.Same (.obj fields) (.obj copy)) (hcost : cost ≤ maxPublicBridgeNodes) :
    Bridged allowedKeys fields := by
  obtain ⟨copy, nodes, hrun, -, hsame⟩ := h 0 (by rwa [Nat.zero_add])
  exact ⟨copy, nodes, hrun, hsame⟩

/-- What each field of a layout costs at most. -/
def layoutCost (key : String) : ℕ := if key = "rows" then 3601 else if key = "slots" then 5 else 1

theorem bridged_layout {fields : List (String × Json)} {rows : List (List Json)}
    (h : ValidLayout fields rows) : Bridged layoutKeys fields := by
  refine .of_affords (@toPublicMap_affords layoutKeys layoutKeys 0 layoutCost fields (by decide)
    h.onlyKeys (by decide) (List.Subset.refl _) fun key value hvalue => ?_) (by decide)
  have hkey := Json.onlyKeys_iff.mp h.onlyKeys key value hvalue
  simp only [List.mem_cons, List.not_mem_nil, or_false] at hkey
  rcases hkey with rfl | rfl | rfl | rfl | rfl | rfl | rfl
  · obtain ⟨v, hv, hone⟩ := h.schemaVersion
    cases hv.symm.trans hvalue
    exact .of_asNumber 1 hone
  · obtain ⟨text, rfl, hmatch⟩ := h.id value hvalue
    exact .of_keyId 1 hmatch
  · obtain ⟨text, rfl, hmatch⟩ := h.locale value hvalue
    exact .of_match 1 hmatch rfl (by decide : 12 ≤ 128)
  · obtain ⟨text, hmem, rfl⟩ := h.direction value hvalue
    exact .of_word 1 hmem (by decide)
  · obtain ⟨b, rfl⟩ := h.randomizeInputKeys value hvalue
    exact .bool 1 b
  · cases h.rows_eq.symm.trans hvalue
    exact .rows h
  · obtain ⟨slots, rfl, honly, hvalues⟩ := h.slots value hvalue
    exact .slots honly hvalues

/-! ## Themes -/

/-- All the leaves are strings, numbers and booleans. -/
inductive PlainLeaves : Json → Prop
  | str (text : String) : PlainLeaves (.str text)
  | number (value : JsNumber) : PlainLeaves (.number value)
  | bool (value : Bool) : PlainLeaves (.bool value)
  | arr {items : List Json} : (∀ item ∈ items, PlainLeaves item) → PlainLeaves (.arr items)
  | obj {fields : List (String × Json)} :
      (∀ key value, fields.lookup key = some value → PlainLeaves value) → PlainLeaves (.obj fields)

/-- A word gets through in as many arrays as there is depth left for. -/
theorem Passes.of_spells {word : String} (hword : utf16Length word ≤ maxPublicBridgeStringLength)
    (depth : ℕ) (value : Json) (hspells : value.Spells word)
    (hdepth : depth + value.arraysAround ≤ maxPublicBridgeDepth + 1) :
    Passes depth value (value.arraysAround + 1) := by
  match value with
  | .str text =>
    rw [Json.Spells] at hspells
    exact .str depth (hspells ▸ hword)
  | .arr [item] =>
    rw [Json.Spells] at hspells
    rw [Json.arraysAround] at hdepth ⊢
    have hitem := Passes.of_spells hword (depth + 1) item hspells (by omega)
    have harray : Passes depth (.arr [item]) (1 + [item].length * (item.arraysAround + 1)) :=
      Passes.arr (by omega) (by decide : 1 ≤ maxPublicBridgeItems)
        (List.forall_mem_singleton.mpr hitem)
    refine harray.mono ?_
    rw [List.length_singleton]
    omega
  | .arr [] | .arr (_ :: _ :: _) | .null | .bool _ | .number _ | .obj _ => exact hspells.elim

/-- The words of the contract are no text of any other value. -/
theorem isWord_of_mem {word : String} (h : word ∈ hapticWords ++ soundWords) :
    Json.IsWord word := by
  simp only [hapticWords, soundWords, List.mem_append, List.mem_cons, List.not_mem_nil,
    or_false] at h
  rcases h with (rfl | rfl | rfl | rfl) | rfl | rfl <;>
    exact ⟨by decide, by decide, by simp [JsNumber.chars], by decide, by decide, by decide,
      by decide⟩

/-- The contract compares the text that `String` makes of a value: the word, and arrays around
    it. -/
theorem Passes.of_jsString {value : Json} {words : List String}
    (h : ∃ word ∈ words, value.jsString = some word) (hwords : words ⊆ hapticWords ++ soundWords)
    (hwithin : value.arraysAround ≤ maxPublicBridgeDepth - 1) : Passes 2 value 8 := by
  obtain ⟨word, hmem, hword⟩ := h
  have hspells := (Json.jsString_eq_iff (isWord_of_mem (hwords hmem)) value).mp hword
  have hlength : ∀ word ∈ hapticWords ++ soundWords,
      utf16Length word ≤ maxPublicBridgeStringLength := by decide
  rw [maxPublicBridgeDepth] at hwithin
  refine (Passes.of_spells (hlength word (hwords hmem)) 2 value hspells ?_).mono (by omega)
  rw [maxPublicBridgeDepth]
  omega

/-! ## What got through -/

/-- The value got through, with some visits made before. -/
def GotThrough (depth : ℕ) (value : Json) : Prop :=
  ∃ used result, getPublicValue depth value used = some result

/-- With a map its entries have got through. -/
theorem gotThrough_of_publicEntries {allowedKeys : List String} {depth : ℕ}
    (fields : List (String × Json)) : ∀ (keyCount : ℕ) (seen : List String) (used : ℕ) result,
    publicEntries allowedKeys depth keyCount seen fields used = some result →
    ∀ entry ∈ Json.entriesFrom seen fields, GotThrough (depth + 1) entry.2 := by
  induction fields with
  | nil =>
    intro keyCount seen used result _ entry hentry
    rw [Json.entriesFrom] at hentry
    cases hentry
  | cons field fields ih =>
    intro keyCount seen used result h
    obtain ⟨key, value⟩ := field
    rw [publicEntries] at h
    rw [Json.entriesFrom]
    split at h
    · next hseen =>
      rw [if_pos hseen]
      exact ih keyCount seen used result h
    · next hnew =>
      rw [if_neg hnew]
      obtain ⟨-, h⟩ := require_bind_eq_some h
      obtain ⟨-, h⟩ := require_bind_eq_some h
      obtain ⟨copy, used₁, hcopy, h⟩ := bind_eq_some h
      obtain ⟨rest, used₂, hrest, -⟩ := bind_eq_some h
      exact List.forall_mem_cons.mpr
        ⟨⟨used, _, hcopy⟩, ih (keyCount + 1) (key :: seen) used₁ _ hrest⟩

theorem gotThrough_of_toPublicMap {allowedKeys : List String} {depth used : ℕ}
    {fields : List (String × Json)} {result : List (String × Json) × ℕ}
    (h : toPublicMap allowedKeys depth fields used = some result) {key : String} {value : Json}
    (hvalue : fields.lookup key = some value) : GotThrough (depth + 1) value := by
  obtain ⟨-, h⟩ := require_bind_eq_some h
  obtain ⟨_, used₁, -, h⟩ := bind_eq_some h
  exact gotThrough_of_publicEntries fields 0 [] used₁ result h (key, value)
    (Json.mem_entries.mpr hvalue)

theorem GotThrough.lookup {depth : ℕ} {fields : List (String × Json)}
    (h : GotThrough depth (.obj fields)) {key : String} {value : Json}
    (hvalue : fields.lookup key = some value) : GotThrough (depth + 1) value := by
  obtain ⟨used, result, h⟩ := h
  rw [getPublicValue_obj, map_eq_pure_bind] at h
  obtain ⟨copy, used₁, hcopy, -⟩ := bind_eq_some h
  exact gotThrough_of_toPublicMap hcopy hvalue

/-- An array that got through is not too deep, and its item got through. -/
theorem GotThrough.arr_singleton {depth : ℕ} {item : Json} (h : GotThrough depth (.arr [item])) :
    depth ≤ maxPublicBridgeDepth ∧ GotThrough (depth + 1) item := by
  obtain ⟨used, result, h⟩ := h
  rw [getPublicValue] at h
  obtain ⟨hdepth, h⟩ := require_bind_eq_some h
  obtain ⟨-, h⟩ := require_bind_eq_some h
  obtain ⟨_, used₁, -, h⟩ := bind_eq_some h
  obtain ⟨items, used₂, hitems, -⟩ := bind_eq_some h
  rw [publicItems] at hitems
  obtain ⟨copy, used₃, hcopy, -⟩ := bind_eq_some hitems
  exact ⟨hdepth, used₁, _, hcopy⟩

/-- **What got through stands in no more arrays than there was depth left for.** -/
theorem GotThrough.arraysAround_le {depth : ℕ} (hdepth : depth ≤ maxPublicBridgeDepth + 1)
    (value : Json) (h : GotThrough depth value) :
    depth + value.arraysAround ≤ maxPublicBridgeDepth + 1 := by
  match value with
  | .arr [item] =>
    obtain ⟨harray, hitem⟩ := h.arr_singleton
    have hle := GotThrough.arraysAround_le (Nat.succ_le_succ harray) item hitem
    rw [Json.arraysAround]
    omega
  | .arr [] | .arr (_ :: _ :: _) | .null | .bool _ | .number _ | .str _ | .obj _ => exact hdepth

/-! ## The fields of a theme -/

theorem Passes.colors {colors : List (String × Json)} (honly : Json.onlyKeys colors colorKeys = true)
    (hcolor : ∀ key ∈ colorKeys, ∃ text, colors.lookup key = some (.str text) ∧
      colorPattern.wholeMatch text = true) : Passes 1 (.obj colors) 7 := by
  refine @Passes.obj colorKeys 1 (fun _ => 1) colors (by decide) honly (by decide) (by decide)
    fun key value hvalue => ?_
  obtain ⟨text, htext, hmatch⟩ := hcolor key (Json.onlyKeys_iff.mp honly key value hvalue)
  cases htext.symm.trans hvalue
  exact .of_match 2 hmatch rfl (by decide : 9 ≤ 128)

/-- A map of numbers. -/
theorem Passes.numbers {names : List String} {fields : List (String × Json)}
    (honly : Json.onlyKeys fields names = true) (hlength : names.length ≤ maxPublicBridgeKeys)
    (hallowed : names ⊆ nestedPublicKeys)
    (hnumber : ∀ key ∈ names, ∀ value, fields.lookup key = some value →
      ∃ x, value.asNumber? = some x) :
    Passes 1 (.obj fields) (1 + (names.map fun _ => 1).sum) := by
  refine .obj (by decide) honly hlength hallowed fun key value hvalue => ?_
  obtain ⟨x, hx⟩ := hnumber key (Json.onlyKeys_iff.mp honly key value hvalue) value hvalue
  exact .of_asNumber 2 hx

theorem Passes.metrics {fields colors metrics typography : List (String × Json)}
    (h : AcceptedTheme fields colors metrics typography) : Passes 1 (.obj metrics) 5 := by
  refine @Passes.numbers metricKeys metrics h.metrics_keys (by decide) (by decide)
    fun key hkey value hvalue => ?_
  simp only [metricKeys, List.mem_cons, List.not_mem_nil, or_false] at hkey
  rcases hkey with rfl | rfl | rfl | rfl
  · obtain ⟨v, x, hv, hx, -⟩ := h.keyHeight
    cases hv.symm.trans hvalue
    exact ⟨x, hx⟩
  · obtain ⟨v, x, hv, hx, -⟩ := h.keyGap
    cases hv.symm.trans hvalue
    exact ⟨x, hx⟩
  · obtain ⟨v, x, hv, hx, -⟩ := h.keyRadius
    cases hv.symm.trans hvalue
    exact ⟨x, hx⟩
  · obtain ⟨v, x, hv, hx, -⟩ := h.contentPadding
    cases hv.symm.trans hvalue
    exact ⟨x, hx⟩

theorem Passes.typography {fields colors metrics typography : List (String × Json)}
    (h : AcceptedTheme fields colors metrics typography) : Passes 1 (.obj typography) 3 := by
  refine @Passes.obj ["keyFontSize", "keyFontWeight"] 1 (fun _ => 1) typography (by decide)
    h.typography_keys (by decide) (by decide) fun key value hvalue => ?_
  have hkey := Json.onlyKeys_iff.mp h.typography_keys key value hvalue
  simp only [List.mem_cons, List.not_mem_nil, or_false] at hkey
  rcases hkey with rfl | rfl
  · obtain ⟨v, x, hv, hx, -⟩ := h.keyFontSize
    cases hv.symm.trans hvalue
    exact .of_asNumber 2 hx
  · obtain ⟨text, hmem, htext⟩ := h.keyFontWeight
    cases htext.symm.trans hvalue
    exact .of_word 2 hmem (by decide)

theorem Passes.animation {fields colors metrics typography : List (String × Json)} {value : Json}
    (h : AcceptedTheme fields colors metrics typography)
    (hvalue : fields.lookup "animation" = some value) : Passes 1 value 3 := by
  obtain ⟨animation, rfl, honly, hpress, hreveal⟩ := h.animation value hvalue
  refine @Passes.numbers ["pressDurationMs", "maskRevealDurationMs"] animation honly (by decide)
    (by decide) fun key hkey w hw => ?_
  simp only [List.mem_cons, List.not_mem_nil, or_false] at hkey
  rcases hkey with rfl | rfl
  · obtain ⟨x, hx, -⟩ := hpress w hw
    exact ⟨x, hx⟩
  · obtain ⟨x, hx, -⟩ := hreveal w hw
    exact ⟨x, hx⟩

/-- At most seven arrays stand around the words for haptic feedback and sound. -/
def WordsInReach (fields : List (String × Json)) : Prop :=
  ∀ feedback, fields.lookup "feedback" = some (.obj feedback) → ∀ key ∈ ["haptic", "sound"],
    ∀ value, feedback.lookup key = some value → value.arraysAround ≤ 7

theorem Passes.feedback {fields colors metrics typography : List (String × Json)} {value : Json}
    (h : AcceptedTheme fields colors metrics typography)
    (hvalue : fields.lookup "feedback" = some value) (hreach : WordsInReach fields) :
    Passes 1 value 17 := by
  obtain ⟨feedback, rfl, honly, hhaptic, hsound⟩ := h.feedback value hvalue
  refine @Passes.obj ["haptic", "sound"] 1 (fun _ => 8) feedback (by decide) honly (by decide)
    (by decide) fun key w hw => ?_
  have hkey := Json.onlyKeys_iff.mp honly key w hw
  have hwithin := hreach feedback hvalue key hkey w hw
  simp only [List.mem_cons, List.not_mem_nil, or_false] at hkey
  rcases hkey with rfl | rfl
  · exact .of_jsString (hhaptic w hw) (List.subset_append_left _ _) hwithin
  · exact .of_jsString (hsound w hw) (List.subset_append_right _ _) hwithin

/-- What a field of a theme costs at most: the largest of them is the feedback, with two words in
    seven arrays each. -/
def themeCost (key : String) : ℕ := if key = "schemaVersion" then 1 else 17

theorem bridged_theme {fields colors metrics typography : List (String × Json)}
    (h : AcceptedTheme fields colors metrics typography) (hreach : WordsInReach fields) :
    Bridged themeKeys fields := by
  refine .of_affords (@toPublicMap_affords themeKeys themeKeys 0 themeCost fields (by decide)
    h.onlyKeys (by decide) (List.Subset.refl _) fun key value hvalue => ?_) (by decide)
  have hkey := Json.onlyKeys_iff.mp h.onlyKeys key value hvalue
  simp only [List.mem_cons, List.not_mem_nil, or_false] at hkey
  rcases hkey with rfl | rfl | rfl | rfl | rfl | rfl
  · obtain ⟨v, hv, hone⟩ := h.schemaVersion
    cases hv.symm.trans hvalue
    exact .of_asNumber 1 hone
  · cases h.colors_eq.symm.trans hvalue
    exact (Passes.colors h.colors_keys h.color).mono (by decide)
  · cases h.metrics_eq.symm.trans hvalue
    exact (Passes.metrics h).mono (by decide)
  · cases h.typography_eq.symm.trans hvalue
    exact (Passes.typography h).mono (by decide)
  · exact (Passes.animation h hvalue).mono (by decide)
  · exact (Passes.feedback h hvalue hreach).mono (by decide)

/-- What is too deep does not get through. -/
theorem wordsInReach_of_bridged {allowedKeys : List String} {fields : List (String × Json)}
    (h : Bridged allowedKeys fields) : WordsInReach fields := by
  obtain ⟨copy, nodes, hcopy, -⟩ := h
  intro feedback hfeedback key _ value hvalue
  have hword := (gotThrough_of_toPublicMap hcopy hfeedback).lookup hvalue
  have hle := hword.arraysAround_le (by decide)
  rw [maxPublicBridgeDepth] at hle
  omega

/-! ## The contract -/

/-- **What is accepted by contract and gets through as it is**: every accepted layout, and of the
    accepted themes those whose words for feedback stand in at most seven arrays. -/
theorem bridge_accepts_contract (layout theme : Json) :
    ((validateLayout layout).valid = true →
      ∃ fields, layout = .obj fields ∧ Bridged layoutKeys fields) ∧
    ∀ result, validateTheme theme = some result → result.valid = true →
      ∃ fields, theme = .obj fields ∧ (Bridged themeKeys fields ↔ WordsInReach fields) := by
  constructor
  · intro h
    obtain ⟨fields, rows, rfl, hlayout⟩ := validateLayout_valid h
    exact ⟨fields, rfl, bridged_layout hlayout⟩
  · intro result hresult hvalid
    obtain ⟨fields, colors, metrics, typography, rfl, htheme⟩ :=
      validateTheme_valid hresult hvalid
    exact ⟨fields, rfl, wordsInReach_of_bridged, bridged_theme htheme⟩

/-- One row with one key. -/
def oneKeyLayout : Json :=
  .obj [("schemaVersion", .number (.ofNat 1)),
    ("rows", .arr [.arr [.obj [("id", .str "digit-1"), ("role", .str "input")]]])]

/-- A theme with such haptic feedback. -/
def hapticTheme (haptic : Json) : List (String × Json) :=
  [("schemaVersion", .number (.ofNat 1)),
    ("colors", .obj (colorKeys.map fun key => (key, .str "#000000"))),
    ("metrics", .obj [("keyHeight", .number (.ofNat 48)), ("keyGap", .number (.ofNat 8)),
      ("keyRadius", .number (.ofNat 8)), ("contentPadding", .number (.ofNat 8))]),
    ("typography", .obj [("keyFontSize", .number (.ofNat 16)), ("keyFontWeight", .str "400")]),
    ("feedback", .obj [("haptic", haptic)])]

theorem bridge_accepts_contract_oneKey :
    (∃ fields, oneKeyLayout = .obj fields ∧ Bridged layoutKeys fields) ∧
    ∃ fields, .obj (hapticTheme (.arr [.str "light"])) = Json.obj fields ∧
      (Bridged themeKeys fields ↔ WordsInReach fields) := by
  have hcontract := bridge_accepts_contract oneKeyLayout (.obj (hapticTheme (.arr [.str "light"])))
  refine ⟨hcontract.1 (by decide +kernel), ?_⟩
  have hvalid : (validateTheme (.obj (hapticTheme (.arr [.str "light"])))).map (·.valid) =
      some true := by decide +kernel
  obtain ⟨result, hresult, hvalid⟩ := Option.map_eq_some_iff.mp hvalid
  exact hcontract.2 result hresult hvalid

theorem PlainLeaves.of_entries {fields : List (String × Json)}
    (h : ∀ entry ∈ fields, PlainLeaves entry.2) : PlainLeaves (.obj fields) :=
  .obj fun _ _ hvalue => h _ (Json.mem_of_lookup hvalue)

theorem plainLeaves_hapticTheme {haptic : Json} (h : PlainLeaves haptic) :
    PlainLeaves (.obj (hapticTheme haptic)) := by
  apply PlainLeaves.of_entries
  simp only [hapticTheme, List.forall_mem_cons]
  refine ⟨.number _, .of_entries ?_, .of_entries ?_, .of_entries ?_, .of_entries ?_, by simp⟩
  · intro entry hentry
    obtain ⟨key, -, rfl⟩ := List.mem_map.mp hentry
    exact .str _
  · simp only [List.forall_mem_cons]
    exact ⟨.number _, .number _, .number _, .number _, by simp⟩
  · simp only [List.forall_mem_cons]
    exact ⟨.number _, .str _, by simp⟩
  · exact List.forall_mem_singleton.mpr h

/-- A word in eight arrays, which the contract makes a string of. -/
def deepHaptic : Json := .arr [.arr [.arr [.arr [.arr [.arr [.arr [.arr [.str "light"]]]]]]]]

theorem not_bridge_accepts_contract :
    ¬ ∀ theme result, validateTheme theme = some result → result.valid = true →
      PlainLeaves theme → ∃ fields, theme = .obj fields ∧ Bridged themeKeys fields := by
  intro h
  have hplain : PlainLeaves deepHaptic := by
    iterate 8 refine .arr (List.forall_mem_singleton.mpr ?_)
    exact .str _
  have hvalid : (validateTheme (.obj (hapticTheme deepHaptic))).map (·.valid) = some true := by
    decide +kernel
  obtain ⟨result, hresult, hvalid⟩ := Option.map_eq_some_iff.mp hvalid
  obtain ⟨fields, heq, hbridged⟩ := h _ result hresult hvalid (plainLeaves_hapticTheme hplain)
  obtain rfl := Json.obj.inj heq
  have hwithin := wordsInReach_of_bridged hbridged _ rfl "haptic" (by simp) _ rfl
  exact absurd hwithin (by decide)

end SecureKeypad.ReactNative
