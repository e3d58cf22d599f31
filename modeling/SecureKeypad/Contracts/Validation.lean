import SecureKeypad.Contracts.InputKeyIds
import SecureKeypad.Contracts.ThemeColor
import SecureKeypad.Library.Json

/-!
# The Public Contract of Layouts and Themes (`packages/contracts`)

Embeds the validators of the TypeScript contract: they walk a JSON value and push an error text,
with the path of the field, for everything they do not accept.

## Main results

- `validateLayout_valid`, `validateLayoutForPolicy_valid`: all an accepted layout has
- `validateTheme_valid`: all an accepted theme has
-/

namespace SecureKeypad.Contracts

open Native (InputPolicy)

/-! ## Patterns and helpers -/

def maxKeyLabelBytes : ℕ := 16
def maxAccessibilityLabelBytes : ℕ := 80

/-- `KEY_ID_PATTERN`: `^[a-z0-9][a-z0-9._-]{0,63}$` -/
def keyIdPattern : Regex := .seq (.one Native.isIdHead) (.many Native.isIdChar 0 (some 63))

/-- `LOCALE_PATTERN`: `^[A-Za-z]{2,3}(?:-[A-Za-z0-9]{2,8})?$` -/
def localePattern : Regex :=
  .seq (.many Char.isAlpha 2 (some 3))
    (.opt (.seq (.lit ['-']) (.many Char.isAlphanum 2 (some 8))))

def keyRoles : List String := ["input", "backspace", "submit", "clear", "cancel", "spacer"]
def fontWeights : List String := ["400", "500", "600", "700"]

/-- `ValidationResult`. -/
structure ValidationResult where
  valid : Bool
  errors : List String
deriving DecidableEq

/-- The result of the errors pushed. -/
def ValidationResult.of (errors : List String) : ValidationResult := ⟨errors.isEmpty, errors⟩

/-- An error is pushed unless the check holds. -/
def check (holds : Bool) (message : String) : List String := if holds then [] else [message]

@[simp] theorem check_eq_nil {holds : Bool} {message : String} :
    check holds message = [] ↔ holds = true := by
  cases holds <;> simp [check]

/-- `value === undefined ||` the test. -/
def undefinedOr (test : Json → Bool) (value : Option Json) : Bool := value.all test

/-- `utf8ByteLength`. -/
def utf8ByteLength (value : String) : ℕ :=
  (value.toList.map fun character =>
    let codePoint := character.toNat
    if codePoint ≤ 0x7f then 1
    else if codePoint ≤ 0x7ff then 2
    else if codePoint ≤ 0xffff then 3
    else 4).sum

/-- A string the pattern matches. -/
def matchesPattern (pattern : Regex) : Json → Bool
  | .str text => pattern.wholeMatch text
  | _ => false

/-- A string of at most so many bytes. -/
def isTextWithin (bytes : ℕ) : Json → Bool
  | .str text => utf8ByteLength text ≤ bytes
  | _ => false

/-- A string of a list. -/
def isOneOf (texts : List String) : Json → Bool
  | .str text => texts.contains text
  | _ => false

def isBoolean : Json → Bool
  | .bool _ => true
  | _ => false

/-- `isBoundedNumber`; a JSON number is finite. -/
def isBoundedNumber (minimum maximum : ℚ) : Json → Bool
  | .number value => minimum ≤ value.value && value.value ≤ maximum
  | _ => false

/-- `isBoundedInteger`. -/
def isBoundedInteger (minimum maximum : ℚ) : Json → Bool
  | .number value => value.value.isInt && (minimum ≤ value.value && value.value ≤ maximum)
  | _ => false

/-- `value === 1` -/
def isOne : Json → Bool
  | .number value => value.value = 1
  | _ => false

/-! ## Layouts -/

/-- The errors of `validateKey`. -/
def validateKey (value : Json) (path : String) : List String :=
  match value with
  | .obj fields =>
    check (Json.onlyKeys fields ["id", "label", "icon", "role", "accessibilityLabel", "testId"])
        (path ++ " contains an unsupported field") ++
      check ((fields.lookup "id").any (matchesPattern keyIdPattern)) (path ++ ".id is invalid") ++
      check (undefinedOr (isTextWithin maxKeyLabelBytes) (fields.lookup "label"))
        (path ++ ".label is invalid") ++
      check (undefinedOr (matchesPattern keyIdPattern) (fields.lookup "icon"))
        (path ++ ".icon is invalid") ++
      check ((fields.lookup "role").any (isOneOf keyRoles)) (path ++ ".role is invalid") ++
      check (undefinedOr (isTextWithin maxAccessibilityLabelBytes)
        (fields.lookup "accessibilityLabel")) (path ++ ".accessibilityLabel is invalid") ++
      check (undefinedOr (matchesPattern keyIdPattern) (fields.lookup "testId"))
        (path ++ ".testId is invalid")
  | _ => [path ++ " must be an object"]

/-- The identifier of a key, where it is a string. -/
def keyIdOf? : Json → Option String
  | .obj fields => (fields.lookup "id").bind Json.asString?
  | _ => none

/-- The path of a key. -/
def keyPath (rowIndex keyIndex : ℕ) : String :=
  "layout.rows[" ++ toString rowIndex ++ "][" ++ toString keyIndex ++ "]"

/-- The inner loop of `validateLayout`: the errors of the keys of a row, and the identifiers seen
    behind them. -/
def validateRow (rowIndex : ℕ) : ℕ → List String → List Json → List String × List String
  | _, keyIds, [] => ([], keyIds)
  | keyIndex, keyIds, key :: keys =>
    let path := keyPath rowIndex keyIndex
    let (duplicate, keyIds) :=
      match keyIdOf? key with
      | some id => (check (!keyIds.contains id) (path ++ ".id is duplicated"), id :: keyIds)
      | none => ([], keyIds)
    let (errors, keyIds) := validateRow rowIndex (keyIndex + 1) keyIds keys
    (validateKey key path ++ duplicate ++ errors, keyIds)

/-- A row with keys in the supported number. -/
def rowKeys? : Json → Option (List Json)
  | .arr keys => if 1 ≤ keys.length ∧ keys.length ≤ 32 then some keys else none
  | _ => none

/-- The outer loop. -/
def validateRows : ℕ → List String → List Json → List String
  | _, _, [] => []
  | rowIndex, keyIds, row :: rows =>
    match rowKeys? row with
    | some keys =>
      let (errors, keyIds) := validateRow rowIndex 0 keyIds keys
      errors ++ validateRows (rowIndex + 1) keyIds rows
    | none =>
      ("layout.rows[" ++ toString rowIndex ++ "] is invalid") ::
        validateRows (rowIndex + 1) keyIds rows

/-- The errors of the rows. -/
def validateRowsField : Option Json → List String
  | some (.arr rows) =>
    if 1 ≤ rows.length ∧ rows.length ≤ 16 then validateRows 0 [] rows
    else ["layout.rows is invalid"]
  | _ => ["layout.rows is invalid"]

/-- The errors of the slots. -/
def validateSlots : Option Json → List String
  | none => []
  | some (.obj slots) =>
    if Json.onlyKeys slots ["header", "display", "footer", "error"] then
      check ((Json.values slots).all isBoolean) "layout.slots values are invalid"
    else ["layout.slots is invalid"]
  | some _ => ["layout.slots is invalid"]

/-- `validateLayout`. -/
def validateLayout (value : Json) : ValidationResult :=
  match value with
  | .obj fields =>
    .of (check (Json.onlyKeys fields
          ["schemaVersion", "id", "locale", "direction", "randomizeInputKeys", "rows", "slots"])
        "layout contains an unsupported field" ++
      check ((fields.lookup "schemaVersion").any isOne) "layout.schemaVersion is unsupported" ++
      check (undefinedOr (matchesPattern keyIdPattern) (fields.lookup "id"))
        "layout.id is invalid" ++
      check (undefinedOr (matchesPattern localePattern) (fields.lookup "locale"))
        "layout.locale is invalid" ++
      check (undefinedOr (isOneOf ["ltr", "rtl"]) (fields.lookup "direction"))
        "layout.direction is invalid" ++
      check (undefinedOr isBoolean (fields.lookup "randomizeInputKeys"))
        "layout.randomizeInputKeys is invalid" ++
      validateRowsField (fields.lookup "rows") ++
      validateSlots (fields.lookup "slots"))
  | _ => ⟨false, ["layout must be an object"]⟩

/-- The errors of one key under a policy. -/
def validateKeyForPolicy (policy : InputPolicy) (path : String) : Json → List String
  | .obj fields =>
    if (fields.lookup "role").any (isOneOf ["input"]) then
      match (fields.lookup "id").bind Json.asString? with
      | some id => check (tsIsCanonicalInputKeyId id policy)
          (path ++ ".id is invalid for input policy")
      | none => []
    else []
  | _ => []

/-- The errors of the keys of one row under a policy. -/
def validateRowForPolicy (policy : InputPolicy) (rowIndex : ℕ) : Json → List String
  | .arr keys => (keys.zipIdx.map fun (key, keyIndex) =>
      validateKeyForPolicy policy (keyPath rowIndex keyIndex) key).flatten
  | _ => []

/-- `validateLayoutForPolicy`. -/
def validateLayoutForPolicy (value : Json) (policy : InputPolicy) : ValidationResult :=
  let errors := (validateLayout value).errors
  match value.asObject?.bind fun fields => (fields.lookup "rows").bind Json.asArray? with
  | some rows => .of (errors ++ (rows.zipIdx.map fun (row, rowIndex) =>
      validateRowForPolicy policy rowIndex row).flatten)
  | none => .of errors

/-! ## Themes -/

def colorKeys : List String :=
  ["background", "keyBackground", "keyForeground", "keyPressedBackground", "keyDisabledBackground",
    "error"]

def metricKeys : List String := ["keyHeight", "keyGap", "keyRadius", "contentPadding"]

/-- The errors of the colours. -/
def validateColors : Option Json → List String
  | some (.obj colors) =>
    if Json.onlyKeys colors colorKeys then
      (colorKeys.map fun key =>
        check ((colors.lookup key).any (matchesPattern colorPattern))
          ("theme.colors." ++ key ++ " is invalid")).flatten
    else ["theme.colors is invalid"]
  | _ => ["theme.colors is invalid"]

/-- The errors of the metrics. -/
def validateMetrics : Option Json → List String
  | some (.obj metrics) =>
    if Json.onlyKeys metrics metricKeys then
      check ((metrics.lookup "keyHeight").any (isBoundedNumber 32 160))
          "theme.metrics.keyHeight is invalid" ++
        check ((metrics.lookup "keyGap").any (isBoundedNumber 0 48))
          "theme.metrics.keyGap is invalid" ++
        check ((metrics.lookup "keyRadius").any (isBoundedNumber 0 80))
          "theme.metrics.keyRadius is invalid" ++
        check ((metrics.lookup "contentPadding").any (isBoundedNumber 0 80))
          "theme.metrics.contentPadding is invalid"
    else ["theme.metrics is invalid"]
  | _ => ["theme.metrics is invalid"]

/-- The errors of the typography. -/
def validateTypography : Option Json → List String
  | some (.obj typography) =>
    if Json.onlyKeys typography ["keyFontSize", "keyFontWeight"] then
      check ((typography.lookup "keyFontSize").any (isBoundedNumber 10 72))
          "theme.typography.keyFontSize is invalid" ++
        check ((typography.lookup "keyFontWeight").any (isOneOf fontWeights))
          "theme.typography.keyFontWeight is invalid"
    else ["theme.typography is invalid"]
  | _ => ["theme.typography is invalid"]

/-- The errors of the animation. -/
def validateAnimation : Option Json → List String
  | none => []
  | some (.obj animation) =>
    if Json.onlyKeys animation ["pressDurationMs", "maskRevealDurationMs"] then
      check (undefinedOr (isBoundedInteger 0 500) (animation.lookup "pressDurationMs"))
          "theme.animation.pressDurationMs is invalid" ++
        check (undefinedOr (isBoundedInteger 0 2000) (animation.lookup "maskRevealDurationMs"))
          "theme.animation.maskRevealDurationMs is invalid"
    else ["theme.animation is invalid"]
  | some _ => ["theme.animation is invalid"]

/-- `words.includes(String(value))` for a field that is there; `none` where `String` throws. -/
def coercesTo (words : List String) : Option Json → Option Bool
  | none => some true
  | some value => value.jsString.map words.contains

def hapticWords : List String := ["none", "light", "medium", "heavy"]
def soundWords : List String := ["none", "click"]

/-- The errors of the feedback; `none` where the check throws. -/
def validateFeedback : Option Json → Option (List String)
  | none => some []
  | some (.obj feedback) =>
    if Json.onlyKeys feedback ["haptic", "sound"] then do
      let haptic ← coercesTo hapticWords (feedback.lookup "haptic")
      let sound ← coercesTo soundWords (feedback.lookup "sound")
      some (check haptic "theme.feedback.haptic is invalid" ++
        check sound "theme.feedback.sound is invalid")
    else some ["theme.feedback is invalid"]
  | some _ => some ["theme.feedback is invalid"]

/-- `validateTheme`; `none` where it throws. -/
def validateTheme (value : Json) : Option ValidationResult :=
  match value with
  | .obj fields =>
    (validateFeedback (fields.lookup "feedback")).map fun feedback =>
      .of (check (Json.onlyKeys fields
            ["schemaVersion", "colors", "metrics", "typography", "animation", "feedback"])
          "theme contains an unsupported field" ++
        check ((fields.lookup "schemaVersion").any isOne) "theme.schemaVersion is unsupported" ++
        validateColors (fields.lookup "colors") ++
        validateMetrics (fields.lookup "metrics") ++
        validateTypography (fields.lookup "typography") ++
        validateAnimation (fields.lookup "animation") ++ feedback)
  | _ => some ⟨false, ["theme must be an object"]⟩

/-! ## What the checks say -/

theorem charBytes_eq (c : Char) : (if c.toNat ≤ 0x7f then 1 else if c.toNat ≤ 0x7ff then 2
    else if c.toNat ≤ 0xffff then 3 else 4) = c.utf8Size := by
  simp only [Char.utf8Size, UInt32.le_iff_toNat_le, Char.toNat]
  rfl

/-- The bytes are counted right. -/
theorem utf8ByteLength_eq (text : String) : utf8ByteLength text = text.utf8ByteSize := by
  have hsum : ∀ chars : List Char,
      (chars.map Char.utf8Size).sum = (String.ofList chars).utf8ByteSize := by
    intro chars
    induction chars with
    | nil => rfl
    | cons c chars ih =>
      have hcons : String.ofList (c :: chars) = String.singleton c ++ String.ofList chars := by
        rw [String.singleton_eq_ofList, ← String.ofList_append]
        rfl
      rw [List.map_cons, List.sum_cons, ih, hcons, String.utf8ByteSize_append,
        String.utf8ByteSize_singleton]
  rw [utf8ByteLength]
  simp only [charBytes_eq]
  rw [hsum, String.ofList_toList]

theorem undefinedOr_iff {test : Json → Bool} {value : Option Json} :
    undefinedOr test value = true ↔ ∀ v, value = some v → test v = true := by
  cases value <;> simp [undefinedOr]

theorem matchesPattern_iff {pattern : Regex} {value : Json} :
    matchesPattern pattern value = true ↔
      ∃ text, value = .str text ∧ pattern.wholeMatch text = true := by
  cases value <;> simp [matchesPattern]

theorem isTextWithin_iff {bytes : ℕ} {value : Json} :
    isTextWithin bytes value = true ↔ ∃ text, value = .str text ∧ text.utf8ByteSize ≤ bytes := by
  cases value <;> simp [isTextWithin, utf8ByteLength_eq]

theorem isOneOf_iff {texts : List String} {value : Json} :
    isOneOf texts value = true ↔ ∃ text ∈ texts, value = .str text := by
  cases value <;> simp [isOneOf]

theorem isBoolean_iff {value : Json} : isBoolean value = true ↔ ∃ b, value = .bool b := by
  cases value <;> simp [isBoolean]

theorem isOne_iff {value : Json} : isOne value = true ↔ value.asNumber? = some 1 := by
  cases value <;> simp [isOne, Json.asNumber?]

theorem isBoundedNumber_iff {minimum maximum : ℚ} {value : Json} :
    isBoundedNumber minimum maximum value = true ↔
      ∃ x, value.asNumber? = some x ∧ minimum ≤ x ∧ x ≤ maximum := by
  cases value <;> simp [isBoundedNumber, Json.asNumber?]

theorem isBoundedInteger_iff {minimum maximum : ℚ} {value : Json} :
    isBoundedInteger minimum maximum value = true ↔
      ∃ x, value.asNumber? = some x ∧ x.isInt = true ∧ minimum ≤ x ∧ x ≤ maximum := by
  cases value <;> simp [isBoundedInteger, Json.asNumber?]

/-! ## What an accepted layout has -/

/-- What an accepted key has. -/
structure AcceptedKey (fields : List (String × Json)) (id role : String) : Prop where
  onlyKeys : Json.onlyKeys fields
    ["id", "label", "icon", "role", "accessibilityLabel", "testId"] = true
  id_eq : fields.lookup "id" = some (.str id)
  id_matches : keyIdPattern.wholeMatch id = true
  label : ∀ v, fields.lookup "label" = some v → ∃ text, v = .str text ∧ text.utf8ByteSize ≤ 16
  icon : ∀ v, fields.lookup "icon" = some v →
    ∃ text, v = .str text ∧ keyIdPattern.wholeMatch text = true
  role_eq : fields.lookup "role" = some (.str role)
  role_mem : role ∈ keyRoles
  accessibilityLabel : ∀ v, fields.lookup "accessibilityLabel" = some v →
    ∃ text, v = .str text ∧ text.utf8ByteSize ≤ 80
  testId : ∀ v, fields.lookup "testId" = some v →
    ∃ text, v = .str text ∧ keyIdPattern.wholeMatch text = true

theorem validateKey_eq_nil {value : Json} {path : String} (h : validateKey value path = []) :
    ∃ fields id role, value = .obj fields ∧ AcceptedKey fields id role := by
  unfold validateKey at h
  split at h
  · next fields =>
    simp only [List.append_eq_nil_iff, check_eq_nil, undefinedOr_iff, Option.any_eq_true,
      matchesPattern_iff, isTextWithin_iff, isOneOf_iff] at h
    obtain ⟨⟨⟨⟨⟨⟨honly, v, hid, id, rfl, hmatch⟩, hlabel⟩, hicon⟩, w, hrole, role, hmem, rfl⟩,
      haccessibility⟩, htestId⟩ := h
    exact ⟨fields, id, role, rfl, honly, hid, hmatch, hlabel, hicon, hrole, hmem, haccessibility,
      htestId⟩
  · cases h

/-- The identifiers of an accepted row are new, and are remembered. -/
theorem validateRow_eq_nil {rowIndex keyIndex : ℕ} {keyIds : List String} {keys : List Json}
    (h : (validateRow rowIndex keyIndex keyIds keys).1 = []) :
    (∀ key ∈ keys, ∃ path, validateKey key path = []) ∧
      (validateRow rowIndex keyIndex keyIds keys).2 =
        (keys.filterMap keyIdOf?).reverse ++ keyIds ∧
      (keyIds.Nodup → ((keys.filterMap keyIdOf?).reverse ++ keyIds).Nodup) := by
  induction keys generalizing keyIndex keyIds with
  | nil => exact ⟨by simp, rfl, id⟩
  | cons key keys ih =>
    rw [validateRow] at h ⊢
    cases hid : keyIdOf? key with
    | none =>
      simp only [hid, List.append_eq_nil_iff] at h ⊢
      obtain ⟨hkeys, hids, hnodup⟩ := ih h.2
      rw [List.filterMap_cons_none hid]
      exact ⟨List.forall_mem_cons.mpr ⟨⟨_, h.1.1⟩, hkeys⟩, hids, hnodup⟩
    | some id =>
      simp only [hid, List.append_eq_nil_iff, check_eq_nil, Bool.not_eq_true'] at h ⊢
      have hnew : id ∉ keyIds := fun hmem =>
        Bool.noConfusion (h.1.2.symm.trans (List.contains_iff_mem.mpr hmem))
      obtain ⟨hkeys, hids, hnodup⟩ := ih h.2
      rw [List.filterMap_cons_some hid, List.reverse_cons, List.append_assoc]
      exact ⟨List.forall_mem_cons.mpr ⟨⟨_, h.1.1⟩, hkeys⟩, hids,
        fun hkeyIds => hnodup (List.nodup_cons.mpr ⟨hnew, hkeyIds⟩)⟩

theorem validateRows_eq_nil {rowIndex : ℕ} {keyIds : List String} {rows : List Json}
    (h : validateRows rowIndex keyIds rows = []) (hkeyIds : keyIds.Nodup) :
    ∃ rowKeys : List (List Json), rows = rowKeys.map .arr ∧
      (∀ row ∈ rowKeys, 1 ≤ row.length ∧ row.length ≤ 32) ∧
      (∀ key ∈ rowKeys.flatten, ∃ path, validateKey key path = []) ∧
      ((rowKeys.flatten.filterMap keyIdOf?).reverse ++ keyIds).Nodup := by
  induction rows generalizing rowIndex keyIds with
  | nil => exact ⟨[], rfl, by simp, by simp, hkeyIds⟩
  | cons row rows ih =>
    rw [validateRows] at h
    split at h
    · next keys hrow =>
      rw [List.append_eq_nil_iff] at h
      -- The key ids of this row are new, and count as seen for the rows behind it.
      obtain ⟨hkeys, hids, hnodup⟩ := validateRow_eq_nil h.1
      rw [hids] at h
      obtain ⟨rowKeys, rfl, hlengths, hrest, hall⟩ := ih h.2 (hnodup hkeyIds)
      have hrowEq : row = .arr keys ∧ 1 ≤ keys.length ∧ keys.length ≤ 32 := by
        unfold rowKeys? at hrow
        split at hrow
        · split_ifs at hrow with hlength
          cases hrow
          exact ⟨rfl, hlength⟩
        · cases hrow
      refine ⟨keys :: rowKeys, by rw [hrowEq.1]; rfl, ?_, ?_, ?_⟩
      · exact List.forall_mem_cons.mpr ⟨hrowEq.2, hlengths⟩
      · intro key hkey
        rw [List.flatten_cons, List.mem_append] at hkey
        exact hkey.elim (hkeys key) (hrest key)
      · rw [List.flatten_cons, List.filterMap_append, List.reverse_append, List.append_assoc]
        exact hall
    · cases h

/-- What an accepted layout has. -/
structure ValidLayout (fields : List (String × Json)) (rows : List (List Json)) : Prop where
  onlyKeys : Json.onlyKeys fields
    ["schemaVersion", "id", "locale", "direction", "randomizeInputKeys", "rows", "slots"] = true
  schemaVersion : ∃ v, fields.lookup "schemaVersion" = some v ∧ v.asNumber? = some 1
  id : ∀ v, fields.lookup "id" = some v →
    ∃ text, v = .str text ∧ keyIdPattern.wholeMatch text = true
  locale : ∀ v, fields.lookup "locale" = some v →
    ∃ text, v = .str text ∧ localePattern.wholeMatch text = true
  direction : ∀ v, fields.lookup "direction" = some v → ∃ text ∈ ["ltr", "rtl"], v = .str text
  randomizeInputKeys : ∀ v, fields.lookup "randomizeInputKeys" = some v → ∃ b, v = .bool b
  rows_eq : fields.lookup "rows" = some (.arr (rows.map .arr))
  rows_length : 1 ≤ rows.length ∧ rows.length ≤ 16
  row_length : ∀ row ∈ rows, 1 ≤ row.length ∧ row.length ≤ 32
  keys : ∀ key ∈ rows.flatten, ∃ fields id role, key = .obj fields ∧ AcceptedKey fields id role
  ids_nodup : (rows.flatten.filterMap keyIdOf?).Nodup
  slots : ∀ v, fields.lookup "slots" = some v → ∃ slots, v = .obj slots ∧
    Json.onlyKeys slots ["header", "display", "footer", "error"] = true ∧
    ∀ value ∈ Json.values slots, ∃ b, value = .bool b

/-- What a layout accepted under a policy has. -/
structure AcceptedLayout (policy : InputPolicy) (fields : List (String × Json))
    (rows : List (List Json)) : Prop where
  onlyKeys : Json.onlyKeys fields
    ["schemaVersion", "id", "locale", "direction", "randomizeInputKeys", "rows", "slots"] = true
  schemaVersion : ∃ v, fields.lookup "schemaVersion" = some v ∧ v.asNumber? = some 1
  id : ∀ v, fields.lookup "id" = some v →
    ∃ text, v = .str text ∧ keyIdPattern.wholeMatch text = true
  locale : ∀ v, fields.lookup "locale" = some v →
    ∃ text, v = .str text ∧ localePattern.wholeMatch text = true
  direction : ∀ v, fields.lookup "direction" = some v → ∃ text ∈ ["ltr", "rtl"], v = .str text
  randomizeInputKeys : ∀ v, fields.lookup "randomizeInputKeys" = some v → ∃ b, v = .bool b
  rows_eq : fields.lookup "rows" = some (.arr (rows.map .arr))
  rows_length : 1 ≤ rows.length ∧ rows.length ≤ 16
  row_length : ∀ row ∈ rows, 1 ≤ row.length ∧ row.length ≤ 32
  keys : ∀ key ∈ rows.flatten, ∃ fields id role, key = .obj fields ∧ AcceptedKey fields id role ∧
    (role = "input" → tsIsCanonicalInputKeyId id policy = true)
  ids_nodup : (rows.flatten.filterMap keyIdOf?).Nodup
  slots : ∀ v, fields.lookup "slots" = some v → ∃ slots, v = .obj slots ∧
    Json.onlyKeys slots ["header", "display", "footer", "error"] = true ∧
    ∀ value ∈ Json.values slots, ∃ b, value = .bool b

/-- The policy check of an accepted key. -/
theorem validateKeyForPolicy_eq_nil {policy : InputPolicy} {path : String}
    {fields : List (String × Json)} {id role : String} (hkey : AcceptedKey fields id role)
    (h : validateKeyForPolicy policy path (.obj fields) = []) (hrole : role = "input") :
    tsIsCanonicalInputKeyId id policy = true := by
  subst hrole
  have hinput : (fields.lookup "role").any (isOneOf ["input"]) = true := by
    rw [hkey.role_eq]
    rfl
  rw [validateKeyForPolicy, if_pos hinput, hkey.id_eq] at h
  exact check_eq_nil.mp h

theorem of_valid {errors : List String} (h : (ValidationResult.of errors).valid = true) :
    errors = [] :=
  List.isEmpty_iff.mp h

theorem validateRowsField_eq_nil {value : Option Json} (h : validateRowsField value = []) :
    ∃ rows, value = some (.arr rows) ∧ (1 ≤ rows.length ∧ rows.length ≤ 16) ∧
      validateRows 0 [] rows = [] := by
  unfold validateRowsField at h
  split at h
  · next rows =>
    split_ifs at h with hlength
    exact ⟨rows, rfl, hlength, h⟩
  · cases h

theorem validateSlots_eq_nil {value : Option Json} (h : validateSlots value = []) :
    ∀ v, value = some v → ∃ slots, v = .obj slots ∧
      Json.onlyKeys slots ["header", "display", "footer", "error"] = true ∧
      ∀ value ∈ Json.values slots, ∃ b, value = .bool b := by
  intro v hv
  subst hv
  unfold validateSlots at h
  split at h
  · next heq => cases heq
  · next slots heq =>
    cases heq
    split_ifs at h with honly
    rw [check_eq_nil, List.all_eq_true] at h
    exact ⟨slots, rfl, honly, fun value hvalue => isBoolean_iff.mp (h value hvalue)⟩
  · cases h

/-- No errors from a numbered list are no errors from any of its elements. -/
theorem numbered_eq_nil {α : Type} {items : List α} {errors : α × ℕ → List String}
    (h : (items.zipIdx.map errors).flatten = []) :
    ∀ item ∈ items, ∃ index, errors (item, index) = [] := by
  intro item hitem
  rw [← List.zipIdx_map_fst 0 items, List.mem_map] at hitem
  obtain ⟨⟨item', index⟩, hmem, rfl⟩ := hitem
  exact ⟨index, List.flatten_eq_nil_iff.mp h _ (List.mem_map_of_mem hmem)⟩

/-- The policy errors are those of the keys. -/
theorem validateRowForPolicy_eq_nil {policy : InputPolicy} {rows : List (List Json)}
    (h : ((rows.map Json.arr).zipIdx.map fun (row, rowIndex) =>
      validateRowForPolicy policy rowIndex row).flatten = []) :
    ∀ key ∈ rows.flatten, ∃ path, validateKeyForPolicy policy path key = [] := by
  intro key hkey
  obtain ⟨row, hrow, hkey⟩ := List.mem_flatten.mp hkey
  obtain ⟨rowIndex, hnil⟩ := numbered_eq_nil h _ (List.mem_map_of_mem hrow)
  obtain ⟨keyIndex, hnil⟩ := numbered_eq_nil hnil key hkey
  exact ⟨_, hnil⟩

/-- **All a layout without errors has.** -/
theorem validateLayout_eq_nil {value : Json} (h : (validateLayout value).errors = []) :
    ∃ fields rows, value = .obj fields ∧ ValidLayout fields rows := by
  unfold validateLayout at h
  split at h
  · next fields =>
    simp only [ValidationResult.of, List.append_eq_nil_iff, check_eq_nil, undefinedOr_iff,
      Option.any_eq_true, matchesPattern_iff, isOneOf_iff, isBoolean_iff, isOne_iff] at h
    obtain ⟨⟨⟨⟨⟨⟨⟨honly, hversion⟩, hid⟩, hlocale⟩, hdirection⟩, hrandomize⟩, hrows⟩, hslots⟩ := h
    obtain ⟨rows, hrowsField, hlength, hvalid⟩ := validateRowsField_eq_nil hrows
    obtain ⟨rowKeys, rfl, hlengths, hkeys, hnodup⟩ := validateRows_eq_nil hvalid List.nodup_nil
    rw [List.length_map] at hlength
    rw [List.append_nil, List.nodup_reverse] at hnodup
    refine ⟨fields, rowKeys, rfl, honly, hversion, hid, hlocale, hdirection, hrandomize,
      hrowsField, hlength, hlengths, fun key hkey => ?_, hnodup, validateSlots_eq_nil hslots⟩
    obtain ⟨path, hpath⟩ := hkeys key hkey
    exact validateKey_eq_nil hpath
  · cases h

theorem validateLayout_valid {value : Json} (h : (validateLayout value).valid = true) :
    ∃ fields rows, value = .obj fields ∧ ValidLayout fields rows := by
  apply validateLayout_eq_nil
  unfold validateLayout at h ⊢
  split at h
  · exact of_valid h
  · cases h

/-- **All an accepted layout has.** -/
theorem validateLayoutForPolicy_valid {value : Json} {policy : InputPolicy}
    (h : (validateLayoutForPolicy value policy).valid = true) :
    ∃ fields rows, value = .obj fields ∧ AcceptedLayout policy fields rows := by
  -- no errors of the layout, and none of the policy
  have hsplit : (validateLayout value).errors = [] ∧
      ∀ rows, (value.asObject?.bind fun fields => (fields.lookup "rows").bind Json.asArray?) =
          some rows →
        (rows.zipIdx.map fun (row, rowIndex) =>
          validateRowForPolicy policy rowIndex row).flatten = [] := by
    unfold validateLayoutForPolicy at h
    simp only at h
    split at h
    · next rows hrows =>
      obtain ⟨herrors, hpolicy⟩ := List.append_eq_nil_iff.mp (of_valid h)
      refine ⟨herrors, fun rows' hrows' => ?_⟩
      cases hrows.symm.trans hrows'
      exact hpolicy
    · next hnone =>
      refine ⟨of_valid h, fun rows' hrows' => ?_⟩
      cases hnone.symm.trans hrows'
  obtain ⟨herrors, hpolicy⟩ := hsplit
  obtain ⟨fields, rows, rfl, hvalid⟩ := validateLayout_eq_nil herrors
  have hcanonical := validateRowForPolicy_eq_nil (hpolicy (rows.map Json.arr) (by
    simp only [Json.asObject?, Option.bind_some, hvalid.rows_eq, Json.asArray?]))
  refine ⟨fields, rows, rfl, hvalid.onlyKeys, hvalid.schemaVersion, hvalid.id, hvalid.locale,
    hvalid.direction, hvalid.randomizeInputKeys, hvalid.rows_eq, hvalid.rows_length,
    hvalid.row_length, fun key hkey => ?_, hvalid.ids_nodup, hvalid.slots⟩
  obtain ⟨keyFields, id, role, rfl, hshape⟩ := hvalid.keys key hkey
  obtain ⟨path, hnil⟩ := hcanonical _ hkey
  exact ⟨keyFields, id, role, rfl, hshape, validateKeyForPolicy_eq_nil hshape hnil⟩

/-! ## What an accepted theme has -/

/-- What an accepted theme has. Its feedback may be spelled by other values than texts. -/
structure AcceptedTheme (fields colors metrics typography : List (String × Json)) : Prop where
  onlyKeys : Json.onlyKeys fields
    ["schemaVersion", "colors", "metrics", "typography", "animation", "feedback"] = true
  schemaVersion : ∃ v, fields.lookup "schemaVersion" = some v ∧ v.asNumber? = some 1
  colors_eq : fields.lookup "colors" = some (.obj colors)
  colors_keys : Json.onlyKeys colors colorKeys = true
  color : ∀ key ∈ colorKeys, ∃ text, colors.lookup key = some (.str text) ∧
    colorPattern.wholeMatch text = true
  metrics_eq : fields.lookup "metrics" = some (.obj metrics)
  metrics_keys : Json.onlyKeys metrics metricKeys = true
  keyHeight : ∃ v x, metrics.lookup "keyHeight" = some v ∧ v.asNumber? = some x ∧ 32 ≤ x ∧ x ≤ 160
  keyGap : ∃ v x, metrics.lookup "keyGap" = some v ∧ v.asNumber? = some x ∧ 0 ≤ x ∧ x ≤ 48
  keyRadius : ∃ v x, metrics.lookup "keyRadius" = some v ∧ v.asNumber? = some x ∧ 0 ≤ x ∧ x ≤ 80
  contentPadding : ∃ v x, metrics.lookup "contentPadding" = some v ∧ v.asNumber? = some x ∧
    0 ≤ x ∧ x ≤ 80
  typography_eq : fields.lookup "typography" = some (.obj typography)
  typography_keys : Json.onlyKeys typography ["keyFontSize", "keyFontWeight"] = true
  keyFontSize : ∃ v x, typography.lookup "keyFontSize" = some v ∧ v.asNumber? = some x ∧
    10 ≤ x ∧ x ≤ 72
  keyFontWeight : ∃ text ∈ fontWeights, typography.lookup "keyFontWeight" = some (.str text)
  animation : ∀ v, fields.lookup "animation" = some v → ∃ animation, v = .obj animation ∧
    Json.onlyKeys animation ["pressDurationMs", "maskRevealDurationMs"] = true ∧
    (∀ w, animation.lookup "pressDurationMs" = some w → ∃ x, w.asNumber? = some x ∧
      x.isInt = true ∧ 0 ≤ x ∧ x ≤ 500) ∧
    (∀ w, animation.lookup "maskRevealDurationMs" = some w → ∃ x, w.asNumber? = some x ∧
      x.isInt = true ∧ 0 ≤ x ∧ x ≤ 2000)
  feedback : ∀ v, fields.lookup "feedback" = some v → ∃ feedback, v = .obj feedback ∧
    Json.onlyKeys feedback ["haptic", "sound"] = true ∧
    (∀ w, feedback.lookup "haptic" = some w → ∃ word ∈ hapticWords, w.jsString = some word) ∧
    (∀ w, feedback.lookup "sound" = some w → ∃ word ∈ soundWords, w.jsString = some word)

theorem validateColors_eq_nil {value : Option Json} (h : validateColors value = []) :
    ∃ colors, value = some (.obj colors) ∧ Json.onlyKeys colors colorKeys = true ∧
      ∀ key ∈ colorKeys, ∃ text, colors.lookup key = some (.str text) ∧
        colorPattern.wholeMatch text = true := by
  unfold validateColors at h
  split at h
  · next colors =>
    split_ifs at h with honly
    refine ⟨colors, rfl, honly, fun key hkey => ?_⟩
    have hcheck := check_eq_nil.mp (List.flatten_eq_nil_iff.mp h _ (List.mem_map_of_mem hkey))
    obtain ⟨v, hv, htext⟩ := (Option.any_eq_true _ _).mp hcheck
    obtain ⟨text, rfl, hmatch⟩ := matchesPattern_iff.mp htext
    exact ⟨text, hv, hmatch⟩
  · cases h

theorem any_isBoundedNumber {value : Option Json} {minimum maximum : ℚ}
    (h : value.any (isBoundedNumber minimum maximum) = true) :
    ∃ v x, value = some v ∧ v.asNumber? = some x ∧ minimum ≤ x ∧ x ≤ maximum := by
  obtain ⟨v, hv, hbounded⟩ := (Option.any_eq_true _ _).mp h
  obtain ⟨x, hx, hbounds⟩ := isBoundedNumber_iff.mp hbounded
  exact ⟨v, x, hv, hx, hbounds⟩

theorem validateMetrics_eq_nil {value : Option Json} (h : validateMetrics value = []) :
    ∃ metrics, value = some (.obj metrics) ∧ Json.onlyKeys metrics metricKeys = true ∧
      (∃ v x, metrics.lookup "keyHeight" = some v ∧ v.asNumber? = some x ∧ 32 ≤ x ∧ x ≤ 160) ∧
      (∃ v x, metrics.lookup "keyGap" = some v ∧ v.asNumber? = some x ∧ 0 ≤ x ∧ x ≤ 48) ∧
      (∃ v x, metrics.lookup "keyRadius" = some v ∧ v.asNumber? = some x ∧ 0 ≤ x ∧ x ≤ 80) ∧
      (∃ v x, metrics.lookup "contentPadding" = some v ∧ v.asNumber? = some x ∧ 0 ≤ x ∧
        x ≤ 80) := by
  unfold validateMetrics at h
  split at h
  · next metrics =>
    split_ifs at h with honly
    simp only [List.append_eq_nil_iff, check_eq_nil] at h
    obtain ⟨⟨⟨hheight, hgap⟩, hradius⟩, hpadding⟩ := h
    exact ⟨metrics, rfl, honly, any_isBoundedNumber hheight, any_isBoundedNumber hgap,
      any_isBoundedNumber hradius, any_isBoundedNumber hpadding⟩
  · cases h

theorem validateTypography_eq_nil {value : Option Json} (h : validateTypography value = []) :
    ∃ typography, value = some (.obj typography) ∧
      Json.onlyKeys typography ["keyFontSize", "keyFontWeight"] = true ∧
      (∃ v x, typography.lookup "keyFontSize" = some v ∧ v.asNumber? = some x ∧ 10 ≤ x ∧
        x ≤ 72) ∧
      ∃ text ∈ fontWeights, typography.lookup "keyFontWeight" = some (.str text) := by
  unfold validateTypography at h
  split at h
  · next typography =>
    split_ifs at h with honly
    simp only [List.append_eq_nil_iff, check_eq_nil] at h
    obtain ⟨v, hv, hweight⟩ := (Option.any_eq_true _ _).mp h.2
    obtain ⟨text, hmem, rfl⟩ := isOneOf_iff.mp hweight
    exact ⟨typography, rfl, honly, any_isBoundedNumber h.1, text, hmem, hv⟩
  · cases h

theorem validateAnimation_eq_nil {value : Option Json} (h : validateAnimation value = []) :
    ∀ v, value = some v → ∃ animation, v = .obj animation ∧
      Json.onlyKeys animation ["pressDurationMs", "maskRevealDurationMs"] = true ∧
      (∀ w, animation.lookup "pressDurationMs" = some w → ∃ x, w.asNumber? = some x ∧
        x.isInt = true ∧ 0 ≤ x ∧ x ≤ 500) ∧
      (∀ w, animation.lookup "maskRevealDurationMs" = some w → ∃ x, w.asNumber? = some x ∧
        x.isInt = true ∧ 0 ≤ x ∧ x ≤ 2000) := by
  intro v hv
  subst hv
  unfold validateAnimation at h
  split at h
  · next heq => cases heq
  · next animation heq =>
    cases heq
    split_ifs at h with honly
    simp only [List.append_eq_nil_iff, check_eq_nil, undefinedOr_iff, isBoundedInteger_iff] at h
    exact ⟨animation, rfl, honly, h⟩
  · cases h

/-- A word that is coerced to is what the field, when it is there, becomes. -/
theorem coercesTo_true {words : List String} {value : Option Json}
    (h : coercesTo words value = some true) :
    ∀ w, value = some w → ∃ word ∈ words, w.jsString = some word := by
  intro w hw
  subst hw
  obtain ⟨word, hword, hmem⟩ := Option.map_eq_some_iff.mp h
  exact ⟨word, List.contains_iff_mem.mp hmem, hword⟩

theorem validateFeedback_eq_nil {value : Option Json} (h : validateFeedback value = some []) :
    ∀ v, value = some v → ∃ feedback, v = .obj feedback ∧
      Json.onlyKeys feedback ["haptic", "sound"] = true ∧
      (∀ w, feedback.lookup "haptic" = some w → ∃ word ∈ hapticWords, w.jsString = some word) ∧
      (∀ w, feedback.lookup "sound" = some w → ∃ word ∈ soundWords, w.jsString = some word) := by
  intro v hv
  subst hv
  unfold validateFeedback at h
  split at h
  · next heq => cases heq
  · next feedback heq =>
    cases heq
    split_ifs at h with honly
    · simp only [Option.bind_eq_bind, Option.bind_eq_some_iff, Option.some.injEq,
        List.append_eq_nil_iff, check_eq_nil] at h
      obtain ⟨haptic, hhaptic, sound, hsound, rfl, rfl⟩ := h
      exact ⟨feedback, rfl, honly, coercesTo_true hhaptic, coercesTo_true hsound⟩
    · cases h
  · cases h

/-- **All an accepted theme has.** -/
theorem validateTheme_valid {value : Json} {result : ValidationResult}
    (h : validateTheme value = some result) (hvalid : result.valid = true) :
    ∃ fields colors metrics typography, value = .obj fields ∧
      AcceptedTheme fields colors metrics typography := by
  unfold validateTheme at h
  split at h
  · next fields =>
    obtain ⟨feedback, hfeedback, rfl⟩ := Option.map_eq_some_iff.mp h
    have herrors := of_valid hvalid
    simp only [List.append_eq_nil_iff, check_eq_nil, Option.any_eq_true, isOne_iff] at herrors
    obtain ⟨⟨⟨⟨⟨⟨honly, hversion⟩, hcolors⟩, hmetrics⟩, htypography⟩, hanimation⟩, rfl⟩ := herrors
    obtain ⟨colors, hcolorsEq, hcolorKeys, hcolor⟩ := validateColors_eq_nil hcolors
    obtain ⟨metrics, hmetricsEq, hmetricKeys, hheight, hgap, hradius, hpadding⟩ :=
      validateMetrics_eq_nil hmetrics
    obtain ⟨typography, htypographyEq, htypographyKeys, hsize, hweight⟩ :=
      validateTypography_eq_nil htypography
    exact ⟨fields, colors, metrics, typography, rfl, honly, hversion, hcolorsEq, hcolorKeys, hcolor,
      hmetricsEq, hmetricKeys, hheight, hgap, hradius, hpadding, htypographyEq, htypographyKeys,
      hsize, hweight, validateAnimation_eq_nil hanimation, validateFeedback_eq_nil hfeedback⟩
  · cases h
    cases hvalid

end SecureKeypad.Contracts
