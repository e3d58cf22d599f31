import SecureKeypad.Contracts.Validation
import SecureKeypad.Native.BridgeConfig

/-!
# What the Contract Accepts, the Devices Accept

A configuration that passed the TypeScript check should not fail closed on a device. This module
compares the contract with both native parsers and with the checks of both native views.

Two kinds of configurations pass the one and not the other. The native parsers bound the label a
key is shown with, also when it has none of its own and its icon or its identifier stands in; the
contract bounds a label that is there. And the contract compares the feedback after making a string
of it, so that a word in an array passes.

## Main results

- `parseLayout_iff`: when a native parser takes an accepted layout, and what its view says of it
- `parseTheme_iff`: the same for an accepted theme
- `contract_accepts_iff`: when an accepted configuration passes on both devices
-/

namespace SecureKeypad.Contracts

open Native (InputPolicy KeySpec KeyRole Layout Platform ThemeValues android ios parseKey parseRow
  parseLayout parseTheme androidParseTheme iosParseTheme shownLabel keyRole? publicIdPattern)

/-! ## Patterns on the platforms -/

/-- The platform takes what the pattern matches whole. -/
structure TakesWholeMatches (platform : Platform) : Prop where
  matchesPattern : ∀ pattern text, pattern.wholeMatch text = true →
    platform.matchesPattern pattern text = true
  isKeyId : ∀ id, publicIdPattern.wholeMatch id = true → platform.isKeyId id = true

theorem publicId_matches_iff {s : List Char} :
    publicIdPattern.Matches s ↔ Native.isPublicIdChars s = true := by
  rw [publicIdPattern, Regex.matches_seq]
  constructor
  · rintro ⟨_, tail, rfl, ⟨head, hhead, rfl⟩, -, hmax, hall⟩
    simp only [Native.isPublicIdChars, List.singleton_append, hhead, List.all_eq_true.mpr hall,
      hmax 63 rfl, Bool.and_self, decide_true]
  · intro h
    cases s with
    | nil => cases h
    | cons head tail =>
      simp only [Native.isPublicIdChars, Bool.and_eq_true, decide_eq_true_eq] at h
      refine ⟨[head], tail, rfl, ⟨head, h.1.1, rfl⟩, Nat.zero_le _, ?_, List.all_eq_true.mp h.1.2⟩
      intro bound hbound
      cases hbound
      exact h.2

/-- The pattern is the one of the Android view's model. -/
theorem publicId_wholeMatch (text : String) :
    publicIdPattern.wholeMatch text = Native.isPublicId text := by
  rw [Bool.eq_iff_iff, Regex.wholeMatch_iff, publicId_matches_iff]
  rfl

theorem isIdChar_ascii {c : Char} (h : Native.isIdChar c = true) : c.toNat < 128 := by
  simp only [Native.isIdChar, Native.isIdHead, Char.isLower, Char.isDigit, Bool.or_eq_true,
    Bool.and_eq_true, decide_eq_true_eq] at h
  rcases h with (((⟨-, h⟩ | ⟨-, h⟩) | rfl) | rfl) | rfl
  · exact lt_of_le_of_lt (show c.toNat ≤ 122 from h) (by decide)
  · exact lt_of_le_of_lt (show c.toNat ≤ 57 from h) (by decide)
  · decide
  · decide
  · decide

/-- A text of ASCII characters has a byte for each. -/
theorem utf8ByteSize_of_ascii {text : String} (h : ∀ c ∈ text.toList, c.toNat < 128) :
    text.utf8ByteSize = text.toList.length := by
  rw [← utf8ByteLength_eq, utf8ByteLength]
  generalize text.toList = chars at h
  induction chars with
  | nil => rfl
  | cons c chars ih =>
    have hc : c.toNat ≤ 0x7f := Nat.le_of_lt_succ (h c List.mem_cons_self)
    rw [List.map_cons, List.sum_cons, ih fun d hd => h d (List.mem_cons_of_mem _ hd),
      List.length_cons]
    simp only [if_pos hc]
    omega

/-- A public identifier is ASCII and has 1 to 64 bytes. -/
theorem publicId_ascii {text : String} (h : publicIdPattern.wholeMatch text = true) :
    (text.utf8ByteSize ≤ 64 ∧ 0 < text.utf8ByteSize) ∧ ∀ c ∈ text.toList, c.toNat < 128 := by
  rw [publicId_wholeMatch, Native.isPublicId] at h
  cases hchars : text.toList with
  | nil =>
    rw [hchars] at h
    cases h
  | cons head tail =>
    rw [hchars] at h
    simp only [Native.isPublicIdChars, Bool.and_eq_true, decide_eq_true_eq] at h
    have hhead : Native.isIdChar head = true := by simp [Native.isIdChar, h.1.1]
    have hascii : ∀ c ∈ head :: tail, c.toNat < 128 := by
      intro c hc
      rcases List.mem_cons.mp hc with rfl | hc
      · exact isIdChar_ascii hhead
      · exact isIdChar_ascii (List.all_eq_true.mp h.1.2 c hc)
    have hbytes := utf8ByteSize_of_ascii (hchars ▸ hascii)
    rw [hchars, List.length_cons] at hbytes
    exact ⟨⟨by omega, by omega⟩, hascii⟩

theorem android_takesWholeMatches : TakesWholeMatches android := ⟨fun _ _ h => h, fun _ h => h⟩

theorem ios_takesWholeMatches : TakesWholeMatches ios where
  matchesPattern _ _ h := Regex.icuFind_of_wholeMatch h
  isKeyId id h := by
    obtain ⟨⟨hmax, hmin⟩, hascii⟩ := publicId_ascii h
    have hall : id.toList.all (fun c => c.toNat < 128) = true :=
      List.all_eq_true.mpr fun c hc => decide_eq_true (hascii c hc)
    simp only [ios, hmax, hmin, hall, Regex.icuFind_of_wholeMatch h, decide_true, Bool.and_self]

/-! ## Keys -/

/-- The key an accepted key is parsed to. -/
def keySpec (fields : List (String × Json)) (id : String) (role : KeyRole) : KeySpec where
  id := id
  label := shownLabel fields id
  role := role
  accessibilityLabel :=
    ((fields.lookup "accessibilityLabel").bind Json.asString?).getD (shownLabel fields id)
  testId := (fields.lookup "testId").bind Json.asString?

theorem exists_keyRole {role : String} (h : role ∈ keyRoles) :
    ∃ keyRole, keyRole? role = some keyRole ∧ (keyRole = .input → role = "input") := by
  fin_cases h <;> exact ⟨_, rfl, by decide⟩

/-- The label a key is shown with has at most 16 bytes. -/
def LabelFits : Json → Prop
  | .obj fields => (shownLabel fields ((keyIdOf? (.obj fields)).getD "")).utf8ByteSize ≤ 16
  | _ => True

theorem AcceptedKey.keyIdOf? {fields : List (String × Json)} {id role : String}
    (hkey : AcceptedKey fields id role) : Contracts.keyIdOf? (.obj fields) = some id := by
  simp [Contracts.keyIdOf?, hkey.id_eq, Json.asString?]

/-- A field that is a text when it is there passes any test of such texts. -/
theorem present_of_text {test : Json → Bool} {good : String → Prop} {value : Option Json}
    (htest : ∀ text, good text → test (.str text) = true)
    (h : ∀ v, value = some v → ∃ text, v = .str text ∧ good text) :
    Native.present test value = true := by
  cases value with
  | none => rfl
  | some v =>
    obtain ⟨text, rfl, hgood⟩ := h v rfl
    exact htest text hgood

section Platforms

variable {platform : Platform} (hplatform : TakesWholeMatches platform)

include hplatform

/-- **A key is taken** exactly when the label it is shown with fits. -/
theorem parseKey_eq_some_iff {fields : List (String × Json)} {id role : String}
    (hkey : AcceptedKey fields id role) {spec : KeySpec} :
    parseKey platform (.obj fields) = some spec ↔ (shownLabel fields id).utf8ByteSize ≤ 16 ∧
      ∃ keyRole, keyRole? role = some keyRole ∧ spec = keySpec fields id keyRole := by
  obtain ⟨keyRole, hrole, -⟩ := exists_keyRole hkey.role_mem
  have hlabel : Native.present Native.isText (fields.lookup "label") = true :=
    present_of_text (fun _ _ => rfl) hkey.label
  have hicon : Native.present (Native.textMatches (platform.matchesPattern publicIdPattern))
      (fields.lookup "icon") = true :=
    present_of_text (fun text htext => hplatform.matchesPattern _ text htext) hkey.icon
  have haccessibility :
      Native.present Native.isText (fields.lookup "accessibilityLabel") = true :=
    present_of_text (fun _ _ => rfl) hkey.accessibilityLabel
  have htestId : Native.present (Native.textMatches (platform.matchesPattern publicIdPattern))
      (fields.lookup "testId") = true :=
    present_of_text (fun text htext => hplatform.matchesPattern _ text htext) hkey.testId
  -- the text read out is within its bound, or it is the label
  have hread : (shownLabel fields id).utf8ByteSize ≤ 16 →
      (((fields.lookup "accessibilityLabel").bind Json.asString?).getD
        (shownLabel fields id)).utf8ByteSize ≤ 80 := by
    intro hfits
    cases hvalue : fields.lookup "accessibilityLabel" with
    | none => exact hfits.trans (by decide)
    | some v =>
      obtain ⟨text, rfl, hbytes⟩ := hkey.accessibilityLabel v hvalue
      exact hbytes
  simp only [parseKey, Json.asObject?, hkey.id_eq, hkey.role_eq, Json.asString?, hrole,
    Option.bind_eq_bind, Option.bind_some, Option.bind_eq_some_iff, Option.guard_eq_some',
    hkey.onlyKeys, hplatform.isKeyId id hkey.id_matches, hlabel, hicon, haccessibility, htestId,
    exists_const, true_and, Option.pure_def, Option.some.injEq]
  constructor
  · rintro ⟨hfits, -, rfl⟩
    exact ⟨hfits, keyRole, rfl, rfl⟩
  · rintro ⟨hfits, _, rfl, rfl⟩
    exact ⟨hfits, hread hfits, rfl⟩

theorem parseKey_isSome_iff {fields : List (String × Json)} {id role : String}
    (hkey : AcceptedKey fields id role) :
    (∃ spec, parseKey platform (.obj fields) = some spec) ↔ LabelFits (.obj fields) := by
  obtain ⟨keyRole, hrole, -⟩ := exists_keyRole hkey.role_mem
  simp only [parseKey_eq_some_iff hplatform hkey, LabelFits, hkey.keyIdOf?, Option.getD_some]
  constructor
  · rintro ⟨spec, hfits, -⟩
    exact hfits
  · intro hfits
    exact ⟨_, hfits, keyRole, hrole, rfl⟩

/-- What the parser made of an accepted key passes the checks of both views. -/
theorem parsedKey_valid {policy : InputPolicy} {fields : List (String × Json)} {id role : String}
    (hkey : AcceptedKey fields id role)
    (hcanonical : role = "input" → tsIsCanonicalInputKeyId id policy = true) {spec : KeySpec}
    (h : parseKey platform (.obj fields) = some spec) :
    Contracts.keyIdOf? (.obj fields) = some spec.id ∧ Native.isValidKey policy spec = true ∧
      Native.iosIsValidKey policy spec = true := by
  obtain ⟨hfits, keyRole, hrole, rfl⟩ := (parseKey_eq_some_iff hplatform hkey).mp h
  obtain ⟨keyRole', hrole', hinput⟩ := exists_keyRole hkey.role_mem
  cases hrole.symm.trans hrole'
  -- The label that is read out fits: it is the fallback or was checked by the contract.
  have hread : (keySpec fields id keyRole).accessibilityLabel.utf8ByteSize ≤ 80 := by
    simp only [keySpec]
    cases hvalue : fields.lookup "accessibilityLabel" with
    | none => exact hfits.trans (by decide)
    | some v =>
      obtain ⟨text, rfl, hbytes⟩ := hkey.accessibilityLabel v hvalue
      exact hbytes
  have htestId : ∀ text ∈ (keySpec fields id keyRole).testId,
      publicIdPattern.wholeMatch text = true := by
    intro text htext
    simp only [keySpec, Option.mem_def] at htext
    obtain ⟨v, hv, hstring⟩ := Option.bind_eq_some_iff.mp htext
    obtain ⟨text', rfl, hmatch⟩ := hkey.testId v hv
    cases hstring
    exact hmatch
  -- An input key is canonical for the policy, on both platforms the same list.
  have hpolicy : keyRole = .input → id ∈ canonicalKeyIds policy := fun heq =>
    tsIsCanonicalInputKeyId_iff.mp (hcanonical (hinput heq))
  obtain ⟨⟨hmax, hmin⟩, hascii⟩ := publicId_ascii hkey.id_matches
  refine ⟨hkey.keyIdOf?, ?_, ?_⟩
  · simp only [Native.isValidKey, Bool.and_eq_true, Bool.or_eq_true, decide_eq_true_eq]
    refine ⟨⟨⟨⟨?_, ?_⟩, ?_⟩, hfits⟩, hread⟩
    · rw [← publicId_wholeMatch]
      exact hkey.id_matches
    · refine (Option.all_eq_true _ _).mpr fun text htext => ?_
      rw [← publicId_wholeMatch]
      exact htestId text htext
    · by_cases heq : keyRole = .input
      · refine .inr ?_
        rw [androidIsCanonicalInputKeyId_eq]
        exact androidIsCanonicalInputKeyId_iff.mpr (hpolicy heq)
      · exact .inl heq
  -- The iOS view searches, where a whole match is more than is needed.
  · simp only [Native.iosIsValidKey, Bool.and_eq_true, Bool.or_eq_true, decide_eq_true_eq]
    refine ⟨⟨⟨⟨⟨⟨⟨hmin, hmax⟩, Regex.icuFind_of_wholeMatch hkey.id_matches⟩, ?_⟩, ?_⟩, hfits⟩,
      hread⟩, ?_⟩
    · exact (Option.all_eq_true _ _).mpr fun text htext =>
        Regex.icuFind_of_wholeMatch (htestId text htext)
    · exact List.all_eq_true.mpr fun c hc => decide_eq_true (hascii c hc)
    · by_cases heq : keyRole = .input
      · exact .inr (iosIsCanonicalInputKeyId_iff.mpr (.inl (hpolicy heq)))
      · exact .inl heq

omit hplatform in
/-- What a row of keys is parsed to. -/
theorem parseRow_eq_some_iff {row : List Json} {parsed : List KeySpec}
    (hlength : 1 ≤ row.length ∧ row.length ≤ 32) :
    parseRow platform (.arr row) = some parsed ↔
      List.Forall₂ (fun key spec => parseKey platform key = some spec) row parsed := by
  simp only [parseRow, Json.asArray?, Option.bind_eq_bind, Option.bind_some,
    Option.bind_eq_some_iff, Option.guard_eq_some', hlength, and_self, exists_const, true_and,
    Json.mapM_eq_some_iff]

omit hplatform in
/-- What rows of keys are parsed to. -/
theorem parseRows_eq_some_iff {rows : List (List Json)} {parsed : List (List KeySpec)}
    (hlengths : ∀ row ∈ rows, 1 ≤ row.length ∧ row.length ≤ 32) :
    (rows.map Json.arr).mapM (parseRow platform) = some parsed ↔ List.Forall₂
      (List.Forall₂ fun key spec => parseKey platform key = some spec) rows parsed := by
  rw [Json.mapM_eq_some_iff, List.forall₂_map_left_iff]
  induction rows generalizing parsed with
  | nil => cases parsed <;> simp
  | cons row rows ih =>
    obtain ⟨hrow, hrows⟩ := List.forall_mem_cons.mp hlengths
    cases parsed with
    | nil => simp
    | cons first rest =>
      rw [List.forall₂_cons, List.forall₂_cons, parseRow_eq_some_iff hrow, ih hrows]

section Rows

variable {policy : InputPolicy} {rows : List (List Json)}
  (hkeys : ∀ key ∈ rows.flatten, ∃ fields id role, key = .obj fields ∧
    AcceptedKey fields id role ∧ (role = "input" → tsIsCanonicalInputKeyId id policy = true))

include hkeys

/-- **The rows are taken** exactly when all labels fit. -/
theorem parseRows_isSome_iff (hlengths : ∀ row ∈ rows, 1 ≤ row.length ∧ row.length ≤ 32) :
    (∃ parsed, (rows.map Json.arr).mapM (parseRow platform) = some parsed) ↔
      ∀ key ∈ rows.flatten, LabelFits key := by
  have hkey : ∀ key ∈ rows.flatten,
      (∃ spec, parseKey platform key = some spec) ↔ LabelFits key := by
    intro key hmem
    obtain ⟨fields, id, role, rfl, hshape, -⟩ := hkeys key hmem
    exact parseKey_isSome_iff hplatform hshape
  constructor
  · rintro ⟨parsed, hparsed⟩ key hmem
    have hflat := List.rel_flatten ((parseRows_eq_some_iff hlengths).mp hparsed)
    obtain ⟨spec, -, hspec⟩ := Json.exists_parsed hflat key hmem
    exact (hkey key hmem).mp ⟨spec, hspec⟩
  · intro hfits
    refine Json.exists_mapM_eq_some fun value hvalue => ?_
    obtain ⟨row, hrow, rfl⟩ := List.mem_map.mp hvalue
    obtain ⟨parsed, hparsed⟩ := @Json.exists_mapM_eq_some _ _ (parseKey platform) row
      fun key hmemRow => (hkey key (List.mem_flatten.mpr ⟨row, hrow, hmemRow⟩)).mpr
        (hfits key (List.mem_flatten.mpr ⟨row, hrow, hmemRow⟩))
    exact ⟨parsed, (parseRow_eq_some_iff (hlengths row hrow)).mpr
      (Json.mapM_eq_some_iff.mp hparsed)⟩

/-- What the rows were parsed to has their shape and their identifiers, and passes. -/
theorem parsedRows_valid {parsed : List (List KeySpec)} (h : List.Forall₂
      (List.Forall₂ fun key spec => parseKey platform key = some spec) rows parsed) :
    parsed.flatten.map KeySpec.id = rows.flatten.filterMap keyIdOf? ∧
      ∀ spec ∈ parsed.flatten, Native.isValidKey policy spec = true ∧
        Native.iosIsValidKey policy spec = true := by
  have hflat := List.rel_flatten h
  generalize rows.flatten = keys at hflat hkeys
  generalize parsed.flatten = specs at hflat
  induction hflat with
  | nil => simp
  | cons hfirst _ ih =>
    obtain ⟨hkey, hothers⟩ := List.forall_mem_cons.mp hkeys
    obtain ⟨fields, id, role, rfl, hshape, hcanonical⟩ := hkey
    obtain ⟨hid, hvalid⟩ := parsedKey_valid hplatform hshape hcanonical hfirst
    obtain ⟨hids, hrest⟩ := ih hothers
    exact ⟨by rw [List.map_cons, List.filterMap_cons_some hid, hids],
      List.forall_mem_cons.mpr ⟨hvalid, hrest⟩⟩

end Rows

/-! ## Layouts -/

omit hplatform in
theorem exists_direction {value : Option Json}
    (h : ∀ v, value = some v → ∃ text ∈ ["ltr", "rtl"], v = .str text) :
    ∃ direction, Native.parseDirection value = some direction := by
  cases value with
  | none => exact ⟨.ltr, rfl⟩
  | some v =>
    obtain ⟨text, hmem, rfl⟩ := h v rfl
    fin_cases hmem
    · exact ⟨.ltr, rfl⟩
    · exact ⟨.rtl, rfl⟩

omit hplatform in
theorem exists_randomize {value : Option Json} (h : ∀ v, value = some v → ∃ b, v = .bool b) :
    ∃ randomize, Native.parseRandomize value = some randomize := by
  cases value with
  | none => exact ⟨false, rfl⟩
  | some v =>
    obtain ⟨b, rfl⟩ := h v rfl
    exact ⟨b, rfl⟩

omit hplatform in
/-- An optional map that is an object of allowed keys is taken. -/
theorem exists_optionalMap {value : Option Json} {allowed : List String}
    {good : List (String × Json) → Prop}
    (h : ∀ v, value = some v → ∃ map, v = .obj map ∧ Json.onlyKeys map allowed = true ∧ good map) :
    ∃ map?, Native.optionalMap platform value allowed = some map? ∧ value = map?.map Json.obj ∧
      ∀ map ∈ map?, good map := by
  cases value with
  | none => exact ⟨none, rfl, rfl, by simp⟩
  | some v =>
    obtain ⟨map, rfl, honly, hgood⟩ := h v rfl
    refine ⟨some map, if_pos honly, rfl, ?_⟩
    intro map' hmap'
    cases hmap'
    exact hgood

/-- **An accepted layout is taken** exactly when its rows are. -/
theorem parseLayout_eq_some_iff {policy : InputPolicy} {fields : List (String × Json)}
    {rows : List (List Json)} (hlayout : AcceptedLayout policy fields rows) :
    ∃ direction randomize slots, ∀ layout, parseLayout platform fields = some layout ↔
      ∃ parsed, (rows.map Json.arr).mapM (parseRow platform) = some parsed ∧
        layout = ⟨parsed, direction, randomize, slots⟩ := by
  obtain ⟨direction, hdirection⟩ := exists_direction hlayout.direction
  obtain ⟨randomize, hrandomize⟩ := exists_randomize hlayout.randomizeInputKeys
  obtain ⟨slots, hslots, -, hbooleans⟩ := @exists_optionalMap platform _ _ _ hlayout.slots
  obtain ⟨version, hversionField, hversion⟩ := hlayout.schemaVersion
  have hid : Native.present (Native.textMatches (platform.matchesPattern publicIdPattern))
      (fields.lookup "id") = true :=
    present_of_text (fun text htext => hplatform.matchesPattern _ text htext) hlayout.id
  have hlocale : Native.present
      (Native.textMatches (platform.matchesPattern Native.publicLocalePattern))
      (fields.lookup "locale") = true :=
    present_of_text (fun text htext => hplatform.matchesPattern _ text htext) hlayout.locale
  have hall : slots.all (fun slots => (Json.values slots).all fun value => value.asBool?.isSome) =
      true := by
    refine (Option.all_eq_true _ _).mpr fun map hmap => List.all_eq_true.mpr fun value hvalue => ?_
    exact Json.asBool?_isSome.mpr (hbooleans map hmap value hvalue)
  -- no identifier comes twice, since none does in the layout
  have hnodup : ∀ parsed, (rows.map Json.arr).mapM (parseRow platform) = some parsed →
      (parsed.flatten.map KeySpec.id).Nodup := by
    intro parsed hparsed
    rw [(parsedRows_valid hplatform hlayout.keys
      ((parseRows_eq_some_iff hlayout.row_length).mp hparsed)).1]
    exact hlayout.ids_nodup
  refine ⟨direction, randomize, ⟨Native.slot slots "header", Native.slot slots "display",
    Native.slot slots "footer", Native.slot slots "error"⟩, fun layout => ?_⟩
  simp only [parseLayout, hlayout.onlyKeys, hversionField, hversion, hid, hlocale, hdirection,
    hrandomize, hslots, hall, hlayout.rows_eq, Json.asArray?, Option.bind_eq_bind,
    Option.bind_some, Option.bind_eq_some_iff, Option.guard_eq_some', List.length_map,
    hlayout.rows_length, and_self, exists_const, true_and, Option.pure_def, Option.some.injEq]
  constructor
  · rintro ⟨parsed, hparsed, _, heq⟩
    exact ⟨parsed, hparsed, heq.symm⟩
  · rintro ⟨parsed, hparsed, heq⟩
    exact ⟨parsed, hparsed, hnodup parsed hparsed, heq.symm⟩

/-- **When an accepted layout is taken**, and what the views say of it. -/
theorem parseLayout_iff {policy : InputPolicy} {fields : List (String × Json)}
    {rows : List (List Json)} (hlayout : AcceptedLayout policy fields rows) :
    ((∃ layout, parseLayout platform fields = some layout) ↔
        ∀ key ∈ rows.flatten, LabelFits key) ∧
      ∀ layout, parseLayout platform fields = some layout →
        Native.validateLayout layout policy = true ∧
          Native.iosValidateLayout layout policy = true := by
  obtain ⟨direction, randomize, slots, hparse⟩ := parseLayout_eq_some_iff hplatform hlayout
  constructor
  · rw [← parseRows_isSome_iff hplatform hlayout.keys hlayout.row_length]
    simp only [hparse]
    constructor
    · intro ⟨_, parsed, hparsed, _⟩
      exact ⟨parsed, hparsed⟩
    · intro ⟨parsed, hparsed⟩
      exact ⟨_, parsed, hparsed, rfl⟩
  · intro layout h
    obtain ⟨parsed, hparsed, rfl⟩ := (hparse layout).mp h
    have hrows := (parseRows_eq_some_iff hlayout.row_length).mp hparsed
    obtain ⟨hids, hvalid⟩ := parsedRows_valid hplatform hlayout.keys hrows
    have hlength := hrows.length_eq
    -- the rows keep their lengths, so that there are at most 16 of at most 32 keys
    have hrowLength : ∀ row ∈ parsed, 1 ≤ row.length ∧ row.length ≤ 32 := by
      intro row hrow
      obtain ⟨source, hsource, hkeys⟩ := Json.exists_source hrows row hrow
      rw [← hkeys.length_eq]
      exact hlayout.row_length source hsource
    have htotal : parsed.flatten.length ≤ 512 := by
      rw [List.length_flatten]
      calc (parsed.map List.length).sum
          ≤ (parsed.map List.length).length • 32 :=
            List.sum_le_card_nsmul _ _ fun n hn => by
              obtain ⟨row, hrow, rfl⟩ := List.mem_map.mp hn
              exact (hrowLength row hrow).2
        _ ≤ 16 • 32 := by
            rw [List.length_map, ← hlength]
            exact Nat.mul_le_mul_right 32 hlayout.rows_length.2
    have hshape : 1 ≤ parsed.length ∧ parsed.length ≤ 16 := hlength ▸ hlayout.rows_length
    have hnodup : (parsed.flatten.map KeySpec.id).Nodup := by
      rw [hids]
      exact hlayout.ids_nodup
    constructor
    · simp only [Native.validateLayout, Bool.and_eq_true, decide_eq_true_eq, List.all_eq_true]
      exact ⟨⟨⟨⟨hshape, hrowLength⟩, htotal⟩, fun spec hspec => (hvalid spec hspec).1⟩, hnodup⟩
    · simp only [Native.iosValidateLayout, Bool.and_eq_true, decide_eq_true_eq, List.all_eq_true]
      exact ⟨⟨⟨⟨hshape, hrowLength⟩, htotal⟩, fun spec hspec => (hvalid spec hspec).2⟩, hnodup⟩

end Platforms

/-! ## Themes -/

/-- The feedback of a theme, where it is there, is given by texts. -/
def TextFeedback (theme : List (String × Json)) : Prop :=
  ∀ feedback, theme.lookup "feedback" = some (.obj feedback) → ∀ name ∈ ["haptic", "sound"],
    ∀ value, feedback.lookup name = some value → Native.isText value = true

/-- The bounds every theme the parser made is within. -/
structure InBounds {Color : Type} (values : ThemeValues Color) : Prop where
  keyHeight : 32 ≤ values.keyHeight ∧ values.keyHeight ≤ 160
  keyGap : 0 ≤ values.keyGap ∧ values.keyGap ≤ 48
  keyRadius : 0 ≤ values.keyRadius ∧ values.keyRadius ≤ 80
  contentPadding : 0 ≤ values.contentPadding ∧ values.contentPadding ≤ 80
  keyFontSize : 10 ≤ values.keyFontSize ∧ values.keyFontSize ≤ 72
  keyFontWeight : values.keyFontWeight ∈ [400, 500, 600, 700]
  pressDurationMs : 0 ≤ values.pressDurationMs ∧ values.pressDurationMs ≤ 500
  maskRevealDurationMs : 0 ≤ values.maskRevealDurationMs ∧ values.maskRevealDurationMs ≤ 2000

theorem number_of_bounded {value : Option Json} {minimum maximum : ℚ}
    (h : ∃ v x, value = some v ∧ v.asNumber? = some x ∧ minimum ≤ x ∧ x ≤ maximum) :
    ∃ x, Native.number minimum maximum value = some x ∧ minimum ≤ x ∧ x ≤ maximum := by
  obtain ⟨v, x, rfl, hx, hmin, hmax⟩ := h
  refine ⟨x, ?_, hmin, hmax⟩
  simp [Native.number, hx, hmin, hmax]

/-- A whole number within bounds that are whole numbers. -/
theorem boundedInteger_of_bounded {v : Json} {minimum maximum : ℤ}
    (h : ∃ x, v.asNumber? = some x ∧ x.isInt = true ∧ (minimum : ℚ) ≤ x ∧ x ≤ (maximum : ℚ)) :
    ∃ n, Native.boundedInteger minimum maximum (some v) = some n ∧ minimum ≤ n ∧ n ≤ maximum := by
  obtain ⟨x, hx, hint, hmin, hmax⟩ := h
  have hnum : (x.num : ℚ) = x := Rat.coe_int_num_of_den_eq_one (by simpa [Rat.isInt] using hint)
  refine ⟨x.num, ?_, ?_, ?_⟩
  · simp [Native.boundedInteger, hx, hint, hmin, hmax]
  · rw [← hnum] at hmin
    exact_mod_cast hmin
  · rw [← hnum] at hmax
    exact_mod_cast hmax

theorem fieldOr_integer {map? : Option (List (String × Json))} {name : String}
    {default minimum maximum : ℤ} (hdefault : minimum ≤ default ∧ default ≤ maximum)
    (h : ∀ map ∈ map?, ∀ w, map.lookup name = some w →
      ∃ x, w.asNumber? = some x ∧ x.isInt = true ∧ (minimum : ℚ) ≤ x ∧ x ≤ (maximum : ℚ)) :
    ∃ n, Native.fieldOr default (fun value => Native.boundedInteger minimum maximum (some value))
      map? name = some n ∧ minimum ≤ n ∧ n ≤ maximum := by
  unfold Native.fieldOr
  split
  · exact ⟨default, rfl, hdefault⟩
  · next value hvalue =>
    obtain ⟨map, hmap, hlookup⟩ := Option.bind_eq_some_iff.mp hvalue
    exact boundedInteger_of_bounded (h map hmap value hlookup)

/-- A word that is spelled is read exactly when it is spelled by a text. -/
theorem fieldOr_word {α : Type} {parse : String → Option α} {words : List String}
    (hwords : ∀ word ∈ words, ∃ value, parse word = some value) {default : α}
    {map? : Option (List (String × Json))} {name : String}
    (h : ∀ map ∈ map?, ∀ w, map.lookup name = some w → ∃ word ∈ words, w.jsString = some word) :
    (∃ value, Native.fieldOr default (fun value => value.asString?.bind parse) map? name =
      some value) ↔
      ∀ map ∈ map?, ∀ w, map.lookup name = some w → Native.isText w = true := by
  unfold Native.fieldOr
  split
  · next hnone =>
    refine iff_of_true ⟨default, rfl⟩ fun map hmap w hw => ?_
    rw [Option.mem_def.mp hmap, Option.bind_some, hw] at hnone
    cases hnone
  · next value hvalue =>
    obtain ⟨map, rfl, hlookup⟩ := Option.bind_eq_some_iff.mp hvalue
    obtain ⟨word, hmem, hword⟩ := h map rfl value hlookup
    have hforall : (∀ map' ∈ some map, ∀ w, map'.lookup name = some w →
        Native.isText w = true) ↔ Native.isText value = true := by
      simp [hlookup]
    rw [hforall]
    cases value with
    | str text =>
      rw [Json.jsString, Option.some.injEq] at hword
      subst hword
      exact iff_of_true (hwords text hmem) rfl
    | _ => simp [Json.asString?, Native.isText]

theorem exists_hapticFeedback : ∀ word ∈ hapticWords,
    ∃ value, Native.hapticFeedback? word = some value := by
  intro word hword
  fin_cases hword <;> exact ⟨_, rfl⟩

theorem exists_soundFeedback : ∀ word ∈ soundWords,
    ∃ value, Native.soundFeedback? word = some value := by
  intro word hword
  fin_cases hword <;> exact ⟨_, rfl⟩

theorem exists_fontWeight {value : Option Json}
    (h : ∃ text ∈ fontWeights, value = some (.str text)) :
    ∃ weight, Native.fontWeight value = some weight ∧ weight ∈ [400, 500, 600, 700] := by
  obtain ⟨text, hmem, rfl⟩ := h
  fin_cases hmem <;> exact ⟨_, rfl, by decide⟩


/-- A parser goes on with what it has read. -/
theorem some_bind {α β : Type} {x : Option α} {a : α} (h : x = some a) (f : α → Option β) :
    (x >>= f) = f a := by
  rw [h]
  rfl

theorem guard_bind {β : Type} {p : Prop} [Decidable p] (h : p) (f : Unit → Option β) :
    (guard p >>= f) = f () := by
  rw [guard, if_pos h]
  rfl

section ThemeFields

variable {fields colors metrics typography : List (String × Json)}
  (htheme : AcceptedTheme fields colors metrics typography)

include htheme

theorem AcceptedTheme.colorField {Color : Type} {color : String → Option Color}
    (hcolor : ∀ text, colorPattern.wholeMatch text = true → ∃ c, color text = some c) :
    ∀ key ∈ colorKeys, ∃ c, Native.colorField color colors key = some c := by
  intro key hkey
  obtain ⟨text, htext, hmatch⟩ := htheme.color key hkey
  obtain ⟨c, hc⟩ := hcolor text hmatch
  refine ⟨c, ?_⟩
  rw [Native.colorField, htext]
  exact hc

/-- The colours and the metrics are the required ones. -/
theorem AcceptedTheme.exactKeys :
    Native.exactKeys colors colorKeys = true ∧ Native.exactKeys metrics metricKeys = true := by
  have hcolors : ∀ key ∈ colorKeys, ∃ value, colors.lookup key = some value := by
    intro key hkey
    obtain ⟨text, htext, -⟩ := htheme.color key hkey
    exact ⟨_, htext⟩
  have hmetrics : ∀ key ∈ metricKeys, ∃ value, metrics.lookup key = some value := by
    obtain ⟨height, _, hheight, -⟩ := htheme.keyHeight
    obtain ⟨gap, _, hgap, -⟩ := htheme.keyGap
    obtain ⟨radius, _, hradius, -⟩ := htheme.keyRadius
    obtain ⟨padding, _, hpadding, -⟩ := htheme.contentPadding
    intro key hkey
    fin_cases hkey
    exacts [⟨height, hheight⟩, ⟨gap, hgap⟩, ⟨radius, hradius⟩, ⟨padding, hpadding⟩]
  simp only [Native.exactKeys, Bool.and_eq_true, decide_eq_true_eq]
  exact ⟨⟨Json.length_keys_eq htheme.colors_keys hcolors (by decide), htheme.colors_keys⟩,
    Json.length_keys_eq htheme.metrics_keys hmetrics (by decide), htheme.metrics_keys⟩

/-- **When an accepted theme is taken**, on a platform that takes the colours of the contract, and
    the bounds its values are within. -/
theorem parseTheme_iff {platform : Platform} {Color : Type} {color : String → Option Color}
    (hcolor : ∀ text, colorPattern.wholeMatch text = true → ∃ c, color text = some c) :
    ((∃ values, parseTheme platform color fields = some values) ↔ TextFeedback fields) ∧
      ∀ values, parseTheme platform color fields = some values → InBounds values := by
  obtain ⟨version, hversionField, hversion⟩ := htheme.schemaVersion
  obtain ⟨hcolorKeys, hmetricKeys⟩ := htheme.exactKeys
  have hcolors := htheme.colorField hcolor
  obtain ⟨background, hbackground⟩ := hcolors "background" (by decide)
  obtain ⟨keyColor, hkeyColor⟩ := hcolors "keyBackground" (by decide)
  obtain ⟨keyTextColor, hkeyTextColor⟩ := hcolors "keyForeground" (by decide)
  obtain ⟨keyPressedColor, hkeyPressedColor⟩ := hcolors "keyPressedBackground" (by decide)
  obtain ⟨_, hdisabled⟩ := hcolors "keyDisabledBackground" (by decide)
  obtain ⟨_, herror⟩ := hcolors "error" (by decide)
  obtain ⟨keyHeight, hkeyHeight, hheight⟩ := number_of_bounded htheme.keyHeight
  obtain ⟨keyGap, hkeyGap, hgap⟩ := number_of_bounded htheme.keyGap
  obtain ⟨keyRadius, hkeyRadius, hradius⟩ := number_of_bounded htheme.keyRadius
  obtain ⟨contentPadding, hcontentPadding, hpadding⟩ := number_of_bounded htheme.contentPadding
  obtain ⟨keyFontSize, hkeyFontSize, hsize⟩ := number_of_bounded htheme.keyFontSize
  obtain ⟨keyFontWeight, hkeyFontWeight, hweight⟩ := exists_fontWeight htheme.keyFontWeight
  have hversionEq : (fields.lookup "schemaVersion").bind Json.asNumber? = some 1 := by
    rw [hversionField]
    exact hversion
  have hcolorsField : (fields.lookup "colors").bind Json.asObject? = some colors := by
    rw [htheme.colors_eq]
    rfl
  have hmetricsField : (fields.lookup "metrics").bind Json.asObject? = some metrics := by
    rw [htheme.metrics_eq]
    rfl
  have htypography : Native.optionalMap platform (fields.lookup "typography")
      ["keyFontSize", "keyFontWeight"] = some (some typography) := by
    rw [htheme.typography_eq]
    exact if_pos htheme.typography_keys
  obtain ⟨animation, hanimation, -, hdurations⟩ := @exists_optionalMap platform _ _ _
    htheme.animation
  obtain ⟨pressDuration, hpressDuration, hpress⟩ :=
    @fieldOr_integer animation "pressDurationMs" 80 0 500 (by decide)
      fun map hmap => by exact_mod_cast (hdurations map hmap).1
  obtain ⟨maskDuration, hmaskDuration, hmask⟩ :=
    @fieldOr_integer animation "maskRevealDurationMs" 0 0 2000 (by decide)
      fun map hmap => by exact_mod_cast (hdurations map hmap).2
  obtain ⟨feedback, hfeedback, hfeedbackField, hwords⟩ := @exists_optionalMap platform _ _ _
    htheme.feedback
  have hhaptic := @fieldOr_word _ _ _ exists_hapticFeedback .light feedback "haptic"
    fun map hmap => (hwords map hmap).1
  have hsound := @fieldOr_word _ _ _ exists_soundFeedback .none feedback "sound"
    fun map hmap => (hwords map hmap).2
  have htext : TextFeedback fields ↔
      (∃ value, Native.fieldOr .light (fun value => value.asString?.bind Native.hapticFeedback?)
        feedback "haptic" = some value) ∧
      ∃ value, Native.fieldOr .none (fun value => value.asString?.bind Native.soundFeedback?)
        feedback "sound" = some value := by
    rw [hhaptic, hsound, TextFeedback, hfeedbackField]
    cases feedback <;> simp
  have hparse : ∀ values, parseTheme platform color fields = some values ↔ ∃ haptic sound,
      Native.fieldOr .light (fun value => value.asString?.bind Native.hapticFeedback?)
        feedback "haptic" = some haptic ∧
      Native.fieldOr .none (fun value => value.asString?.bind Native.soundFeedback?)
        feedback "sound" = some sound ∧
      values = { background, keyColor, keyPressedColor, keyTextColor, keyHeight, keyGap, keyRadius,
                 contentPadding, keyFontSize, keyFontWeight, pressDurationMs := pressDuration,
                 maskRevealDurationMs := maskDuration, hapticFeedback := haptic,
                 soundFeedback := sound } := by
    intro values
    rw [colorKeys] at hcolorKeys
    rw [metricKeys] at hmetricKeys
    rw [Int.cast_zero, Int.cast_ofNat] at hpressDuration hmaskDuration
    -- the fields are read one after another, to the two that need not be texts
    rw [parseTheme, guard_bind htheme.onlyKeys, guard_bind hversionEq, some_bind hcolorsField,
      some_bind hmetricsField, guard_bind hcolorKeys, guard_bind hmetricKeys,
      some_bind htypography, some_bind rfl, some_bind hkeyHeight, some_bind hkeyGap,
      some_bind hkeyRadius, some_bind hcontentPadding, some_bind hdisabled, some_bind herror,
      some_bind hkeyFontSize, some_bind hkeyFontWeight, some_bind hanimation,
      some_bind hpressDuration, some_bind hmaskDuration, some_bind hfeedback]
    simp only [hbackground, hkeyColor, hkeyPressedColor, hkeyTextColor, Option.bind_eq_bind,
      Option.bind_some, Option.bind_eq_some_iff, Option.pure_def, Option.some.injEq]
    constructor
    · intro ⟨haptic, hhaptic, sound, hsound, heq⟩
      exact ⟨haptic, sound, hhaptic, hsound, heq.symm⟩
    · intro ⟨haptic, sound, hhaptic, hsound, heq⟩
      exact ⟨haptic, hhaptic, sound, hsound, heq.symm⟩
  constructor
  · rw [htext]
    simp only [hparse]
    constructor
    · intro ⟨_, haptic, sound, hhaptic, hsound, _⟩
      exact ⟨⟨haptic, hhaptic⟩, sound, hsound⟩
    · intro ⟨⟨haptic, hhaptic⟩, sound, hsound⟩
      exact ⟨_, haptic, sound, hhaptic, hsound, rfl⟩
  · intro values h
    obtain ⟨haptic, sound, -, -, rfl⟩ := (hparse values).mp h
    exact ⟨hheight, hgap, hradius, hpadding, hsize, hweight, hpress, hmask⟩

end ThemeFields

/-! ## The views on themes -/

/-- The bounds are whole numbers that the format has, so that rounding does not cross them. -/
theorem toFloat_bounds {minimum maximum : ℤ} {x : ℚ} (hmin : 0 ≤ minimum) (hmax : maximum < 256)
    (h : minimum ≤ x ∧ x ≤ maximum) :
    minimum ≤ Native.toFloat x ∧ Native.toFloat x ≤ maximum := by
  have hrange : |x| < 2 ^ 8 := by
    have hlow : (0 : ℚ) ≤ minimum := by exact_mod_cast hmin
    have hhigh : (maximum : ℚ) < 2 ^ 8 := by exact_mod_cast hmax
    rw [abs_of_nonneg (hlow.trans h.1)]
    exact h.2.trans_lt hhigh
  have hstep : Rounding.stepExponent 24 (-149) x ≤ 0 :=
    Rounding.stepExponent_le (by decide : 0 < 8) hrange (by decide) (by decide)
  have hlow := @Rounding.le_toBinary 24 (-149) 0 minimum x hstep (by simpa using h.1)
  have hhigh := @Rounding.toBinary_le 24 (-149) 0 maximum x hstep (by simpa using h.2)
  rw [zpow_zero, mul_one] at hlow hhigh
  exact ⟨hlow, hhigh⟩

theorem toInt_bounds {minimum maximum : ℤ} {y : ℚ} (hmin : 0 ≤ minimum)
    (h : minimum ≤ y ∧ y ≤ maximum) :
    minimum ≤ Native.toInt y ∧ Native.toInt y ≤ maximum := by
  have hnonneg : 0 ≤ y := (Int.cast_nonneg hmin).trans h.1
  have hfloor := (Int.floor_le y).trans h.2
  rw [Native.toInt, if_pos hnonneg]
  exact ⟨Int.le_floor.mpr h.1, by exact_mod_cast hfloor⟩

/-- A duration in seconds is within its bound, where that is a power of two. -/
theorem timeInterval_bounds {milliseconds : ℤ} {exponent : ℤ}
    (hexponent : -51 ≤ exponent ∧ exponent ≤ 1)
    (h : 0 ≤ milliseconds ∧ (milliseconds : ℚ) / 1000 ≤ 2 ^ exponent) :
    0 ≤ Native.timeInterval milliseconds ∧ Native.timeInterval milliseconds ≤ 2 ^ exponent := by
  have hnonneg : (0 : ℚ) ≤ (milliseconds : ℚ) / 1000 := by
    have hcast : (0 : ℚ) ≤ milliseconds := by exact_mod_cast h.1
    positivity
  have hrange : |(milliseconds : ℚ) / 1000| < 2 ^ 2 := by
    rw [abs_of_nonneg hnonneg]
    calc (milliseconds : ℚ) / 1000 ≤ 2 ^ exponent := h.2
      _ ≤ 2 ^ (1 : ℤ) := zpow_le_zpow_right₀ one_le_two hexponent.2
      _ < 2 ^ 2 := by norm_num
  have hstep : Rounding.stepExponent 53 (-1074) ((milliseconds : ℚ) / 1000) ≤ exponent :=
    Rounding.stepExponent_le (by decide : 0 < 2) hrange (by push_cast; omega) (by omega)
  have hlow := @Rounding.le_toBinary 53 (-1074) exponent 0 _ hstep (by simpa using hnonneg)
  have hhigh := @Rounding.toBinary_le 53 (-1074) exponent 1 _ hstep (by simpa using h.2)
  rw [Int.cast_zero, zero_mul] at hlow
  rw [Int.cast_one, one_mul] at hhigh
  exact ⟨hlow, hhigh⟩

/-- **A theme within bounds passes the Android view**, and the last check of its parser. -/
theorem InBounds.android {values : ThemeValues (BitVec 32)} (h : InBounds values) :
    0 ≤ Native.toFloat values.contentPadding ∧
      Native.androidValidateTheme (Native.androidTheme values) = true := by
  obtain ⟨hheight, hgap, hradius, hpadding, hsize, hweight, hpress, hmask⟩ := h
  have hheightPx := toInt_bounds (by decide)
    (@toFloat_bounds 32 160 _ (by decide) (by decide) (by exact_mod_cast hheight))
  have hgapPx := toInt_bounds (by decide)
    (@toFloat_bounds 0 48 _ (by decide) (by decide) (by exact_mod_cast hgap))
  have hradiusPx := @toFloat_bounds 0 80 _ (by decide) (by decide) (by exact_mod_cast hradius)
  have hsizePx := @toFloat_bounds 10 72 _ (by decide) (by decide) (by exact_mod_cast hsize)
  have hpaddingFloat :=
    @toFloat_bounds 0 80 _ (by decide) (by decide) (by exact_mod_cast hpadding)
  have hpaddingPx := toInt_bounds (by decide) hpaddingFloat
  refine ⟨by exact_mod_cast hpaddingFloat.1, ?_⟩
  simp only [Native.androidValidateTheme, Bool.and_eq_true, decide_eq_true_eq,
    List.contains_iff_mem]
  exact ⟨⟨⟨⟨⟨⟨⟨hheightPx, hgapPx⟩, by exact_mod_cast hradiusPx⟩, by exact_mod_cast hsizePx⟩,
    hweight⟩, hpaddingPx⟩, hpress⟩, hmask⟩

/-- **A theme within bounds passes the iOS view.** -/
theorem InBounds.ios {values : ThemeValues Quadruple} (h : InBounds values) :
    Native.iosValidateTheme (Native.iosTheme values) = true := by
  obtain ⟨hheight, hgap, hradius, hpadding, hsize, hweight, hpress, hmask⟩ := h
  have hpressSeconds := @timeInterval_bounds values.pressDurationMs (-1) (by decide)
    ⟨hpress.1, by
      have hcast : (values.pressDurationMs : ℚ) ≤ 500 := by exact_mod_cast hpress.2
      norm_num
      linarith⟩
  have hmaskSeconds := @timeInterval_bounds values.maskRevealDurationMs 1 (by decide)
    ⟨hmask.1, by
      have hcast : (values.maskRevealDurationMs : ℚ) ≤ 2000 := by exact_mod_cast hmask.2
      norm_num
      linarith⟩
  norm_num at hpressSeconds hmaskSeconds
  simp only [Native.iosValidateTheme, Bool.and_eq_true, decide_eq_true_eq, List.contains_iff_mem]
  exact ⟨⟨⟨⟨⟨⟨⟨hheight, hgap⟩, hradius⟩, hpadding⟩, hsize⟩, hweight⟩, hpressSeconds⟩,
    hmaskSeconds⟩

/-! ## Whole configurations -/

/-- The props of a keypad with defaults for all but these. -/
def keypadProps (layout theme : Json) (policy : InputPolicy) : List (String × Json) :=
  [("layout", layout), ("theme", theme), ("inputPolicy", .str (match policy with
    | .numeric => "numeric"
    | .ascii => "ascii"
    | .hangul => "hangul"))]

/-- The Android parser takes the props, and the view what it made of them. -/
def AndroidAccepts (layout theme : Json) (policy : InputPolicy) : Prop :=
  ∃ configuration, Native.androidParse (keypadProps layout theme policy) = some configuration ∧
    Native.validateLayout configuration.layout policy = true ∧
    Native.androidValidateTheme configuration.theme = true

/-- The iOS parser takes the props, and the view what it made of them. -/
def IosAccepts (layout theme : Json) (policy : InputPolicy) : Prop :=
  ∃ configuration, Native.iosParse (keypadProps layout theme policy) = some configuration ∧
    Native.iosValidateLayout configuration.layout policy = true ∧
    Native.iosValidateTheme configuration.theme = true

/-- All keys of a layout. -/
def layoutKeys (layout : Json) : List Json :=
  match layout.asObject?.bind fun fields => (fields.lookup "rows").bind Json.asArray? with
  | some rows => (rows.filterMap Json.asArray?).flatten
  | none => []

/-- The props are parsed when their layout and their theme are. -/
theorem parse_keypadProps {platform : Platform} {Theme : Type}
    {themeOf : List (String × Json) → Option Theme} {layout theme : List (String × Json)}
    {policy : InputPolicy} {good : Layout → Theme → Prop} :
    (∃ configuration, Native.parse platform themeOf
        (keypadProps (.obj layout) (.obj theme) policy) = some configuration ∧
      good configuration.layout configuration.theme) ↔
    ∃ parsedLayout parsedTheme, parseLayout platform layout = some parsedLayout ∧
      themeOf theme = some parsedTheme ∧ good parsedLayout parsedTheme := by
  -- the other settings have their defaults
  have hparse : ∃ settings : Layout → Theme → Native.BridgeConfiguration Theme,
      (∀ l t, (settings l t).layout = l ∧ (settings l t).theme = t) ∧
      Native.parse platform themeOf (keypadProps (.obj layout) (.obj theme) policy) =
        (parseLayout platform layout).bind fun l => (themeOf theme).bind fun t =>
          some (settings l t) := by
    cases policy
    all_goals exact ⟨fun l t => ⟨l, t, _, 8, 60000, _, _, false, none⟩, fun _ _ => ⟨rfl, rfl⟩, rfl⟩
  obtain ⟨settings, hsettings, hparse⟩ := hparse
  simp only [hparse, Option.bind_eq_some_iff, Option.some.injEq]
  constructor
  · rintro ⟨_, ⟨l, hlayout, t, htheme, rfl⟩, hgood⟩
    rw [(hsettings l t).1, (hsettings l t).2] at hgood
    exact ⟨l, t, hlayout, htheme, hgood⟩
  · intro ⟨l, t, hlayout, htheme, hgood⟩
    have hgood' : good (settings l t).layout (settings l t).theme := by
      rw [(hsettings l t).1, (hsettings l t).2]
      exact hgood
    exact ⟨_, ⟨l, hlayout, t, htheme, rfl⟩, hgood'⟩

/-- **When an accepted configuration passes on both devices**: when the labels its keys are shown
    with fit, and its feedback is given by texts. -/
theorem contract_accepts_iff {layout theme : Json} {policy : InputPolicy}
    {result : ValidationResult} (hlayout : (validateLayoutForPolicy layout policy).valid = true)
    (htheme : validateTheme theme = some result) (hvalid : result.valid = true) :
    AndroidAccepts layout theme policy ∧ IosAccepts layout theme policy ↔
      (∀ key ∈ layoutKeys layout, LabelFits key) ∧
        ∀ fields, theme = .obj fields → TextFeedback fields := by
  obtain ⟨layoutFields, rows, rfl, haccepted⟩ := validateLayoutForPolicy_valid hlayout
  obtain ⟨themeFields, colors, metrics, typography, rfl, hacceptedTheme⟩ :=
    validateTheme_valid htheme hvalid
  have hkeys : layoutKeys (.obj layoutFields) = rows.flatten := by
    simp only [layoutKeys, Json.asObject?, Option.bind_some, haccepted.rows_eq, Json.asArray?]
    rw [List.filterMap_map]
    exact congrArg List.flatten List.filterMap_some
  rw [hkeys]
  -- Each parser accepts a valid layout if the labels fit, and the view takes what it makes.
  obtain ⟨handroidLayout, handroidViews⟩ := parseLayout_iff android_takesWholeMatches haccepted
  obtain ⟨hiosLayout, hiosViews⟩ := parseLayout_iff ios_takesWholeMatches haccepted
  -- Each parser accepts a valid theme if its feedback is given as texts.
  obtain ⟨handroidTheme, handroidBounds⟩ := @parseTheme_iff _ _ _ _ hacceptedTheme
    android _ androidColor fun text htext => Option.isSome_iff_exists.mp (colors_isSome htext).1
  obtain ⟨hiosTheme, hiosBounds⟩ := @parseTheme_iff _ _ _ _ hacceptedTheme
    ios _ iosColor fun text htext => Option.isSome_iff_exists.mp (colors_isSome htext).2
  have htextFeedback : (∀ fields, Json.obj themeFields = .obj fields → TextFeedback fields) ↔
      TextFeedback themeFields := by simp
  rw [htextFeedback]
  -- Android checks the padding in the parser, and iOS in the view.
  have handroid : AndroidAccepts (.obj layoutFields) (.obj themeFields) policy ↔
      (∀ key ∈ rows.flatten, LabelFits key) ∧ TextFeedback themeFields := by
    rw [← handroidLayout, ← handroidTheme]
    refine (@parse_keypadProps _ _ androidParseTheme _ _ policy fun l t =>
      Native.validateLayout l policy = true ∧ Native.androidValidateTheme t = true).trans ?_
    constructor
    · rintro ⟨l, t, hl, ht, _⟩
      obtain ⟨values, hvalues, -⟩ := Option.bind_eq_some_iff.mp ht
      exact ⟨⟨l, hl⟩, values, hvalues⟩
    · rintro ⟨⟨l, hl⟩, values, hvalues⟩
      obtain ⟨hpadding, hview⟩ := (handroidBounds values hvalues).android
      refine ⟨l, Native.androidTheme values, hl, ?_, (handroidViews l hl).1, hview⟩
      rw [androidParseTheme, some_bind hvalues, guard_bind hpadding]
      rfl
  have hios : IosAccepts (.obj layoutFields) (.obj themeFields) policy ↔
      (∀ key ∈ rows.flatten, LabelFits key) ∧ TextFeedback themeFields := by
    rw [← hiosLayout, ← hiosTheme]
    refine (@parse_keypadProps _ _ iosParseTheme _ _ policy fun l t =>
      Native.iosValidateLayout l policy = true ∧ Native.iosValidateTheme t = true).trans ?_
    constructor
    · rintro ⟨l, t, hl, ht, _⟩
      obtain ⟨values, hvalues, -⟩ := Option.map_eq_some_iff.mp ht
      exact ⟨⟨l, hl⟩, values, hvalues⟩
    · rintro ⟨⟨l, hl⟩, values, hvalues⟩
      refine ⟨l, Native.iosTheme values, hl, ?_, (hiosViews l hl).2, (hiosBounds values hvalues).ios⟩
      rw [iosParseTheme, hvalues]
      rfl
  rw [handroid, hios, and_self]

/-- A layout of one key. -/
def layoutOf (id : String) : Json :=
  .obj [("schemaVersion", .number (.ofNat 1)),
    ("rows", .arr [.arr [.obj [("id", .str id), ("role", .str "input")]]])]

/-- A theme with the least a theme has. -/
def smallTheme : Json :=
  .obj [("schemaVersion", .number (.ofNat 1)),
    ("colors", .obj (colorKeys.map fun key => (key, .str "#123456"))),
    ("metrics", .obj [("keyHeight", .number (.ofNat 48)), ("keyGap", .number (.ofNat 8)),
      ("keyRadius", .number (.ofNat 12)), ("contentPadding", .number (.ofNat 16))]),
    ("typography", .obj [("keyFontSize", .number (.ofNat 20)), ("keyFontWeight", .str "500")])]

theorem contract_accepts_digit :
    AndroidAccepts (layoutOf "digit-1") smallTheme .numeric ∧
      IosAccepts (layoutOf "digit-1") smallTheme .numeric := by
  refine (@contract_accepts_iff _ _ _ ⟨true, []⟩ ?_ ?_ rfl).mpr ⟨?_, ?_⟩
  · decide +kernel
  · decide +kernel
  · intro key hkey
    have hsingle : layoutKeys (layoutOf "digit-1") =
        [.obj [("id", .str "digit-1"), ("role", .str "input")]] := rfl
    rw [hsingle, List.mem_singleton] at hkey
    subst hkey
    show "digit-1".utf8ByteSize ≤ 16
    decide
  · intro fields hfields feedback hfeedback
    cases hfields
    cases hfeedback

/-- The contract takes the layout of a key without a label, whose identifier is longer than a
    label may be. No device does. -/
theorem contract_accepts_refused :
    (validateLayoutForPolicy (layoutOf "jamo-ssang-giyeok") .hangul).valid = true ∧
      validateTheme smallTheme = some ⟨true, []⟩ ∧
      ¬ AndroidAccepts (layoutOf "jamo-ssang-giyeok") smallTheme .hangul ∧
      ¬ IosAccepts (layoutOf "jamo-ssang-giyeok") smallTheme .hangul := by
  refine ⟨by decide +kernel, by decide +kernel, ?_, ?_⟩
  · rintro ⟨_, h, -⟩
    cases h
  · rintro ⟨_, h, -⟩
    cases h

end SecureKeypad.Contracts
