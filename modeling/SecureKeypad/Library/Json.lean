import Mathlib

/-!
# JSON Values

JSON values as a JavaScript program sees them. An object is a list of fields of which the first of
a name counts, so that every value of the type is one: its keys are the different names, its size
is their number. A number is given by its value and by the text JavaScript has for it; it is finite,
so that a text such as `1e400`, of which `JSON.parse` makes `Infinity`, has no value here.

## Main results

- `mem_keys`: the keys of an object are the names that can be looked up
- `mapM_eq_some_iff`: an array is parsed element by element
- `jsString_eq_iff`: which values become a given word when they are made a string
-/

/-- The characters of the texts of finite numbers. -/
def JsNumber.chars : List Char :=
  ['0', '1', '2', '3', '4', '5', '6', '7', '8', '9', '-', '+', '.', 'e']

/-- A finite number: its value, and its text. -/
structure JsNumber where
  value : ℚ
  text : String
  text_ne : text.toList ≠ []
  numeral : ∀ c ∈ text.toList, c ∈ JsNumber.chars
deriving DecidableEq

theorem JsNumber.mem_chars_of_isDigit {c : Char} (h : c.isDigit = true) : c ∈ JsNumber.chars := by
  simp only [Char.isDigit, Bool.and_eq_true, decide_eq_true_eq, UInt32.le_iff_toNat_le] at h
  have hval : c.toNat ∈ List.range' 48 10 := List.mem_range'_1.mpr ⟨h.1, Nat.lt_succ_of_le h.2⟩
  rw [← Char.ofNat_toNat c]
  generalize c.toNat = n at hval
  fin_cases hval <;> decide

/-- A natural number with the digits that it has up to 21 of them. -/
def JsNumber.ofNat (n : ℕ) : JsNumber where
  value := n
  text := toString n
  text_ne := by
    rw [Nat.toString_eq_ofList_toDigits, String.toList_ofList]
    exact Nat.toDigits_ne_nil
  numeral := by
    intro c hc
    rw [Nat.toString_eq_ofList_toDigits, String.toList_ofList] at hc
    exact mem_chars_of_isDigit (Nat.isDigit_of_mem_toDigits (by decide) (by decide) hc)

/-- A JSON value. -/
inductive Json where
  | null
  | bool (value : Bool)
  | number (value : JsNumber)
  | str (value : String)
  | arr (items : List Json)
  | obj (fields : List (String × Json))

namespace Json

/-! ## Objects -/

/-- The names of an object's fields, `Object.keys`. -/
def keys (fields : List (String × Json)) : List String := (fields.map Prod.fst).dedup

/-- `Object.values`. -/
def values (fields : List (String × Json)) : List Json :=
  (keys fields).filterMap fun key => fields.lookup key

/-- Every key is one of those allowed. -/
def onlyKeys (fields : List (String × Json)) (allowed : List String) : Bool :=
  (keys fields).all allowed.contains

/-- The keys are what can be looked up. -/
@[simp] theorem mem_keys {fields : List (String × Json)} {key : String} :
    key ∈ keys fields ↔ ∃ value, fields.lookup key = some value := by
  rw [← Option.isSome_iff_exists, List.lookup_isSome_iff, keys, List.mem_dedup, List.mem_map]
  constructor
  · rintro ⟨field, hfield, rfl⟩
    exact ⟨field, hfield, beq_self_eq_true _⟩
  · rintro ⟨field, hfield, hkey⟩
    exact ⟨field, hfield, (eq_of_beq hkey).symm⟩

theorem nodup_keys (fields : List (String × Json)) : (keys fields).Nodup := List.nodup_dedup _

theorem mem_values {fields : List (String × Json)} {value : Json} :
    value ∈ values fields ↔ ∃ key, fields.lookup key = some value := by
  simp only [values, List.mem_filterMap, mem_keys]
  constructor
  · rintro ⟨key, -, hvalue⟩
    exact ⟨key, hvalue⟩
  · rintro ⟨key, hvalue⟩
    exact ⟨key, ⟨value, hvalue⟩, hvalue⟩

theorem onlyKeys_iff {fields : List (String × Json)} {allowed : List String} :
    onlyKeys fields allowed = true ↔
      ∀ key value, fields.lookup key = some value → key ∈ allowed := by
  simp [onlyKeys]

/-- An object with allowed keys only that has all of them has as many. -/
theorem length_keys_eq {fields : List (String × Json)} {required : List String}
    (honly : onlyKeys fields required = true)
    (hall : ∀ key ∈ required, ∃ value, fields.lookup key = some value) (hnodup : required.Nodup) :
    (keys fields).length = required.length := by
  apply List.Perm.length_eq
  refine (List.perm_ext_iff_of_nodup (nodup_keys fields) hnodup).mpr fun key => ?_
  rw [mem_keys]
  exact ⟨fun ⟨value, hvalue⟩ => onlyKeys_iff.mp honly key value hvalue, hall key⟩

/-! ## Kinds of values -/

def isNull : Json → Bool
  | null => true
  | _ => false

def asString? : Json → Option String
  | str value => some value
  | _ => none

def asBool? : Json → Option Bool
  | bool value => some value
  | _ => none

def asNumber? : Json → Option ℚ
  | number value => some value.value
  | _ => none

def asArray? : Json → Option (List Json)
  | arr items => some items
  | _ => none

def asObject? : Json → Option (List (String × Json))
  | obj fields => some fields
  | _ => none

@[simp] theorem asString?_eq_some {value : Json} {text : String} :
    value.asString? = some text ↔ value = str text := by
  cases value <;> simp [asString?]

@[simp] theorem asBool?_isSome {value : Json} :
    value.asBool?.isSome = true ↔ ∃ b, value = bool b := by
  cases value <;> simp [asBool?]

@[simp] theorem asArray?_eq_some {value : Json} {items : List Json} :
    value.asArray? = some items ↔ value = arr items := by
  cases value <;> simp [asArray?]

@[simp] theorem asObject?_eq_some {value : Json} {fields : List (String × Json)} :
    value.asObject? = some fields ↔ value = obj fields := by
  cases value <;> simp [asObject?]

/-! ## Parsing the elements of an array -/

/-- All elements are parsed, each to what stands at its place. -/
theorem mapM_eq_some_iff {α β : Type*} {parse : α → Option β} {items : List α} {parsed : List β} :
    items.mapM parse = some parsed ↔
      List.Forall₂ (fun item value => parse item = some value) items parsed := by
  induction items generalizing parsed with
  | nil => cases parsed <;> simp
  | cons item items ih =>
    rw [List.mapM_cons]
    cases parsed with
    | nil => simp [Option.bind_eq_some_iff]
    | cons value parsed => simp [← ih, Option.bind_eq_some_iff]

theorem exists_parsed {α β : Type*} {R : α → β → Prop} {items : List α} {parsed : List β}
    (h : List.Forall₂ R items parsed) : ∀ item ∈ items, ∃ value ∈ parsed, R item value := by
  induction h with
  | nil => exact fun _ hitem => absurd hitem List.not_mem_nil
  | cons hfirst _ ih =>
    refine List.forall_mem_cons.mpr ⟨⟨_, List.mem_cons_self, hfirst⟩, fun item hitem => ?_⟩
    obtain ⟨value, hvalue, hR⟩ := ih item hitem
    exact ⟨value, List.mem_cons_of_mem _ hvalue, hR⟩

theorem exists_source {α β : Type*} {R : α → β → Prop} {items : List α} {parsed : List β}
    (h : List.Forall₂ R items parsed) : ∀ value ∈ parsed, ∃ item ∈ items, R item value :=
  exists_parsed h.flip

theorem exists_mapM_eq_some {α β : Type*} {parse : α → Option β} {items : List α}
    (h : ∀ item ∈ items, ∃ value, parse item = some value) :
    ∃ parsed, items.mapM parse = some parsed := by
  induction items with
  | nil => exact ⟨[], rfl⟩
  | cons item items ih =>
    obtain ⟨value, hvalue⟩ := h item List.mem_cons_self
    obtain ⟨parsed, hparsed⟩ := ih fun item hitem => h item (List.mem_cons_of_mem _ hitem)
    exact ⟨value :: parsed, by rw [List.mapM_cons, hvalue, hparsed]; rfl⟩

/-! ## Making a string of a value -/

/-- Joined by commas. -/
def commaJoined : List String → String
  | [] => ""
  | [text] => text
  | text :: other :: texts => text ++ "," ++ commaJoined (other :: texts)

mutual

/-- `String(value)`; `none` where it throws, which is for an object that shadows `toString`. -/
def jsString : Json → Option String
  | null => some "null"
  | bool value => some (if value then "true" else "false")
  | number value => some value.text
  | str value => some value
  | arr items => (jsElements items).map commaJoined
  | obj fields =>
    if (fields.lookup "toString").isSome then none else some "[object Object]"

/-- The elements of an array, as `join` makes strings of them: nothing of `null`. -/
def jsElements : List Json → Option (List String)
  | [] => some []
  | item :: items =>
    (if item.isNull then some "" else jsString item).bind fun text =>
      (jsElements items).map (text :: ·)

end

/-- A list of texts without a comma that is joined to a text without one has one element. -/
theorem commaJoined_eq {texts : List String} {word : String} (h : commaJoined texts = word)
    (hword : word ≠ "") (hcomma : ',' ∉ word.toList) : texts = [word] := by
  match texts with
  | [] => exact absurd h.symm hword
  | [text] => exact congrArg (fun text => [text]) h
  | text :: other :: texts =>
    rw [← h, commaJoined] at hcomma
    exact absurd (by simp) hcomma

/-- The values that `String` makes a word of: the word, and arrays around it. -/
def Spells (word : String) : Json → Prop
  | str text => text = word
  | arr [item] => Spells word item
  | _ => False

/-- How many arrays stand around a value, each of them with nothing else in it. -/
def arraysAround : Json → ℕ
  | arr [item] => arraysAround item + 1
  | _ => 0

theorem jsElements_cons {item : Json} {items : List Json} {texts : List String} :
    jsElements (item :: items) = some texts ↔ ∃ text rest,
      (if item.isNull then some "" else jsString item) = some text ∧
        jsElements items = some rest ∧ text :: rest = texts := by
  rw [jsElements]
  simp only [Option.bind_eq_some_iff, Option.map_eq_some_iff, exists_and_left]

/-- What has one element as texts has one element. -/
theorem jsElements_eq_singleton {items : List Json} {word : String} (hne : word ≠ "")
    (hnull : word ≠ "null") :
    jsElements items = some [word] ↔ ∃ item, items = [item] ∧ jsString item = some word := by
  constructor
  · intro h
    cases items with
    | nil =>
      rw [jsElements] at h
      cases h
    | cons item items =>
      obtain ⟨text, rest, htext, hrest, heq⟩ := jsElements_cons.mp h
      obtain ⟨rfl, rfl⟩ := List.cons.inj heq
      have hnil : items = [] := by
        cases items with
        | nil => rfl
        | cons other items =>
          obtain ⟨_, _, -, -, hcons⟩ := jsElements_cons.mp hrest
          cases hcons
      subst hnil
      split at htext
      · exact absurd (Option.some.inj htext).symm hne
      · exact ⟨item, rfl, htext⟩
  · rintro ⟨item, rfl, h⟩
    refine jsElements_cons.mpr ⟨word, [], ?_, by rw [jsElements], rfl⟩
    have hitem : item.isNull = false := by
      cases item with
      -- The text of null is the word `null` itself, which is ruled out.
      | null =>
        rw [jsString, Option.some.injEq] at h
        exact absurd h.symm hnull
      | _ => rfl
    rw [hitem]
    exact h

/-- A word that is not the text of any value but strings and arrays around them. -/
structure IsWord (word : String) : Prop where
  ne_empty : word ≠ ""
  no_comma : ',' ∉ word.toList
  not_numeral : ∃ c ∈ word.toList, c ∉ JsNumber.chars
  ne_null : word ≠ "null"
  ne_true : word ≠ "true"
  ne_false : word ≠ "false"
  ne_object : word ≠ "[object Object]"

/-- **What becomes a word.** -/
theorem jsString_eq_iff {word : String} (hword : IsWord word) (value : Json) :
    jsString value = some word ↔ Spells word value := by
  match value with
  | .null => simp [jsString, Spells, hword.ne_null.symm]
  | .bool b => cases b <;> simp [jsString, Spells, hword.ne_true.symm, hword.ne_false.symm]
  -- The word has a letter that no numeral has.
  | .number n =>
    simp only [jsString, Spells, Option.some.injEq, iff_false]
    rintro rfl
    obtain ⟨c, hc, hnot⟩ := hword.not_numeral
    exact hnot (n.numeral c hc)
  | .str text => simp [jsString, Spells]
  | .obj fields =>
    simp only [jsString, Spells, iff_false]
    split
    · exact Option.some_ne_none _ |>.symm
    · rw [Option.some.injEq]
      exact hword.ne_object.symm
  | .arr items =>
    rw [jsString, Option.map_eq_some_iff]
    -- An array is written as the word only if it is one element that is.
    have hitems : (∃ texts, jsElements items = some texts ∧ commaJoined texts = word) ↔
        ∃ item, items = [item] ∧ jsString item = some word := by
      rw [← jsElements_eq_singleton hword.ne_empty hword.ne_null]
      constructor
      · rintro ⟨texts, htexts, hjoined⟩
        rwa [commaJoined_eq hjoined hword.ne_empty hword.no_comma] at htexts
      · intro h
        exact ⟨[word], h, rfl⟩
    rw [hitems]
    constructor
    · rintro ⟨item, rfl, h⟩
      exact (jsString_eq_iff hword item).mp h
    · intro h
      match items, h with
      | [item], h => exact ⟨item, rfl, (jsString_eq_iff hword item).mpr h⟩

end Json
