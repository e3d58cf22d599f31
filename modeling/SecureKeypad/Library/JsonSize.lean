import SecureKeypad.Library.Bytes
import SecureKeypad.Library.JsonText

/-!
# The Sizes of JSON Texts

How many bytes the text of a value has at most, part by part.

## Main results

- `utf8Width_quote_le`: a string is written with six bytes for each of its own at most
- `utf8Width_arr_le`, `utf8Width_obj_le`: arrays and objects by their parts
-/

namespace Json

/-- The number of bytes of characters in UTF-8. -/
def utf8Width (chars : List Char) : ℕ := (chars.map Char.utf8Size).sum

@[simp] theorem utf8Width_nil : utf8Width [] = 0 := rfl

@[simp] theorem utf8Width_cons (c : Char) (chars : List Char) :
    utf8Width (c :: chars) = c.utf8Size + utf8Width chars := List.sum_cons

@[simp] theorem utf8Width_append (a b : List Char) :
    utf8Width (a ++ b) = utf8Width a + utf8Width b := by
  simp [utf8Width]

theorem length_asBytes_ofList (chars : List Char) :
    (Rust.asBytes (String.ofList chars)).length = utf8Width chars := by
  rw [Rust.asBytes_ofList, List.length_flatMap, utf8Width]
  congr 1
  exact List.map_congr_left fun c _ => String.length_utf8EncodeChar c

theorem utf8Width_toList (text : String) : utf8Width text.toList = text.utf8ByteSize := by
  rw [← length_asBytes_ofList, String.ofList_toList]
  rfl

theorem utf8Width_escape_le (c : Char) : utf8Width (escape c) ≤ 6 * c.utf8Size := by
  have hpos : 0 < c.utf8Size := Char.utf8Size_pos c
  have hhex : ∀ n < 16, (hexDigit n).utf8Size = 1 := by decide
  unfold escape
  split_ifs with hquote hslash hb ht hn hf hr hcontrol
  all_goals try (subst_vars; decide)
  -- the control characters without an escape of their own need the most
  · have hhigh := hhex (c.toNat / 16) (by omega)
    have hlow := hhex (c.toNat % 16) (by omega)
    have hones : ('\\').utf8Size = 1 ∧ ('u').utf8Size = 1 ∧ ('0').utf8Size = 1 := by decide
    simp only [utf8Width_cons, utf8Width_nil, hhigh, hlow]
    omega
  · rw [utf8Width_cons, utf8Width_nil]
    omega

@[simp] theorem stringify_str (text : String) : stringify (.str text) = quote text := by
  rw [stringify]

theorem utf8Width_quote_le (text : String) :
    utf8Width (quote text) ≤ 6 * text.utf8ByteSize + 2 := by
  have hescaped : ∀ chars : List Char, utf8Width (chars.flatMap escape) ≤ 6 * utf8Width chars := by
    intro chars
    induction chars with
    | nil => exact le_rfl
    | cons c chars ih =>
      rw [List.flatMap_cons, utf8Width_append, utf8Width_cons, Nat.mul_add]
      exact Nat.add_le_add (utf8Width_escape_le c) ih
  have hquote : ('"').utf8Size = 1 := by decide
  have htext := hescaped text.toList
  rw [utf8Width_toList] at htext
  simp only [quote, utf8Width_cons, utf8Width_append, utf8Width_nil, hquote]
  omega

/-- Each text with a comma. -/
theorem utf8Width_joined_le (texts : List (List Char)) :
    utf8Width (joined texts) ≤ (texts.map fun text => utf8Width text + 1).sum := by
  have hcomma : (',').utf8Size = 1 := by decide
  induction texts with
  | nil => exact le_rfl
  | cons text texts ih =>
    cases texts with
    | nil => simp [joined]
    | cons other texts =>
      rw [joined, utf8Width_append, utf8Width_cons, hcomma, List.map_cons, List.sum_cons]
      omega

theorem utf8Width_arr_le {items : List Json} {bound : ℕ}
    (h : ∀ item ∈ items, utf8Width (stringify item) ≤ bound) :
    utf8Width (stringify (.arr items)) ≤ items.length * (bound + 1) + 2 := by
  have hitems : ((items.map stringify).map fun text => utf8Width text + 1).sum ≤
      items.length * (bound + 1) := by
    rw [List.map_map]
    have hsum := List.sum_le_card_nsmul (items.map fun item => utf8Width (stringify item) + 1)
      (bound + 1) (by simpa using h)
    rwa [List.length_map, smul_eq_mul] at hsum
  have hjoined := utf8Width_joined_le (items.map stringify)
  have hbrackets : ('[').utf8Size = 1 ∧ (']').utf8Size = 1 := by decide
  rw [stringify, stringifyItems_eq, utf8Width_cons, utf8Width_append, utf8Width_cons, utf8Width_nil]
  omega

theorem entriesFrom_sublist (seen : List String) (fields : List (String × Json)) :
    (entriesFrom seen fields).Sublist fields := by
  induction fields generalizing seen with
  | nil => exact .slnil
  | cons field fields ih =>
    rw [entriesFrom]
    split
    · exact (ih seen).cons _
    · exact (ih _).cons_cons _

/-- Each field with a colon and a comma. -/
theorem utf8Width_obj_le (fields : List (String × Json)) :
    utf8Width (stringify (.obj fields)) ≤
      (fields.map fun field =>
        utf8Width (quote field.1) + utf8Width (stringify field.2) + 2).sum + 2 := by
  have hjoined := utf8Width_joined_le ((entriesFrom [] fields).map stringifyEntry)
  have hcolon : (':').utf8Size = 1 := by decide
  have hentry : ((fun text => utf8Width text + 1) ∘ stringifyEntry) = fun field : String × Json =>
      utf8Width (quote field.1) + utf8Width (stringify field.2) + 2 := by
    funext field
    simp only [Function.comp_apply, stringifyEntry, utf8Width_append, utf8Width_cons, hcolon]
    omega
  rw [List.map_map, hentry] at hjoined
  have hfields := ((entriesFrom_sublist [] fields).map fun field : String × Json =>
      utf8Width (quote field.1) + utf8Width (stringify field.2) + 2).sum_le_sum (by simp)
  have hbraces : ('\x7b').utf8Size = 1 ∧ ('\x7d').utf8Size = 1 := by decide
  rw [stringify, stringifyFields_eq, utf8Width_cons, utf8Width_append, utf8Width_cons,
    utf8Width_nil]
  omega

theorem utf8Width_digits {chars : List Char} (h : ∀ c ∈ chars, c.isDigit = true) :
    utf8Width chars = chars.length := by
  induction chars with
  | nil => rfl
  | cons c chars ih =>
    obtain ⟨hc, hchars⟩ := List.forall_mem_cons.mp h
    have hone : c.utf8Size = 1 := by
      simp only [Char.isDigit, Bool.and_eq_true, decide_eq_true_eq] at hc
      have hnine : (57 : UInt32) ≤ 0x7f := by decide
      have hascii : c.val ≤ 0x7f := UInt32.le_trans hc.2 hnine
      exact if_pos hascii
    rw [utf8Width_cons, hone, ih hchars, List.length_cons, Nat.add_comm]

theorem toList_ofNat (n : ℕ) : (JsNumber.ofNat n).text.toList = Nat.toDigits 10 n := by
  change (toString n).toList = _
  rw [Nat.toString_eq_ofList_toDigits, String.toList_ofList]

/-- A number below a power of ten has as many digits at most. -/
theorem utf8Width_number_le {n digits : ℕ} (hpos : 0 < digits) (h : n < 10 ^ digits) :
    utf8Width (stringify (.number (.ofNat n))) ≤ digits := by
  rw [stringify, toList_ofNat, utf8Width_digits fun c hc =>
    Nat.isDigit_of_mem_toDigits (by decide) (by decide) hc]
  exact Nat.toDigits_length 10 n digits hpos h

end Json
