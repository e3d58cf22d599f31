import SecureKeypad.Library.JsonParts

/-!
# The Texts of JSON Values

`JSON.stringify`, without white space, and why its text says which value it was made of: each part
of a text shows where it ends, a number by the first character that is none of a numeral.

## Main results

- `readChar_escape`: an escaped character is read back
- `joined_cancel`: lists of texts that show their ends are told apart
- `same_of_stringify`: values with one text are the same
-/

namespace Json

/-! ## Strings -/

/-- A digit in base 16. -/
def hexDigit (n : ℕ) : Char := if n < 10 then Char.ofNat (48 + n) else Char.ofNat (87 + n)

/-- A character of a string as it is written. -/
def escape (c : Char) : List Char :=
  if c = '"' then ['\\', '"']
  else if c = '\\' then ['\\', '\\']
  else if c = '\x08' then ['\\', 'b']
  else if c = '\t' then ['\\', 't']
  else if c = '\n' then ['\\', 'n']
  else if c = '\x0c' then ['\\', 'f']
  else if c = '\r' then ['\\', 'r']
  else if c.toNat < 32 then
    ['\\', 'u', '0', '0', hexDigit (c.toNat / 16), hexDigit (c.toNat % 16)]
  else [c]

/-- The value of a digit in base 16. -/
def hexValue (c : Char) : ℕ := if c.isDigit then c.toNat - 48 else c.toNat - 87

/-- Read an escaped character. -/
def readChar : List Char → Option (Char × List Char)
  | '\\' :: 'b' :: rest => some ('\x08', rest)
  | '\\' :: 't' :: rest => some ('\t', rest)
  | '\\' :: 'n' :: rest => some ('\n', rest)
  | '\\' :: 'f' :: rest => some ('\x0c', rest)
  | '\\' :: 'r' :: rest => some ('\r', rest)
  | '\\' :: 'u' :: '0' :: '0' :: high :: low :: rest =>
    some (Char.ofNat (16 * hexValue high + hexValue low), rest)
  | '\\' :: c :: rest => some (c, rest)
  | c :: rest => some (c, rest)
  | [] => none

theorem readChar_plain {c : Char} (h : c ≠ '\\') (rest : List Char) :
    readChar (c :: rest) = some (c, rest) := by
  unfold readChar
  split <;> simp_all

/-- The 32 control characters. -/
theorem readChar_control {c : Char} (h : c.toNat < 32) (rest : List Char) :
    readChar ('\\' :: 'u' :: '0' :: '0' :: hexDigit (c.toNat / 16) :: hexDigit (c.toNat % 16) ::
      rest) = some (c, rest) := by
  have hvalue : ∀ n < 32, 16 * hexValue (hexDigit (n / 16)) + hexValue (hexDigit (n % 16)) = n := by
    decide
  rw [readChar, hvalue _ h, Char.ofNat_toNat]

/-- **An escaped character is read back.** -/
theorem readChar_escape (c : Char) (rest : List Char) :
    readChar (escape c ++ rest) = some (c, rest) := by
  unfold escape
  split_ifs with hquote hslash hb ht hn hf hr hcontrol
  all_goals try (subst_vars; rfl)
  · exact readChar_control hcontrol rest
  · exact readChar_plain hslash rest

theorem escape_ne_quote (c : Char) (rest : List Char) : ∃ d rest', escape c ++ rest = d :: rest' ∧
    d ≠ '"' := by
  unfold escape
  split_ifs with hquote
  all_goals first
    | exact ⟨_, _, rfl, hquote⟩
    | exact ⟨_, _, rfl, by decide⟩

/-- A string as it is written. -/
def quote (text : String) : List Char := '"' :: (text.toList.flatMap escape ++ ['"'])

theorem escaped_cancel {cs ds s t : List Char}
    (h : cs.flatMap escape ++ '"' :: s = ds.flatMap escape ++ '"' :: t) : cs = ds ∧ s = t := by
  induction cs generalizing ds with
  | nil =>
    cases ds with
    | nil => exact ⟨rfl, (List.cons.inj h).2⟩
    | cons d ds =>
      rw [List.flatMap_cons, List.append_assoc] at h
      obtain ⟨e, rest, heq, hne⟩ := escape_ne_quote d (ds.flatMap escape ++ '"' :: t)
      rw [heq] at h
      exact absurd (List.cons.inj h).1.symm hne
  | cons c cs ih =>
    cases ds with
    | nil =>
      rw [List.flatMap_cons, List.append_assoc] at h
      obtain ⟨e, rest, heq, hne⟩ := escape_ne_quote c (cs.flatMap escape ++ '"' :: s)
      rw [heq] at h
      exact absurd (List.cons.inj h).1 hne
    | cons d ds =>
      rw [List.flatMap_cons, List.flatMap_cons, List.append_assoc, List.append_assoc] at h
      have hread := congrArg readChar h
      rw [readChar_escape, readChar_escape, Option.some.injEq, Prod.mk.injEq] at hread
      obtain ⟨rfl, hrest⟩ := hread
      obtain ⟨rfl, hst⟩ := ih hrest
      exact ⟨rfl, hst⟩

theorem quote_cancel {a b : String} {s t : List Char} (h : quote a ++ s = quote b ++ t) :
    a = b ∧ s = t := by
  simp only [quote, List.cons_append, List.append_assoc] at h
  obtain ⟨hchars, hst⟩ := escaped_cancel (List.cons.inj h).2
  exact ⟨String.toList_injective hchars, hst⟩

/-! ## Texts that show their ends -/

/-- The text does not go on with a character of a numeral. -/
def Stops (s : List Char) : Prop := ∀ c ∈ s.head?, c ∉ JsNumber.chars

theorem stops_cons {c : Char} {s : List Char} (h : c ∉ JsNumber.chars) : Stops (c :: s) := by
  intro d hd
  cases hd
  exact h

theorem numeral_cancel {a b s t : List Char} (ha : ∀ c ∈ a, c ∈ JsNumber.chars)
    (hb : ∀ c ∈ b, c ∈ JsNumber.chars) (hs : Stops s) (ht : Stops t) (h : a ++ s = b ++ t) :
    a = b ∧ s = t := by
  induction a generalizing b with
  | nil =>
    cases b with
    | nil => exact ⟨rfl, h⟩
    | cons c b =>
      rw [List.nil_append] at h
      subst h
      exact absurd (hb c List.mem_cons_self) (hs c rfl)
  | cons c a ih =>
    cases b with
    | nil =>
      rw [List.nil_append] at h
      subst h
      exact absurd (ha c List.mem_cons_self) (ht c rfl)
    | cons d b =>
      obtain ⟨rfl, hrest⟩ := List.cons.inj h
      obtain ⟨rfl, hst⟩ := ih (fun e he => ha e (List.mem_cons_of_mem _ he))
        (fun e he => hb e (List.mem_cons_of_mem _ he)) hrest
      exact ⟨rfl, hst⟩

/-- Texts with commas between them. -/
def joined : List (List Char) → List Char
  | [] => []
  | [text] => text
  | text :: other :: texts => text ++ ',' :: joined (other :: texts)

section Joined

variable {α : Type} {print : α → List Char} {R : α → α → Prop} {close : Char}

/-- What stands behind the first text of a list: the end, or a comma and the others. -/
def behind (print : α → List Char) (close : Char) (s : List Char) : List α → List Char
  | [] => close :: s
  | other :: others => ',' :: (joined ((other :: others).map print) ++ close :: s)

theorem joined_cons (item : α) (items : List α) (s : List Char) :
    joined ((item :: items).map print) ++ close :: s =
      print item ++ behind print close s items := by
  cases items with
  | nil => rfl
  | cons other others => simp [joined, behind]

/-- **Lists are told apart** when their elements are, and the end of a list from an element. -/
theorem joined_cancel {items items' : List α} {s t : List Char} (hclose : close ∉ JsNumber.chars)
    (hcomma : close ≠ ',')
    (hcancel : ∀ a ∈ items, ∀ b s t, Stops s → Stops t → print a ++ s = print b ++ t →
      R a b ∧ s = t)
    (hstart : ∀ a s, ∃ c rest, print a ++ s = c :: rest ∧ c ≠ close)
    (h : joined (items.map print) ++ close :: s = joined (items'.map print) ++ close :: t) :
    List.Forall₂ R items items' ∧ s = t := by
  have hstops : ∀ (rest : List α) (s : List Char), Stops (behind print close s rest) := by
    intro rest s
    cases rest with
    -- No item begins with the closing bracket, so the other side has none either.
    | nil => exact stops_cons hclose
    | cons other others => exact stops_cons (by decide)
  induction items generalizing items' with
  | nil =>
    cases items' with
    | nil => exact ⟨.nil, (List.cons.inj h).2⟩
    | cons b bs =>
      rw [joined_cons] at h
      obtain ⟨c, rest, heq, hne⟩ := hstart b (behind print close t bs)
      rw [heq] at h
      exact absurd (List.cons.inj h).1.symm hne
  -- The first items cancel; behind them stands a comma on both sides, or the bracket.
  | cons a as ih =>
    cases items' with
    | nil =>
      rw [joined_cons] at h
      obtain ⟨c, rest, heq, hne⟩ := hstart a (behind print close s as)
      rw [heq] at h
      exact absurd (List.cons.inj h).1 hne
    | cons b bs =>
      rw [joined_cons, joined_cons] at h
      obtain ⟨hab, hbehind⟩ := hcancel a List.mem_cons_self b _ _ (hstops as s) (hstops bs t) h
      have htail : joined (as.map print) ++ close :: s = joined (bs.map print) ++ close :: t := by
        cases as with
        | nil =>
          cases bs with
          | nil => exact hbehind
          | cons b' bs => exact absurd (List.cons.inj hbehind).1 hcomma
        | cons a' as =>
          cases bs with
          | nil => exact absurd (List.cons.inj hbehind).1.symm hcomma
          | cons b' bs => exact (List.cons.inj hbehind).2
      obtain ⟨htails, hst⟩ := ih (fun a ha => hcancel a (List.mem_cons_of_mem _ ha)) htail
      exact ⟨.cons hab htails, hst⟩

end Joined

/-! ## Values -/

mutual

/-- `JSON.stringify`. -/
def stringify : Json → List Char
  | null => ['n', 'u', 'l', 'l']
  | bool true => ['t', 'r', 'u', 'e']
  | bool false => ['f', 'a', 'l', 's', 'e']
  | number value => value.text.toList
  | str value => quote value
  | arr items => '[' :: (joined (stringifyItems items) ++ [']'])
  | obj fields => '\x7b' :: (joined (stringifyFields [] fields) ++ ['\x7d'])

def stringifyItems : List Json → List (List Char)
  | [] => []
  | item :: items => stringify item :: stringifyItems items

/-- The texts of the fields whose names are not among those seen. -/
def stringifyFields : List String → List (String × Json) → List (List Char)
  | _, [] => []
  | seen, (key, value) :: fields =>
    if seen.contains key then stringifyFields seen fields
    else (quote key ++ ':' :: stringify value) :: stringifyFields (key :: seen) fields

end

/-- A field as it is written. -/
def stringifyEntry (entry : String × Json) : List Char :=
  quote entry.1 ++ ':' :: stringify entry.2

theorem stringifyItems_eq (items : List Json) : stringifyItems items = items.map stringify := by
  induction items with
  | nil => rw [stringifyItems, List.map_nil]
  | cons item items ih => rw [stringifyItems, ih, List.map_cons]

theorem stringifyFields_eq (seen : List String) (fields : List (String × Json)) :
    stringifyFields seen fields = (entriesFrom seen fields).map stringifyEntry := by
  induction fields generalizing seen with
  | nil => rw [stringifyFields, entriesFrom, List.map_nil]
  | cons field fields ih =>
    rw [stringifyFields, entriesFrom]
    split
    · exact ih seen
    · rw [ih, List.map_cons]
      rfl

/-- The first character of the text of a value. -/
def Leads (c : Char) : Json → Prop
  | null => c = 'n'
  | bool true => c = 't'
  | bool false => c = 'f'
  | number _ => c ∈ JsNumber.chars
  | str _ => c = '"'
  | arr _ => c = '['
  | obj _ => c = '\x7b'

theorem exists_leads (value : Json) (s : List Char) :
    ∃ c rest, stringify value ++ s = c :: rest ∧ Leads c value := by
  cases value with
  | bool b => cases b <;> exact ⟨_, _, by rw [stringify]; rfl, rfl⟩
  | number n =>
    rw [stringify]
    obtain ⟨c, rest, hchars⟩ := List.exists_cons_of_ne_nil n.text_ne
    rw [hchars]
    exact ⟨c, rest ++ s, rfl, n.numeral c (hchars ▸ List.mem_cons_self)⟩
  | _ => exact ⟨_, _, by rw [stringify]; rfl, rfl⟩

/-- Values of one kind; of the constants, the same one. -/
inductive SameKind : Json → Json → Prop
  | null : SameKind null null
  | bool (b : Bool) : SameKind (bool b) (bool b)
  | number (n m : JsNumber) : SameKind (number n) (number m)
  | str (text other : String) : SameKind (str text) (str other)
  | arr (items others : List Json) : SameKind (arr items) (arr others)
  | obj (fields others : List (String × Json)) : SameKind (obj fields) (obj others)

/-- The first character tells the kind. -/
theorem sameKind_of_leads {a b : Json} {c : Char} (ha : Leads c a) (hb : Leads c b) :
    SameKind a b := by
  rcases a with _ | ⟨_ | _⟩ | n | _ | _ | _ <;> rcases b with _ | ⟨_ | _⟩ | m | _ | _ | _ <;>
    first
    | constructor
    | exact absurd (ha.symm.trans hb) (by decide)
    | (obtain rfl := ha; exact absurd hb (by simp [Leads, JsNumber.chars]))
    | (obtain rfl := hb; exact absurd ha (by simp [Leads, JsNumber.chars]))

/-- Values whose texts are in front of the same text are of one kind. -/
theorem sameKind_of_eq {a b : Json} {s t : List Char} (h : stringify a ++ s = stringify b ++ t) :
    SameKind a b := by
  obtain ⟨c, rest, hc, hleads⟩ := exists_leads a s
  obtain ⟨d, rest', hd, hleads'⟩ := exists_leads b t
  rw [hc, hd] at h
  obtain ⟨rfl, -⟩ := List.cons.inj h
  exact sameKind_of_leads hleads hleads'

/-- No value ends a list or begins with what does. -/
theorem exists_start (value : Json) (s : List Char) :
    ∃ c rest, stringify value ++ s = c :: rest ∧ c ≠ ']' := by
  obtain ⟨c, rest, heq, hleads⟩ := exists_leads value s
  refine ⟨c, rest, heq, ?_⟩
  rintro rfl
  rcases value with _ | ⟨_ | _⟩ | n | _ | _ | _ <;>
    exact absurd hleads (by simp [Leads, JsNumber.chars])

/-- **A text says which value it is of**, in front of what shows where a number ends. -/
theorem stringify_cancel (a : Json) : ∀ b s t, Stops s → Stops t →
    stringify a ++ s = stringify b ++ t → Same a b ∧ s = t := by
  induction a using Json.induction with
  | null =>
    intro b s t _ _ h
    cases sameKind_of_eq h
    exact ⟨.refl _, List.append_cancel_left h⟩
  | bool v =>
    intro b s t _ _ h
    cases sameKind_of_eq h
    exact ⟨.refl _, List.append_cancel_left h⟩
  | number n =>
    intro b s t hs ht h
    cases sameKind_of_eq h with
    | number _ m =>
      rw [stringify, stringify] at h
      obtain ⟨htext, hst⟩ := numeral_cancel n.numeral m.numeral hs ht h
      refine ⟨same_iff.mpr ⟨congrArg Shape.number (String.toList_injective htext), ?_⟩, hst⟩
      intro step
      cases step <;> exact .none
  | str text =>
    intro b s t _ _ h
    cases sameKind_of_eq h with
    | str _ other =>
      rw [stringify, stringify] at h
      obtain ⟨rfl, hst⟩ := quote_cancel h
      exact ⟨.refl _, hst⟩
  | arr items ih =>
    intro b s t _ _ h
    cases sameKind_of_eq h with
    | arr _ items' =>
      rw [stringify, stringify, stringifyItems_eq, stringifyItems_eq] at h
      simp only [List.cons_append, List.append_assoc, List.nil_append] at h
      obtain ⟨hsame, hst⟩ :=
        joined_cancel (by decide) (by decide) ih exists_start (List.cons.inj h).2
      exact ⟨same_arr hsame, hst⟩
  | obj fields ih =>
    intro b s t _ _ h
    -- an entry is told apart by its name and then by its value
    have hentry : ∀ entry ∈ entries fields, ∀ other s t, Stops s → Stops t →
        stringifyEntry entry ++ s = stringifyEntry other ++ t →
        (entry.1 = other.1 ∧ Same entry.2 other.2) ∧ s = t := by
      intro entry hentry other s t hs ht heq
      simp only [stringifyEntry, List.append_assoc, List.cons_append] at heq
      obtain ⟨hkey, hvalue⟩ := quote_cancel heq
      obtain ⟨hsame, hst⟩ := ih entry.1 entry.2 (mem_entries.mp hentry) other.2 s t hs ht
        (List.cons.inj hvalue).2
      exact ⟨⟨hkey, hsame⟩, hst⟩
    cases sameKind_of_eq h with
    | obj _ fields' =>
      rw [stringify, stringify, stringifyFields_eq, stringifyFields_eq] at h
      simp only [List.cons_append, List.append_assoc, List.nil_append] at h
      obtain ⟨hsame, hst⟩ := joined_cancel (by decide) (by decide) hentry
        (fun entry s => ⟨_, _, rfl, by decide⟩) (List.cons.inj h).2
      refine ⟨same_obj fun key => ?_, hst⟩
      rw [← lookup_entries fields, ← lookup_entries fields']
      exact entry_lookup hsame key

/-- **Values with one text are the same.** -/
theorem same_of_stringify {a b : Json} (h : stringify a = stringify b) : Same a b :=
  (stringify_cancel a b [] [] (fun _ hc => nomatch hc) (fun _ hc => nomatch hc) (by rw [h])).1

end Json
