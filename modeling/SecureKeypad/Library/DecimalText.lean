import SecureKeypad.Library.Bytes

/-!
# Reading Decimal Text

Trimming, and the two ways programs turn a string of decimal digits into a number: with checked
integer arithmetic, which fails as soon as the number leaves the type, and without a bound.

## Main results

- `checked_eq`: the checked reading fails exactly on the numbers above the bound
- `trim_map`, `mem_trim`: trimming commutes with a change of characters, and keeps what is not blank
- `trim_of_trim`: trimming more blanks leaves the same, if it neither begins nor ends with one
- `asBytes_ascii`: ASCII text is encoded byte by byte
-/

namespace DecimalText

open Rust

universe u v

variable {α : Type u} {β : Type v}

/-! ## Trimming -/

/-- Without the leading and trailing elements of a class. -/
def trim (blank : α → Bool) (text : List α) : List α :=
  ((text.dropWhile blank).reverse.dropWhile blank).reverse

theorem trim_map (blank : β → Bool) (f : α → β) (text : List α) :
    trim blank (text.map f) = (trim (fun a => blank (f a)) text).map f := by
  rw [trim, List.dropWhile_map, ← List.map_reverse, List.dropWhile_map, ← List.map_reverse]
  rfl

theorem mem_of_mem_trim {blank : α → Bool} {text : List α} {a : α} (h : a ∈ trim blank text) :
    a ∈ text := by
  rw [trim, List.mem_reverse] at h
  have hreverse := List.dropWhile_sublist blank |>.subset h
  rw [List.mem_reverse] at hreverse
  exact List.dropWhile_sublist blank |>.subset hreverse

private theorem mem_dropWhile {blank : α → Bool} {text : List α} {a : α} (ha : a ∈ text)
    (hblank : blank a = false) : a ∈ text.dropWhile blank := by
  induction text with
  | nil => cases ha
  | cons b text ih =>
    rw [List.dropWhile_cons]
    split
    · next hb =>
      rcases List.mem_cons.mp ha with rfl | ha
      · rw [hblank] at hb
        cases hb
      · exact ih ha
    · exact ha

/-- What is not blank stays. -/
theorem mem_trim {blank : α → Bool} {text : List α} {a : α} (ha : a ∈ text)
    (hblank : blank a = false) : a ∈ trim blank text :=
  List.mem_reverse.mpr
    (mem_dropWhile (List.mem_reverse.mpr (mem_dropWhile ha hblank)) hblank)

private theorem dropWhile_congr {p q : α → Bool} {text : List α} (h : ∀ a ∈ text, p a = q a) :
    text.dropWhile p = text.dropWhile q := by
  induction text with
  | nil => rfl
  | cons a text ih =>
    rw [List.dropWhile_cons, List.dropWhile_cons, h a List.mem_cons_self,
      ih fun b hb => h b (List.mem_cons_of_mem _ hb)]

theorem trim_congr {p q : α → Bool} {text : List α} (h : ∀ a ∈ text, p a = q a) :
    trim p text = trim q text := by
  have hrest : ∀ a ∈ (text.dropWhile q).reverse, p a = q a := fun a ha =>
    h a (List.dropWhile_sublist q |>.subset (List.mem_reverse.mp ha))
  rw [trim, trim, dropWhile_congr h, dropWhile_congr hrest]

/-- What is trimmed off are blanks. -/
theorem exists_of_trim {blank : α → Bool} {text core : List α} (h : trim blank text = core) :
    ∃ before after, text = before ++ core ++ after ∧ (∀ c ∈ before, blank c = true) ∧
      ∀ c ∈ after, blank c = true := by
  refine ⟨text.takeWhile blank, ((text.dropWhile blank).reverse.takeWhile blank).reverse, ?_,
    fun c hc => List.mem_takeWhile_imp hc,
    fun c hc => List.mem_takeWhile_imp (List.mem_reverse.mp hc)⟩
  have hback : text.dropWhile blank =
      core ++ ((text.dropWhile blank).reverse.takeWhile blank).reverse := by
    rw [← h, trim, ← List.reverse_append, List.takeWhile_append_dropWhile, List.reverse_reverse]
  rw [List.append_assoc, ← hback, List.takeWhile_append_dropWhile]

private theorem dropWhile_append_of_all {blank : α → Bool} {before rest : List α}
    (hbefore : ∀ c ∈ before, blank c = true) :
    (before ++ rest).dropWhile blank = rest.dropWhile blank := by
  induction before with
  | nil => rfl
  | cons c before ih =>
    rw [List.cons_append, List.dropWhile_cons, if_pos (hbefore c List.mem_cons_self)]
    exact ih fun d hd => hbefore d (List.mem_cons_of_mem _ hd)

/-- More blanks trim to the same text, if it has none at its ends. -/
theorem trim_of_trim {blank other : α → Bool} {text core : List α}
    (h : trim blank text = core) (hother : ∀ c ∈ text, blank c = true → other c = true)
    (hcore : core.dropWhile other = core) (hback : core.reverse.dropWhile other = core.reverse) :
    trim other text = core := by
  obtain ⟨before, after, rfl, hbefore, hafter⟩ := exists_of_trim h
  have hbefore' : ∀ c ∈ before, other c = true := fun c hc =>
    hother c (by simp [hc]) (hbefore c hc)
  have hafter' : ∀ c ∈ after.reverse, other c = true := fun c hc =>
    hother c (by simp [List.mem_reverse.mp hc]) (hafter c (List.mem_reverse.mp hc))
  rw [trim, List.append_assoc, dropWhile_append_of_all hbefore']
  cases core with
  | nil =>
    -- Everything is blank.
    have hall : after.dropWhile other = [] := by
      rw [List.dropWhile_eq_nil_iff]
      exact fun c hc => hafter' c (List.mem_reverse.mpr hc)
    rw [List.nil_append, hall]
    rfl
  | cons c core =>
    have hc : other c = false := by
      rw [← Bool.not_eq_true]
      intro hc
      rw [List.dropWhile_cons, if_pos hc] at hcore
      have hlength := congrArg List.length hcore
      have hle := (List.dropWhile_sublist other (l := core)).length_le
      rw [List.length_cons] at hlength
      omega
    rw [List.cons_append, List.dropWhile_cons, if_neg (by rw [hc]; exact Bool.false_ne_true),
      ← List.cons_append, List.reverse_append, dropWhile_append_of_all hafter', hback,
      List.reverse_reverse]

/-! ## The value of a digit string -/

/-- The number that digits denote, the first the most significant. -/
def valueOf (digits : List ℕ) : ℕ := digits.foldl (fun n d => n * 10 + d) 0

/-- Reading digits with checked arithmetic up to `max`. -/
def checked (max : ℕ) (digits : List ℕ) : Option ℕ :=
  digits.foldlM (fun n d =>
    if n * 10 > max then none else if n * 10 + d > max then none else some (n * 10 + d)) 0

theorem valueOf_snoc (digits : List ℕ) (d : ℕ) :
    valueOf (digits ++ [d]) = valueOf digits * 10 + d := by
  rw [valueOf, List.foldl_append]
  rfl

theorem valueOf_eq_ofDigits (digits : List ℕ) :
    valueOf digits = Nat.ofDigits 10 digits.reverse := by
  induction digits using List.reverseRecOn with
  | nil => rfl
  | append_singleton digits d ih =>
    rw [valueOf_snoc, ih, List.reverse_append, List.reverse_singleton, List.singleton_append,
      Nat.ofDigits_cons, Nat.add_comm, Nat.mul_comm]

/-- **The checked reading fails exactly on the numbers above the bound.** -/
theorem checked_eq (max : ℕ) (digits : List ℕ) :
    checked max digits = if valueOf digits ≤ max then some (valueOf digits) else none := by
  induction digits using List.reverseRecOn with
  | nil => exact (if_pos (Nat.zero_le max)).symm
  | append_singleton digits d ih =>
    rw [checked, List.foldlM_append] at *
    rw [ih, valueOf_snoc]
    by_cases hfits : valueOf digits ≤ max
    · rw [if_pos hfits]
      simp only [Option.bind_eq_bind, Option.bind_some, List.foldlM_cons, List.foldlM_nil]
      by_cases htimes : valueOf digits * 10 > max
      · rw [if_pos htimes, if_neg (by omega)]
        rfl
      · rw [if_neg htimes]
        by_cases hplus : valueOf digits * 10 + d > max
        · rw [if_pos hplus, if_neg (by omega)]
          rfl
        · rw [if_neg hplus, if_pos (by omega)]
          rfl
    · rw [if_neg hfits, if_neg (by omega)]
      rfl

/-! ## Bytes as characters -/

/-- The text whose characters are the bytes, as for ASCII. -/
def ofBytes (bytes : Bytes) : String := String.ofList (bytes.map fun b => Char.ofNat b.toNat)

theorem toList_ofBytes (bytes : Bytes) :
    (ofBytes bytes).toList = bytes.map fun b => Char.ofNat b.toNat := String.toList_ofList

theorem asBytes_ascii {bytes : Bytes} (h : ∀ b ∈ bytes, b < 0x80) :
    asBytes (ofBytes bytes) = bytes := by
  have hsingle : ∀ n < 128, String.utf8EncodeChar (Char.ofNat n) = [UInt8.ofNat n] := by
    decide +kernel
  rw [ofBytes, asBytes_ofList]
  induction bytes with
  | nil => rfl
  | cons b bytes ih =>
    have hb : b.toNat < 128 := UInt8.lt_iff_toNat_lt.mp (h b List.mem_cons_self)
    rw [List.map_cons, List.flatMap_cons, hsingle _ hb, UInt8.ofNat_toNat,
      ih fun c hc => h c (List.mem_cons_of_mem _ hc)]
    rfl

/-- The digits of a text of ASCII digits. -/
def digitsOf (text : Bytes) : List ℕ := text.map fun b => b.toNat - 0x30

theorem parseDecimal_eq (text : Bytes) :
    parseDecimal text =
      if text ≠ [] ∧ text.all isAsciiDigit then some (valueOf (digitsOf text)) else none := by
  rw [parseDecimal, valueOf_eq_ofDigits, digitsOf, List.map_reverse]

end DecimalText
