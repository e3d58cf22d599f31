import Mathlib

/-!
# Regular Expressions and Where Engines Anchor Them

Regular expressions of characters, classes, bounded repetitions of a class, sequences and
alternatives, with their languages and a matcher that lists what may be left of a text behind a
match. Engines differ in what they take for the end of the text:

- JavaScript's `/^r$/.test` and a Java or Kotlin whole-region match want nothing left;
- ICU's search for `^r$`, which Foundation uses, is also content when a line terminator is left.

## Main results

- `length_le_longest`: how long a text in the language can be
- `forall_mem_of_within`: which characters it can have
- `mem_rests`: the matcher lists exactly the rests behind a prefix in the language
- `greedySplit_eq_some_iff`: where a greedy repetition stops
- `wholeMatch_iff`, `icuFind_iff`, `search_iff`: the engines by languages
-/

/-- A regular expression. -/
inductive Regex where
  /-- Nothing. -/
  | empty
  /-- One character of a class. -/
  | one (cls : Char → Bool)
  /-- `cls{lo,hi}`; without `hi` there is no upper bound. -/
  | many (cls : Char → Bool) (lo : ℕ) (hi : Option ℕ)
  /-- One after the other. -/
  | seq (first second : Regex)
  /-- Either. -/
  | alt (left right : Regex)

namespace Regex

/-! ## Languages -/

/-- The texts an expression stands for. -/
def Matches : Regex → List Char → Prop
  | empty, s => s = []
  | one cls, s => ∃ c, cls c = true ∧ s = [c]
  | many cls lo hi, s => lo ≤ s.length ∧ (∀ bound ∈ hi, s.length ≤ bound) ∧ ∀ c ∈ s, cls c = true
  | seq first second, s => ∃ a b, s = a ++ b ∧ first.Matches a ∧ second.Matches b
  | alt left right, s => left.Matches s ∨ right.Matches s

/-- A literal text. -/
def lit : List Char → Regex
  | [] => empty
  | c :: s => seq (one (· = c)) (lit s)

/-- A text of lower case letters, in either case: `/text/i`. -/
def litCaseless : List Char → Regex
  | [] => empty
  | c :: s => seq (one (·.toLower = c)) (litCaseless s)

/-- `(?:r)?` -/
def opt (r : Regex) : Regex := alt r empty

@[simp] theorem matches_lit (text s : List Char) : (lit text).Matches s ↔ s = text := by
  induction text generalizing s with
  | nil => rfl
  | cons c text ih =>
    constructor
    · intro ⟨a, b, hs, ⟨d, hd, ha⟩, hb⟩
      rw [hs, ha, of_decide_eq_true hd, (ih b).mp hb]
      rfl
    · intro hs
      exact ⟨[c], text, hs, ⟨c, decide_eq_true rfl, rfl⟩, (ih text).mpr rfl⟩

@[simp] theorem matches_opt (r : Regex) (s : List Char) :
    (opt r).Matches s ↔ r.Matches s ∨ s = [] := Iff.rfl

@[simp] theorem matches_many (cls : Char → Bool) (lo : ℕ) (hi : Option ℕ) (s : List Char) :
    (many cls lo hi).Matches s ↔
      lo ≤ s.length ∧ (∀ bound ∈ hi, s.length ≤ bound) ∧ ∀ c ∈ s, cls c = true := Iff.rfl

theorem matches_seq (first second : Regex) (s : List Char) :
    (seq first second).Matches s ↔ ∃ a b, s = a ++ b ∧ first.Matches a ∧ second.Matches b :=
  Iff.rfl

/-- A literal in front is a prefix to strip. -/
theorem matches_seq_lit (text : List Char) (r : Regex) (s : List Char) :
    (seq (lit text) r).Matches s ↔ ∃ b, s = text ++ b ∧ r.Matches b := by
  simp only [matches_seq, matches_lit]
  constructor
  · intro ⟨a, b, hs, ha, hb⟩
    exact ⟨b, ha ▸ hs, hb⟩
  · intro ⟨b, hs, hb⟩
    exact ⟨text, b, hs, rfl, hb⟩

/-- The length of the longest texts, where there is one. -/
def longest : Regex → Option ℕ
  | empty => some 0
  | one _ => some 1
  | many _ _ hi => hi
  | seq first second => do return (← first.longest) + (← second.longest)
  | alt left right => do return max (← left.longest) (← right.longest)

theorem length_le_longest {r : Regex} {s : List Char} {bound : ℕ} (h : r.Matches s)
    (hbound : r.longest = some bound) : s.length ≤ bound := by
  induction r generalizing s bound with
  | empty =>
    cases hbound
    exact (congrArg List.length h).le
  | one cls =>
    cases hbound
    obtain ⟨c, -, rfl⟩ := h
    exact le_rfl
  | many cls lo hi => exact h.2.1 bound hbound
  | seq first second ihFirst ihSecond =>
    simp only [longest, Option.bind_eq_bind, Option.bind_eq_some_iff, Option.pure_def,
      Option.some.injEq] at hbound
    obtain ⟨n, hn, m, hm, rfl⟩ := hbound
    obtain ⟨a, b, rfl, ha, hb⟩ := h
    rw [List.length_append]
    exact Nat.add_le_add (ihFirst ha hn) (ihSecond hb hm)
  | alt left right ihLeft ihRight =>
    simp only [longest, Option.bind_eq_bind, Option.bind_eq_some_iff, Option.pure_def,
      Option.some.injEq] at hbound
    obtain ⟨n, hn, m, hm, rfl⟩ := hbound
    cases h with
    | inl hleft => exact le_trans (ihLeft hleft hn) (le_max_left n m)
    | inr hright => exact le_trans (ihRight hright hm) (le_max_right n m)

/-- The expression uses only characters of a class. -/
def Within (p : Char → Bool) : Regex → Prop
  | empty => True
  | one cls => ∀ c, cls c = true → p c = true
  | many cls _ _ => ∀ c, cls c = true → p c = true
  | seq first second => first.Within p ∧ second.Within p
  | alt left right => left.Within p ∧ right.Within p

theorem forall_mem_of_within {p : Char → Bool} {r : Regex} {s : List Char} (hr : r.Within p)
    (h : r.Matches s) : ∀ c ∈ s, p c = true := by
  induction r generalizing s with
  | empty =>
    rw [show s = [] from h]
    exact fun c hc => absurd hc List.not_mem_nil
  | one cls =>
    obtain ⟨c, hc, rfl⟩ := h
    exact List.forall_mem_singleton.mpr (hr c hc)
  | many cls lo hi => exact fun c hc => hr c (h.2.2 c hc)
  | seq first second ihFirst ihSecond =>
    obtain ⟨a, b, rfl, ha, hb⟩ := h
    exact List.forall_mem_append.mpr ⟨ihFirst hr.1 ha, ihSecond hr.2 hb⟩
  | alt left right ihLeft ihRight =>
    cases h with
    | inl hleft => exact ihLeft hr.1 hleft
    | inr hright => exact ihRight hr.2 hright

/-! ## Matching -/

/-- What may be left behind a match at the front of the text. -/
def rests : Regex → List Char → List (List Char)
  | empty, s => [s]
  | one _, [] => []
  | one cls, c :: s => if cls c then [s] else []
  | many cls lo hi, s =>
    ((List.range (s.length + 1)).filter fun n =>
      lo ≤ n && hi.all (n ≤ ·) && (s.take n).all cls).map fun n => s.drop n
  | seq first second, s => (first.rests s).flatMap second.rests
  | alt left right, s => left.rests s ++ right.rests s

/-- **The matcher is right**: a rest is listed exactly when what stands before it is in the
    language. -/
theorem mem_rests {r : Regex} {s rest : List Char} :
    rest ∈ r.rests s ↔ ∃ front, s = front ++ rest ∧ r.Matches front := by
  induction r generalizing s rest with
  | empty =>
    simp only [rests, List.mem_singleton, Matches]
    exact ⟨fun h => ⟨[], h.symm, rfl⟩, fun ⟨front, hs, hfront⟩ => by simp [hs, hfront]⟩
  | one cls =>
    cases s with
    | nil =>
      simp only [rests, List.not_mem_nil, false_iff]
      rintro ⟨front, hs, c, _, rfl⟩
      cases hs
    | cons c s =>
      simp only [rests, Matches]
      constructor
      · intro h
        split at h
        · next hc => exact ⟨[c], by rw [List.mem_singleton.mp h]; rfl, c, hc, rfl⟩
        · cases h
      · rintro ⟨front, hs, d, hd, rfl⟩
        obtain ⟨rfl, rfl⟩ := List.cons.inj hs
        rw [if_pos hd]
        exact List.mem_singleton_self _
  -- The number of repetitions is the length of what has been matched.
  | many cls lo hi =>
    simp only [rests, List.mem_map, List.mem_filter, List.mem_range, Bool.and_eq_true,
      decide_eq_true_eq, matches_many]
    constructor
    · rintro ⟨n, ⟨hn, ⟨hlo, hhi⟩, hall⟩, rfl⟩
      refine ⟨s.take n, (List.take_append_drop n s).symm, ?_⟩
      rw [List.length_take_of_le (Nat.lt_succ_iff.mp hn)]
      refine ⟨hlo, ?_, List.all_eq_true.mp hall⟩
      intro bound hbound
      rw [Option.mem_def.mp hbound] at hhi
      exact of_decide_eq_true hhi
    · rintro ⟨front, rfl, hlo, hhi, hall⟩
      refine ⟨front.length, ⟨by simp, ⟨hlo, ?_⟩, ?_⟩, List.drop_left⟩
      · cases hi with
        | none => rfl
        | some bound => exact decide_eq_true (hhi bound rfl)
      · rw [List.take_left]
        exact List.all_eq_true.mpr hall
  -- What the first expression leaves is where the second starts.
  | seq first second ihFirst ihSecond =>
    simp only [rests, List.mem_flatMap, ihFirst, ihSecond, matches_seq]
    constructor
    · rintro ⟨middle, ⟨a, rfl, ha⟩, b, rfl, hb⟩
      exact ⟨a ++ b, (List.append_assoc a b rest).symm, a, b, rfl, ha, hb⟩
    · rintro ⟨front, rfl, a, b, rfl, ha, hb⟩
      exact ⟨b ++ rest, ⟨a, List.append_assoc a b rest, ha⟩, b, rfl, hb⟩
  | alt left right ihLeft ihRight =>
    simp only [rests, List.mem_append, ihLeft, ihRight, Matches]
    constructor
    · rintro (⟨front, hs, h⟩ | ⟨front, hs, h⟩)
      · exact ⟨front, hs, .inl h⟩
      · exact ⟨front, hs, .inr h⟩
    · rintro ⟨front, hs, h | h⟩
      · exact .inl ⟨front, hs, h⟩
      · exact .inr ⟨front, hs, h⟩

/-! ## Greedy repetitions -/

section Greedy

variable {α β : Type*}

/-- What `read` makes of a list cut in two, of the cut with the longest front at which it makes
    something: a greedy repetition gives back one item after the other until the rest matches. -/
def greedySplit (read : List α → List α → Option β) : List α → Option β
  | [] => read [] []
  | a :: s => (greedySplit (fun front => read (a :: front)) s).or (read [] (a :: s))

theorem greedySplit_eq_none_iff {read : List α → List α → Option β} {s : List α} :
    greedySplit read s = none ↔ ∀ front back, s = front ++ back → read front back = none := by
  induction s generalizing read with
  | nil =>
    constructor
    · intro h front back hs
      obtain ⟨rfl, rfl⟩ := List.nil_eq_append_iff.mp hs
      exact h
    · intro h
      exact h [] [] rfl
  | cons a s ih =>
    rw [greedySplit, Option.or_eq_none_iff, ih]
    constructor
    · intro ⟨hlonger, hnil⟩ front back hs
      obtain ⟨rfl, rfl⟩ | ⟨front, rfl, rfl⟩ := List.cons_eq_append_iff.mp hs
      · exact hnil
      · exact hlonger front back rfl
    · intro h
      exact ⟨fun front back hs => h (a :: front) back (congrArg _ hs), h [] _ rfl⟩

/-- **The longest front wins**: `read` makes something of a cut, and nothing of one further on. -/
theorem greedySplit_eq_some_iff {read : List α → List α → Option β} {s : List α} {b : β} :
    greedySplit read s = some b ↔ ∃ front back, s = front ++ back ∧ read front back = some b ∧
      ∀ more rest, back = more ++ rest → more ≠ [] → read (front ++ more) rest = none := by
  induction s generalizing read with
  | nil =>
    constructor
    · intro h
      refine ⟨[], [], rfl, h, ?_⟩
      intro more rest hback hne
      exact absurd (List.nil_eq_append_iff.mp hback).1 hne
    · intro ⟨front, back, hs, h, _⟩
      obtain ⟨rfl, rfl⟩ := List.nil_eq_append_iff.mp hs
      exact h
  -- A longer front is tried before this one, and the empty front last.
  | cons a s ih =>
    rw [greedySplit, Option.or_eq_some_iff, ih, greedySplit_eq_none_iff]
    constructor
    · rintro (⟨front, back, rfl, h, hlast⟩ | ⟨hlonger, h⟩)
      · exact ⟨a :: front, back, rfl, h, hlast⟩
      · refine ⟨[], a :: s, rfl, h, ?_⟩
        intro more rest hback hne
        obtain ⟨rfl, -⟩ | ⟨more, rfl, rfl⟩ := List.cons_eq_append_iff.mp hback
        · exact absurd rfl hne
        · exact hlonger more rest rfl
    · intro ⟨front, back, hs, h, hlast⟩
      obtain ⟨rfl, rfl⟩ | ⟨front, rfl, rfl⟩ := List.cons_eq_append_iff.mp hs
      · refine .inr ⟨?_, h⟩
        intro more rest hs'
        exact hlast (a :: more) rest (congrArg _ hs') (List.cons_ne_nil a more)
      · exact .inl ⟨front, back, rfl, h, hlast⟩

end Greedy

/-! ## Engines -/

/-- The whole text: `/^r$/.test(text)` without flags, `Regex("r").matches(text)`. -/
def wholeMatch (r : Regex) (text : String) : Bool := (r.rests text.toList).any List.isEmpty

/-- The line terminators ICU knows. -/
def icuLineTerminators : List (List Char) :=
  [['\n'], ['\x0b'], ['\x0c'], ['\r'], ['\x85'], ['\u2028'], ['\u2029'], ['\r', '\n']]

/-- ICU's search for `^r$` without the multi-line flag: `$` also matches in front of a line
    terminator that ends the text. -/
def icuFind (r : Regex) (text : String) : Bool :=
  (r.rests text.toList).any fun rest => rest.isEmpty || icuLineTerminators.contains rest

/-- `/r/.test(text)`: a match anywhere. -/
def search (r : Regex) (text : String) : Bool :=
  text.toList.tails.any fun tail => !(r.rests tail).isEmpty

theorem wholeMatch_iff {r : Regex} {text : String} :
    r.wholeMatch text = true ↔ r.Matches text.toList := by
  simp only [wholeMatch, List.any_eq_true, List.isEmpty_iff, exists_eq_right, mem_rests,
    List.append_nil]
  exact ⟨fun ⟨_, hs, h⟩ => hs ▸ h, fun h => ⟨_, rfl, h⟩⟩

theorem icuFind_iff {r : Regex} {text : String} :
    r.icuFind text = true ↔ r.Matches text.toList ∨
      ∃ front, ∃ terminator ∈ icuLineTerminators, text.toList = front ++ terminator ∧
        r.Matches front := by
  simp only [icuFind, List.any_eq_true, Bool.or_eq_true, List.isEmpty_iff, List.contains_iff_mem,
    mem_rests]
  constructor
  · rintro ⟨rest, ⟨front, hs, h⟩, hrest | hrest⟩
    · rw [hrest, List.append_nil] at hs
      exact .inl (hs ▸ h)
    · exact .inr ⟨front, rest, hrest, hs, h⟩
  · rintro (h | ⟨front, terminator, hterminator, hs, h⟩)
    · exact ⟨[], ⟨_, (List.append_nil _).symm, h⟩, .inl rfl⟩
    · exact ⟨terminator, ⟨front, hs, h⟩, .inr hterminator⟩

/-- What matches whole, ICU finds. -/
theorem icuFind_of_wholeMatch {r : Regex} {text : String} (h : r.wholeMatch text = true) :
    r.icuFind text = true :=
  icuFind_iff.mpr (.inl (wholeMatch_iff.mp h))

theorem search_iff {r : Regex} {text : String} :
    r.search text = true ↔ ∃ before inside after,
      text.toList = before ++ (inside ++ after) ∧ r.Matches inside := by
  simp only [search, List.any_eq_true, List.mem_tails, Bool.not_eq_true', List.isEmpty_eq_false_iff]
  constructor
  · rintro ⟨tail, ⟨before, hbefore⟩, hne⟩
    obtain ⟨rest, hrest⟩ := List.exists_mem_of_ne_nil _ hne
    obtain ⟨inside, rfl, h⟩ := mem_rests.mp hrest
    exact ⟨before, inside, rest, hbefore.symm, h⟩
  · rintro ⟨before, inside, after, hs, h⟩
    exact ⟨inside ++ after, ⟨before, hs.symm⟩, List.ne_nil_of_mem (mem_rests.mpr ⟨inside, rfl, h⟩)⟩

end Regex
