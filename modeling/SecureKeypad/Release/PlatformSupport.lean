import SecureKeypad.Node.ContentLength
import SecureKeypad.Release.Evidence

/-!
# Platform Support (`platform-support.mjs`)

Embeds the checked-in support policy, its validation and `validatePlatformSupportDevice`, with what
`Date` makes of a text that looks like a date. A date is read by its fields, and `toISOString`
writes the fields of the date that was read; an engine may take a day that its month does not have
for one of the next month, or for no date at all.

## Main results

- `toISOString_eq_ok_self_iff`: which dates are written as they are read
- `isoDate_lt_iff`: texts of dates are in the order of their dates
- `validatePlatformSupportPolicy_checkedIn`: the checked-in policy is valid
- `validatePlatformSupportDevice_android`: the devices without findings
-/

namespace SecureKeypad.Release

/-! ## Dates -/

/-- What a check throws. -/
inductive JsException where
  | rangeError
  | typeError
deriving DecidableEq

/-- The numbers in `YYYY-MM-DD`. -/
structure DateFields where
  year : ℕ
  month : ℕ
  day : ℕ
deriving DecidableEq

/-- The numbers in `HH:mm:ss.sss`. -/
structure TimeFields where
  hour : ℕ
  minute : ℕ
  second : ℕ
  millisecond : ℕ
deriving DecidableEq

/-- `ISO_DATE`: `^\d{4}-\d{2}-\d{2}$` -/
def isoDate : List Char → Option DateFields
  | [y₁, y₂, y₃, y₄, '-', m₁, m₂, '-', d₁, d₂] => do
    let year ← digits [y₁, y₂, y₃, y₄]
    let month ← twoDigits m₁ m₂
    let day ← twoDigits d₁ d₂
    some ⟨year, month, day⟩
  | _ => none

/-- `^T\d{2}:\d{2}:\d{2}\.\d{3}Z$` -/
def isoClock : List Char → Option TimeFields
  | ['T', h₁, h₂, ':', n₁, n₂, ':', s₁, s₂, '.', f₁, f₂, f₃, 'Z'] => do
    let hour ← twoDigits h₁ h₂
    let minute ← twoDigits n₁ n₂
    let second ← twoDigits s₁ s₂
    let millisecond ← digits [f₁, f₂, f₃]
    some ⟨hour, minute, second, millisecond⟩
  | _ => none

/-- `ISO_TIMESTAMP`: `^\d{4}-\d{2}-\d{2}T\d{2}:\d{2}:\d{2}\.\d{3}Z$` -/
def isoTimestamp (text : String) : Option (DateFields × TimeFields) := do
  let date ← isoDate (text.toList.take 10)
  let time ← isoClock (text.toList.drop 10)
  some (date, time)

/-- Midnight, when a date begins. -/
def TimeFields.midnight : TimeFields := ⟨0, 0, 0, 0⟩

def DateFields.monthDays (date : DateFields) : ℕ := daysInMonth date.year date.month

/-- The calendar has the date. -/
def DateFields.isReal (date : DateFields) : Bool :=
  1 ≤ date.month && date.month ≤ 12 && 1 ≤ date.day && date.day ≤ date.monthDays

/-- The clock shows the time. -/
def TimeFields.isReal (time : TimeFields) : Bool :=
  time.hour < 24 && time.minute < 60 && time.second < 60

section Date

/- Whether the engine counts a day that the month does not have on into the next one. -/
variable (rollsOver : Bool)

/-- Whether `new Date` of the text is a date. A day may end at `24:00:00.000`. -/
def isDate (date : DateFields) (time : TimeFields) : Bool :=
  1 ≤ date.month && date.month ≤ 12 && 1 ≤ date.day && date.day ≤ 31 &&
    (rollsOver || date.day ≤ date.monthDays) &&
    (time.isReal || time = ⟨24, 0, 0, 0⟩)

/-- A day that the month does not have, as one of the next month. December has them all. -/
def DateFields.rolled (date : DateFields) : DateFields :=
  if date.monthDays < date.day then ⟨date.year, date.month + 1, date.day - date.monthDays⟩
  else date

/-- The day after. -/
def DateFields.next (date : DateFields) : DateFields :=
  if date.day < date.monthDays then ⟨date.year, date.month, date.day + 1⟩
  else if date.month < 12 then ⟨date.year, date.month + 1, 1⟩
  else ⟨date.year + 1, 1, 1⟩

/-- `new Date(text).toISOString()`, by the fields of the texts. -/
def toISOString (date : DateFields) (time : TimeFields) :
    Except JsException (DateFields × TimeFields) :=
  if isDate rollsOver date time then
    if time.hour = 24 then .ok (date.rolled.next, .midnight) else .ok (date.rolled, time)
  else .error .rangeError

/-- `isValidCalendarDate` -/
def isValidCalendarDate (value : String) : Except JsException Bool :=
  match isoDate value.toList with
  | some date => do
    let written ← toISOString rollsOver date .midnight
    .ok (written.1 = date)
  | none => .ok false

end Date

/-! ## Versions -/

/-- `\.\d+` -/
def dotDigits : Regex := .seq (.lit ['.']) (.many Char.isDigit 1 none)

/-- `DOT_VERSION`: `^\d+(?:\.\d+){1,3}$` -/
def dotVersionPattern : Regex :=
  .seq (.many Char.isDigit 1 none) (.seq dotDigits (.seq (.opt dotDigits) (.opt dotDigits)))

/-- `version.split(".").map(Number)` of a version. -/
def dotParts (version : String) : List ℕ :=
  (version.toList.splitOn '.').map fun part => (digits part).getD 0

/-- The loop of `compareDotVersions`: a part that is not there is 0. -/
def compareDotParts : List ℕ → List ℕ → ℤ
  | [], [] => 0
  | left :: lefts, [] => if left ≠ 0 then left else compareDotParts lefts []
  | [], right :: rights => if right ≠ 0 then -right else compareDotParts [] rights
  | left :: lefts, right :: rights =>
    if left ≠ right then (left : ℤ) - right else compareDotParts lefts rights

def compareDotVersions (left right : String) : ℤ := compareDotParts (dotParts left) (dotParts right)

/-! ## The policy -/

def minimumOsVersion : String := "15.1"

def iosMinimumSecurityPatchLevel : String := "15.1"

def minimumApiLevel : ℕ := 24

def androidMinimumSecurityPatchLevel : String := "2026-01-01"

/-- `docs/PLATFORM-SUPPORT.json` -/
def platformSupportPolicy : Json :=
  .obj [("schemaVersion", .number (.ofNat 1)),
    ("policyId", .str "secure-keypad-platform-support-v1"),
    ("effectiveDate", .str "2026-08-22"),
    ("platforms", .obj
      [("ios", .obj
        [("minimumOsVersion", .str minimumOsVersion),
          ("securityPatchFormat", .str "dot-version"),
          ("minimumSecurityPatchLevel", .str iosMinimumSecurityPatchLevel)]),
        ("android", .obj
          [("minimumApiLevel", .number (.ofNat minimumApiLevel)),
            ("securityPatchFormat", .str "iso-date"),
            ("minimumSecurityPatchLevel", .str androidMinimumSecurityPatchLevel)])]),
    ("verifiedCiTargets", .obj
      [("iosSimulatorOsVersion", .str "26.5"), ("androidApiLevel", .number (.ofNat 35))])]

/-- `value?.name` -/
def member (value : Option Json) (name : String) : Option Json :=
  (value.bind Json.asObject?).bind fun fields => fields.lookup name

/-- `typeof value === "string" && isValidCalendarDate(value)` -/
def isDateText (rollsOver : Bool) : Option Json → Except JsException Bool
  | some (.str text) => isValidCalendarDate rollsOver text
  | _ => .ok false

/-- `Number.isSafeInteger(value)`, and at least the minimum. -/
def isSafeFrom (minimum : ℕ) (value : Option Json) : Bool :=
  (value.bind Json.asNumber?).any fun number => Node.isSafeInteger number && minimum ≤ number

/-- A finding without a path. -/
def expectText (holds : Bool) (finding : String) : List String := if holds then [] else [finding]

/-- `validatePlatformSupportPolicy` -/
def validatePlatformSupportPolicy (rollsOver : Bool) (policy : Option Json) :
    Except JsException (List String) := do
  let ios := member (member policy "platforms") "ios"
  let android := member (member policy "platforms") "android"
  let targets := member policy "verifiedCiTargets"
  let effective ← isDateText rollsOver (member policy "effectiveDate")
  let level ← isDateText rollsOver (member android "minimumSecurityPatchLevel")
  let simulator ← match test dotVersionPattern (member targets "iosSimulatorOsVersion") with
    | some matched => .ok matched
    | none => .error .typeError
  .ok (expectText ((member policy "schemaVersion").bind Json.asNumber? = some 1)
      "schemaVersion must be 1" ++
    expectText ((member policy "policyId").bind Json.asString? =
        some "secure-keypad-platform-support-v1")
      "policyId must identify the supported platform policy" ++
    expectText effective "effectiveDate must be a canonical calendar date" ++
    expectText ((member ios "minimumOsVersion").bind Json.asString? = some "15.1")
      "ios minimumOsVersion must be 15.1" ++
    expectText ((member ios "securityPatchFormat").bind Json.asString? = some "dot-version")
      "ios securityPatchFormat must be dot-version" ++
    expectText (isTextOf dotVersionPattern (member ios "minimumSecurityPatchLevel"))
      "ios minimumSecurityPatchLevel must be a dotted version" ++
    expectText (isSafeFrom 24 (member android "minimumApiLevel"))
      "android minimumApiLevel must be an integer of at least 24" ++
    expectText ((member android "securityPatchFormat").bind Json.asString? = some "iso-date")
      "android securityPatchFormat must be iso-date" ++
    expectText level "android minimumSecurityPatchLevel must be a calendar date" ++
    expectText simulator "verifiedCiTargets.iosSimulatorOsVersion must be a dotted version" ++
    expectText (((member targets "androidApiLevel").bind Json.asNumber?).any Node.isSafeInteger)
      "verifiedCiTargets.androidApiLevel must be an integer")

/-- The findings about a dotted version, which is to be at least the minimum. -/
def checkDotVersion (minimum field invalid below : String) : Option Json → List String
  | some (.str version) =>
    if dotVersionPattern.wholeMatch version then
      expect (!(compareDotVersions version minimum < 0)) field below
    else [field ++ ": " ++ invalid]
  | _ => [field ++ ": " ++ invalid]

/-- The findings about the API level of an Android device. -/
def checkApiLevel : Option Json → List String
  | some (.number level) =>
    if Node.isSafeInteger level.value then
      expect (!(level.value < minimumApiLevel)) "device.apiLevel"
        "is below the supported Android API minimum"
    else ["device.apiLevel: must be an integer Android API level"]
  | _ => ["device.apiLevel: must be an integer Android API level"]

/-- The findings about the security patch level of an Android device. -/
def checkAndroidPatchLevel (rollsOver : Bool) : Option Json → Except JsException (List String)
  | some (.str level) => do
    let valid ← isValidCalendarDate rollsOver level
    .ok (if valid then
        expect (!decide (level.toList < androidMinimumSecurityPatchLevel.toList))
          "device.securityPatchLevel" "is below the Android security patch floor"
      else ["device.securityPatchLevel: must be an ISO calendar date"])
  | _ => .ok ["device.securityPatchLevel: must be an ISO calendar date"]

/-- `validatePlatformSupportDevice` -/
def validatePlatformSupportDevice (rollsOver : Bool) (platform device : Option Json) :
    Except JsException (List String) := do
  let policyFindings ← validatePlatformSupportPolicy rollsOver (some platformSupportPolicy)
  if policyFindings ≠ [] then .ok (policyFindings.map ("platform policy: " ++ ·))
  else if platform.bind Json.asString? = some "ios" then
    .ok (checkDotVersion minimumOsVersion "device.osVersion" "must be a dotted iOS version"
        "is below the supported iOS minimum" (member device "osVersion") ++
      checkDotVersion iosMinimumSecurityPatchLevel "device.securityPatchLevel"
        "must be a dotted iOS security version" "is below the iOS security patch floor"
        (member device "securityPatchLevel"))
  else if platform.bind Json.asString? = some "android" then do
    let patchFindings ← checkAndroidPatchLevel rollsOver (member device "securityPatchLevel")
    .ok (checkApiLevel (member device "apiLevel") ++ patchFindings)
  else .ok []

/-! ## Reading dates -/

/-- A date comes before another one. -/
def DateFields.Before (a b : DateFields) : Prop :=
  a.year < b.year ∨ a.year = b.year ∧ (a.month < b.month ∨ a.month = b.month ∧ a.day < b.day)

theorem isoDate_eq_some_iff {text : List Char} {date : DateFields} :
    isoDate text = some date ↔ ∃ y₁ y₂ y₃ y₄ m₁ m₂ d₁ d₂,
      text = [y₁, y₂, y₃, y₄, '-', m₁, m₂, '-', d₁, d₂] ∧
      digits [y₁, y₂, y₃, y₄] = some date.year ∧ twoDigits m₁ m₂ = some date.month ∧
      twoDigits d₁ d₂ = some date.day := by
  constructor
  · intro h
    unfold isoDate at h
    split at h
    · simp only [Option.bind_eq_bind, Option.bind_eq_some_iff, Option.some.injEq] at h
      obtain ⟨year, hyear, month, hmonth, day, hday, rfl⟩ := h
      exact ⟨_, _, _, _, _, _, _, _, rfl, hyear, hmonth, hday⟩
    · cases h
  · intro ⟨y₁, y₂, y₃, y₄, m₁, m₂, d₁, d₂, htext, hyear, hmonth, hday⟩
    rw [htext, isoDate, hyear, hmonth, hday]
    rfl

/-- What two digits are. -/
theorem twoDigits_eq_some_iff {tens ones : Char} {n : ℕ} : twoDigits tens ones = some n ↔
    tens.isDigit = true ∧ ones.isDigit = true ∧
      n = 10 * (tens.toNat - 48) + (ones.toNat - 48) := by
  unfold twoDigits
  split
  · next h =>
    rw [Bool.and_eq_true] at h
    simp [h, eq_comm]
  · next h =>
    rw [Bool.and_eq_true] at h
    simp only [reduceCtorEq, false_iff]
    intro ⟨htens, hones, _⟩
    exact h ⟨htens, hones⟩

/-- What four digits are. -/
theorem fourDigits_eq_some_iff {a b c d : Char} {n : ℕ} : digits [a, b, c, d] = some n ↔
    (a.isDigit = true ∧ b.isDigit = true ∧ c.isDigit = true ∧ d.isDigit = true) ∧
      n = 10 * (10 * (10 * (a.toNat - 48) + (b.toNat - 48)) + (c.toNat - 48)) +
        (d.toNat - 48) := by
  unfold digits
  split
  · next h =>
    simp only [List.all_cons, List.all_nil, Bool.and_true, Bool.and_eq_true] at h
    simp [h, eq_comm]
  · next h =>
    simp only [List.all_cons, List.all_nil, Bool.and_true, Bool.and_eq_true] at h
    simp only [reduceCtorEq, false_iff]
    intro ⟨hdigits, _⟩
    exact h hdigits

theorem exists_digit {c : Char} (h : c.isDigit = true) : ∃ v ≤ 9, c.toNat = v + 48 := by
  simp only [Char.isDigit, Bool.and_eq_true, decide_eq_true_eq, UInt32.le_iff_toNat_le,
    ge_iff_le] at h
  have hlow : 48 ≤ c.toNat := h.1
  have hhigh : c.toNat ≤ 57 := h.2
  exact ⟨c.toNat - 48, by omega, by omega⟩

/-- **Texts of dates are in the order of their dates.** -/
theorem isoDate_lt_iff {s t : List Char} {a b : DateFields} (hs : isoDate s = some a)
    (ht : isoDate t = some b) : s < t ↔ a.Before b := by
  obtain ⟨y₁, y₂, y₃, y₄, m₁, m₂, d₁, d₂, rfl, hy, hm, hd⟩ := isoDate_eq_some_iff.mp hs
  obtain ⟨z₁, z₂, z₃, z₄, n₁, n₂, e₁, e₂, rfl, hz, hn, he⟩ := isoDate_eq_some_iff.mp ht
  obtain ⟨⟨hy₁, hy₂, hy₃, hy₄⟩, hyear⟩ := fourDigits_eq_some_iff.mp hy
  obtain ⟨⟨hz₁, hz₂, hz₃, hz₄⟩, hyear'⟩ := fourDigits_eq_some_iff.mp hz
  obtain ⟨hm₁, hm₂, hmonth⟩ := twoDigits_eq_some_iff.mp hm
  obtain ⟨hn₁, hn₂, hmonth'⟩ := twoDigits_eq_some_iff.mp hn
  obtain ⟨hd₁, hd₂, hday⟩ := twoDigits_eq_some_iff.mp hd
  obtain ⟨he₁, he₂, hday'⟩ := twoDigits_eq_some_iff.mp he
  -- Characters compare by their code points, and so the digits by their values.
  have hlt (c d : Char) : c < d ↔ c.toNat < d.toNat := by
    rw [Char.lt_def, UInt32.lt_iff_toNat_lt]
    rfl
  have heq (c d : Char) : c = d ↔ c.toNat = d.toNat := Char.toNat_inj.symm
  have hdash : ¬ '-' < '-' := lt_irrefl '-'
  simp only [List.cons_lt_cons_iff, hdash, true_and, false_or, List.not_lt_nil, and_false,
    or_false, DateFields.Before, hyear, hyear', hmonth, hmonth', hday, hday']
  obtain ⟨_, _, hy₁⟩ := exists_digit hy₁
  obtain ⟨_, _, hy₂⟩ := exists_digit hy₂
  obtain ⟨_, _, hy₃⟩ := exists_digit hy₃
  obtain ⟨_, _, hy₄⟩ := exists_digit hy₄
  obtain ⟨_, _, hz₁⟩ := exists_digit hz₁
  obtain ⟨_, _, hz₂⟩ := exists_digit hz₂
  obtain ⟨_, _, hz₃⟩ := exists_digit hz₃
  obtain ⟨_, _, hz₄⟩ := exists_digit hz₄
  obtain ⟨_, _, hm₁⟩ := exists_digit hm₁
  obtain ⟨_, _, hm₂⟩ := exists_digit hm₂
  obtain ⟨_, _, hn₁⟩ := exists_digit hn₁
  obtain ⟨_, _, hn₂⟩ := exists_digit hn₂
  obtain ⟨_, _, hd₁⟩ := exists_digit hd₁
  obtain ⟨_, _, hd₂⟩ := exists_digit hd₂
  obtain ⟨_, _, he₁⟩ := exists_digit he₁
  obtain ⟨_, _, he₂⟩ := exists_digit he₂
  simp only [hlt, heq, hy₁, hy₂, hy₃, hy₄, hz₁, hz₂, hz₃, hz₄, hm₁, hm₂, hn₁, hn₂, hd₁, hd₂, he₁,
    he₂, Nat.add_sub_cancel, Nat.add_lt_add_iff_right, Nat.add_right_cancel_iff]
  omega

/-! ## Writing dates back -/

section Date

variable {rollsOver : Bool}

theorem daysInMonth_le (year : ℤ) (month : ℕ) : daysInMonth year month ≤ 31 := by
  unfold daysInMonth
  repeat' split
  all_goals decide

/-- What the calendar has is a date. -/
theorem isDate_of_isReal {date : DateFields} {time : TimeFields} (hdate : date.isReal = true)
    (htime : time.isReal = true) : isDate rollsOver date time = true := by
  simp only [DateFields.isReal, Bool.and_eq_true, decide_eq_true_eq] at hdate
  obtain ⟨⟨⟨hlow, hhigh⟩, hday⟩, hdays⟩ := hdate
  have hmonth : date.day ≤ 31 := hdays.trans (daysInMonth_le _ _)
  simp [isDate, hlow, hhigh, hday, hdays, hmonth, htime]

/-- The time of a date that is not the end of a day is one a clock shows. -/
theorem isReal_of_isDate {date : DateFields} {time : TimeFields}
    (h : isDate rollsOver date time = true) (hhour : time.hour ≠ 24) : time.isReal = true := by
  rw [isDate, Bool.and_eq_true, Bool.or_eq_true, decide_eq_true_iff] at h
  cases h.2 with
  | inl hreal => exact hreal
  | inr hend =>
    rw [hend] at hhour
    exact absurd rfl hhour

theorem DateFields.rolled_eq_self_iff {date : DateFields} :
    date.rolled = date ↔ date.day ≤ date.monthDays := by
  unfold DateFields.rolled
  split
  · next hlt =>
    refine iff_of_false (fun heq => ?_) hlt.not_ge
    have hmonth := congrArg DateFields.month heq
    simp at hmonth
  · next hge => exact iff_of_true rfl (not_lt.mp hge)

/-- There is nothing to write exactly when there is no date. -/
theorem exists_toISOString_iff {date : DateFields} {time : TimeFields} :
    (∃ written, toISOString rollsOver date time = .ok written) ↔
      isDate rollsOver date time = true := by
  unfold toISOString
  split
  · next h => split <;> simp [h]
  · next h => simp [h]

/-- **A date is written as it is read when the calendar has it and a clock shows its time.** -/
theorem toISOString_eq_ok_self_iff {date : DateFields} {time : TimeFields} :
    toISOString rollsOver date time = .ok (date, time) ↔
      date.isReal = true ∧ time.isReal = true := by
  constructor
  · intro h
    have hdate := exists_toISOString_iff.mp ⟨_, h⟩
    rw [toISOString, if_pos hdate] at h
    by_cases hhour : time.hour = 24
    · rw [if_pos hhour] at h
      have htime := congrArg TimeFields.hour (Prod.ext_iff.mp (Except.ok.inj h)).2
      rw [hhour] at htime
      cases htime
    · rw [if_neg hhour] at h
      have hrolled := DateFields.rolled_eq_self_iff.mp (Prod.ext_iff.mp (Except.ok.inj h)).1
      refine ⟨?_, isReal_of_isDate hdate hhour⟩
      simp only [isDate, Bool.and_eq_true] at hdate
      simp only [DateFields.isReal, Bool.and_eq_true, decide_eq_true_eq]
      obtain ⟨⟨⟨⟨⟨hlow, hhigh⟩, hday⟩, -⟩, -⟩, -⟩ := hdate
      exact ⟨⟨⟨of_decide_eq_true hlow, of_decide_eq_true hhigh⟩, of_decide_eq_true hday⟩, hrolled⟩
  · intro ⟨hdate, htime⟩
    have hhour : time.hour ≠ 24 := by
      simp only [TimeFields.isReal, Bool.and_eq_true, decide_eq_true_eq] at htime
      exact htime.1.1.ne
    have hrolled : date.rolled = date := by
      simp only [DateFields.isReal, Bool.and_eq_true, decide_eq_true_eq] at hdate
      exact DateFields.rolled_eq_self_iff.mpr hdate.2
    rw [toISOString, if_pos (isDate_of_isReal hdate htime), if_neg hhour, hrolled]

theorem exists_isValidCalendarDate_iff {value : String} :
    (∃ valid, isValidCalendarDate rollsOver value = .ok valid) ↔
      ∀ date, isoDate value.toList = some date → isDate rollsOver date .midnight = true := by
  unfold isValidCalendarDate
  cases hdate : isoDate value.toList with
  | none => simp
  | some date =>
    simp only [bind_eq_ok, Option.some.injEq, forall_eq']
    rw [← exists_toISOString_iff]
    constructor
    · intro ⟨_, written, hwritten, _⟩
      exact ⟨written, hwritten⟩
    · intro ⟨written, hwritten⟩
      exact ⟨_, written, hwritten, rfl⟩

/-- A valid calendar date is the text of a date the calendar has. -/
theorem isValidCalendarDate_eq_ok_true_iff {value : String} :
    isValidCalendarDate rollsOver value = .ok true ↔
      ∃ date, isoDate value.toList = some date ∧ date.isReal = true := by
  unfold isValidCalendarDate
  cases hdate : isoDate value.toList with
  | none => simp
  | some date =>
    simp only [bind_eq_ok, Except.ok.injEq, decide_eq_true_eq, Option.some.injEq,
      exists_eq_left']
    constructor
    · intro ⟨written, hwritten, heq⟩
      have hself : toISOString rollsOver date .midnight = .ok (date, .midnight) := by
        have hmidnight := exists_toISOString_iff.mp ⟨_, hwritten⟩
        rw [toISOString, if_pos hmidnight, if_neg (by decide)] at hwritten ⊢
        rw [← Except.ok.inj hwritten] at heq
        exact congrArg (fun date => Except.ok (date, TimeFields.midnight)) heq
      exact (toISOString_eq_ok_self_iff.mp hself).1
    · intro hreal
      exact ⟨_, toISOString_eq_ok_self_iff.mpr ⟨hreal, rfl⟩, rfl⟩

/-! ## The checks of a device -/

/-- The checked-in policy is valid. -/
theorem validatePlatformSupportPolicy_checkedIn :
    validatePlatformSupportPolicy rollsOver (some platformSupportPolicy) = .ok [] := by
  cases rollsOver <;> decide +kernel

/-- The floor of Android security patches, by its fields. -/
def androidPatchFloor : DateFields := ⟨2026, 1, 1⟩

theorem isoDate_androidPatchFloor :
    isoDate androidMinimumSecurityPatchLevel.toList = some androidPatchFloor := by
  decide +kernel

/-- The patch level is a date, and none before the floor. -/
def PatchedSinceFloor (level : Option Json) : Prop :=
  ∃ text date, level = some (.str text) ∧ isoDate text.toList = some date ∧
    date.isReal = true ∧ ¬ date.Before androidPatchFloor

/-- A patch level that looks like a date is one to the engine. -/
def ReadableDate (rollsOver : Bool) (level : Option Json) : Prop :=
  ∀ text date, level = some (.str text) → isoDate text.toList = some date →
    isDate rollsOver date .midnight = true

theorem exists_checkAndroidPatchLevel_iff {level : Option Json} :
    (∃ findings, checkAndroidPatchLevel rollsOver level = .ok findings) ↔
      ReadableDate rollsOver level := by
  unfold checkAndroidPatchLevel
  split
  · next text =>
    simp only [bind_eq_ok, ReadableDate, Option.some.injEq, Json.str.injEq]
    constructor
    · rintro ⟨_, valid, hvalid, -⟩ _ date rfl hdate
      exact exists_isValidCalendarDate_iff.mp ⟨valid, hvalid⟩ date hdate
    · intro h
      obtain ⟨valid, hvalid⟩ := exists_isValidCalendarDate_iff.mpr fun date => h text date rfl
      exact ⟨_, valid, hvalid, rfl⟩
  · next hno =>
    refine iff_of_true ⟨_, rfl⟩ ?_
    intro text date hlevel
    exact absurd hlevel (hno text)

theorem patchedSinceFloor_of_checkAndroidPatchLevel {level : Option Json}
    (h : checkAndroidPatchLevel rollsOver level = .ok []) : PatchedSinceFloor level := by
  unfold checkAndroidPatchLevel at h
  split at h
  · next text =>
    obtain ⟨valid, hvalid, h⟩ := bind_eq_ok.mp h
    cases valid with
    | false => cases Except.ok.inj h
    | true =>
      obtain ⟨date, hdate, hreal⟩ := isValidCalendarDate_eq_ok_true_iff.mp hvalid
      refine ⟨text, date, rfl, hdate, hreal, ?_⟩
      rw [← isoDate_lt_iff hdate isoDate_androidPatchFloor]
      rw [if_pos rfl, Except.ok.injEq, expect_eq_nil, Bool.not_eq_true', decide_eq_false_iff_not]
        at h
      exact h
  · cases Except.ok.inj h

/-- What is left of the check of a device with the policy that is checked in. -/
theorem validatePlatformSupportDevice_eq (platform device : Option Json) :
    validatePlatformSupportDevice rollsOver platform device =
      if platform.bind Json.asString? = some "ios" then
        .ok (checkDotVersion minimumOsVersion "device.osVersion" "must be a dotted iOS version"
            "is below the supported iOS minimum" (member device "osVersion") ++
          checkDotVersion iosMinimumSecurityPatchLevel "device.securityPatchLevel"
            "must be a dotted iOS security version" "is below the iOS security patch floor"
            (member device "securityPatchLevel"))
      else if platform.bind Json.asString? = some "android" then do
        let patchFindings ← checkAndroidPatchLevel rollsOver (member device "securityPatchLevel")
        .ok (checkApiLevel (member device "apiLevel") ++ patchFindings)
      else .ok [] := by
  rw [validatePlatformSupportDevice, validatePlatformSupportPolicy_checkedIn]
  rfl

/-- The check of a device comes to an end exactly when an Android patch level is readable. -/
theorem exists_validatePlatformSupportDevice_iff {platform device : Option Json} :
    (∃ findings, validatePlatformSupportDevice rollsOver platform device = .ok findings) ↔
      (platform = some (.str "android") →
        ReadableDate rollsOver (member device "securityPatchLevel")) := by
  have hplatform (name : String) :
      platform.bind Json.asString? = some name ↔ platform = some (.str name) := by
    simp [Option.bind_eq_some_iff]
  rw [validatePlatformSupportDevice_eq, ← hplatform]
  by_cases hios : platform.bind Json.asString? = some "ios"
  · rw [if_pos hios, hios]
    refine iff_of_true ⟨_, rfl⟩ fun h => ?_
    exact absurd (Option.some.inj h) (by decide)
  · rw [if_neg hios]
    by_cases handroid : platform.bind Json.asString? = some "android"
    · rw [if_pos handroid, ← exists_checkAndroidPatchLevel_iff]
      simp only [handroid, forall_const, bind_eq_ok]
      constructor
      · intro ⟨_, findings, hfindings, _⟩
        exact ⟨findings, hfindings⟩
      · intro ⟨findings, hfindings⟩
        exact ⟨_, findings, hfindings, rfl⟩
    · rw [if_neg handroid]
      exact iff_of_true ⟨_, rfl⟩ fun h => absurd h handroid

/-- **An Android device without findings has a patch level since the floor.** -/
theorem validatePlatformSupportDevice_android {device : Option Json}
    (h : validatePlatformSupportDevice rollsOver (some (.str "android")) device = .ok []) :
    PatchedSinceFloor (member device "securityPatchLevel") := by
  rw [validatePlatformSupportDevice_eq, if_neg (by decide), if_pos (by decide)] at h
  obtain ⟨patchFindings, hpatch, h⟩ := bind_eq_ok.mp h
  rw [Except.ok.injEq, List.append_eq_nil_iff] at h
  rw [h.2] at hpatch
  exact patchedSinceFloor_of_checkAndroidPatchLevel hpatch

end Date

end SecureKeypad.Release
