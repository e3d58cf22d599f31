import SecureKeypad.Release.DeviceEvidence

/-!
# Findings about Device Evidence

When `validateDeviceEvidence` comes to an end, and what it then has found. A record that is suspect
always has a finding, but some records make the validator throw: those that are nested too deep for
the engine, and those with a text that looks like a date and is none, a property name that no string
can be made of, or host modes that cannot be gone over.

## Main results

- `exists_rejectSecretKeys_iff`: how deep a record can be
- `exists_checkHostModes_iff`, `checkHostModes_accepts`: the loop over the host modes
- `exists_validateDeviceEvidence_iff`: when the validator comes to an end
- `device_evidence_findings_iff`: when it finds what it should
-/

namespace SecureKeypad.Release

/-! ## What the validator can read -/

variable {engine : Engine}

theorem exists_rejectSecretItems_iff {depth : ℕ} {items : List Json}
    (h : ∀ item ∈ items, ∀ pathName,
      (∃ findings, rejectSecretKeys pathName depth item = .ok findings) ↔ item.levels ≤ depth)
    (pathName : String) (index : ℕ) :
    (∃ findings, rejectSecretItems pathName depth index items = .ok findings) ↔
      Json.itemLevels items ≤ depth := by
  induction items generalizing index with
  | nil => simp [rejectSecretItems, Json.itemLevels]
  | cons item items ih =>
    obtain ⟨hitem, hitems⟩ := List.forall_mem_cons.mp h
    rw [rejectSecretItems, Json.itemLevels, max_le_iff, ← ih hitems (index + 1),
      ← hitem (pathName ++ "[" ++ toString index ++ "]")]
    simp only [bind_eq_ok]
    constructor
    · rintro ⟨_, itemFindings, hfirst, findings, hrest, _⟩
      exact ⟨⟨itemFindings, hfirst⟩, findings, hrest⟩
    · rintro ⟨⟨itemFindings, hfirst⟩, findings, hrest⟩
      exact ⟨_, itemFindings, hfirst, findings, hrest, rfl⟩

theorem exists_rejectSecretFields_iff {depth : ℕ} {seen : List String}
    {fields : List (String × Json)}
    (h : ∀ entry ∈ Json.entriesFrom seen fields, ∀ pathName,
      (∃ findings, rejectSecretKeys pathName depth entry.2 = .ok findings) ↔
        entry.2.levels ≤ depth)
    (pathName : String) :
    (∃ findings, rejectSecretFields pathName depth seen fields = .ok findings) ↔
      Json.fieldLevels seen fields ≤ depth := by
  induction fields generalizing seen with
  | nil => simp [rejectSecretFields, Json.fieldLevels]
  | cons field fields ih =>
    obtain ⟨key, child⟩ := field
    rw [Json.entriesFrom] at h
    rw [rejectSecretFields, Json.fieldLevels]
    split
    · next hseen =>
      rw [if_pos hseen] at h
      exact ih h
    · next hnew =>
      rw [if_neg hnew] at h
      obtain ⟨hchild, hfields⟩ := List.forall_mem_cons.mp h
      rw [max_le_iff, ← ih hfields, ← hchild (pathName ++ "." ++ key)]
      simp only [bind_eq_ok]
      constructor
      · rintro ⟨_, childFindings, hfirst, findings, hrest, _⟩
        exact ⟨⟨childFindings, hfirst⟩, findings, hrest⟩
      · rintro ⟨⟨childFindings, hfirst⟩, findings, hrest⟩
        exact ⟨_, childFindings, hfirst, findings, hrest, rfl⟩

/-- **The walk over a value comes to an end when the value has no more levels than calls can be
    nested.** -/
theorem exists_rejectSecretKeys_iff (value : Json) : ∀ (depth : ℕ) (pathName : String),
    (∃ findings, rejectSecretKeys pathName depth value = .ok findings) ↔
      value.levels ≤ depth := by
  induction value using Json.induction with
  | null | bool | number | str =>
    intro depth pathName
    cases depth <;> simp [rejectSecretKeys, Json.levels]
  | arr items ih =>
    intro depth pathName
    cases depth with
    | zero => simp [rejectSecretKeys, Json.levels]
    | succ depth =>
      rw [rejectSecretKeys, Json.levels, Nat.add_le_add_iff_right]
      exact exists_rejectSecretItems_iff (fun item hitem => ih item hitem depth) pathName 0
  | obj fields ih =>
    intro depth pathName
    cases depth with
    | zero => simp [rejectSecretKeys, Json.levels]
    | succ depth =>
      rw [rejectSecretKeys, Json.levels, Nat.add_le_add_iff_right]
      exact exists_rejectSecretFields_iff
        (fun entry hentry => ih entry.1 entry.2 (Json.mem_entries.mp hentry) depth) pathName

/-- Nothing is thrown when the value is made the name of a property. -/
def IsPropertyKey (engine : Engine) (value : Option Json) : Prop :=
  ∀ json, value = some json → json.arrayLevels ≤ engine.joinDepth ∧ json.jsString ≠ none

theorem exists_propertyKey_iff {value : Option Json} :
    (∃ key, propertyKey engine value = .ok key) ↔ IsPropertyKey engine value := by
  unfold propertyKey IsPropertyKey
  cases value with
  | none => simp
  | some json =>
    by_cases hlevels : json.arrayLevels ≤ engine.joinDepth
    · cases hkey : json.jsString <;> simp [hkey, hlevels]
    · simp [hlevels]

/-- An array, or a text, whose characters stand for its items. -/
def IsIterable (value : Json) : Prop := (∃ items, value = .arr items) ∨ ∃ text, value = .str text

theorem exists_hostLogPaths_iff {value : Json} :
    (∃ logs, hostLogPaths value = .ok logs) ↔ IsIterable value := by
  cases value <;> simp [hostLogPaths, IsIterable]

/-- The framework of a host mode can be looked up among the expected versions, where it is. -/
def HostReadable (engine : Engine) (expectedVersions : Option (List (String × String)))
    (hostMode : List (String × Json)) : Prop :=
  expectedVersions ≠ none → nonEmptyString (hostMode.lookup "frameworkVersion") = true →
    IsPropertyKey engine (hostMode.lookup "framework")

theorem exists_checkHostVersion_iff {expectedVersions : Option (List (String × String))}
    {field : String} {framework version : Option Json} :
    (∃ findings, checkHostVersion engine expectedVersions field framework version = .ok findings) ↔
      (expectedVersions ≠ none → nonEmptyString version = true → IsPropertyKey engine framework) := by
  unfold checkHostVersion
  split
  · next hversion =>
    cases expectedVersions with
    | none => simp
    | some versions =>
      simp only [bind_eq_ok, hversion, ne_eq, reduceCtorEq, not_false_eq_true, forall_const]
      rw [← exists_propertyKey_iff]
      constructor
      · intro ⟨_, key, hkey, _⟩
        exact ⟨key, hkey⟩
      · intro ⟨key, hkey⟩
        exact ⟨_, key, hkey, rfl⟩
  · next hversion => simp [hversion]

/-- The loop over the host modes comes to an end when all of them are readable. -/
theorem exists_checkHostModes_iff {required : Bool}
    {expectedVersions : Option (List (String × String))} {index : ℕ}
    {frameworks paths : List String} {hostModes : List Json} :
    (∃ result, checkHostModes engine required expectedVersions index frameworks paths hostModes =
      .ok result) ↔
      ∀ hostMode, .obj hostMode ∈ hostModes → HostReadable engine expectedVersions hostMode := by
  induction hostModes generalizing index frameworks paths with
  | nil => simp [checkHostModes]
  | cons item hostModes ih =>
    cases item with
    | obj hostMode =>
      rw [checkHostModes]
      simp only [bind_eq_ok, List.mem_cons, Json.obj.injEq]
      constructor
      · intro ⟨_, findings, hversion, _, hrest, _⟩ other hother
        cases hother with
        | inl heq => exact heq ▸ exists_checkHostVersion_iff.mp ⟨findings, hversion⟩
        | inr hmem => exact ih.mp ⟨_, hrest⟩ other hmem
      · intro h
        obtain ⟨findings, hversion⟩ := exists_checkHostVersion_iff.mpr (h hostMode (.inl rfl))
        obtain ⟨result, hrest⟩ := ih.mpr fun other hother => h other (.inr hother)
        exact ⟨_, findings, hversion, result, hrest, rfl⟩
    -- What is no object is a finding, and reads nothing that could throw.
    | null | bool _ | number _ | str _ | arr _ =>
      rw [checkHostModes]
      · simp only [bind_eq_ok, List.mem_cons, reduceCtorEq, false_or]
        rw [← @ih (index + 1) frameworks paths]
        constructor
        · intro ⟨_, result, hrest, _⟩
          exact ⟨result, hrest⟩
        · intro ⟨result, hrest⟩
          exact ⟨_, result, hrest, rfl⟩
      · intro hostMode hitem
        cases hitem

theorem exists_validateNativeHostModes_iff {required : Bool}
    {expectedVersions : Option (List (String × String))} {value : Json} :
    (∃ result, validateNativeHostModes engine required expectedVersions value = .ok result) ↔
      ∀ hostModes, value = .arr hostModes → 1 ≤ hostModes.length → hostModes.length ≤ 3 →
        ∀ hostMode, .obj hostMode ∈ hostModes → HostReadable engine expectedVersions hostMode := by
  unfold validateNativeHostModes
  split
  · next items =>
    simp only [Json.arr.injEq, forall_eq']
    split
    · next hlength =>
      rw [Bool.or_eq_true, decide_eq_true_iff, decide_eq_true_iff] at hlength
      refine iff_of_true ⟨_, rfl⟩ fun hlow hhigh => ?_
      omega
    · next hlength =>
      rw [Bool.or_eq_true, decide_eq_true_iff, decide_eq_true_iff, not_or] at hlength
      have hlow : 1 ≤ items.length := by omega
      have hhigh : items.length ≤ 3 := by omega
      simp only [bind_eq_ok, hlow, hhigh, forall_const]
      rw [← @exists_checkHostModes_iff engine required expectedVersions 0 [] [] items]
      constructor
      · intro ⟨_, result, hresult, _⟩
        exact ⟨result, hresult⟩
      · intro ⟨result, hresult⟩
        exact ⟨_, result, hresult, rfl⟩
  · next hno =>
    refine iff_of_true ⟨_, rfl⟩ ?_
    intro hostModes hvalue
    exact absurd hvalue (hno hostModes)

/-- A text that looks like a timestamp has nothing but its digits and marks. -/
theorem isoTimestamp_chars {text : String} {date : DateFields} {time : TimeFields}
    (h : isoTimestamp text = some (date, time)) :
    text.toList.length = 24 ∧ 'T' ∈ text.toList ∧
      ∀ c ∈ text.toList, c ∈ ['-', 'T', ':', '.', 'Z'] ∨ c.isDigit = true := by
  simp only [isoTimestamp, Option.bind_eq_bind, Option.bind_eq_some_iff] at h
  obtain ⟨date, hdate, time, htime, -⟩ := h
  obtain ⟨y₁, y₂, y₃, y₄, m₁, m₂, d₁, d₂, hfront, hy, hm, hd⟩ := isoDate_eq_some_iff.mp hdate
  obtain ⟨⟨hy₁, hy₂, hy₃, hy₄⟩, -⟩ := fourDigits_eq_some_iff.mp hy
  obtain ⟨hm₁, hm₂, -⟩ := twoDigits_eq_some_iff.mp hm
  obtain ⟨hd₁, hd₂, -⟩ := twoDigits_eq_some_iff.mp hd
  unfold isoClock at htime
  split at htime
  · next h₁ h₂ n₁ n₂ s₁ s₂ f₁ f₂ f₃ hback =>
    simp only [Option.bind_eq_bind, Option.bind_eq_some_iff] at htime
    obtain ⟨_, hh, _, hn, _, hs, _, hf, -⟩ := htime
    obtain ⟨hh₁, hh₂, -⟩ := twoDigits_eq_some_iff.mp hh
    obtain ⟨hn₁, hn₂, -⟩ := twoDigits_eq_some_iff.mp hn
    obtain ⟨hs₁, hs₂, -⟩ := twoDigits_eq_some_iff.mp hs
    have hf : f₁.isDigit = true ∧ f₂.isDigit = true ∧ f₃.isDigit = true := by
      by_contra hno
      rw [digits, if_neg (by simpa using hno)] at hf
      cases hf
    have htext : text.toList = [y₁, y₂, y₃, y₄, '-', m₁, m₂, '-', d₁, d₂] ++
        ['T', h₁, h₂, ':', n₁, n₂, ':', s₁, s₂, '.', f₁, f₂, f₃, 'Z'] := by
      rw [← hfront, ← hback, List.take_append_drop]
    rw [htext]
    refine ⟨rfl, by simp, ?_⟩
    simp [hy₁, hy₂, hy₃, hy₄, hm₁, hm₂, hd₁, hd₂, hh₁, hh₂, hn₁, hn₂, hs₁, hs₂, hf]
  · cases htime

theorem isNonEmptyText_of_isoTimestamp {text : String} {date : DateFields} {time : TimeFields}
    (h : isoTimestamp text = some (date, time)) : isNonEmptyText text = true := by
  obtain ⟨hlength, hT, hchars⟩ := isoTimestamp_chars h
  -- A timestamp has marks and digits only, which take one code unit each.
  have hsmall : ∀ c ∈ text.toList, c.toNat ≤ 0xffff ∧ c ≠ '\r' ∧ c ≠ '\n' := by
    intro c hc
    cases hchars c hc with
    | inl hmark => fin_cases hmark <;> decide
    | inr hdigit =>
      obtain ⟨v, hv, hvalue⟩ := exists_digit hdigit
      refine ⟨by omega, ?_, ?_⟩
      · rintro rfl
        cases hdigit
      · rintro rfl
        cases hdigit
  have hsum : (text.toList.map fun c => if c.toNat ≤ 0xffff then 1 else 2).sum = 24 := by
    have hones : text.toList.map (fun c => if c.toNat ≤ 0xffff then 1 else 2) =
        text.toList.map fun _ => 1 :=
      List.map_congr_left fun c hc => if_pos (hsmall c hc).1
    rw [hones, List.map_const', List.sum_replicate, hlength]
    rfl
  have htrim : 'T' ∈ (Node.jsTrim text).toList := by
    rw [Node.jsTrim, String.toList_ofList]
    exact DecimalText.mem_trim hT (by decide)
  rw [isNonEmptyText, hsum, Bool.and_eq_true, Bool.and_eq_true]
  refine ⟨⟨by decide, ?_⟩, ?_⟩
  · rw [Bool.not_eq_true', List.any_eq_false]
    intro c hc
    simp [(hsmall c hc).2]
  · refine decide_eq_true fun hempty => ?_
    rw [hempty] at htrim
    cases htrim

/-- A timestamp that looks like one is one to the engine. -/
def ReadableTimestamp (rollsOver : Bool) (value : Option Json) : Prop :=
  ∀ text date time, value = some (.str text) → isoTimestamp text = some (date, time) →
    isDate rollsOver date time = true

theorem exists_checkRecordedAt_iff {rollsOver : Bool} {value : Option Json} :
    (∃ findings, checkRecordedAt rollsOver value = .ok findings) ↔
      ReadableTimestamp rollsOver value := by
  unfold checkRecordedAt ReadableTimestamp
  split
  · next text =>
    split
    · next date time _ htime =>
      simp only [bind_eq_ok]
      constructor
      · rintro ⟨_, written, hwritten, -⟩ text' date' time' ⟨⟩ htime'
        cases htime.symm.trans htime'
        exact exists_toISOString_iff.mp ⟨written, hwritten⟩
      · intro h
        obtain ⟨written, hwritten⟩ := exists_toISOString_iff.mpr (h text date time rfl htime)
        exact ⟨_, written, hwritten, rfl⟩
    · next hno =>
      refine iff_of_true ⟨_, rfl⟩ ?_
      rintro text' date time ⟨⟩ htime
      exact absurd htime (hno date time (isNonEmptyText_of_isoTimestamp htime))
  · next hno =>
    refine iff_of_true ⟨_, rfl⟩ ?_
    intro text date time hvalue
    exact absurd hvalue (hno text)

theorem exists_checkPlatform_iff {gate platform framework : Option Json} :
    (∃ findings, checkPlatform engine gate platform framework = .ok findings) ↔
      IsPropertyKey engine platform := by
  rw [checkPlatform, ← exists_propertyKey_iff]
  simp only [bind_eq_ok]
  constructor
  · intro ⟨_, key, hkey, _⟩
    exact ⟨key, hkey⟩
  · intro ⟨key, hkey⟩
    cases hframeworks : allowedFrameworks.lookup key with
    | none =>
      refine ⟨["platform: must be ios, android, or web"], key, hkey, ?_⟩
      rw [hframeworks]
    | some frameworks =>
      by_cases hsupported : (framework.bind Json.asString?).any frameworks.contains = true
      · refine ⟨expect (gateFitsPlatform gate platform) "gate" "must match the evidence platform",
          key, hkey, ?_⟩
        rw [hframeworks]
        exact if_pos hsupported
      · refine ⟨["framework: is not supported for the selected platform"], key, hkey, ?_⟩
        rw [hframeworks]
        exact if_neg hsupported

/-- The host modes of a native record can be gone over, and read. -/
def HostModesReadable (engine : Engine) (options : DeviceOptions)
    (platform hostModes : Option Json) : Prop :=
  isNativePlatform platform = true → ∀ value, hostModes = some value →
    IsIterable value ∧ ∀ items, value = .arr items → 1 ≤ items.length → items.length ≤ 3 →
      ∀ hostMode, .obj hostMode ∈ items →
        HostReadable engine options.expectedHostModeVersions hostMode

theorem exists_checkHostModesField_iff {options : DeviceOptions}
    {platform hostModes : Option Json} :
    (∃ result, checkHostModesField engine options platform hostModes = .ok result) ↔
      HostModesReadable engine options platform hostModes := by
  unfold checkHostModesField HostModesReadable
  cases hnative : isNativePlatform platform with
  | false => simp
  | true =>
    cases hostModes with
    | none => simp
    | some value =>
      simp only [bind_eq_ok, Option.some.injEq, forall_eq', forall_const]
      rw [← exists_hostLogPaths_iff, ← @exists_validateNativeHostModes_iff engine
        (options.requireNativeHostModes || (options.requirePhysicalDevice && true))]
      constructor
      · intro ⟨_, result, hresult, logs, hlogs, _⟩
        exact ⟨⟨logs, hlogs⟩, result, hresult⟩
      · intro ⟨⟨logs, hlogs⟩, result, hresult⟩
        exact ⟨_, result, hresult, logs, hlogs, rfl⟩

theorem exists_checkPlatformSupport_iff {rollsOver : Bool} {options : DeviceOptions}
    {platform device : Option Json} :
    (∃ findings, checkPlatformSupport rollsOver options platform device = .ok findings) ↔
      (options.requirePlatformSupport = true → platform = some (.str "android") →
        ReadableDate rollsOver (member device "securityPatchLevel")) := by
  unfold checkPlatformSupport
  split
  · next hsupport =>
    rw [exists_validatePlatformSupportDevice_iff]
    exact ⟨fun h _ => h, fun h => h hsupport⟩
  · next hsupport => exact iff_of_true ⟨_, rfl⟩ fun h => absurd h hsupport

theorem exists_checkDevice_iff {rollsOver : Bool} {options : DeviceOptions}
    {platform device : Option Json} :
    (∃ findings, checkDevice rollsOver options platform device = .ok findings) ↔
      (options.requirePlatformSupport = true → platform = some (.str "android") →
        ReadableDate rollsOver (member device "securityPatchLevel")) := by
  unfold checkDevice
  split
  · next fields =>
    split
    · next hweb =>
      refine iff_of_true ⟨_, rfl⟩ fun _ hplatform => ?_
      rw [hplatform] at hweb
      exact absurd hweb (by decide)
    · rw [← exists_checkPlatformSupport_iff]
      simp only [bind_eq_ok]
      constructor
      · intro ⟨_, findings, hfindings, _⟩
        exact ⟨findings, hfindings⟩
      · intro ⟨findings, hfindings⟩
        exact ⟨_, findings, hfindings, rfl⟩
  · next hno =>
    refine iff_of_true ⟨_, rfl⟩ fun _ _ text date hlevel => ?_
    -- there is no level without a device
    cases device with
    | none => cases hlevel
    | some value =>
      cases value with
      | obj fields => exact absurd rfl (hno fields)
      | _ => cases hlevel

/-! ## When the validator comes to an end -/

/-- Everything in a record that could throw is readable. -/
structure Readable (engine : Engine) (options : DeviceOptions) (fields : List (String × Json)) :
    Prop where
  levels : (Json.obj fields).levels ≤ engine.walkDepth
  platform : IsPropertyKey engine (fields.lookup "platform")
  hostModes : HostModesReadable engine options (fields.lookup "platform") (fields.lookup "hostModes")
  recordedAt : ReadableTimestamp engine.rollsOver (fields.lookup "recordedAt")
  patchLevel : options.requirePlatformSupport = true →
    fields.lookup "platform" = some (.str "android") →
    ReadableDate engine.rollsOver (member (fields.lookup "device") "securityPatchLevel")

/-- **When nothing is thrown.** -/
theorem exists_validateDeviceEvidence_iff {options : DeviceOptions}
    {fields : List (String × Json)} :
    (∃ findings, validateDeviceEvidence engine (.obj fields) options = .ok findings) ↔
      Readable engine options fields := by
  simp only [validateDeviceEvidence, bind_eq_ok]
  constructor
  · intro ⟨_, _, hsecret, _, hplatform, _, hhosts, _, hrecorded, _, hdevice, _⟩
    exact ⟨(exists_rejectSecretKeys_iff _ _ _).mp ⟨_, hsecret⟩,
      exists_checkPlatform_iff.mp ⟨_, hplatform⟩,
      exists_checkHostModesField_iff.mp ⟨_, hhosts⟩, exists_checkRecordedAt_iff.mp ⟨_, hrecorded⟩,
      exists_checkDevice_iff.mp ⟨_, hdevice⟩⟩
  · intro h
    obtain ⟨secretFindings, hsecret⟩ :=
      (exists_rejectSecretKeys_iff (.obj fields) engine.walkDepth "root").mpr h.levels
    obtain ⟨platformFindings, hplatform⟩ := @exists_checkPlatform_iff engine (fields.lookup "gate")
      (fields.lookup "platform") (fields.lookup "framework") |>.mpr h.platform
    obtain ⟨hosts, hhosts⟩ := exists_checkHostModesField_iff.mpr h.hostModes
    obtain ⟨recordedFindings, hrecorded⟩ := exists_checkRecordedAt_iff.mpr h.recordedAt
    obtain ⟨deviceFindings, hdevice⟩ := exists_checkDevice_iff.mpr h.patchLevel
    exact ⟨_, secretFindings, hsecret, platformFindings, hplatform, hosts, hhosts, recordedFindings,
      hrecorded, deviceFindings, hdevice, rfl⟩

/-! ## Paths -/

/-- All of the values are safe paths, which are those behind `paths'` that are not behind `paths`;
    none of them comes twice. -/
def Referenced (values : List (Option Json)) (paths paths' : List String) : Prop :=
  ∃ found : List String, values = found.map (some ∘ Json.str) ∧
    (∀ path ∈ found, isSafePath path = true) ∧ paths' = found.reverse ++ paths ∧
    (paths.Nodup → paths'.Nodup)

theorem Referenced.refl (paths : List String) : Referenced [] paths paths :=
  ⟨[], rfl, by simp, rfl, id⟩

theorem Referenced.trans {values values' : List (Option Json)} {paths paths' paths'' : List String}
    (h : Referenced values paths paths') (h' : Referenced values' paths' paths'') :
    Referenced (values ++ values') paths paths'' := by
  obtain ⟨found, rfl, hsafe, rfl, hnodup⟩ := h
  obtain ⟨found', rfl, hsafe', rfl, hnodup'⟩ := h'
  refine ⟨found ++ found', ?_, List.forall_mem_append.mpr ⟨hsafe, hsafe'⟩, ?_,
    fun h => hnodup' (hnodup h)⟩
  · rw [List.map_append]
  · rw [List.reverse_append, List.append_assoc]

/-- What is referenced is safe and different. -/
theorem Referenced.spec {values : List (Option Json)} {paths : List String}
    (h : Referenced values [] paths) :
    values.Nodup ∧ ∀ value ∈ values, isSafeRelativePath value = true := by
  obtain ⟨found, rfl, hsafe, rfl, hnodup⟩ := h
  have hfound : found.Nodup := by
    have hpaths := hnodup List.nodup_nil
    rwa [List.append_nil, List.nodup_reverse] at hpaths
  constructor
  · refine hfound.map ?_
    intro path path' heq
    exact Json.str.inj (Option.some.inj heq)
  · intro value hvalue
    obtain ⟨path, hpath, rfl⟩ := List.mem_map.mp hvalue
    exact hsafe path hpath

/-- A path without a finding is referenced. -/
theorem referenced_of_checkReferencedPath {paths paths' : List String} {field invalid : String}
    {value : Option Json}
    (h : checkReferencedPath paths field invalid value = ([], paths')) :
    Referenced [value] paths paths' := by
  unfold checkReferencedPath at h
  split at h
  · next path =>
    split at h
    · next hsafe =>
      split at h
      · cases h
      · next hnew =>
        cases h
        refine ⟨[path], rfl, List.forall_mem_singleton.mpr hsafe, rfl, fun hnodup => ?_⟩
        rw [List.contains_iff_mem] at hnew
        exact List.nodup_cons.mpr ⟨hnew, hnodup⟩
    · cases h
  · cases h

/-! ## Host modes without findings -/

/-- The host mode passed on the framework. -/
def PassingHostMode (hostMode : Json) (framework : String) : Prop :=
  ∃ fields, hostMode = .obj fields ∧ fields.lookup "status" = some (.str "pass") ∧
    fields.lookup "framework" = some (.str framework) ∧ framework ∈ nativeFrameworks

/-- One to three host modes that passed, on different frameworks. -/
def PassingHostModes (value : Json) : Prop :=
  ∃ hostModes, value = .arr hostModes ∧ 1 ≤ hostModes.length ∧ hostModes.length ≤ 3 ∧
    ∃ frameworks, List.Forall₂ PassingHostMode hostModes frameworks ∧ frameworks.Nodup

/-- The logs a host mode refers to. -/
def hostModeLogs (hostMode : Json) : List (Option Json) :=
  match member (some hostMode) "evidence" with
  | some (.obj evidence) => [evidence.lookup "logPath"]
  | _ => []

theorem isText_iff {text : String} {value : Option Json} :
    isText text value = true ↔ value = some (.str text) := by
  rw [isText, decide_eq_true_iff, Option.bind_eq_some_iff]
  simp

theorem checkHostFramework_eq_nil {frameworks frameworks' : List String} {field : String}
    {value : Option Json} (h : checkHostFramework frameworks field value = ([], frameworks')) :
    ∃ framework, value = some (.str framework) ∧ framework ∈ nativeFrameworks ∧
      framework ∉ frameworks ∧ frameworks' = framework :: frameworks := by
  unfold checkHostFramework at h
  split at h
  · next framework =>
    split at h
    · cases h
    · next hknown =>
      split at h
      · cases h
      · next hnew =>
        cases h
        rw [Bool.not_eq_true', Bool.not_eq_false, List.contains_iff_mem] at hknown
        rw [List.contains_iff_mem] at hnew
        exact ⟨framework, rfl, hknown, hnew, rfl⟩
  · cases h

theorem validateHostModeEvidence_eq_nil {required : Bool} {paths paths' : List String}
    {field : String} {hostMode : List (String × Json)}
    (h : validateHostModeEvidence required paths field (hostMode.lookup "evidence") =
      ([], paths')) : Referenced (hostModeLogs (.obj hostMode)) paths paths' := by
  unfold validateHostModeEvidence at h
  split at h
  · next evidence hevidence =>
    rcases hpath : checkReferencedPath paths (field ++ ".logPath")
      "must be a relative, non-parent path" (evidence.lookup "logPath") with ⟨findings, next⟩
    rw [hpath] at h
    simp only [Prod.mk.injEq, List.append_eq_nil_iff] at h
    obtain ⟨⟨⟨-, rfl⟩, -⟩, rfl⟩ := h
    have hlogs : hostModeLogs (.obj hostMode) = [evidence.lookup "logPath"] := by
      unfold hostModeLogs
      rw [show member (some (.obj hostMode)) "evidence" = _ from hevidence]
    rw [hlogs]
    exact referenced_of_checkReferencedPath hpath
  · next hno =>
    cases (Prod.ext_iff.mp h).2
    have hlogs : hostModeLogs (.obj hostMode) = [] := by
      unfold hostModeLogs
      split
      · next evidence hevidence => exact absurd hevidence (hno evidence)
      · rfl
    rw [hlogs]
    exact Referenced.refl paths

/-- **Host modes without findings passed, on new frameworks and with new logs.** -/
theorem checkHostModes_accepts {required : Bool}
    {expectedVersions : Option (List (String × String))} {index : ℕ}
    {frameworks frameworks' paths paths' : List String} {hostModes : List Json}
    (h : checkHostModes engine required expectedVersions index frameworks paths hostModes =
      .ok ([], frameworks', paths')) :
    (∃ found, List.Forall₂ PassingHostMode hostModes found ∧
      frameworks' = found.reverse ++ frameworks ∧ (frameworks.Nodup → frameworks'.Nodup)) ∧
    Referenced (hostModes.flatMap hostModeLogs) paths paths' := by
  induction hostModes generalizing index frameworks paths with
  | nil =>
    rw [checkHostModes] at h
    cases h
    exact ⟨⟨[], .nil, rfl, id⟩, Referenced.refl _⟩
  | cons item hostModes ih =>
    cases item with
    | obj hostMode =>
      rw [checkHostModes] at h
      -- One host mode: its framework must be new, and its logs are recorded.
      rcases hframework : checkHostFramework frameworks ("hostModes[" ++ toString index ++ "]")
        (hostMode.lookup "framework") with ⟨frameworkFindings, next⟩
      rcases hevidence : validateHostModeEvidence required paths
        ("hostModes[" ++ toString index ++ "]" ++ ".evidence") (hostMode.lookup "evidence") with
        ⟨evidenceFindings, nextPaths⟩
      simp only [hframework, hevidence] at h
      obtain ⟨versionFindings, _, h⟩ := bind_eq_ok.mp h
      obtain ⟨⟨findings, last, lastPaths⟩, hrest, h⟩ := bind_eq_ok.mp h
      simp only [Except.ok.injEq, Prod.mk.injEq, List.append_eq_nil_iff, expect_eq_nil] at h
      obtain ⟨⟨⟨⟨⟨⟨-, rfl⟩, -⟩, hstatus⟩, rfl⟩, rfl⟩, rfl, rfl⟩ := h
      obtain ⟨⟨found, hfound, hlast, hnodup⟩, hpaths⟩ := ih hrest
      obtain ⟨framework, hvalue, hknown, hnew, rfl⟩ := checkHostFramework_eq_nil hframework
      refine ⟨⟨framework :: found, .cons ⟨hostMode, rfl, isText_iff.mp hstatus, hvalue, hknown⟩
        hfound, ?_, fun h => hnodup (List.nodup_cons.mpr ⟨hnew, h⟩)⟩, ?_⟩
      · rw [hlast, List.reverse_cons, List.append_assoc, List.singleton_append]
      · rw [List.flatMap_cons]
        exact (validateHostModeEvidence_eq_nil hevidence).trans hpaths
    | null | bool _ | number _ | str _ | arr _ =>
      rw [checkHostModes] at h
      · obtain ⟨_, _, h⟩ := bind_eq_ok.mp h
        cases h
      · intro hostMode hitem
        cases hitem

/-- The items of an array, none of any other value. -/
def itemsOrNone (value : Option Json) : List Json := (value.bind Json.asArray?).getD []

theorem validateNativeHostModes_accepts {required : Bool}
    {expectedVersions : Option (List (String × String))} {value : Json} {paths : List String}
    (h : validateNativeHostModes engine required expectedVersions value = .ok ([], paths)) :
    PassingHostModes value ∧
      Referenced ((itemsOrNone (some value)).flatMap hostModeLogs) [] paths := by
  unfold validateNativeHostModes at h
  split at h
  · next items =>
    split at h
    · cases h
    · next hlength =>
      rw [Bool.or_eq_true, decide_eq_true_iff, decide_eq_true_iff, not_or] at hlength
      obtain ⟨⟨findings, frameworks, paths'⟩, hmodes, h⟩ := bind_eq_ok.mp h
      simp only [Except.ok.injEq, Prod.mk.injEq, List.append_eq_nil_iff] at h
      obtain ⟨⟨rfl, -⟩, rfl⟩ := h
      obtain ⟨⟨found, hfound, hlast, hnodup⟩, hpaths⟩ := checkHostModes_accepts hmodes
      refine ⟨⟨items, rfl, by omega, by omega, found, hfound, ?_⟩, hpaths⟩
      have hframeworks := hnodup List.nodup_nil
      rwa [hlast, List.append_nil, List.nodup_reverse] at hframeworks
  · cases h

/-! ## Artifacts without findings -/

/-- The path an artifact refers to. -/
def artifactPaths : Json → List (Option Json)
  | .obj artifact => [artifact.lookup "path"]
  | _ => []

theorem checkDeviceArtifacts_accepts {physical : Bool} {index : ℕ}
    {seen seen' : DeviceArtifactsSeen} {artifacts : List Json}
    (h : checkDeviceArtifacts physical index seen artifacts = ([], seen')) :
    Referenced (artifacts.flatMap artifactPaths) seen.paths seen'.paths := by
  induction artifacts generalizing index seen with
  | nil =>
    rw [checkDeviceArtifacts] at h
    cases h
    exact Referenced.refl _
  | cons item artifacts ih =>
    cases item with
    | obj artifact =>
      rw [checkDeviceArtifacts] at h
      rcases hpath : checkReferencedPath seen.paths
        ("artifacts[" ++ toString index ++ "]" ++ ".path") canonicalPathDetail
        (artifact.lookup "path") with ⟨pathFindings, paths⟩
      simp only [hpath, Prod.mk.injEq, List.append_eq_nil_iff] at h
      obtain ⟨⟨⟨⟨rfl, -⟩, -⟩, hrest⟩, rfl⟩ := h
      rw [List.flatMap_cons]
      exact (referenced_of_checkReferencedPath hpath).trans (ih (Prod.ext_iff.mpr ⟨hrest, rfl⟩))
    | null | bool _ | number _ | str _ | arr _ =>
      rw [checkDeviceArtifacts] at h
      · cases h
      · intro artifact hitem
        cases hitem

theorem checkDeviceArtifactsField_accepts {physical : Bool} {paths available : List String}
    {value : Option Json} {seen : DeviceArtifactsSeen}
    (h : checkDeviceArtifactsField physical paths available value = ([], seen)) :
    Referenced ((itemsOrNone value).flatMap artifactPaths) paths seen.paths := by
  unfold checkDeviceArtifactsField at h
  split at h
  · next artifacts =>
    split at h
    · cases h
    · rcases hartifacts : checkDeviceArtifacts physical 0 ⟨paths, available, [], []⟩ artifacts with
        ⟨findings, last⟩
      simp only [hartifacts, Prod.mk.injEq, List.append_eq_nil_iff] at h
      obtain ⟨⟨rfl, -⟩, rfl⟩ := h
      exact checkDeviceArtifacts_accepts hartifacts
  · cases h

/-! ## Records without findings -/

/-- The text of a time the calendar and the clock have. -/
def RealTimestamp (value : Option Json) : Prop :=
  ∃ text date time, value = some (.str text) ∧ isoTimestamp text = some (date, time) ∧
    date.isReal = true ∧ time.isReal = true

theorem realTimestamp_of_checkRecordedAt {rollsOver : Bool} {value : Option Json}
    (h : checkRecordedAt rollsOver value = .ok []) : RealTimestamp value := by
  unfold checkRecordedAt at h
  split at h
  · next text =>
    split at h
    · next date time _ htime =>
      obtain ⟨written, hwritten, h⟩ := bind_eq_ok.mp h
      rw [Except.ok.injEq, expect_eq_nil, decide_eq_true_iff] at h
      rw [h] at hwritten
      obtain ⟨hdate, hclock⟩ := toISOString_eq_ok_self_iff.mp hwritten
      exact ⟨text, date, time, rfl, htime, hdate, hclock⟩
    · cases h
  · cases h

theorem validateTests_eq_nil {required : List String} {value : Option Json}
    (h : validateTests required value = []) :
    ∀ name ∈ required, member value name = some (.str "pass") := by
  unfold validateTests at h
  split at h
  · next testCases =>
    intro name hname
    have hpass := List.flatMap_eq_nil_iff.mp h name hname
    rw [expect_eq_nil, isText_iff] at hpass
    exact hpass
  · cases h

theorem patchedSinceFloor_of_checkDevice {rollsOver : Bool} {options : DeviceOptions}
    {device : Option Json} (hsupport : options.requirePlatformSupport = true)
    (h : checkDevice rollsOver options (some (.str "android")) device = .ok []) :
    PatchedSinceFloor (member device "securityPatchLevel") := by
  unfold checkDevice at h
  split at h
  · next fields =>
    rw [if_neg (by decide)] at h
    obtain ⟨supportFindings, hfindings, h⟩ := bind_eq_ok.mp h
    rw [Except.ok.injEq, List.append_eq_nil_iff] at h
    rw [h.2, checkPlatformSupport, if_pos hsupport] at hfindings
    exact validatePlatformSupportDevice_android hfindings
  · cases h

/-- What a record refers to: the logs of native host modes, its log and its artifacts. -/
def referencedValues (fields : List (String × Json)) : List (Option Json) :=
  (if isNativePlatform (fields.lookup "platform") then
    (itemsOrNone (fields.lookup "hostModes")).flatMap hostModeLogs else []) ++
    ([fields.lookup "logPath"] ++
      (itemsOrNone (fields.lookup "artifacts")).flatMap artifactPaths)

theorem checkHostModesField_accepts {options : DeviceOptions} {platform hostModes : Option Json}
    {paths logs : List String}
    (h : checkHostModesField engine options platform hostModes = .ok ([], paths, logs)) :
    (isNativePlatform platform = true → ∀ value, hostModes = some value →
      PassingHostModes value) ∧
    Referenced (if isNativePlatform platform then
      (itemsOrNone hostModes).flatMap hostModeLogs else []) [] paths := by
  unfold checkHostModesField at h
  cases hnative : isNativePlatform platform with
  -- Host modes are read for native platforms only.
  | false =>
    simp only [hnative, Except.ok.injEq, Prod.mk.injEq] at h
    obtain ⟨-, rfl, -⟩ := h
    refine ⟨fun h => absurd h (by decide), ?_⟩
    exact Referenced.refl []
  | true =>
    simp only [hnative] at h
    cases hostModes with
    | none =>
      simp only [Except.ok.injEq, Prod.mk.injEq] at h
      obtain ⟨-, rfl, -⟩ := h
      refine ⟨fun _ value hvalue => absurd hvalue (by simp), ?_⟩
      exact Referenced.refl []
    | some value =>
      obtain ⟨⟨findings, paths'⟩, hmodes, h⟩ := bind_eq_ok.mp h
      obtain ⟨logs', _, h⟩ := bind_eq_ok.mp h
      simp only [Except.ok.injEq, Prod.mk.injEq] at h
      obtain ⟨rfl, rfl, -⟩ := h
      obtain ⟨hpassing, hpaths⟩ := validateNativeHostModes_accepts hmodes
      refine ⟨fun _ other hother => Option.some.inj hother ▸ hpassing, ?_⟩
      exact hpaths

/-- What makes a record suspect. -/
inductive Suspect (options : DeviceOptions) (fields : List (String × Json)) : Prop where
  /-- The time it was recorded at is none. -/
  | recordedAt (h : ¬ RealTimestamp (fields.lookup "recordedAt"))
  /-- Its host modes are not up to three different ones that passed. -/
  | hostModes (value : Json) (hnative : isNativePlatform (fields.lookup "platform") = true)
      (hvalue : fields.lookup "hostModes" = some value) (h : ¬ PassingHostModes value)
  /-- A test did not pass. -/
  | test (name : String) (hname : name ∈ requiredTests (fields.lookup "platform"))
      (h : member (fields.lookup "testCases") name ≠ some (.str "pass"))
  /-- It refers to one path twice. -/
  | twice (h : ¬ (referencedValues fields).Nodup)
  /-- It refers to a path that is not canonical. -/
  | path (value : Option Json) (hvalue : value ∈ referencedValues fields)
      (h : isSafeRelativePath value = false)
  /-- Its patch level is no date, or below the floor. -/
  | patchLevel (hsupport : options.requirePlatformSupport = true)
      (hplatform : fields.lookup "platform" = some (.str "android"))
      (h : ¬ PatchedSinceFloor (member (fields.lookup "device") "securityPatchLevel"))

/-- **A record without findings is not suspect.** -/
theorem not_suspect_of_validateDeviceEvidence {options : DeviceOptions}
    {fields : List (String × Json)}
    (h : validateDeviceEvidence engine (.obj fields) options = .ok []) :
    ¬ Suspect options fields := by
  rw [validateDeviceEvidence] at h
  -- No check has found anything, in the order of the script.
  obtain ⟨secretFindings, _, h⟩ := bind_eq_ok.mp h
  obtain ⟨platformFindings, _, h⟩ := bind_eq_ok.mp h
  obtain ⟨⟨hostFindings, hostPaths, hostLogs⟩, hhosts, h⟩ := bind_eq_ok.mp h
  obtain ⟨recordedFindings, hrecorded, h⟩ := bind_eq_ok.mp h
  obtain ⟨deviceFindings, hdevice, h⟩ := bind_eq_ok.mp h
  rcases hlog : checkReferencedPath hostPaths "logPath" canonicalPathDetail
    (fields.lookup "logPath") with ⟨logFindings, paths⟩
  rcases hartifacts : checkDeviceArtifactsField
    (options.requirePhysicalDevice && isNativePlatform (fields.lookup "platform")) paths
    ((safePath? (fields.lookup "logPath")).toList ++ hostLogs) (fields.lookup "artifacts") with
    ⟨artifactFindings, seen⟩
  simp only [hlog, hartifacts, Except.ok.injEq, List.append_eq_nil_iff] at h
  obtain ⟨⟨⟨⟨⟨⟨⟨⟨⟨⟨⟨-, rfl⟩, rfl⟩, -⟩, -⟩, rfl⟩, htests⟩, -⟩, rfl⟩, -⟩, rfl⟩, -⟩ := h
  obtain ⟨hmodes, hreferenced⟩ := checkHostModesField_accepts hhosts
  have ⟨hnodup, hsafe⟩ := (hreferenced.trans ((referenced_of_checkReferencedPath hlog).trans
    (checkDeviceArtifactsField_accepts hartifacts))).spec
  intro hsuspect
  -- Each ground for suspicion would have been a finding.
  cases hsuspect with
  | recordedAt h => exact h (realTimestamp_of_checkRecordedAt hrecorded)
  | hostModes value hnative hvalue h => exact h (hmodes hnative value hvalue)
  | test name hname h => exact h (validateTests_eq_nil htests name hname)
  | twice h => exact h hnodup
  | path value hvalue h => exact absurd (hsafe value hvalue) (h ▸ Bool.false_ne_true)
  | patchLevel hsupport hplatform h =>
    rw [hplatform] at hdevice
    exact h (patchedSinceFloor_of_checkDevice hsupport hdevice)

/-- The fields of a record; a value that is none has no fields. -/
def recordFields (evidence : Json) : List (String × Json) := evidence.asObject?.getD []

/-- **When the validator finds what it should**: it comes to an end, with a finding about every
    suspect record, exactly when it can read what it is given. -/
theorem device_evidence_findings_iff (engine : Engine) (options : DeviceOptions)
    (evidence : Json) :
    (∃ findings, validateDeviceEvidence engine evidence options = .ok findings ∧
      (Suspect options (recordFields evidence) → findings ≠ [])) ↔
      ∀ fields, evidence = .obj fields → Readable engine options fields := by
  constructor
  · rintro ⟨findings, hfindings, -⟩ fields rfl
    exact exists_validateDeviceEvidence_iff.mp ⟨findings, hfindings⟩
  · intro h
    cases evidence with
    | obj fields =>
      obtain ⟨findings, hfindings⟩ := exists_validateDeviceEvidence_iff.mpr (h fields rfl)
      refine ⟨findings, hfindings, fun hsuspect hnil => ?_⟩
      rw [hnil] at hfindings
      exact not_suspect_of_validateDeviceEvidence hfindings hsuspect
    | null | bool _ | number _ | str _ | arr _ =>
      exact ⟨_, rfl, fun _ => List.cons_ne_nil _ _⟩

/-- A record of the thirteenth month. -/
def thirteenthMonth : Json :=
  .obj [("platform", .str "ios"), ("recordedAt", .str "2026-13-01T00:00:00.000Z")]

/-- A record of the thirteenth month makes the validator throw, whether or not the engine rolls
    days over. -/
theorem not_device_evidence_findings :
    validateDeviceEvidence ⟨true, 1000, 1000⟩ thirteenthMonth .empty = .error .rangeError ∧
      validateDeviceEvidence ⟨false, 1000, 1000⟩ thirteenthMonth .empty = .error .rangeError := by
  decide +kernel

end SecureKeypad.Release
