import SecureKeypad.Release.Evidence

/-!
# The Release Archive (`check-release-archive.mjs`)

Embeds `validateReleaseArchiveEntries`: the names a signed archive lists are read one by one, the
version is found in the names of its packages, and the archive has to hold the staged source and
every package of that one version. What `tar` lists is given.

The version is what a greedy pattern leaves behind the last dash it can stop at, so a version that
holds another one behind a dash of its own is taken for that other one.

## Main results

- `packageVersion_eq_some_iff`: which version the pattern finds in a name
- `validateReleaseArchiveEntries_eq_nil_iff`: the archives without findings
- `archive_check_exact_iff`: the check is exact for the versions without a version inside them
-/

namespace SecureKeypad.Release

/-! ## Required entries -/

/-- `NPM_PACKAGES` -/
def npmPackages : List String :=
  ["secure-keypad-contracts", "secure-keypad-react-native", "secure-keypad-web",
    "secure-keypad-server-node"]

/-- `RUST_CRATES` -/
def rustCrates : List String :=
  ["secure-auth", "secure-auth-axum", "secure-auth-actix", "secure-auth-http",
    "secure-auth-server", "secure-core", "secure-ffi", "secure-webauthn-example"]

/-- `REQUIRED_SOURCE_ENTRIES` -/
def requiredSourceEntries : List String :=
  ["source/release-candidate-metadata.json",
    "source/secure-keypad.sbom.spdx.json",
    "source/secure-keypad-android-ffi.sha256",
    "source/secure-keypad-android-ffi.commit",
    "source/secure-keypad-native-android.aar.sha256",
    "source/native-artifacts/android/arm64-v8a/libsecure_ffi.a",
    "source/native-artifacts/android/x86_64/libsecure_ffi.a",
    "source/native-artifacts/android/secure-keypad-native.aar",
    "source/packages/flutter/pubspec.yaml",
    "source/packages/flutter/ios/secure_ffi.xcframework/Info.plist",
    "source/packages/flutter/ios/libsecure_ffi.a",
    "source/packages/flutter/android/secure_ffi/arm64-v8a/libsecure_ffi.a",
    "source/packages/flutter/android/secure_ffi/x86_64/libsecure_ffi.a"]

def packageExtensions : List String := [".tgz", ".crate"]

/-- `packages/${name}-${version}${extension}` -/
def packageEntry (name version extension : String) : String :=
  "packages/" ++ name ++ "-" ++ version ++ extension

def requiredPackageEntries (version : String) : List String :=
  npmPackages.map (packageEntry · version ".tgz") ++
    rustCrates.map (packageEntry · version ".crate")

/-! ## Names -/

/-- `value.replace(/^\.\//, "").replace(/\/$/, "")` of a text, nothing of any other value. -/
def normalizeEntry : Json → String
  | .str value =>
    let relative := (value.toList.dropPrefix? "./".toList).getD value.toList
    String.ofList ((relative.dropSuffix? ['/']).getD relative)
  | _ => ""

/-- `entry.split("/")` -/
def pathComponents (entry : String) : List (List Char) := entry.toList.splitOn '/'

/-- `entry.startsWith("/") || entry.split("/").includes("..")` -/
def leavesArchive (entry : String) : Bool :=
  isAbsolute entry.toList || (pathComponents entry).contains ['.', '.']

/-- `entry.split("/", 1)[0]` -/
def topLevel (entry : String) : List Char := (pathComponents entry).headD []

/-! ## Sets -/

/-- `set.add(value)` -/
def setAdd (set : List String) (value : String) : List String :=
  if value ∈ set then set else set ++ [value]

/-- `new Set(values)`, in the order of first mention. -/
def setOf (values : List String) : List String := values.foldl setAdd []

/-! ## The check -/

/-- What the loop finds for an entry behind those in `normalized`. -/
def entryFindings (normalized : List String) (entry : String) : List String :=
  expect (entry ∉ normalized) entry "archive entry must be unique" ++
    if leavesArchive entry then [entry ++ ": archive path must be relative and non-parent"]
    else expect (topLevel entry = "source".toList || topLevel entry = "packages".toList) entry
      "archive entry is outside source/ or packages/"

/-- The loop over the entries: the names and the findings. -/
def readEntries (normalized : List String) : List Json → List String × List String
  | [] => (normalized, [])
  | rawEntry :: rest =>
    let entry := normalizeEntry rawEntry
    if entry = "" then readEntries normalized rest
    else
      let (names, findings) := readEntries (setAdd normalized entry) rest
      (names, entryFindings normalized entry ++ findings)

/-- What `.` does not match. -/
def isLineTerminator (c : Char) : Bool := ['\n', '\r', '\u2028', '\u2029'].contains c

/-- The version in `-(VERSION)\.(?:tgz|crate)$`. -/
def versionBehind : List Char → Option String
  | '-' :: file => packageExtensions.findSome? fun extension =>
    ((file.dropSuffix? extension.toList).map String.ofList).filter versionPattern.wholeMatch
  | _ => none

/-- The version in `^packages\/.+-(VERSION)\.(?:tgz|crate)$`. -/
def packageVersion (entry : String) : Option String := do
  let named ← entry.toList.dropPrefix? "packages/".toList
  Regex.greedySplit
    (fun name back =>
      if name ≠ [] ∧ name.all (!isLineTerminator ·) then versionBehind back else none)
    named

/-- `versions`: those of the entries that start with `packages/`. -/
def packageVersions (names : List String) : List String := setOf (names.filterMap packageVersion)

/-- A finding for every required entry that is not among the names. -/
def missingEntries (required names : List String) : List String :=
  required.flatMap fun entry =>
    expect (entry ∈ names) entry "signed release archive entry is missing"

/-- `validateReleaseArchiveEntries` -/
def validateReleaseArchiveEntries : Json → List String
  | .arr (first :: rest) =>
    let (normalized, findings) := readEntries [] (first :: rest)
    let versions := packageVersions normalized
    setOf (findings ++ missingEntries requiredSourceEntries normalized ++
      (if versions.length ≠ 1 then ["signed release archives must use the same package version"]
        else []) ++
      match versions with
      | version :: _ => missingEntries (requiredPackageEntries version) normalized
      | [] => ["signed release archive package version could not be determined"])
  | _ => ["release archive must contain entries"]

/-! ## Sets, in order -/

theorem mem_setAdd {set : List String} {value x : String} :
    x ∈ setAdd set value ↔ x ∈ set ∨ x = value := by
  unfold setAdd
  split
  · next hmem =>
    constructor
    · exact Or.inl
    · rintro (h | rfl)
      · exact h
      · exact hmem
  · rw [List.mem_append, List.mem_singleton]

theorem nodup_setAdd {set : List String} {value : String} (h : set.Nodup) :
    (setAdd set value).Nodup := by
  unfold setAdd
  split
  · exact h
  · next hmem =>
    refine h.append (List.nodup_singleton value) ?_
    intro x hx hvalue
    exact hmem (List.mem_singleton.mp hvalue ▸ hx)

theorem mem_foldl_setAdd {values set : List String} {x : String} :
    x ∈ values.foldl setAdd set ↔ x ∈ set ∨ x ∈ values := by
  induction values generalizing set with
  | nil => simp
  | cons value values ih => rw [List.foldl_cons, ih, mem_setAdd, List.mem_cons, or_assoc]

theorem nodup_foldl_setAdd {values set : List String} (h : set.Nodup) :
    (values.foldl setAdd set).Nodup := by
  induction values generalizing set with
  | nil => exact h
  | cons value values ih => exact ih (nodup_setAdd h)

@[simp] theorem mem_setOf {values : List String} {x : String} : x ∈ setOf values ↔ x ∈ values := by
  rw [setOf, mem_foldl_setAdd]
  simp

theorem setOf_eq_nil_iff {values : List String} : setOf values = [] ↔ values = [] := by
  simp only [List.eq_nil_iff_forall_not_mem, mem_setOf]

theorem setOf_eq_singleton_iff {values : List String} {x : String} :
    setOf values = [x] ↔ x ∈ values ∧ ∀ y ∈ values, y = x := by
  constructor
  · intro h
    have hmem (y : String) : y ∈ values ↔ y = x := by
      rw [← mem_setOf, h, List.mem_singleton]
    exact ⟨(hmem x).mpr rfl, fun y hy => (hmem y).mp hy⟩
  · intro ⟨hx, hall⟩
    apply List.perm_singleton.mp
    apply (List.perm_ext_iff_of_nodup (nodup_foldl_setAdd List.nodup_nil)
      (List.nodup_singleton x)).mpr
    intro y
    rw [List.mem_singleton]
    exact ⟨fun hy => hall y (mem_setOf.mp hy), fun hy => mem_setOf.mpr (hy ▸ hx)⟩

/-! ## Reading the names -/

/-- The names of the entries, those that are left empty out. -/
def entryNames : Json → List String
  | .arr items => (items.map normalizeEntry).filter (· ≠ "")
  | _ => []

/-- The name is one within `source/` or `packages/`. -/
def Placed (entry : String) : Prop :=
  leavesArchive entry = false ∧
    (topLevel entry = "source".toList ∨ topLevel entry = "packages".toList)

theorem entryFindings_eq_nil_iff {normalized : List String} {entry : String} :
    entryFindings normalized entry = [] ↔ entry ∉ normalized ∧ Placed entry := by
  rw [entryFindings, List.append_eq_nil_iff, expect_eq_nil, decide_eq_true_iff]
  apply and_congr_right'
  by_cases hleaves : leavesArchive entry = true
  · rw [if_pos hleaves]
    constructor
    · intro h
      cases h
    · intro h
      cases hleaves.symm.trans h.1
  · rw [if_neg hleaves, expect_eq_nil, Bool.or_eq_true, decide_eq_true_iff, decide_eq_true_iff]
    exact ⟨fun h => ⟨Bool.eq_false_iff.mpr hleaves, h⟩, And.right⟩

/-- The loop collects the names, and finds nothing when they are new, different and placed. -/
theorem readEntries_spec {items : List Json} {normalized : List String} :
    (∀ x, x ∈ (readEntries normalized items).1 ↔ x ∈ normalized ∨ x ∈ entryNames (.arr items)) ∧
    ((readEntries normalized items).2 = [] ↔ (entryNames (.arr items)).Nodup ∧
      ∀ entry ∈ entryNames (.arr items), entry ∉ normalized ∧ Placed entry) := by
  induction items generalizing normalized with
  | nil => simp [readEntries, entryNames]
  | cons rawEntry rest ih =>
    -- An entry that normalizes to nothing is skipped.
    by_cases hempty : normalizeEntry rawEntry = ""
    · have hnames : entryNames (.arr (rawEntry :: rest)) = entryNames (.arr rest) := by
        simp [entryNames, hempty]
      have hread : readEntries normalized (rawEntry :: rest) = readEntries normalized rest := by
        rw [readEntries, if_pos hempty]
      rw [hnames, hread]
      exact ih
    · have hnames : entryNames (.arr (rawEntry :: rest)) =
          normalizeEntry rawEntry :: entryNames (.arr rest) := by
        simp [entryNames, hempty]
      have hread : readEntries normalized (rawEntry :: rest) =
          ((readEntries (setAdd normalized (normalizeEntry rawEntry)) rest).1,
            entryFindings normalized (normalizeEntry rawEntry) ++
              (readEntries (setAdd normalized (normalizeEntry rawEntry)) rest).2) := by
        rw [readEntries, if_neg hempty]
      -- The rest is read with this entry among those that were seen.
      obtain ⟨hmem, hnil⟩ := @ih (setAdd normalized (normalizeEntry rawEntry))
      rw [hnames, hread]
      constructor
      · intro x
        rw [hmem, mem_setAdd, List.mem_cons, or_assoc]
      · rw [List.append_eq_nil_iff, hnil, entryFindings_eq_nil_iff, List.nodup_cons,
          List.forall_mem_cons]
        constructor
        · intro ⟨hfirst, hnodup, hrest⟩
          refine ⟨⟨fun hagain => ?_, hnodup⟩, hfirst, fun entry hentry => ?_⟩
          · exact (hrest _ hagain).1 (mem_setAdd.mpr (.inr rfl))
          · have ⟨hnew, hplaced⟩ := hrest entry hentry
            exact ⟨fun h => hnew (mem_setAdd.mpr (.inl h)), hplaced⟩
        · intro ⟨⟨hagain, hnodup⟩, hfirst, hrest⟩
          refine ⟨hfirst, hnodup, fun entry hentry => ⟨fun h => ?_, (hrest entry hentry).2⟩⟩
          rcases mem_setAdd.mp h with h | rfl
          · exact (hrest entry hentry).1 h
          · exact hagain hentry

theorem missingEntries_eq_nil_iff {required names : List String} :
    missingEntries required names = [] ↔ ∀ entry ∈ required, entry ∈ names := by
  simp [missingEntries]

/-- **The archives without findings**: the names are different and placed, the staged source is
    there, one version is found, and all its packages are there. -/
theorem validateReleaseArchiveEntries_eq_nil_iff {entries : Json} :
    validateReleaseArchiveEntries entries = [] ↔
      (entryNames entries).Nodup ∧ (∀ entry ∈ entryNames entries, Placed entry) ∧
      (∀ entry ∈ requiredSourceEntries, entry ∈ entryNames entries) ∧
      ∃ version, (∃ entry ∈ entryNames entries, packageVersion entry = some version) ∧
        (∀ entry ∈ entryNames entries, ∀ other, packageVersion entry = some other →
          other = version) ∧
        ∀ entry ∈ requiredPackageEntries version, entry ∈ entryNames entries := by
  have hnone (h : entryNames entries = []) :
      ¬ ∀ entry ∈ requiredSourceEntries, entry ∈ entryNames entries := by
    intro hsource
    have hfirst := hsource _ List.mem_cons_self
    rw [h] at hfirst
    cases hfirst
  match entries with
  | .arr (first :: rest) =>
    obtain ⟨hmem, hnil⟩ := @readEntries_spec (first :: rest) []
    simp only [List.not_mem_nil, false_or, not_false_eq_true, true_and] at hmem hnil
    -- the versions, by the names the loop has collected
    have hversions (version : String) :
        packageVersions (readEntries [] (first :: rest)).1 = [version] ↔
          (∃ entry ∈ entryNames (.arr (first :: rest)), packageVersion entry = some version) ∧
          ∀ entry ∈ entryNames (.arr (first :: rest)), ∀ other,
            packageVersion entry = some other → other = version := by
      rw [packageVersions, setOf_eq_singleton_iff]
      simp only [List.mem_filterMap, hmem, forall_exists_index, and_imp]
      exact and_congr_right' ⟨fun h entry hentry other => h other entry hentry,
        fun h other entry hentry => h entry hentry other⟩
    simp only [validateReleaseArchiveEntries, setOf_eq_nil_iff, List.append_eq_nil_iff, hnil,
      missingEntries_eq_nil_iff, hmem, and_assoc]
    refine and_congr_right' (and_congr_right' (and_congr_right' ?_))
    constructor
    · intro ⟨hone, hpackages⟩
      have hlength : (packageVersions (readEntries [] (first :: rest)).1).length = 1 := by
        by_contra hne
        rw [if_pos hne] at hone
        cases hone
      obtain ⟨version, hversion⟩ := List.length_eq_one_iff.mp hlength
      rw [hversion] at hpackages
      have ⟨hfound, honly⟩ := (hversions version).mp hversion
      simp only [missingEntries_eq_nil_iff, hmem] at hpackages
      exact ⟨version, hfound, honly, hpackages⟩
    · intro ⟨version, hfound, honly, hpackages⟩
      rw [(hversions version).mpr ⟨hfound, honly⟩]
      refine ⟨rfl, ?_⟩
      simp only [missingEntries_eq_nil_iff, hmem]
      exact hpackages
  | .arr [] | .null | .bool _ | .number _ | .str _ | .obj _ =>
    constructor
    · intro h
      cases h
    · intro h
      exact absurd h.2.2.1 (hnone rfl)

/-! ## Versions -/

/-- `VERSION.test(version)` -/
def IsVersion (version : String) : Prop := versionPattern.wholeMatch version = true

instance (version : String) : Decidable (IsVersion version) :=
  inferInstanceAs (Decidable (versionPattern.wholeMatch version = true))

/-- Another version stands behind a dash of the version. -/
def HasInnerVersion (version : String) : Prop :=
  ∃ before inner, version = before ++ "-" ++ inner ∧ IsVersion inner

theorem hasInnerVersion_iff {version : String} : HasInnerVersion version ↔
    ∃ tail ∈ version.toList.tails, tail.head? = some '-' ∧
      versionPattern.wholeMatch (String.ofList tail.tail) = true := by
  constructor
  · intro ⟨before, inner, heq, hinner⟩
    refine ⟨'-' :: inner.toList, (List.mem_tails _ _).mpr ⟨before.toList, ?_⟩, rfl, ?_⟩
    · simp [heq]
    · rw [List.tail_cons, String.ofList_toList]
      exact hinner
  · intro ⟨tail, htail, hdash, hinner⟩
    obtain ⟨before, hbefore⟩ := (List.mem_tails _ _).mp htail
    obtain ⟨inner, rfl⟩ := List.head?_eq_some_iff.mp hdash
    refine ⟨String.ofList before, String.ofList inner, ?_, hinner⟩
    rw [← String.toList_inj, ← hbefore]
    simp

instance (version : String) : Decidable (HasInnerVersion version) :=
  decidable_of_iff _ hasInnerVersion_iff.symm

/-- `[0-9A-Za-z.+-]` -/
def isVersionChar (c : Char) : Bool := c.isAlphanum || c = '.' || c = '-' || c = '+'

theorem IsVersion.chars {version : String} (h : IsVersion version) :
    ∀ c ∈ version.toList, isVersionChar c = true := by
  refine Regex.forall_mem_of_within ?_ (Regex.wholeMatch_iff.mp h)
  have hdigit (c : Char) (hc : c.isDigit = true) : isVersionChar c = true := by
    simp [isVersionChar, Char.isAlphanum, hc]
  have htag (c : Char) (hc : (c.isAlphanum || c = '.' || c = '-') = true) :
      isVersionChar c = true := by
    simp [isVersionChar, hc]
  have hlit (d c : Char) (hd : isVersionChar d = true) (hc : decide (c = d) = true) :
      isVersionChar c = true := of_decide_eq_true hc ▸ hd
  exact ⟨hdigit, ⟨fun c => hlit '.' c rfl, trivial⟩, hdigit, ⟨fun c => hlit '.' c rfl, trivial⟩,
    hdigit, ⟨⟨⟨fun c => hlit '-' c rfl, trivial⟩, htag⟩, trivial⟩,
    ⟨⟨fun c => hlit '+' c rfl, trivial⟩, htag⟩, trivial⟩

/-- A version starts with a digit. -/
theorem IsVersion.exists_cons {version : String} (h : IsVersion version) :
    ∃ d rest, version.toList = d :: rest ∧ d.isDigit = true := by
  obtain ⟨major, rest, hs, ⟨hlen, -, hdigits⟩, -⟩ := Regex.wholeMatch_iff.mp h
  obtain ⟨d, major, rfl⟩ := List.exists_cons_of_length_pos hlen
  exact ⟨d, major ++ rest, hs, hdigits d List.mem_cons_self⟩

/-- What stands before the extension, and the extension, can be told from the whole. -/
theorem append_extension_inj {s t : List Char} {extension other : String}
    (hextension : extension ∈ packageExtensions) (hother : other ∈ packageExtensions)
    (h : s ++ extension.toList = t ++ other.toList) : s = t ∧ extension = other := by
  have hlast := congrArg List.getLast? h
  simp only [packageExtensions, List.mem_cons, List.not_mem_nil, or_false] at hextension hother
  rcases hextension with rfl | rfl <;> rcases hother with rfl | rfl
  · exact ⟨List.append_cancel_right h, rfl⟩
  · simp at hlast
  · simp at hlast
  · exact ⟨List.append_cancel_right h, rfl⟩

theorem versionBehind_eq_some_iff {back : List Char} {version : String} :
    versionBehind back = some version ↔ ∃ extension ∈ packageExtensions,
      back = '-' :: (version.toList ++ extension.toList) ∧ IsVersion version := by
  constructor
  · intro h
    unfold versionBehind at h
    split at h
    · next file =>
      obtain ⟨extension, hextension, hfound⟩ := List.exists_of_findSome?_eq_some h
      obtain ⟨hdrop, hversion⟩ := Option.filter_eq_some_iff.mp hfound
      obtain ⟨front, hfront, rfl⟩ := Option.map_eq_some_iff.mp hdrop
      obtain ⟨tail, rfl, htail⟩ := List.dropSuffix?_eq_some_iff.mp hfront
      refine ⟨extension, hextension, ?_, hversion⟩
      rw [String.toList_ofList, eq_of_beq htail]
    · cases h
  · intro ⟨extension, hextension, hback, hversion⟩
    -- The two extensions end differently, so each reading gives the same version.
    have hread (other : String) (hother : other ∈ packageExtensions) (found : String) :
        (((version.toList ++ extension.toList).dropSuffix? other.toList).map String.ofList).filter
            versionPattern.wholeMatch = some found → found = version := by
      intro hfound
      obtain ⟨hdrop, -⟩ := Option.filter_eq_some_iff.mp hfound
      obtain ⟨front, hfront, rfl⟩ := Option.map_eq_some_iff.mp hdrop
      obtain ⟨tail, htext, htail⟩ := List.dropSuffix?_eq_some_iff.mp hfront
      rw [eq_of_beq htail] at htext
      rw [← (append_extension_inj hextension hother htext).1, String.ofList_toList]
    subst hback
    have hsome : (versionBehind ('-' :: (version.toList ++ extension.toList))).isSome = true := by
      refine List.findSome?_isSome_iff.mpr ⟨extension, hextension, ?_⟩
      have hdrop : (version.toList ++ extension.toList).dropSuffix? extension.toList =
          some version.toList := List.dropSuffix?_eq_some_iff.mpr ⟨_, rfl, beq_self_eq_true _⟩
      rw [hdrop, Option.map_some, String.ofList_toList]
      exact Option.isSome_of_eq_some (Option.filter_eq_some_iff.mpr ⟨rfl, hversion⟩)
    obtain ⟨found, hfound⟩ := Option.isSome_iff_exists.mp hsome
    obtain ⟨other, hother, hread'⟩ := List.exists_of_findSome?_eq_some hfound
    rw [hfound, hread other hother found hread']

theorem isLineTerminator_of_isVersionChar {c : Char} (h : isVersionChar c = true) :
    isLineTerminator c = false := by
  by_contra hne
  rw [Bool.not_eq_false, isLineTerminator, List.contains_iff_mem] at hne
  fin_cases hne <;> cases h

/-- **Which version is found in a name**: one that holds no other, between a dash and the
    extension. -/
theorem packageVersion_eq_some_iff {entry version : String} :
    packageVersion entry = some version ↔ ∃ name, ∃ extension ∈ packageExtensions,
      entry.toList = "packages/".toList ++
        (name ++ '-' :: (version.toList ++ extension.toList)) ∧
      name ≠ [] ∧ (∀ c ∈ name, isLineTerminator c = false) ∧ IsVersion version ∧
      ¬ HasInnerVersion version := by
  have hname (name : List Char) :
      (name ≠ [] ∧ name.all (!isLineTerminator ·) = true) ↔
        name ≠ [] ∧ ∀ c ∈ name, isLineTerminator c = false := by
    simp only [List.all_eq_true, Bool.not_eq_true']
  simp only [packageVersion, Option.bind_eq_bind, Option.bind_eq_some_iff,
    Regex.greedySplit_eq_some_iff, hname, List.dropPrefix?_eq_some_iff, beq_iff_eq]
  constructor
  · intro ⟨named, ⟨_, hentry, rfl⟩, name, back, hnamed, hread, hlast⟩
    by_cases hok : name ≠ [] ∧ ∀ c ∈ name, isLineTerminator c = false
    · rw [if_pos hok] at hread
      obtain ⟨extension, hextension, rfl, hversion⟩ := versionBehind_eq_some_iff.mp hread
      refine ⟨name, extension, hextension, hnamed ▸ hentry, hok.1, hok.2, hversion, ?_⟩
      -- the pattern would have gone on to the inner version
      intro ⟨before, inner, heq, hinner⟩
      have hback : '-' :: (version.toList ++ extension.toList) =
          ('-' :: before.toList) ++ '-' :: (inner.toList ++ extension.toList) := by
        simp [heq]
      have hbefore : ∀ c ∈ '-' :: before.toList, isLineTerminator c = false := by
        rw [List.forall_mem_cons]
        refine ⟨rfl, fun c hc => isLineTerminator_of_isVersionChar (hversion.chars c ?_)⟩
        simp [heq, hc]
      have hnone := hlast _ _ hback (List.cons_ne_nil _ _)
      rw [if_pos ⟨List.append_ne_nil_of_left_ne_nil hok.1 _,
        List.forall_mem_append.mpr ⟨hok.2, hbefore⟩⟩,
        versionBehind_eq_some_iff.mpr ⟨extension, hextension, rfl, hinner⟩] at hnone
      cases hnone
    · rw [if_neg hok] at hread
      cases hread
  · intro ⟨name, extension, hextension, hentry, hne, hlines, hversion, hinner⟩
    refine ⟨_, ⟨_, hentry, rfl⟩, name, _, rfl, ?_, ?_⟩
    · rw [if_pos ⟨hne, hlines⟩]
      exact versionBehind_eq_some_iff.mpr ⟨extension, hextension, rfl, hversion⟩
    · intro more rest hback hmore
      split
      · -- what is read further on is an inner version
        refine Option.eq_none_iff_forall_ne_some.mpr fun inner hread => hinner ?_
        obtain ⟨other, hother, rfl, hversion'⟩ := versionBehind_eq_some_iff.mp hread
        obtain ⟨c, before, rfl⟩ := List.exists_cons_of_ne_nil hmore
        obtain ⟨rfl, htail⟩ := List.cons.inj hback
        have hsplit : version.toList ++ extension.toList =
            (before ++ '-' :: inner.toList) ++ other.toList := by
          rw [List.append_assoc]
          exact htail
        have heq := (append_extension_inj hextension hother hsplit).1
        refine ⟨String.ofList before, inner, ?_, hversion'⟩
        rw [← String.toList_inj, heq]
        simp
      · rfl

/-! ## Package names -/

/-- `[a-z-]` -/
def isNameChar (c : Char) : Bool := c.isLower || c = '-'

theorem isLineTerminator_of_isNameChar {c : Char} (h : isNameChar c = true) :
    isLineTerminator c = false := by
  by_contra hne
  rw [Bool.not_eq_false, isLineTerminator, List.contains_iff_mem] at hne
  fin_cases hne <;> cases h

theorem not_isDigit_of_isNameChar {c : Char} (h : isNameChar c = true) : c.isDigit = false := by
  rw [isNameChar, Bool.or_eq_true, decide_eq_true_iff] at h
  rcases h with hlower | rfl
  · simp only [Char.isLower, Char.isDigit, Bool.and_eq_true, Bool.and_eq_false_iff,
      decide_eq_true_eq, decide_eq_false_iff_not, UInt32.le_iff_toNat_le, ge_iff_le] at hlower ⊢
    have ha : ('a' : Char).val.toNat = 97 := rfl
    have hnine : ('9' : Char).val.toNat = 57 := rfl
    omega
  · rfl

theorem packageNames_spec : ∀ name ∈ npmPackages ++ rustCrates,
    name.toList ≠ [] ∧ ∀ c ∈ name.toList, isNameChar c = true := by
  have hall : ∀ name ∈ npmPackages ++ rustCrates,
      (!name.toList.isEmpty && name.toList.all isNameChar) = true := by
    simp only [npmPackages, rustCrates, List.cons_append, List.nil_append, List.forall_mem_cons]
    repeat rw [String.toList_ofList]
    decide +kernel
  intro name hname
  have hcheck := hall name hname
  rw [Bool.and_eq_true, List.all_eq_true, Bool.not_eq_true', List.isEmpty_eq_false_iff] at hcheck
  exact hcheck

theorem mem_requiredPackageEntries {entry version : String}
    (h : entry ∈ requiredPackageEntries version) : ∃ name ∈ npmPackages ++ rustCrates,
      ∃ extension ∈ packageExtensions, entry = packageEntry name version extension := by
  rcases List.mem_append.mp h with h | h
  · obtain ⟨name, hname, rfl⟩ := List.mem_map.mp h
    exact ⟨name, List.mem_append_left _ hname, ".tgz", List.mem_cons_self, rfl⟩
  · obtain ⟨name, hname, rfl⟩ := List.mem_map.mp h
    exact ⟨name, List.mem_append_right _ hname, ".crate",
      List.mem_cons_of_mem _ List.mem_cons_self, rfl⟩

theorem toList_packageEntry (name version extension : String) :
    (packageEntry name version extension).toList = "packages/".toList ++
      (name.toList ++ '-' :: (version.toList ++ extension.toList)) := by
  simp [packageEntry]

/-- The first entry every version needs. -/
theorem contracts_mem (version : String) :
    packageEntry "secure-keypad-contracts" version ".tgz" ∈ requiredPackageEntries version :=
  List.mem_append_left _ List.mem_cons_self

/-- Names have no digits, and versions start with one: a file name tells its version. -/
theorem packageEntry_version_inj {name name' version version' extension extension' : String}
    (hname : name ∈ npmPackages ++ rustCrates) (hname' : name' ∈ npmPackages ++ rustCrates)
    (hextension : extension ∈ packageExtensions) (hextension' : extension' ∈ packageExtensions)
    (hversion : IsVersion version) (hversion' : IsVersion version')
    (h : packageEntry name version extension = packageEntry name' version' extension') :
    version = version' := by
  have htake (name version extension : String) (hname : name ∈ npmPackages ++ rustCrates)
      (hversion : IsVersion version) :
      (name.toList ++ '-' :: (version.toList ++ extension.toList)).dropWhile (!Char.isDigit ·) =
        version.toList ++ extension.toList := by
    obtain ⟨d, rest, hd, hdigit⟩ := hversion.exists_cons
    have hfront : ∀ c ∈ name.toList ++ ['-'], (!c.isDigit) = true := by
      rw [List.forall_mem_append, List.forall_mem_singleton]
      refine ⟨fun c hc => ?_, rfl⟩
      rw [not_isDigit_of_isNameChar ((packageNames_spec name hname).2 c hc), Bool.not_false]
    rw [List.append_cons, List.dropWhile_append_of_pos hfront, hd, List.cons_append,
      List.dropWhile_cons_of_neg (by rw [hdigit]; decide)]
  have hlist := congrArg String.toList h
  rw [toList_packageEntry, toList_packageEntry] at hlist
  have htails := congrArg (List.dropWhile (!Char.isDigit ·)) (List.append_cancel_left hlist)
  rw [htake name version extension hname hversion,
    htake name' version' extension' hname' hversion'] at htails
  exact String.toList_inj.mp (append_extension_inj hextension hextension' htails).1

/-- A package of a version without an inner one is a package of that version. -/
theorem packageVersion_packageEntry {name version extension : String}
    (hname : name ∈ npmPackages ++ rustCrates) (hextension : extension ∈ packageExtensions)
    (hversion : IsVersion version) (hinner : ¬ HasInnerVersion version) :
    packageVersion (packageEntry name version extension) = some version := by
  obtain ⟨hne, hchars⟩ := packageNames_spec name hname
  exact packageVersion_eq_some_iff.mpr ⟨name.toList, extension, hextension,
    toList_packageEntry name version extension, hne,
    fun c hc => isLineTerminator_of_isNameChar (hchars c hc), hversion, hinner⟩

/-! ## Places -/

theorem pathComponents_of_packages {entry : String} {rest : List Char}
    (h : entry.toList = "packages/".toList ++ rest) :
    pathComponents entry = "packages".toList :: rest.splitOn '/' := by
  have hsplit : "packages/".toList ++ rest = "packages".toList ++ '/' :: rest := rfl
  rw [pathComponents, h, hsplit, List.splitOn_append_cons_self_of_not_mem (by decide)]

theorem topLevel_of_packageVersion {entry version : String}
    (h : packageVersion entry = some version) : topLevel entry = "packages".toList := by
  obtain ⟨name, extension, -, hentry, -⟩ := packageVersion_eq_some_iff.mp h
  rw [topLevel, pathComponents_of_packages hentry, List.headD_cons]

theorem placed_requiredSourceEntries : ∀ entry ∈ requiredSourceEntries,
    leavesArchive entry = false ∧ topLevel entry = "source".toList := by
  -- the texts as lists, so that no text has to be decoded to decide
  simp only [requiredSourceEntries, List.forall_mem_cons, leavesArchive, topLevel, pathComponents]
  repeat rw [String.toList_ofList]
  decide +kernel

theorem placed_packageEntry {name version extension : String}
    (hname : name ∈ npmPackages ++ rustCrates) (hextension : extension ∈ packageExtensions)
    (hversion : IsVersion version) :
    leavesArchive (packageEntry name version extension) = false ∧
      topLevel (packageEntry name version extension) = "packages".toList := by
  have hentry := toList_packageEntry name version extension
  have hextensions : ∀ extension ∈ packageExtensions, '/' ∉ extension.toList := by
    decide +kernel
  -- Behind the directory there is no further slash, so the name is one component.
  have hfile : '/' ∉ name.toList ++ '-' :: (version.toList ++ extension.toList) := by
    rw [List.mem_append, List.mem_cons, List.mem_append]
    rintro (h | h | h | h)
    · cases (packageNames_spec name hname).2 _ h
    · cases h
    · cases hversion.chars _ h
    · exact hextensions extension hextension h
  have hcomponents := pathComponents_of_packages hentry
  rw [List.splitOn_eq_singleton hfile] at hcomponents
  constructor
  · rw [leavesArchive, hcomponents, hentry, Bool.or_eq_false_iff]
    refine ⟨rfl, ?_⟩
    rw [← Bool.not_eq_true, List.contains_iff_mem, List.mem_cons, List.mem_singleton]
    rintro (h | h)
    · cases h
    · have hdash : '-' ∈ ['.', '.'] := by
        rw [h]
        exact List.mem_append_right _ List.mem_cons_self
      exact absurd hdash (by decide)
  · rw [topLevel, hcomponents, List.headD_cons]

/-! ## Exactness -/

/-- The names are those of a release of the version: the staged source, its packages, and what else
    lies under `source/`, each once. -/
structure Composed (version : String) (names : List String) : Prop where
  isVersion : IsVersion version
  nodup : names.Nodup
  source : ∀ entry ∈ requiredSourceEntries, entry ∈ names
  packages : ∀ entry ∈ requiredPackageEntries version, entry ∈ names
  others : ∀ entry ∈ names, entry ∉ requiredSourceEntries →
    entry ∉ requiredPackageEntries version →
    leavesArchive entry = false ∧ topLevel entry = "source".toList

/-- All packages of the version are there. -/
def Complete (version : String) (names : List String) : Prop :=
  IsVersion version ∧ ∀ entry ∈ requiredPackageEntries version, entry ∈ names

/-- What the check promises of the names, but for the version. -/
structure Staged (names : List String) : Prop where
  nodup : names.Nodup
  placed : ∀ entry ∈ names, Placed entry
  source : ∀ entry ∈ requiredSourceEntries, entry ∈ names

/-- A release has two kinds of names. -/
theorem Composed.cases {version entry : String} {names : List String}
    (h : Composed version names) (hentry : entry ∈ names) :
    (leavesArchive entry = false ∧ topLevel entry = "source".toList) ∨
      entry ∈ requiredPackageEntries version := by
  by_cases hsource : entry ∈ requiredSourceEntries
  · exact .inl (placed_requiredSourceEntries entry hsource)
  · by_cases hpackage : entry ∈ requiredPackageEntries version
    · exact .inr hpackage
    · exact .inl (h.others entry hentry hsource hpackage)

theorem Composed.placed {version : String} {names : List String} (h : Composed version names) :
    ∀ entry ∈ names, Placed entry := by
  intro entry hentry
  cases h.cases hentry with
  | inl hsource => exact ⟨hsource.1, .inl hsource.2⟩
  | inr hpackage =>
    obtain ⟨name, hname, extension, hextension, rfl⟩ := mem_requiredPackageEntries hpackage
    have ⟨hleaves, htop⟩ := placed_packageEntry hname hextension h.isVersion
    exact ⟨hleaves, .inr htop⟩

/-- A release is complete for one version only. -/
theorem Composed.version_unique {version other : String} {names : List String}
    (h : Composed version names) (hother : IsVersion other)
    (hcomplete : ∀ entry ∈ requiredPackageEntries other, entry ∈ names) : other = version := by
  obtain ⟨name, hname, extension, hextension, hentry⟩ :=
    mem_requiredPackageEntries (contracts_mem other)
  cases h.cases (hcomplete _ (contracts_mem other)) with
  | inl hsource =>
    have htop := (placed_packageEntry hname hextension hother).2
    rw [← hentry, hsource.2] at htop
    exact absurd htop (by decide)
  | inr hpackage =>
    obtain ⟨name', hname', extension', hextension', hentry'⟩ :=
      mem_requiredPackageEntries hpackage
    exact packageEntry_version_inj hname hname' hextension hextension' hother h.isVersion
      (hentry.symm.trans hentry')

/-- Every version found in a release without an inner version is its own. -/
theorem Composed.packageVersion {version entry other : String} {names : List String}
    (h : Composed version names) (hinner : ¬ HasInnerVersion version) (hentry : entry ∈ names)
    (hfound : packageVersion entry = some other) : other = version := by
  cases h.cases hentry with
  | inl hsource =>
    have htop := topLevel_of_packageVersion hfound
    rw [hsource.2] at htop
    exact absurd htop (by decide)
  | inr hpackage =>
    obtain ⟨name, hname, extension, hextension, rfl⟩ := mem_requiredPackageEntries hpackage
    rw [packageVersion_packageEntry hname hextension h.isVersion hinner] at hfound
    exact (Option.some.inj hfound).symm

/-- The version that is found holds no other. -/
theorem not_hasInnerVersion_of_found {entry version : String}
    (h : packageVersion entry = some version) : IsVersion version ∧ ¬ HasInnerVersion version := by
  obtain ⟨_, _, _, _, _, _, hversion, hinner⟩ := packageVersion_eq_some_iff.mp h
  exact ⟨hversion, hinner⟩

theorem Composed.findings_eq_nil_iff {version : String} {entries : Json}
    (h : Composed version (entryNames entries)) :
    validateReleaseArchiveEntries entries = [] ↔ ¬ HasInnerVersion version := by
  rw [validateReleaseArchiveEntries_eq_nil_iff]
  constructor
  · intro ⟨_, _, _, other, ⟨entry, _, hfound⟩, _, hcomplete⟩
    have ⟨hother, hinner⟩ := not_hasInnerVersion_of_found hfound
    rwa [h.version_unique hother hcomplete] at hinner
  · intro hinner
    refine ⟨h.nodup, h.placed, h.source, version, ?_, ?_, h.packages⟩
    · obtain ⟨name, hname, extension, hextension, hentry⟩ :=
        mem_requiredPackageEntries (contracts_mem version)
      refine ⟨_, h.packages _ (contracts_mem version), ?_⟩
      rw [hentry]
      exact packageVersion_packageEntry hname hextension h.isVersion hinner
    · intro entry hentry other hfound
      exact h.packageVersion hinner hentry hfound

/-- Without findings there is a complete version, and no other one but those with a version inside
    them. -/
theorem existsUnique_complete_iff {entries : Json}
    (h : validateReleaseArchiveEntries entries = []) :
    (∃! version, Complete version (entryNames entries)) ↔
      ∀ version, Complete version (entryNames entries) → ¬ HasInnerVersion version := by
  obtain ⟨-, -, -, found, ⟨entry, -, hfound⟩, honly, hpackages⟩ :=
    validateReleaseArchiveEntries_eq_nil_iff.mp h
  have ⟨hversion, hinner⟩ := not_hasInnerVersion_of_found hfound
  constructor
  · intro ⟨version, _, hunique⟩ other hother
    rw [hunique other hother, ← hunique found ⟨hversion, hpackages⟩]
    exact hinner
  · intro hall
    refine ⟨found, ⟨hversion, hpackages⟩, ?_⟩
    intro other hother
    obtain ⟨name, hname, extension, hextension, hentry⟩ :=
      mem_requiredPackageEntries (contracts_mem other)
    apply honly _ (hother.2 _ (contracts_mem other))
    rw [hentry]
    exact packageVersion_packageEntry hname hextension hother.1 (hall other hother)

/-- **When the check is exact**: it accepts the releases of the versions that hold no other version
    behind a dash, and only those. What it accepts is staged and complete for some version; for
    exactly one when no complete version holds another. -/
theorem archive_check_exact_iff (entries : Json) (version : String) :
    (Composed version (entryNames entries) →
      (validateReleaseArchiveEntries entries = [] ↔ ¬ HasInnerVersion version)) ∧
    (validateReleaseArchiveEntries entries = [] →
      Staged (entryNames entries) ∧ (∃ version, Complete version (entryNames entries)) ∧
      ((∃! version, Complete version (entryNames entries)) ↔
        ∀ version, Complete version (entryNames entries) → ¬ HasInnerVersion version)) := by
  constructor
  · exact Composed.findings_eq_nil_iff
  · intro h
    obtain ⟨hnodup, hplaced, hsource, found, ⟨entry, -, hfound⟩, -, hpackages⟩ :=
      validateReleaseArchiveEntries_eq_nil_iff.mp h
    exact ⟨⟨hnodup, hplaced, hsource⟩,
      ⟨found, (not_hasInnerVersion_of_found hfound).1, hpackages⟩, existsUnique_complete_iff h⟩

/-! ## Archives of given versions -/

/-- What an archive of the versions lists. -/
def archiveOf (versions : List String) : Json :=
  .arr ((requiredSourceEntries ++ versions.flatMap requiredPackageEntries).map .str)

theorem normalizeEntry_eq_self {entry : String} (hhead : entry.toList.head? ≠ some '.')
    (hlast : entry.toList.getLast? ≠ some '/') : normalizeEntry (.str entry) = entry := by
  have hprefix : entry.toList.dropPrefix? "./".toList = none := by
    refine Option.eq_none_iff_forall_ne_some.mpr fun rest hrest => hhead ?_
    obtain ⟨dot, htext, hdot⟩ := List.dropPrefix?_eq_some_iff.mp hrest
    rw [htext, eq_of_beq hdot]
    rfl
  have hsuffix : entry.toList.dropSuffix? ['/'] = none := by
    refine Option.eq_none_iff_forall_ne_some.mpr fun rest hrest => hlast ?_
    obtain ⟨slash, htext, hslash⟩ := List.dropSuffix?_eq_some_iff.mp hrest
    rw [htext, eq_of_beq hslash, List.getLast?_concat]
  rw [normalizeEntry, hprefix, Option.getD_none, hsuffix, Option.getD_none, String.ofList_toList]

theorem normalizeEntry_packageEntry {name version extension : String}
    (hextension : extension ∈ packageExtensions) :
    normalizeEntry (.str (packageEntry name version extension)) =
      packageEntry name version extension := by
  apply normalizeEntry_eq_self
  · intro hdot
    rw [toList_packageEntry] at hdot
    cases hdot
  · have hlast : extension.toList.getLast? ≠ some '/' ∧ extension.toList ≠ [] := by
      simp only [packageExtensions, List.mem_cons, List.not_mem_nil, or_false] at hextension
      rcases hextension with rfl | rfl <;> decide
    rw [toList_packageEntry, List.append_cons, ← List.append_assoc, ← List.append_assoc,
      List.getLast?_append_of_ne_nil _ hlast.2]
    exact hlast.1

theorem normalizeEntry_requiredSourceEntries : ∀ entry ∈ requiredSourceEntries,
    normalizeEntry (.str entry) = entry := by
  have hends : ∀ entry ∈ requiredSourceEntries,
      entry.toList.head? ≠ some '.' ∧ entry.toList.getLast? ≠ some '/' := by
    simp only [requiredSourceEntries, List.forall_mem_cons]
    repeat rw [String.toList_ofList]
    decide +kernel
  intro entry hentry
  exact normalizeEntry_eq_self (hends entry hentry).1 (hends entry hentry).2

theorem entryNames_archiveOf (versions : List String) : entryNames (archiveOf versions) =
    requiredSourceEntries ++ versions.flatMap requiredPackageEntries := by
  have hself : ∀ entry ∈ requiredSourceEntries ++ versions.flatMap requiredPackageEntries,
      normalizeEntry (.str entry) = entry ∧ entry ≠ "" := by
    rw [List.forall_mem_append]
    constructor
    · intro entry hentry
      refine ⟨normalizeEntry_requiredSourceEntries entry hentry, ?_⟩
      rintro rfl
      exact absurd (placed_requiredSourceEntries _ hentry).2 (by decide)
    · intro entry hentry
      obtain ⟨version, -, hmem⟩ := List.mem_flatMap.mp hentry
      obtain ⟨name, -, extension, hextension, rfl⟩ := mem_requiredPackageEntries hmem
      refine ⟨normalizeEntry_packageEntry hextension, fun hempty => ?_⟩
      have hlist := congrArg String.toList hempty
      rw [toList_packageEntry] at hlist
      cases hlist
  rw [archiveOf, entryNames, List.map_map]
  have hmap : (requiredSourceEntries ++ versions.flatMap requiredPackageEntries).map
      (normalizeEntry ∘ Json.str) =
        requiredSourceEntries ++ versions.flatMap requiredPackageEntries :=
    (List.map_congr_left fun entry hentry => (hself entry hentry).1).trans (List.map_id _)
  rw [hmap, List.filter_eq_self]
  intro entry hentry
  exact decide_eq_true (hself entry hentry).2

theorem nodup_requiredPackageEntries (version : String) :
    (requiredPackageEntries version).Nodup := by
  have hinj (extension : String) : Function.Injective (packageEntry · version extension) := by
    intro name name' h
    have hlist := congrArg String.toList h
    simp only [toList_packageEntry] at hlist
    exact String.toList_inj.mp (List.append_cancel_right (List.append_cancel_left hlist))
  have hnpm : npmPackages.Nodup := by
    decide +kernel
  have hrust : rustCrates.Nodup := by
    decide +kernel
  refine (hnpm.map (hinj _)).append (hrust.map (hinj _)) ?_
  intro entry htgz hcrate
  obtain ⟨name, -, rfl⟩ := List.mem_map.mp htgz
  obtain ⟨name', -, h⟩ := List.mem_map.mp hcrate
  have hlist := congrArg String.toList h
  simp only [toList_packageEntry, ← List.cons_append, ← List.append_assoc] at hlist
  exact absurd (append_extension_inj (List.mem_cons_of_mem _ List.mem_cons_self)
    List.mem_cons_self hlist).2 (by decide)

theorem nodup_archiveOf {versions : List String} (hversions : ∀ v ∈ versions, IsVersion v)
    (hnodup : versions.Nodup) : (entryNames (archiveOf versions)).Nodup := by
  have hsource : requiredSourceEntries.Nodup := by
    have hlists : (requiredSourceEntries.map String.toList).Nodup := by
      simp only [requiredSourceEntries, List.map]
      repeat rw [String.toList_ofList]
      decide +kernel
    exact hlists.of_map _
  rw [entryNames_archiveOf]
  refine hsource.append (List.nodup_flatMap.mpr ⟨?_, ?_⟩) ?_
  · exact fun version _ => nodup_requiredPackageEntries version
  · -- a file name tells its version
    refine hnodup.imp_of_mem ?_
    intro version other hversion hother hne entry hentry hentry'
    obtain ⟨name, hname, extension, hextension, rfl⟩ := mem_requiredPackageEntries hentry
    obtain ⟨name', hname', extension', hextension', h⟩ := mem_requiredPackageEntries hentry'
    exact hne (packageEntry_version_inj hname hname' hextension hextension'
      (hversions version hversion) (hversions other hother) h)
  · intro entry hsourceEntry hpackage
    obtain ⟨version, hversion, hmem⟩ := List.mem_flatMap.mp hpackage
    obtain ⟨name, hname, extension, hextension, rfl⟩ := mem_requiredPackageEntries hmem
    have htop := (placed_packageEntry hname hextension (hversions version hversion)).2
    rw [(placed_requiredSourceEntries _ hsourceEntry).2] at htop
    exact absurd htop (by decide)

theorem composed_archiveOf {version : String} (h : IsVersion version) :
    Composed version (entryNames (archiveOf [version])) := by
  have hnodup := nodup_archiveOf (List.forall_mem_singleton.mpr h) (List.nodup_singleton version)
  rw [entryNames_archiveOf, List.flatMap_singleton] at hnodup ⊢
  refine ⟨h, hnodup, fun _ => List.mem_append_left _, fun _ => List.mem_append_right _, ?_⟩
  intro entry hentry hsource hpackage
  cases List.mem_append.mp hentry with
  | inl hmem => exact absurd hmem hsource
  | inr hmem => exact absurd hmem hpackage

/-- Archives of versions that all have one version inside them are taken for one of it. -/
theorem archiveOf_accepted {versions : List String} {inner : String}
    (hversions : ∀ v ∈ versions, IsVersion v) (hnodup : versions.Nodup) (hmem : inner ∈ versions)
    (hinner : ¬ HasInnerVersion inner)
    (hend : ∀ v ∈ versions, v = inner ∨ ∃ before, v = before ++ "-" ++ inner) :
    validateReleaseArchiveEntries (archiveOf versions) = [] := by
  have hnames := entryNames_archiveOf versions
  have hcases : ∀ entry ∈ entryNames (archiveOf versions),
      (leavesArchive entry = false ∧ topLevel entry = "source".toList) ∨
        ∃ version ∈ versions, entry ∈ requiredPackageEntries version := by
    intro entry hentry
    rw [hnames] at hentry
    cases List.mem_append.mp hentry with
    | inl hsource => exact .inl (placed_requiredSourceEntries entry hsource)
    | inr hpackage => exact .inr (List.mem_flatMap.mp hpackage)
  have hcomplete : ∀ version ∈ versions, ∀ entry ∈ requiredPackageEntries version,
      entry ∈ entryNames (archiveOf versions) := by
    intro version hversion entry hentry
    rw [hnames]
    exact List.mem_append_right _ (List.mem_flatMap.mpr ⟨version, hversion, hentry⟩)
  -- every package is taken for one of the inner version
  have hfound : ∀ version ∈ versions, ∀ entry ∈ requiredPackageEntries version,
      packageVersion entry = some inner := by
    intro version hversion entry hentry
    obtain ⟨name, hname, extension, hextension, rfl⟩ := mem_requiredPackageEntries hentry
    rcases hend version hversion with rfl | ⟨before, rfl⟩
    · exact packageVersion_packageEntry hname hextension (hversions _ hversion) hinner
    · obtain ⟨hne, hchars⟩ := packageNames_spec name hname
      refine packageVersion_eq_some_iff.mpr ⟨name.toList ++ '-' :: before.toList, extension,
        hextension, ?_, List.append_ne_nil_of_left_ne_nil hne _, ?_, hversions _ hmem, hinner⟩
      · simp [toList_packageEntry]
      · rw [List.forall_mem_append, List.forall_mem_cons]
        refine ⟨fun c hc => isLineTerminator_of_isNameChar (hchars c hc), rfl, fun c hc => ?_⟩
        exact isLineTerminator_of_isVersionChar ((hversions _ hversion).chars c (by simp [hc]))
  refine validateReleaseArchiveEntries_eq_nil_iff.mpr
    ⟨nodup_archiveOf hversions hnodup, ?_, ?_, inner, ?_, ?_, hcomplete inner hmem⟩
  · intro entry hentry
    rcases hcases entry hentry with hsource | ⟨version, hversion, hpackage⟩
    · exact ⟨hsource.1, .inl hsource.2⟩
    · obtain ⟨name, hname, extension, hextension, rfl⟩ := mem_requiredPackageEntries hpackage
      have ⟨hleaves, htop⟩ := placed_packageEntry hname hextension (hversions version hversion)
      exact ⟨hleaves, .inr htop⟩
  · intro entry hentry
    rw [hnames]
    exact List.mem_append_left _ hentry
  · exact ⟨_, hcomplete inner hmem _ (contracts_mem inner),
      hfound inner hmem _ (contracts_mem inner)⟩
  · intro entry hentry other hother
    rcases hcases entry hentry with hsource | ⟨version, hversion, hpackage⟩
    · have htop := topLevel_of_packageVersion hother
      rw [hsource.2] at htop
      exact absurd htop (by decide)
    · exact Option.some.inj (hother.symm.trans (hfound version hversion entry hpackage))

/-- A release candidate is accepted. -/
theorem archive_check_exact_candidate :
    validateReleaseArchiveEntries (archiveOf ["1.0.0-rc.1+build-7"]) = [] := by
  have hcomposed : Composed "1.0.0-rc.1+build-7" (entryNames (archiveOf ["1.0.0-rc.1+build-7"])) :=
    composed_archiveOf (by decide +kernel)
  have hinner : ¬ HasInnerVersion "1.0.0-rc.1+build-7" := by
    decide +kernel
  exact ((archive_check_exact_iff (archiveOf ["1.0.0-rc.1+build-7"]) "1.0.0-rc.1+build-7").1
    hcomposed).mpr hinner

/-- The release `1.0.0-1.2.3` is refused, and its packages next to those of `1.2.3` go
    unnoticed. -/
theorem not_archive_check_exact :
    (Composed "1.0.0-1.2.3" (entryNames (archiveOf ["1.0.0-1.2.3"])) ∧
      validateReleaseArchiveEntries (archiveOf ["1.0.0-1.2.3"]) ≠ []) ∧
    validateReleaseArchiveEntries (archiveOf ["1.2.3", "1.0.0-1.2.3"]) = [] ∧
    ¬ ∃! version, Complete version (entryNames (archiveOf ["1.2.3", "1.0.0-1.2.3"])) := by
  have hversion : IsVersion "1.0.0-1.2.3" := by
    decide +kernel
  have hinner : HasInnerVersion "1.0.0-1.2.3" := by
    decide +kernel
  have hcomposed := composed_archiveOf hversion
  have haccepted : validateReleaseArchiveEntries (archiveOf ["1.2.3", "1.0.0-1.2.3"]) = [] := by
    refine archiveOf_accepted (by decide +kernel) (by decide +kernel) List.mem_cons_self
      (by decide +kernel) (List.forall_mem_cons.mpr ⟨.inl rfl, ?_⟩)
    exact List.forall_mem_singleton.mpr (.inr ⟨"1.0.0", by decide⟩)
  refine ⟨⟨hcomposed, ?_⟩, haccepted, ?_⟩
  · rw [ne_eq, hcomposed.findings_eq_nil_iff, not_not]
    exact hinner
  · rw [existsUnique_complete_iff haccepted, not_forall]
    refine ⟨"1.0.0-1.2.3", fun himp => himp ⟨hversion, ?_⟩ hinner⟩
    intro entry hentry
    rw [entryNames_archiveOf]
    exact List.mem_append_right _ (List.mem_flatMap.mpr
      ⟨_, List.mem_cons_of_mem _ List.mem_cons_self, hentry⟩)

end SecureKeypad.Release
