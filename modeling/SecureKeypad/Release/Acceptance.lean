import SecureKeypad.Release.Evidence

/-!
# Accepted Release Evidence

A manifest is accepted when `validateReleaseEvidence` has no finding. This module says what that
comes to: each loop of the validator accepts exactly the items that have what it looks for and are
new to it, and the manifest is accepted when all of them are.

## Main results

- `checkSecretKeys_eq_nil_iff`: there is no finding of a secret when no name is one, at any depth
- `checkGates_eq_nil_iff`, `checkArtifacts_eq_nil_iff`: the loops
- `validateReleaseEvidence_eq_nil_iff`: all an accepted manifest has, and nothing more
-/

namespace SecureKeypad.Release

/-! ## Secrets -/

/-- No object at any depth has a field with the name of a secret. -/
def NoSecretKeys (value : Json) : Prop :=
  ∀ fields, Json.Within value (.obj fields) → ∀ key nested, fields.lookup key = some nested →
    isSecretKey key = false

/-- A literal in either case begins with a letter, which no digit is. -/
theorem litCaseless_matches {word s : List Char}
    (hword : ∃ c rest, word = c :: rest ∧ c.isLower = true)
    (h : (Regex.litCaseless word).Matches s) : ∃ c ∈ s, c.isDigit = false := by
  obtain ⟨c, rest, rfl, hlower⟩ := hword
  obtain ⟨_, tail, rfl, ⟨d, hd, rfl⟩, -⟩ := h
  refine ⟨d, List.mem_cons_self, ?_⟩
  have hlowered : d.toLower = c := of_decide_eq_true hd
  by_contra hdigit
  simp only [Bool.not_eq_false, Char.isDigit, Bool.and_eq_true, decide_eq_true_eq,
    UInt32.le_iff_toNat_le] at hdigit
  have hnine : d.val.toNat ≤ 57 := hdigit.2
  have hsame : d.toLower = d := by
    rw [Char.toLower, dif_neg]
    rintro ⟨hupper, -⟩
    have hA : 65 ≤ d.val.toNat := UInt32.le_iff_toNat_le.mp hupper
    omega
  rw [← hlowered, hsame] at hlower
  simp only [Char.isLower, Bool.and_eq_true, decide_eq_true_eq, UInt32.le_iff_toNat_le] at hlower
  have ha : 97 ≤ d.val.toNat := hlower.1
  omega

theorem anyOf_matches {words : List String} {s : List Char}
    (hwords : ∀ word ∈ words, ∃ c rest, word.toList = c :: rest ∧ c.isLower = true)
    (h : (anyOf words).Matches s) : ∃ c ∈ s, c.isDigit = false := by
  induction words with
  | nil =>
    obtain ⟨c, hc, -⟩ := h
    cases hc
  | cons word words ih =>
    rcases h with h | h
    · exact litCaseless_matches (hwords word List.mem_cons_self) h
    · exact ih (fun word hword => hwords word (List.mem_cons_of_mem _ hword)) h

/-- The name of a secret has a character that is no digit. -/
theorem secret_has_letter {key : String} (h : isSecretKey key = true) :
    ∃ c ∈ key.toList, c.isDigit = false := by
  rw [isSecretKey, Bool.or_eq_true, Regex.search_iff, Regex.wholeMatch_iff] at h
  rcases h with ⟨before, inside, after, hkey, h⟩ | h
  · rw [hkey]
    have hinside : ∃ c ∈ inside, c.isDigit = false := by
      rcases h with h | ⟨first, second, rfl, h, -⟩ | ⟨first, second, rfl, h, -⟩
      · exact anyOf_matches (by simp) h
      · obtain ⟨c, hc, hdigit⟩ := anyOf_matches (by simp) h
        exact ⟨c, List.mem_append_left _ hc, hdigit⟩
      · obtain ⟨c, hc, hdigit⟩ := anyOf_matches (by simp) h
        exact ⟨c, List.mem_append_left _ hc, hdigit⟩
    obtain ⟨c, hc, hdigit⟩ := hinside
    exact ⟨c, List.mem_append_right _ (List.mem_append_left _ hc), hdigit⟩
  · exact anyOf_matches (by simp) h

/-- The index of an item is no name of a secret. -/
theorem isSecretKey_index (index : ℕ) : isSecretKey (toString index) = false := by
  by_contra h
  rw [Bool.not_eq_false] at h
  obtain ⟨c, hc, hdigit⟩ := secret_has_letter h
  rw [Nat.toString_eq_ofList_toDigits, String.toList_ofList] at hc
  rw [Nat.isDigit_of_mem_toDigits (by decide) (by decide) hc] at hdigit
  cases hdigit

theorem checkSecretItems_eq_nil_iff {field : String} {index : ℕ} {items : List Json}
    (h : ∀ item ∈ items, ∀ field, checkSecretKeys field item = [] ↔ NoSecretKeys item) :
    checkSecretItems field index items = [] ↔ ∀ item ∈ items, NoSecretKeys item := by
  induction items generalizing index with
  | nil => simp [checkSecretItems]
  | cons item items ih =>
    obtain ⟨hitem, hitems⟩ := List.forall_mem_cons.mp h
    rw [checkSecretItems]
    simp only [List.append_eq_nil_iff, expect_eq_nil, isSecretKey_index, Bool.not_false, true_and,
      hitem, ih hitems, List.forall_mem_cons]

theorem checkSecretFields_eq_nil_iff {field : String} {seen : List String}
    {fields : List (String × Json)}
    (h : ∀ entry ∈ Json.entriesFrom seen fields, ∀ field, checkSecretKeys field entry.2 = [] ↔
      NoSecretKeys entry.2) :
    checkSecretFields field seen fields = [] ↔
      ∀ entry ∈ Json.entriesFrom seen fields, isSecretKey entry.1 = false ∧
        NoSecretKeys entry.2 := by
  induction fields generalizing seen with
  | nil => simp [checkSecretFields, Json.entriesFrom]
  | cons first fields ih =>
    rw [checkSecretFields]
    rw [Json.entriesFrom] at h ⊢
    split
    · next hseen =>
      rw [if_pos hseen] at h
      exact ih h
    · next hnew =>
      rw [if_neg hnew] at h
      obtain ⟨hfirst, hrest⟩ := List.forall_mem_cons.mp h
      simp only [List.append_eq_nil_iff, expect_eq_nil, Bool.not_eq_true', List.forall_mem_cons,
        hfirst, ih hrest]

theorem noSecretKeys_obj {fields : List (String × Json)} :
    NoSecretKeys (.obj fields) ↔ ∀ key nested, fields.lookup key = some nested →
      isSecretKey key = false ∧ NoSecretKeys nested := by
  constructor
  · intro h key nested hnested
    exact ⟨h fields (.refl _) key nested hnested,
      fun fields' hwithin => h fields' (.field hnested hwithin)⟩
  · intro h fields' hwithin
    cases hwithin with
    | refl => exact fun key nested hnested => (h key nested hnested).1
    | field hnested hwithin => exact (h _ _ hnested).2 fields' hwithin

theorem noSecretKeys_arr {items : List Json} :
    NoSecretKeys (.arr items) ↔ ∀ item ∈ items, NoSecretKeys item := by
  constructor
  · intro h item hitem fields hwithin
    exact h fields (.item hitem hwithin)
  · intro h fields hwithin
    cases hwithin with
    | item hitem hwithin => exact h _ hitem fields hwithin

/-- **No finding of a secret**, anywhere in the value. -/
theorem checkSecretKeys_eq_nil_iff (value : Json) : ∀ field,
    checkSecretKeys field value = [] ↔ NoSecretKeys value := by
  induction value using Json.induction with
  | arr items ih =>
    intro field
    rw [checkSecretKeys, checkSecretItems_eq_nil_iff ih, noSecretKeys_arr]
  | obj fields ih =>
    intro field
    rw [checkSecretKeys, checkSecretFields_eq_nil_iff fun entry hentry =>
      ih entry.1 entry.2 (Json.mem_entries.mp hentry), noSecretKeys_obj]
    constructor
    · intro h key nested hnested
      exact h (key, nested) (Json.mem_entries.mpr hnested)
    · intro h entry hentry
      exact h entry.1 entry.2 (Json.mem_entries.mp hentry)
  | _ =>
    intro field
    refine iff_of_true rfl fun fields hwithin => ?_
    cases hwithin

/-! ## Gates -/

/-- A text of an object. -/
def textOf (name : String) (fields : List (String × Json)) : String :=
  ((fields.lookup name).bind Json.asString?).getD ""

theorem textOf_eq {name text : String} {fields : List (String × Json)}
    (h : fields.lookup name = some (.str text)) : textOf name fields = text := by
  rw [textOf, h]
  rfl

/-- What an accepted gate has. -/
structure AcceptedGate (commit : String) (gate : List (String × Json)) : Prop where
  name : ∃ name ∈ requiredReleaseGates, gate.lookup "name" = some (.str name)
  commit : gate.lookup "commit" = some (.str commit)
  status : gate.lookup "status" = some (.str "pass")
  evidencePath : ∃ path, gate.lookup "evidencePath" = some (.str path) ∧ isSafePath path = true
  sha256 : ∃ hash, gate.lookup "sha256" = some (.str hash) ∧ sha256Pattern.wholeMatch hash = true

theorem isTextOf_iff {pattern : Regex} {value : Option Json} :
    isTextOf pattern value = true ↔
      ∃ text, value = some (.str text) ∧ pattern.wholeMatch text = true := by
  rcases value with _ | _ | _ | _ | text | _ | _ <;> simp [isTextOf]

theorem isSafeRelativePath_iff {value : Option Json} :
    isSafeRelativePath value = true ↔ ∃ path, value = some (.str path) ∧ isSafePath path = true := by
  rcases value with _ | _ | _ | _ | text | _ | _ <;> simp [isSafeRelativePath]

theorem bind_asString?_eq_some {value : Option Json} {text : String} :
    value.bind Json.asString? = some text ↔ value = some (.str text) := by
  cases value <;> simp

theorem checkExpected_eq_nil_iff {pattern : Regex} {expected : Option String}
    {field invalid mismatch : String} {value : Option Json} :
    checkExpected pattern expected field invalid mismatch value = [] ↔
      ∃ text, value = some (.str text) ∧ pattern.wholeMatch text = true ∧
        differs expected text = false := by
  unfold checkExpected
  split
  · next text =>
    by_cases h : pattern.wholeMatch text = true <;> simp [h]
  · next hother =>
    simp only [List.cons_ne_nil, false_iff]
    rintro ⟨text, rfl, -⟩
    exact hother text rfl

theorem checkGateName_fst {names : List String} {field : String} {value : Option Json} :
    (checkGateName names field value).1 = [] ↔
      ∃ name ∈ requiredReleaseGates, value = some (.str name) ∧ name ∉ names := by
  unfold checkGateName
  split
  · next name =>
    split_ifs with hempty hsupported hseen
    · subst hempty
      simp [show "" ∉ requiredReleaseGates by decide]
    · simp_all
    · simp_all
    · simp_all
  · next hother =>
    simp only [List.cons_ne_nil, false_iff]
    rintro ⟨name, -, rfl, -⟩
    exact hother name rfl

theorem checkGateName_snd {names : List String} {field name : String}
    (hname : name ∈ requiredReleaseGates) (hnew : name ∉ names) :
    (checkGateName names field (some (.str name))).2 = name :: names := by
  have hne : name ≠ "" := by
    rintro rfl
    exact absurd hname (by decide)
  simp [checkGateName, hne, hname, hnew]

/-- A safe path is new, and is remembered. -/
theorem checkUniquePath_fst {paths : List String} {field path : String}
    (hsafe : isSafePath path = true) :
    (checkUniquePath paths field (some (.str path))).1 = [] ↔ path ∉ paths := by
  by_cases h : path ∈ paths <;> simp [checkUniquePath, hsafe, h]

theorem checkUniquePath_snd {paths : List String} {field path : String}
    (hsafe : isSafePath path = true) (hnew : path ∉ paths) :
    (checkUniquePath paths field (some (.str path))).2 = path :: paths := by
  simp [checkUniquePath, hsafe, hnew]

/-- What a loop has pushed so far, with the first of its rounds taken off. -/
theorem pushed_cons {α β : Type} (f : α → β) (first : α) (items : List α) (seen : List β) :
    ((first :: items).map f).reverse ++ seen = (items.map f).reverse ++ f first :: seen := by
  simp

section Gates

variable {context : Context} {commit : String} (hcommit : commitPattern.wholeMatch commit = true)
  (hcontext : differs context.expectedCommit commit = false)

include hcommit hcontext

/-- The commit of a gate is the one of the manifest. -/
theorem checkGateCommit_eq_nil_iff {field : String} {value : Option Json} :
    checkGateCommit context (some (.str commit)) field value = some [] ↔
      value = some (.str commit) := by
  unfold checkGateCommit
  split
  · next other =>
    have htest : test commitPattern (some (.str commit)) = some true := by
      simp [test, Json.jsString, hcommit]
    by_cases heq : other = commit
    · subst heq
      simp [hcommit, htest, Json.asString?, hcontext]
    · have hne : commit ≠ other := fun h => heq h.symm
      split_ifs <;> simp_all [Json.asString?]
  · next hother =>
    simp only [Option.some.injEq, List.cons_ne_nil, false_iff]
    rintro rfl
    exact hother commit rfl

/-- One round of the loop over the gates. -/
theorem checkGates_cons {index : ℕ} {names paths names' paths' : List String} {item : Json}
    {items : List Json} :
    checkGates context (some (.str commit)) index names paths (item :: items) =
        some ([], names', paths') ↔
      ∃ gate, item = .obj gate ∧ AcceptedGate commit gate ∧ textOf "name" gate ∉ names ∧
        textOf "evidencePath" gate ∉ paths ∧
        checkGates context (some (.str commit)) (index + 1) (textOf "name" gate :: names)
          (textOf "evidencePath" gate :: paths) items = some ([], names', paths') := by
  cases item with
  | obj gate =>
    simp only [checkGates, Option.bind_eq_bind, Option.bind_eq_some_iff, Option.some.injEq,
      Prod.mk.injEq, List.append_eq_nil_iff, checkGateName_fst, checkEvidencePath, checkHash,
      expect_eq_nil, isSafeRelativePath_iff, isTextOf_iff, decide_eq_true_eq, Json.asString?_eq_some, exists_eq_right, Json.obj.injEq]
    constructor
    -- A gate without findings is accepted, and its name and path are new.
    · rintro ⟨_, hgateCommit, ⟨_, rest, rest'⟩, hrest, ⟨⟨⟨⟨⟨⟨⟨name, hrequired, hname, hnew⟩, rfl⟩,
        hstatus⟩, path, hpath, hsafe⟩, hunique⟩, hash⟩, rfl⟩, rfl, rfl⟩
      rw [hpath, checkUniquePath_fst hsafe] at hunique
      rw [hname, hpath, checkGateName_snd hrequired hnew, checkUniquePath_snd hsafe hunique] at hrest
      have hcommitField := (checkGateCommit_eq_nil_iff hcommit hcontext).mp hgateCommit
      refine ⟨gate, rfl, ⟨⟨name, hrequired, hname⟩, hcommitField, hstatus, ⟨path, hpath, hsafe⟩,
        hash⟩, ?_, ?_, ?_⟩
      · rwa [textOf_eq hname]
      · rwa [textOf_eq hpath]
      · rwa [textOf_eq hname, textOf_eq hpath]
    · rintro ⟨_, rfl, ⟨⟨name, hrequired, hname⟩, hcommitField, hstatus, ⟨path, hpath, hsafe⟩, hash⟩,
        hnew, hunique, hrest⟩
      rw [textOf_eq hname] at hnew hrest
      rw [textOf_eq hpath] at hunique hrest
      rw [hname, hpath, checkUniquePath_fst hsafe, checkGateName_snd hrequired hnew,
        checkUniquePath_snd hsafe hunique]
      exact ⟨[], (checkGateCommit_eq_nil_iff hcommit hcontext).mpr hcommitField, ([], names', paths'),
        hrest, ⟨⟨⟨⟨⟨⟨⟨name, hrequired, rfl, hnew⟩, rfl⟩, hstatus⟩, path, rfl, hsafe⟩, hunique⟩, hash⟩,
          rfl⟩, rfl, rfl⟩
  -- What is no object is a finding.
  | _ =>
    simp only [checkGates, Option.bind_eq_bind, Option.bind_eq_some_iff, Option.some.injEq,
      Prod.mk.injEq, List.cons_ne_nil, false_and, and_false, exists_false, reduceCtorEq]

/-- **The gates are accepted** when each is, and their names and paths are new. -/
theorem checkGates_eq_nil_iff {index : ℕ} {names paths names' paths' : List String}
    {items : List Json} (hnames : names.Nodup) (hpaths : paths.Nodup) :
    checkGates context (some (.str commit)) index names paths items = some ([], names', paths') ↔
      ∃ gates : List (List (String × Json)), items = gates.map Json.obj ∧
        (∀ gate ∈ gates, AcceptedGate commit gate) ∧
        names' = (gates.map (textOf "name")).reverse ++ names ∧ names'.Nodup ∧
        paths' = (gates.map (textOf "evidencePath")).reverse ++ paths ∧ paths'.Nodup := by
  induction items generalizing index names paths with
  | nil =>
    simp only [checkGates, Option.some.injEq, Prod.mk.injEq, true_and]
    constructor
    · rintro ⟨rfl, rfl⟩
      exact ⟨[], rfl, by simp, rfl, hnames, rfl, hpaths⟩
    · rintro ⟨gates, hgates, -, rfl, -, rfl, -⟩
      rw [List.map_eq_nil_iff.mp hgates.symm]
      exact ⟨rfl, rfl⟩
  -- The names and paths seen grow by this gate, which must be new in both.
  | cons item items ih =>
    rw [checkGates_cons hcommit hcontext]
    constructor
    · rintro ⟨gate, rfl, hgate, hname, hpath, hrest⟩
      obtain ⟨gates, rfl, hgates, rfl, hnames', rfl, hpaths'⟩ :=
        (ih (List.nodup_cons.mpr ⟨hname, hnames⟩) (List.nodup_cons.mpr ⟨hpath, hpaths⟩)).mp hrest
      exact ⟨gate :: gates, rfl, List.forall_mem_cons.mpr ⟨hgate, hgates⟩,
        (pushed_cons _ gate gates names).symm, hnames', (pushed_cons _ gate gates paths).symm,
        hpaths'⟩
    · rintro ⟨gates, hitems, hgates, hnames', hnodup, hpaths', hnodup'⟩
      obtain ⟨gate, gates, rfl, rfl, rfl⟩ := List.map_eq_cons_iff.mp hitems.symm
      obtain ⟨hgate, hgates⟩ := List.forall_mem_cons.mp hgates
      rw [pushed_cons] at hnames' hpaths'
      have hname := List.nodup_cons.mp (hnames' ▸ hnodup).of_append_right
      have hpath := List.nodup_cons.mp (hpaths' ▸ hnodup').of_append_right
      exact ⟨gate, rfl, hgate, hname.1, hpath.1,
        (ih (List.nodup_cons.mpr hname) (List.nodup_cons.mpr hpath)).mpr
          ⟨gates, rfl, hgates, hnames', hnodup, hpaths', hnodup'⟩⟩

end Gates

/-! ## Artifacts -/

/-- What an accepted artifact has. -/
structure AcceptedArtifact (artifact : List (String × Json)) : Prop where
  kind : ∃ kind, artifact.lookup "kind" = some (.str kind) ∧ kind ≠ ""
  path : ∃ path, artifact.lookup "path" = some (.str path) ∧ isSafePath path = true
  sha256 : ∃ hash, artifact.lookup "sha256" = some (.str hash) ∧
    sha256Pattern.wholeMatch hash = true

theorem checkArtifactKind_fst {kinds : List String} {field : String} {value : Option Json} :
    (checkArtifactKind kinds field value).1 = [] ↔
      ∃ kind, value = some (.str kind) ∧ kind ≠ "" ∧ kind ∉ kinds := by
  unfold checkArtifactKind
  split
  · next kind =>
    split_ifs with hempty hseen <;> simp_all
  · next hother =>
    simp only [List.cons_ne_nil, false_iff]
    rintro ⟨kind, rfl, -⟩
    exact hother kind rfl

theorem checkArtifactKind_snd {kinds : List String} {field kind : String} (hne : kind ≠ "")
    (hnew : kind ∉ kinds) : (checkArtifactKind kinds field (some (.str kind))).2 = kind :: kinds := by
  simp [checkArtifactKind, hne, hnew]

/-- An artifact under its path. -/
def byPathOf (artifact : List (String × Json)) : String × List (String × Json) :=
  (textOf "path" artifact, artifact)

/-- One round of the loop over the artifacts. -/
theorem checkArtifacts_cons {index : ℕ} {seen seen' : ArtifactsSeen} {item : Json}
    {items : List Json} :
    checkArtifacts index seen (item :: items) = ([], seen') ↔
      ∃ artifact, item = .obj artifact ∧ AcceptedArtifact artifact ∧
        textOf "kind" artifact ∉ seen.kinds ∧ textOf "path" artifact ∉ seen.paths ∧
        checkArtifacts (index + 1) ⟨textOf "kind" artifact :: seen.kinds,
          byPathOf artifact :: seen.byPath, textOf "path" artifact :: seen.paths⟩ items =
            ([], seen') := by
  cases item with
  | obj artifact =>
    simp only [checkArtifacts, Prod.mk.injEq, List.append_eq_nil_iff, checkArtifactKind_fst,
      checkEvidencePath, checkHash, expect_eq_nil, isSafeRelativePath_iff, isTextOf_iff,
      Json.obj.injEq]
    constructor
    · rintro ⟨⟨⟨⟨⟨⟨kind, hkind, hne, hnew⟩, path, hpath, hsafe⟩, hunique⟩, hash⟩, hfindings⟩, hseen⟩
      rw [hpath, checkUniquePath_fst hsafe] at hunique
      rw [hkind, hpath, checkArtifactKind_snd hne hnew, checkUniquePath_snd hsafe hunique]
        at hfindings hseen
      -- An artifact whose path is safe is entered under it.
      have hwith : withPath seen.byPath artifact = byPathOf artifact :: seen.byPath := by
        simp [withPath, hpath, hsafe, byPathOf, textOf_eq hpath]
      rw [hwith] at hfindings hseen
      refine ⟨artifact, rfl, ⟨⟨kind, hkind, hne⟩, ⟨path, hpath, hsafe⟩, hash⟩, ?_, ?_, ?_⟩
      · rwa [textOf_eq hkind]
      · rwa [textOf_eq hpath]
      · rw [textOf_eq hkind, textOf_eq hpath]
        exact Prod.ext hfindings hseen
    · rintro ⟨_, rfl, ⟨⟨kind, hkind, hne⟩, ⟨path, hpath, hsafe⟩, hash⟩, hnew, hunique, hrest⟩
      rw [textOf_eq hkind] at hnew hrest
      rw [textOf_eq hpath] at hunique hrest
      have hwith : withPath seen.byPath artifact = byPathOf artifact :: seen.byPath := by
        simp [withPath, hpath, hsafe, byPathOf, textOf_eq hpath]
      rw [hkind, hpath, checkUniquePath_fst hsafe, checkArtifactKind_snd hne hnew,
        checkUniquePath_snd hsafe hunique, hwith, hrest]
      exact ⟨⟨⟨⟨⟨⟨kind, rfl, hne, hnew⟩, path, rfl, hsafe⟩, hunique⟩, hash⟩, rfl⟩, rfl⟩
  -- What is no object is a finding.
  | _ =>
    simp only [checkArtifacts, Prod.mk.injEq, List.cons_ne_nil, false_and, exists_false,
      reduceCtorEq]

/-- **The artifacts are accepted** when each is, and their kinds and paths are new. -/
theorem checkArtifacts_eq_nil_iff {index : ℕ} {seen seen' : ArtifactsSeen} {items : List Json}
    (hkinds : seen.kinds.Nodup) (hpaths : seen.paths.Nodup) :
    checkArtifacts index seen items = ([], seen') ↔
      ∃ artifacts : List (List (String × Json)), items = artifacts.map Json.obj ∧
        (∀ artifact ∈ artifacts, AcceptedArtifact artifact) ∧
        seen'.kinds = (artifacts.map (textOf "kind")).reverse ++ seen.kinds ∧ seen'.kinds.Nodup ∧
        seen'.paths = (artifacts.map (textOf "path")).reverse ++ seen.paths ∧ seen'.paths.Nodup ∧
        seen'.byPath = (artifacts.map byPathOf).reverse ++ seen.byPath := by
  induction items generalizing index seen with
  | nil =>
    simp only [checkArtifacts, Prod.mk.injEq, true_and]
    constructor
    · rintro rfl
      exact ⟨[], rfl, by simp, rfl, hkinds, rfl, hpaths, rfl⟩
    · rintro ⟨artifacts, hartifacts, -, hseen, -, hpaths', -, hbyPath⟩
      rw [List.map_eq_nil_iff.mp hartifacts.symm] at hseen hpaths' hbyPath
      obtain ⟨kinds', byPath', paths'⟩ := seen'
      cases hseen
      cases hpaths'
      cases hbyPath
      rfl
  -- What has been seen grows by this item, which must not have been seen.
  | cons item items ih =>
    rw [checkArtifacts_cons]
    constructor
    · rintro ⟨artifact, rfl, hartifact, hkind, hpath, hrest⟩
      obtain ⟨artifacts, rfl, hartifacts, hkinds', hnodup, hpaths', hnodup', hbyPath⟩ :=
        (ih (List.nodup_cons.mpr ⟨hkind, hkinds⟩) (List.nodup_cons.mpr ⟨hpath, hpaths⟩)).mp hrest
      refine ⟨artifact :: artifacts, rfl, List.forall_mem_cons.mpr ⟨hartifact, hartifacts⟩, ?_,
        hnodup, ?_, hnodup', ?_⟩
      all_goals rw [pushed_cons]
      · exact hkinds'
      · exact hpaths'
      · exact hbyPath
    · rintro ⟨artifacts, hitems, hartifacts, hkinds', hnodup, hpaths', hnodup', hbyPath⟩
      obtain ⟨artifact, artifacts, rfl, rfl, rfl⟩ := List.map_eq_cons_iff.mp hitems.symm
      obtain ⟨hartifact, hartifacts⟩ := List.forall_mem_cons.mp hartifacts
      rw [pushed_cons] at hkinds' hpaths' hbyPath
      have hkind := List.nodup_cons.mp (hkinds' ▸ hnodup).of_append_right
      have hpath := List.nodup_cons.mp (hpaths' ▸ hnodup').of_append_right
      exact ⟨artifact, rfl, hartifact, hkind.1, hpath.1,
        (ih (List.nodup_cons.mpr hkind) (List.nodup_cons.mpr hpath)).mpr
          ⟨artifacts, rfl, hartifacts, hkinds', hnodup, hpaths', hnodup', hbyPath⟩⟩

/-! ## Descriptors -/

/-- A field of a descriptor is the path of an artifact of a kind. -/
def Names (artifacts : List (List (String × Json))) (descriptor : List (String × Json))
    (field kind : String) : Prop :=
  ∃ path, descriptor.lookup field = some (.str path) ∧ isSafePath path = true ∧
    ∃ artifact ∈ artifacts, artifact.lookup "path" = some (.str path) ∧
      artifact.lookup "kind" = some (.str kind)

/-- What an accepted descriptor has. -/
structure AcceptedDescriptor (artifacts : List (List (String × Json))) (kinds : ExpectedKinds)
    (trusted : Option String) (descriptor : List (String × Json)) : Prop where
  algorithm : descriptor.lookup "algorithm" = some (.str "ed25519")
  publicKeySha256 : ∃ hash, descriptor.lookup "publicKeySha256" = some (.str hash) ∧
    sha256Pattern.wholeMatch hash = true ∧ ∀ expected ∈ trusted, hash = expected
  signedArtifact : Names artifacts descriptor "signedArtifactPath" kinds.signedArtifactKind
  publicKey : Names artifacts descriptor "publicKeyPath" kinds.publicKeyKind
  signature : Names artifacts descriptor "signaturePath" kinds.signatureKind

/-- What the review of an accepted manifest says of the release. -/
structure AcceptedReview (context : Context) (review : List (String × Json)) : Prop where
  reviewedCommit : ∃ commit, review.lookup "reviewedCommit" = some (.str commit) ∧
    commitPattern.wholeMatch commit = true ∧ differs context.expectedCommit commit = false
  reviewedPackageVersion : ∃ version,
    review.lookup "reviewedPackageVersion" = some (.str version) ∧
      versionPattern.wholeMatch version = true ∧
      differs context.expectedPackageVersion version = false

theorem checkReviewedRelease_eq_nil_iff {context : Context} {fieldName : String}
    {review : List (String × Json)} :
    checkReviewedRelease context fieldName review = [] ↔ AcceptedReview context review := by
  rw [checkReviewedRelease, List.append_eq_nil_iff, checkExpected_eq_nil_iff,
    checkExpected_eq_nil_iff]
  exact ⟨fun h => ⟨h.1, h.2⟩, fun h => ⟨h.1, h.2⟩⟩

section Descriptors

variable {artifacts : List (List (String × Json))} (haccepted : ∀ artifact ∈ artifacts,
    AcceptedArtifact artifact) (hpaths : (artifacts.map (textOf "path")).Nodup)

include haccepted hpaths

/-- The artifacts by their paths are found by them. -/
theorem references_iff {path kind : String} :
    references (artifacts.map byPathOf).reverse (some (.str path)) kind = true ↔
      ∃ artifact ∈ artifacts, artifact.lookup "path" = some (.str path) ∧
        artifact.lookup "kind" = some (.str kind) := by
  have hkeys : (((artifacts.map byPathOf).reverse).map Prod.fst).Nodup := by
    rw [List.map_reverse, List.nodup_reverse, List.map_map]
    exact hpaths
  have hlookup : ∀ artifact, ((artifacts.map byPathOf).reverse).lookup path = some artifact ↔
      artifact ∈ artifacts ∧ artifact.lookup "path" = some (.str path) := by
    intro artifact
    constructor
    · intro h
      obtain ⟨other, hother, heq⟩ := List.mem_map.mp (List.mem_reverse.mp (Json.mem_of_lookup h))
      obtain ⟨hpath, rfl⟩ := Prod.mk.inj heq
      obtain ⟨path', hpath', -⟩ := (haccepted other hother).path
      rw [textOf_eq hpath'] at hpath
      exact ⟨hother, hpath ▸ hpath'⟩
    · intro ⟨hmem, hpath⟩
      refine Json.lookup_of_mem hkeys (List.mem_reverse.mpr (List.mem_map.mpr ⟨artifact, hmem, ?_⟩))
      rw [byPathOf, textOf_eq hpath]
  rw [references, decide_eq_true_eq, bind_asString?_eq_some, Option.bind_eq_some_iff]
  simp only [hlookup, and_assoc]

/-- A safe path that is found with the kind. -/
theorem names_iff {descriptor : List (String × Json)} {field kind : String} :
    Names artifacts descriptor field kind ↔
      isSafeRelativePath (descriptor.lookup field) = true ∧
        references (artifacts.map byPathOf).reverse (descriptor.lookup field) kind = true := by
  rw [isSafeRelativePath_iff]
  constructor
  · intro ⟨path, hpath, hsafe, hartifact⟩
    refine ⟨⟨path, hpath, hsafe⟩, ?_⟩
    rw [hpath]
    exact (references_iff haccepted hpaths).mpr hartifact
  · intro ⟨⟨path, hpath, hsafe⟩, hreferences⟩
    rw [hpath] at hreferences
    exact ⟨path, hpath, hsafe, (references_iff haccepted hpaths).mp hreferences⟩

theorem validateSignatureDescriptor_eq_nil_iff {fieldName : String} {value : Option Json}
    {kinds : ExpectedKinds} {trusted : Option String} {binding : Option Context} :
    validateSignatureDescriptor fieldName value (artifacts.map byPathOf).reverse kinds trusted
        binding = [] ↔
      ∃ descriptor, value = some (.obj descriptor) ∧
        AcceptedDescriptor artifacts kinds trusted descriptor ∧
        ∀ context ∈ binding, AcceptedReview context descriptor := by
  unfold validateSignatureDescriptor
  split
  · next descriptor =>
    simp only [List.append_eq_nil_iff, expect_eq_nil, List.flatten_eq_nil_iff, List.map_cons,
      List.map_nil, List.forall_mem_cons, checkEvidencePath, checkHash, isTextOf_iff,
      decide_eq_true_eq, bind_asString?_eq_some, Option.some.injEq, Json.obj.injEq,
      List.not_mem_nil, false_imp_iff, implies_true, and_true]
    -- Only the review is bound to a release.
    have hbinding : checkBinding binding fieldName descriptor = [] ↔
        ∀ context ∈ binding, AcceptedReview context descriptor := by
      cases binding <;> simp [checkBinding, checkReviewedRelease_eq_nil_iff]
    rw [hbinding]
    constructor
    · rintro ⟨⟨⟨⟨⟨⟨⟨halgorithm, hkeySafe, hsignedSafe, hsignatureSafe⟩, hash, hhash, hsha⟩,
        htrusted⟩, hreview⟩, hsigned⟩, hkey⟩, hsignature⟩
      refine ⟨descriptor, rfl, ⟨halgorithm, ⟨hash, hhash, hsha, ?_⟩,
        (names_iff haccepted hpaths).mpr ⟨hsignedSafe, hsigned⟩,
        (names_iff haccepted hpaths).mpr ⟨hkeySafe, hkey⟩,
        (names_iff haccepted hpaths).mpr ⟨hsignatureSafe, hsignature⟩⟩, hreview⟩
      intro expected hexpected
      have heq := (Option.all_eq_true _ _).mp htrusted expected hexpected
      rw [hhash] at heq
      exact Option.some.inj (of_decide_eq_true heq)
    · rintro ⟨_, rfl, ⟨halgorithm, ⟨hash, hhash, hsha, htrusted⟩, hsigned, hkey, hsignature⟩, hreview⟩
      obtain ⟨hsignedSafe, hsigned⟩ := (names_iff haccepted hpaths).mp hsigned
      obtain ⟨hkeySafe, hkey⟩ := (names_iff haccepted hpaths).mp hkey
      obtain ⟨hsignatureSafe, hsignature⟩ := (names_iff haccepted hpaths).mp hsignature
      refine ⟨⟨⟨⟨⟨⟨⟨halgorithm, hkeySafe, hsignedSafe, hsignatureSafe⟩, hash, hhash, hsha⟩, ?_⟩,
        hreview⟩, hsigned⟩, hkey⟩, hsignature⟩
      refine (Option.all_eq_true _ _).mpr fun expected hexpected => decide_eq_true ?_
      rw [hhash, ← htrusted expected hexpected]
      rfl
  · next hother =>
    simp only [List.cons_ne_nil, false_iff]
    rintro ⟨descriptor, rfl, -⟩
    exact hother descriptor rfl

end Descriptors

/-! ## Manifests -/

/-- All an accepted manifest has. -/
structure AcceptedEvidence (context : Context) (fields : List (String × Json))
    (commit version : String) (gates artifacts : List (List (String × Json)))
    (signature review : List (String × Json)) : Prop where
  noSecretKeys : NoSecretKeys (.obj fields)
  schemaVersion : ∃ value, fields.lookup "schemaVersion" = some value ∧
    value.asNumber? = some 1
  commit_eq : fields.lookup "commit" = some (.str commit)
  commit_matches : commitPattern.wholeMatch commit = true
  commit_expected : differs context.expectedCommit commit = false
  createdAt : ∃ text, fields.lookup "createdAt" = some (.str text) ∧ isIsoTimestamp text = true
  version_eq : fields.lookup "packageVersion" = some (.str version)
  version_matches : versionPattern.wholeMatch version = true
  version_expected : differs context.expectedPackageVersion version = false
  toolchains : ∃ toolchains, fields.lookup "toolchains" = some (.obj toolchains) ∧
    ∀ required ∈ requiredReleaseToolchains,
      toolchains.lookup required.1 = some (.str required.2)
  gates_eq : fields.lookup "gates" = some (.arr (gates.map Json.obj))
  gates_accepted : ∀ gate ∈ gates, AcceptedGate commit gate
  gates_names : (gates.map (textOf "name")).Perm requiredReleaseGates
  artifacts_eq : fields.lookup "artifacts" = some (.arr (artifacts.map Json.obj))
  artifacts_accepted : ∀ artifact ∈ artifacts, AcceptedArtifact artifact
  artifacts_kinds : (artifacts.map (textOf "kind")).Nodup
  artifacts_required : ∀ kind ∈ requiredArtifacts, kind ∈ artifacts.map (textOf "kind")
  paths : (gates.map (textOf "evidencePath") ++ artifacts.map (textOf "path")).Nodup
  signature_eq : fields.lookup "signature" = some (.obj signature)
  signature_accepted : AcceptedDescriptor artifacts signatureKinds
    context.expectedReleasePublicKeySha256 signature
  review_eq : fields.lookup "independentReview" = some (.obj review)
  review_accepted : AcceptedDescriptor artifacts reviewKinds
    context.expectedReviewerPublicKeySha256 review
  review_release : AcceptedReview context review
  distinct_keys : signature.lookup "publicKeySha256" ≠ review.lookup "publicKeySha256"

theorem checkToolchain_eq_nil_iff {toolchains : List (String × Json)} {name version : String}
    (hversion : version ≠ "") :
    checkToolchain toolchains name version = [] ↔
      toolchains.lookup name = some (.str version) := by
  unfold checkToolchain
  split
  · next value hvalue =>
    rw [hvalue]
    by_cases hempty : value = ""
    · subst hempty
      simp [hversion.symm]
    · simp [hempty]
  · next hother =>
    simp only [List.cons_ne_nil, false_iff]
    exact hother version

theorem checkToolchains_eq_nil_iff {value : Option Json} :
    checkToolchains value = [] ↔ ∃ toolchains, value = some (.obj toolchains) ∧
      ∀ required ∈ requiredReleaseToolchains,
        toolchains.lookup required.1 = some (.str required.2) := by
  unfold checkToolchains
  split
  · next toolchains =>
    have hversion : ∀ required ∈ requiredReleaseToolchains, required.2 ≠ "" := by decide
    simp only [List.flatten_eq_nil_iff, List.mem_map, forall_exists_index, and_imp,
      forall_apply_eq_imp_iff₂, Option.some.injEq, Json.obj.injEq, exists_eq_left']
    exact forall₂_congr fun required hrequired =>
      checkToolchain_eq_nil_iff (hversion required hrequired)
  · next hother =>
    simp only [List.cons_ne_nil, false_iff]
    rintro ⟨toolchains, rfl, -⟩
    exact hother toolchains rfl

theorem checkGatesField_eq_nil_iff {context : Context} {commit : String}
    (hcommit : commitPattern.wholeMatch commit = true)
    (hcontext : differs context.expectedCommit commit = false) {value : Option Json}
    {names paths : List String} :
    checkGatesField context (some (.str commit)) value = some ([], names, paths) ↔
      ∃ gates : List (List (String × Json)), value = some (.arr (gates.map Json.obj)) ∧
        (∀ gate ∈ gates, AcceptedGate commit gate) ∧
        names = (gates.map (textOf "name")).reverse ∧ names.Nodup ∧
        paths = (gates.map (textOf "evidencePath")).reverse ∧ paths.Nodup := by
  unfold checkGatesField
  split
  · next items =>
    rw [checkGates_eq_nil_iff hcommit hcontext List.nodup_nil List.nodup_nil]
    simp only [List.append_nil, Option.some.injEq, Json.arr.injEq]
  · next hother =>
    simp only [Option.some.injEq, Prod.mk.injEq, List.cons_ne_nil, false_and, false_iff]
    rintro ⟨gates, rfl, -⟩
    exact hother _ rfl

theorem checkArtifactsField_eq_nil_iff {paths : List String} (hpaths : paths.Nodup)
    {value : Option Json} {seen : ArtifactsSeen} :
    checkArtifactsField paths value = ([], seen) ↔
      ∃ artifacts : List (List (String × Json)), artifacts ≠ [] ∧
        value = some (.arr (artifacts.map Json.obj)) ∧
        (∀ artifact ∈ artifacts, AcceptedArtifact artifact) ∧
        seen.kinds = (artifacts.map (textOf "kind")).reverse ∧ seen.kinds.Nodup ∧
        seen.paths = (artifacts.map (textOf "path")).reverse ++ paths ∧ seen.paths.Nodup ∧
        seen.byPath = (artifacts.map byPathOf).reverse := by
  unfold checkArtifactsField
  split
  · next items =>
    cases items with
    | nil => simp
    | cons item items =>
      rw [List.isEmpty_cons, if_neg Bool.false_ne_true,
        checkArtifacts_eq_nil_iff List.nodup_nil hpaths]
      simp only [List.append_nil, Option.some.injEq, Json.arr.injEq]
      refine exists_congr fun artifacts => ⟨fun h => ⟨?_, h⟩, fun h => h.2⟩
      rintro rfl
      cases h.1
  · next hother =>
    simp only [Prod.mk.injEq, List.cons_ne_nil, false_and, false_iff]
    rintro ⟨artifacts, -, rfl, -⟩
    exact hother _ rfl

theorem fingerprint?_eq {descriptor : List (String × Json)} {hash : String}
    (h : descriptor.lookup "publicKeySha256" = some (.str hash)) :
    fingerprint? (some (.obj descriptor)) = some hash := by
  simp [fingerprint?, Json.asObject?, h, Json.asString?]

/-- **All an accepted manifest has.** -/
theorem validateReleaseEvidence_eq_nil_iff {context : Context} {fields : List (String × Json)} :
    validateReleaseEvidence (.obj fields) context = some [] ↔
      ∃ commit version gates artifacts signature review,
        AcceptedEvidence context fields commit version gates artifacts signature review := by
  simp only [validateReleaseEvidence, Option.bind_eq_bind, Option.bind_eq_some_iff,
    Option.some.injEq, List.append_eq_nil_iff, checkSecretKeys_eq_nil_iff, expect_eq_nil,
    checkCommit, checkPackageVersion, checkExpected_eq_nil_iff, checkToolchains_eq_nil_iff,
    List.flatten_eq_nil_iff, List.mem_map, forall_exists_index, and_imp,
    forall_apply_eq_imp_iff₂, List.contains_iff_mem]
  constructor
  · rintro ⟨⟨_, names, paths⟩, hgates, ⟨⟨⟨⟨⟨⟨⟨⟨⟨⟨⟨⟨hsecrets, hschema⟩, commit, hcommit, hcommitMatches,
      hcommitExpected⟩, hcreatedAt⟩, version, hversion, hversionMatches, hversionExpected⟩,
      htoolchains⟩, rfl⟩, hrequired⟩, hartifactFindings⟩, hkinds⟩, hsignature⟩, hreview⟩, hkeys⟩⟩
    rw [hcommit] at hgates
    obtain ⟨gates, hgatesField, hgatesAccepted, rfl, hnames, rfl, hgatePaths⟩ :=
      (checkGatesField_eq_nil_iff hcommitMatches hcommitExpected).mp hgates
    generalize hseen : checkArtifactsField (gates.map (textOf "evidencePath")).reverse
      (fields.lookup "artifacts") = result at *
    obtain ⟨_, seen⟩ := result
    cases hartifactFindings
    obtain ⟨artifacts, -, hartifactsField, hartifacts, hseenKinds, hkindsNodup, hseenPaths,
      hpathsNodup, hbyPath⟩ := (checkArtifactsField_eq_nil_iff hgatePaths).mp hseen
    -- the names of the gates are the required ones, since each is and none is missing
    have hperm : (gates.map (textOf "name")).Perm requiredReleaseGates := by
      refine (List.perm_ext_iff_of_nodup (List.nodup_reverse.mp hnames) (by decide)).mpr ?_
      intro name
      constructor
      · intro hmem
        obtain ⟨gate, hgate, rfl⟩ := List.mem_map.mp hmem
        obtain ⟨name, hname, heq⟩ := (hgatesAccepted gate hgate).name
        rwa [textOf_eq heq]
      · exact fun hmem => List.mem_reverse.mp (hrequired name hmem)
    have hartifactPaths : (artifacts.map (textOf "path")).Nodup := by
      rw [hseenPaths] at hpathsNodup
      exact List.nodup_reverse.mp hpathsNodup.of_append_left
    rw [hbyPath] at hsignature hreview
    obtain ⟨signature, hsignatureField, hsignature, -⟩ :=
      (validateSignatureDescriptor_eq_nil_iff hartifacts hartifactPaths).mp hsignature
    obtain ⟨review, hreviewField, hreview, hrelease⟩ :=
      (validateSignatureDescriptor_eq_nil_iff hartifacts hartifactPaths).mp hreview
    refine ⟨commit, version, gates, artifacts, signature, review, hsecrets,
      of_decide_eq_true hschema, hcommit, hcommitMatches, hcommitExpected, ?_, hversion,
      hversionMatches, hversionExpected, htoolchains, hgatesField, hgatesAccepted, hperm,
      hartifactsField, hartifacts, ?_, ?_, ?_, hsignatureField, hsignature, hreviewField, hreview,
      hrelease context rfl, ?_⟩
    · obtain ⟨text, htext, htimestamp⟩ := (Option.any_eq_true _ _).mp hcreatedAt
      exact ⟨text, bind_asString?_eq_some.mp htext, htimestamp⟩
    · rw [hseenKinds] at hkindsNodup
      exact List.nodup_reverse.mp hkindsNodup
    · intro kind hkind
      have hmem := hkinds kind hkind
      rwa [hseenKinds, List.mem_reverse] at hmem
    · rw [hseenPaths, ← List.reverse_append] at hpathsNodup
      exact List.nodup_reverse.mp hpathsNodup
    · obtain ⟨hash, hhash, -⟩ := hsignature.publicKeySha256
      obtain ⟨other, hother, -⟩ := hreview.publicKeySha256
      rw [hsignatureField, hreviewField, fingerprint?_eq hhash, fingerprint?_eq hother] at hkeys
      rw [hhash, hother]
      rintro heq
      cases heq
      simp at hkeys
  · rintro ⟨commit, version, gates, artifacts, signature, review, h⟩
    have hpaths := h.paths
    have hgates := (checkGatesField_eq_nil_iff h.commit_matches h.commit_expected).mpr
      ⟨gates, h.gates_eq, h.gates_accepted, rfl,
        List.nodup_reverse.mpr (h.gates_names.nodup_iff.mpr (by decide)), rfl,
        List.nodup_reverse.mpr hpaths.of_append_left⟩
    rw [← List.nodup_reverse, List.reverse_append] at hpaths
    have hnonempty : artifacts ≠ [] := by
      rintro rfl
      exact absurd (h.artifacts_required "sbom" (by decide)) List.not_mem_nil
    have hartifacts := (@checkArtifactsField_eq_nil_iff
      (gates.map (textOf "evidencePath")).reverse (List.nodup_reverse.mpr h.paths.of_append_left)
      (fields.lookup "artifacts") ⟨(artifacts.map (textOf "kind")).reverse,
        (artifacts.map byPathOf).reverse, _⟩).mpr
      ⟨artifacts, hnonempty, h.artifacts_eq, h.artifacts_accepted, rfl,
        List.nodup_reverse.mpr h.artifacts_kinds, rfl, hpaths, rfl⟩
    have hartifactPaths := h.paths.of_append_right
    obtain ⟨createdAt, hcreatedAt, htimestamp⟩ := h.createdAt
    obtain ⟨hash, hhash, -⟩ := h.signature_accepted.publicKeySha256
    obtain ⟨other, hother, -⟩ := h.review_accepted.publicKeySha256
    have hkeys : hash ≠ other := by
      rintro rfl
      exact h.distinct_keys (hhash.trans hother.symm)
    rw [h.commit_eq]
    refine ⟨_, hgates, ?_⟩
    simp only [hartifacts]
    refine ⟨⟨⟨⟨⟨⟨⟨⟨⟨⟨⟨⟨h.noSecretKeys, decide_eq_true h.schemaVersion⟩, commit, rfl,
      h.commit_matches, h.commit_expected⟩, ?_⟩, version, h.version_eq, h.version_matches,
      h.version_expected⟩, h.toolchains⟩, trivial⟩, ?_⟩, trivial⟩, ?_⟩, ?_⟩, ?_⟩, ?_⟩
    · rw [hcreatedAt]
      exact htimestamp
    · intro name hname
      exact List.mem_reverse.mpr (h.gates_names.mem_iff.mpr hname)
    · intro kind hkind
      exact List.mem_reverse.mpr (h.artifacts_required kind hkind)
    · exact (validateSignatureDescriptor_eq_nil_iff h.artifacts_accepted hartifactPaths).mpr
        ⟨signature, h.signature_eq, h.signature_accepted, by simp⟩
    · refine (validateSignatureDescriptor_eq_nil_iff h.artifacts_accepted hartifactPaths).mpr
        ⟨review, h.review_eq, h.review_accepted, ?_⟩
      intro context' hcontext'
      cases hcontext'
      exact h.review_release
    · rw [h.signature_eq, h.review_eq, fingerprint?_eq hhash, fingerprint?_eq hother]
      simp [hkeys]

end SecureKeypad.Release
