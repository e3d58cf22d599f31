import SecureKeypad.Release.Acceptance

/-!
# What Accepted Release Evidence Is Worth

A sound manifest binds every gate to its commit, every path to one use, every descriptor to its
artifacts and two different keys, and the review to the release. Accepted manifests are all of
this but for the last: the reviewed commit and version are compared with those of the context,
where it gives them, and not with the manifest's own.

## Main results

- `AcceptedEvidence.sound`: what accepted manifests are in every context
- `accepted_sound_iff`: the contexts in which they are bound to the release that was reviewed
-/

namespace SecureKeypad.Release

/-! ## Soundness -/

/-- The claims of a manifest, apart from the release the review is of. -/
structure SoundEvidence (fields : List (String × Json)) (commit version : String)
    (gates artifacts : List (List (String × Json)))
    (signature review : List (String × Json)) : Prop where
  commit_eq : fields.lookup "commit" = some (.str commit)
  version_eq : fields.lookup "packageVersion" = some (.str version)
  gates_eq : fields.lookup "gates" = some (.arr (gates.map Json.obj))
  artifacts_eq : fields.lookup "artifacts" = some (.arr (artifacts.map Json.obj))
  signature_eq : fields.lookup "signature" = some (.obj signature)
  review_eq : fields.lookup "independentReview" = some (.obj review)
  /-- The required gates, once each. -/
  gates_names : (gates.map (·.lookup "name")).Perm
    (requiredReleaseGates.map fun name => some (.str name))
  gates_pass : ∀ gate ∈ gates, gate.lookup "status" = some (.str "pass") ∧
    gate.lookup "commit" = some (.str commit)
  /-- All paths are canonical, and different. -/
  paths : ∃ paths : List String,
    gates.map (·.lookup "evidencePath") ++ artifacts.map (·.lookup "path") =
      paths.map (fun path => some (.str path)) ∧
    paths.Nodup ∧ ∀ path ∈ paths, isSafePath path = true
  kinds : ∃ kinds : List String,
    artifacts.map (·.lookup "kind") = kinds.map (fun kind => some (.str kind)) ∧
    kinds.Nodup ∧ ∀ kind ∈ requiredArtifacts, kind ∈ kinds
  signature_names : Names artifacts signature "signedArtifactPath" "release-bundle" ∧
    Names artifacts signature "publicKeyPath" "release-public-key" ∧
    Names artifacts signature "signaturePath" "release-signature"
  review_names : Names artifacts review "signedArtifactPath" "independent-review-report" ∧
    Names artifacts review "publicKeyPath" "independent-review-public-key" ∧
    Names artifacts review "signaturePath" "independent-review-signature"
  distinct_keys : signature.lookup "publicKeySha256" ≠ review.lookup "publicKeySha256"
  noSecretKeys : NoSecretKeys (.obj fields)

/-- The review is of the release the manifest is of. -/
def ReviewsRelease (review : List (String × Json)) (commit version : String) : Prop :=
  review.lookup "reviewedCommit" = some (.str commit) ∧
    review.lookup "reviewedPackageVersion" = some (.str version)

/-- A manifest with all its claims but for the last. -/
def SoundApartFromReview (evidence : Json) : Prop :=
  ∃ fields commit version gates artifacts signature review, evidence = .obj fields ∧
    SoundEvidence fields commit version gates artifacts signature review

/-- A manifest with all its claims. -/
def Sound (evidence : Json) : Prop :=
  ∃ fields commit version gates artifacts signature review, evidence = .obj fields ∧
    SoundEvidence fields commit version gates artifacts signature review ∧
    ReviewsRelease review commit version

/-- Texts under a name are those of the lookups. -/
theorem map_lookup_eq {items : List (List (String × Json))} {name : String}
    (h : ∀ item ∈ items, ∃ text, item.lookup name = some (.str text)) :
    items.map (·.lookup name) = (items.map (textOf name)).map fun text => some (.str text) := by
  rw [List.map_map]
  refine List.map_congr_left fun item hitem => ?_
  obtain ⟨text, htext⟩ := h item hitem
  rw [Function.comp_apply, textOf_eq htext, htext]

section Accepted

variable {context : Context} {fields : List (String × Json)} {commit version : String}
  {gates artifacts : List (List (String × Json))} {signature review : List (String × Json)}
  (h : AcceptedEvidence context fields commit version gates artifacts signature review)

include h

/-- **Accepted manifests**, in every context. -/
theorem AcceptedEvidence.sound :
    SoundEvidence fields commit version gates artifacts signature review where
  commit_eq := h.commit_eq
  version_eq := h.version_eq
  gates_eq := h.gates_eq
  artifacts_eq := h.artifacts_eq
  signature_eq := h.signature_eq
  review_eq := h.review_eq
  gates_names := by
    rw [map_lookup_eq fun gate hgate => by
      obtain ⟨name, -, hname⟩ := (h.gates_accepted gate hgate).name
      exact ⟨name, hname⟩]
    exact h.gates_names.map _
  gates_pass gate hgate :=
    ⟨(h.gates_accepted gate hgate).status, (h.gates_accepted gate hgate).commit⟩
  -- All paths that the validator has seen: those of the gates and of the artifacts.
  paths := by
    refine ⟨_, ?_, h.paths, ?_⟩
    · rw [List.map_append, map_lookup_eq, map_lookup_eq]
      · intro artifact hartifact
        obtain ⟨path, hpath, -⟩ := (h.artifacts_accepted artifact hartifact).path
        exact ⟨path, hpath⟩
      · intro gate hgate
        obtain ⟨path, hpath, -⟩ := (h.gates_accepted gate hgate).evidencePath
        exact ⟨path, hpath⟩
    · intro path hpath
      rcases List.mem_append.mp hpath with hmem | hmem
      · obtain ⟨gate, hgate, rfl⟩ := List.mem_map.mp hmem
        obtain ⟨path, hpath, hsafe⟩ := (h.gates_accepted gate hgate).evidencePath
        rwa [textOf_eq hpath]
      · obtain ⟨artifact, hartifact, rfl⟩ := List.mem_map.mp hmem
        obtain ⟨path, hpath, hsafe⟩ := (h.artifacts_accepted artifact hartifact).path
        rwa [textOf_eq hpath]
  kinds := by
    refine ⟨_, map_lookup_eq fun artifact hartifact => ?_, h.artifacts_kinds, h.artifacts_required⟩
    obtain ⟨kind, hkind, -⟩ := (h.artifacts_accepted artifact hartifact).kind
    exact ⟨kind, hkind⟩
  signature_names := ⟨h.signature_accepted.signedArtifact, h.signature_accepted.publicKey,
    h.signature_accepted.signature⟩
  review_names := ⟨h.review_accepted.signedArtifact, h.review_accepted.publicKey,
    h.review_accepted.signature⟩
  distinct_keys := h.distinct_keys
  noSecretKeys := h.noSecretKeys

end Accepted

/-! ## Contexts -/

/-- The context gives the value; an empty text counts as none. -/
def Given (expected : Option String) : Prop := ∃ value ∈ expected, value ≠ ""

/-- Nothing the context expects rules all manifests out. -/
structure Context.Admits (context : Context) : Prop where
  commit : ∀ value ∈ context.expectedCommit, value ≠ "" → commitPattern.wholeMatch value = true
  version : ∀ value ∈ context.expectedPackageVersion, value ≠ "" →
    versionPattern.wholeMatch value = true
  releaseKey : ∀ key ∈ context.expectedReleasePublicKeySha256,
    sha256Pattern.wholeMatch key = true
  reviewerKey : ∀ key ∈ context.expectedReviewerPublicKeySha256,
    sha256Pattern.wholeMatch key = true
  distinct : ∀ key ∈ context.expectedReleasePublicKeySha256,
    key ∉ context.expectedReviewerPublicKeySha256

/-- A text that does not differ from what is expected is it. -/
theorem eq_of_not_differs {expected : Option String} {text : String}
    (h : differs expected text = false) : ∀ value ∈ expected, value ≠ "" → text = value := by
  intro value hvalue hne
  cases hvalue
  simpa [differs, hne] using h

theorem AcceptedEvidence.admits {context : Context} {fields : List (String × Json)}
    {commit version : String} {gates artifacts : List (List (String × Json))}
    {signature review : List (String × Json)}
    (h : AcceptedEvidence context fields commit version gates artifacts signature review) :
    context.Admits where
  commit value hvalue hne := by
    rw [← eq_of_not_differs h.commit_expected value hvalue hne]
    exact h.commit_matches
  version value hvalue hne := by
    rw [← eq_of_not_differs h.version_expected value hvalue hne]
    exact h.version_matches
  releaseKey key hkey := by
    obtain ⟨hash, -, hsha, hexpected⟩ := h.signature_accepted.publicKeySha256
    rw [← hexpected key hkey]
    exact hsha
  reviewerKey key hkey := by
    obtain ⟨hash, -, hsha, hexpected⟩ := h.review_accepted.publicKeySha256
    rw [← hexpected key hkey]
    exact hsha
  distinct key hkey hother := by
    obtain ⟨hash, hhash, -, hexpected⟩ := h.signature_accepted.publicKeySha256
    obtain ⟨other, hotherHash, -, hexpected'⟩ := h.review_accepted.publicKeySha256
    apply h.distinct_keys
    rw [hhash, hotherHash, hexpected key hkey, hexpected' key hother]

/-! ## A manifest for every context that admits one -/

/-- Forty or sixty-four times the same digit. -/
def repeated (n : ℕ) (c : Char) : String := String.ofList (List.replicate n c)

theorem repeated_matches {n : ℕ} {c : Char} (h : isHexDigit c = true) :
    (Regex.many isHexDigit n (some n)).wholeMatch (repeated n c) = true := by
  rw [Regex.wholeMatch_iff, repeated, String.toList_ofList, Regex.matches_many,
    List.length_replicate]
  refine ⟨le_refl n, by simp, fun d hd => ?_⟩
  rwa [List.eq_of_mem_replicate hd]

/-- A descriptor that names its artifacts. -/
def descriptorOf (kinds : ExpectedKinds) (key : String) : List (String × Json) :=
  [("algorithm", .str "ed25519"), ("publicKeyPath", .str ("files/" ++ kinds.publicKeyKind)),
    ("signedArtifactPath", .str ("files/" ++ kinds.signedArtifactKind)),
    ("signaturePath", .str ("files/" ++ kinds.signatureKind)), ("publicKeySha256", .str key)]

def gateOf (commit name : String) : List (String × Json) :=
  [("name", .str name), ("commit", .str commit), ("status", .str "pass"),
    ("evidencePath", .str ("gates/" ++ name)), ("sha256", .str (repeated 64 'a'))]

def artifactOf (kind : String) : List (String × Json) :=
  [("kind", .str kind), ("path", .str ("files/" ++ kind)), ("sha256", .str (repeated 64 'a'))]

/-- The review of a release, by a key. -/
def reviewOf (reviewedCommit reviewedVersion key : String) : List (String × Json) :=
  ("reviewedCommit", .str reviewedCommit) :: ("reviewedPackageVersion", .str reviewedVersion) ::
    descriptorOf reviewKinds key

/-- A manifest of a release, with the review of another. -/
def manifestOf (commit version reviewedCommit reviewedVersion releaseKey reviewerKey : String) :
    List (String × Json) :=
  [("schemaVersion", .number (.ofNat 1)), ("commit", .str commit),
    ("createdAt", .str "2026-08-21T00:00:00.000Z"), ("packageVersion", .str version),
    ("toolchains", .obj (requiredReleaseToolchains.map fun entry => (entry.1, .str entry.2))),
    ("gates", .arr ((requiredReleaseGates.map (gateOf commit)).map Json.obj)),
    ("artifacts", .arr ((requiredArtifacts.map artifactOf).map Json.obj)),
    ("signature", .obj (descriptorOf signatureKinds releaseKey)),
    ("independentReview", .obj (reviewOf reviewedCommit reviewedVersion reviewerKey))]

/-- The keys of such a manifest are no names of secrets. -/
theorem manifest_keys : ∀ key ∈ ["schemaVersion", "commit", "createdAt", "packageVersion",
    "toolchains", "gates", "artifacts", "signature", "independentReview", "rust", "node", "pnpm",
    "flutter", "reactNative", "ndk", "name", "status", "evidencePath", "sha256", "kind", "path",
    "algorithm", "publicKeyPath", "signedArtifactPath", "signaturePath", "publicKeySha256",
    "reviewedCommit", "reviewedPackageVersion"], isSecretKey key = false := by
  decide +kernel

theorem noSecretKeys_of_fields {fields : List (String × Json)}
    (h : ∀ field ∈ fields, isSecretKey field.1 = false ∧ NoSecretKeys field.2) :
    NoSecretKeys (.obj fields) :=
  noSecretKeys_obj.mpr fun _ _ hnested => h _ (Json.mem_of_lookup hnested)

theorem noSecretKeys_str (text : String) : NoSecretKeys (.str text) := by
  intro fields hwithin
  cases hwithin

section Sample

variable {context : Context}
  {commit version reviewedCommit reviewedVersion releaseKey reviewerKey : String}

theorem noSecretKeys_manifestOf : NoSecretKeys (.obj (manifestOf commit version reviewedCommit
    reviewedVersion releaseKey reviewerKey)) := by
  have hkeys := manifest_keys
  simp only [List.forall_mem_cons] at hkeys
  have hnumber : NoSecretKeys (.number (.ofNat 1)) := fun fields hwithin => by cases hwithin
  apply noSecretKeys_of_fields
  simp only [manifestOf, List.forall_mem_cons, noSecretKeys_str, hnumber, noSecretKeys_arr, hkeys,
    true_and, List.forall_mem_map]
  refine ⟨?_, ?_, ?_, ?_, ?_, by simp⟩
  · apply noSecretKeys_of_fields
    simp [requiredReleaseToolchains, noSecretKeys_str, hkeys]
  · intro name _
    apply noSecretKeys_of_fields
    simp [gateOf, noSecretKeys_str, hkeys]
  · intro kind _
    apply noSecretKeys_of_fields
    simp [artifactOf, noSecretKeys_str, hkeys]
  · apply noSecretKeys_of_fields
    simp [descriptorOf, noSecretKeys_str, hkeys]
  · apply noSecretKeys_of_fields
    simp [reviewOf, descriptorOf, noSecretKeys_str, hkeys]

theorem names_artifactOf {descriptor : List (String × Json)} {field kind : String}
    (hfield : descriptor.lookup field = some (.str ("files/" ++ kind)))
    (hkind : kind ∈ requiredArtifacts) :
    Names (requiredArtifacts.map artifactOf) descriptor field kind := by
  have hsafe : ∀ kind ∈ requiredArtifacts, isSafePath ("files/" ++ kind) = true := by decide +kernel
  exact ⟨_, hfield, hsafe kind hkind, artifactOf kind, List.mem_map_of_mem hkind, rfl, rfl⟩

/-- The review is of the release of the context, as far as the context gives one. -/
structure Suits (context : Context) (commit version : String) : Prop where
  commit_matches : commitPattern.wholeMatch commit = true
  commit_expected : differs context.expectedCommit commit = false
  version_matches : versionPattern.wholeMatch version = true
  version_expected : differs context.expectedPackageVersion version = false

/-- **The manifest is accepted**, whatever release the review is of. -/
theorem manifestOf_accepted (hrelease : Suits context commit version)
    (hreviewed : Suits context reviewedCommit reviewedVersion)
    (hreleaseKey : sha256Pattern.wholeMatch releaseKey = true)
    (hreleaseTrusted : ∀ key ∈ context.expectedReleasePublicKeySha256, releaseKey = key)
    (hreviewerKey : sha256Pattern.wholeMatch reviewerKey = true)
    (hreviewerTrusted : ∀ key ∈ context.expectedReviewerPublicKeySha256, reviewerKey = key)
    (hdistinct : releaseKey ≠ reviewerKey) :
    AcceptedEvidence context
      (manifestOf commit version reviewedCommit reviewedVersion releaseKey reviewerKey) commit
      version (requiredReleaseGates.map (gateOf commit)) (requiredArtifacts.map artifactOf)
      (descriptorOf signatureKinds releaseKey)
      (reviewOf reviewedCommit reviewedVersion reviewerKey) where
  noSecretKeys := noSecretKeys_manifestOf
  schemaVersion := ⟨_, rfl, rfl⟩
  commit_eq := rfl
  commit_matches := hrelease.commit_matches
  commit_expected := hrelease.commit_expected
  createdAt := ⟨_, rfl, by decide +kernel⟩
  version_eq := rfl
  version_matches := hrelease.version_matches
  version_expected := hrelease.version_expected
  toolchains := ⟨_, rfl, by
    intro required hrequired
    fin_cases hrequired <;> rfl⟩
  gates_eq := rfl
  -- The paths of the required gates are literals, so one evaluation covers them.
  gates_accepted := by
    have hsafe : ∀ name ∈ requiredReleaseGates, isSafePath ("gates/" ++ name) = true := by
      decide +kernel
    intro gate hgate
    obtain ⟨name, hname, rfl⟩ := List.mem_map.mp hgate
    exact ⟨⟨name, hname, rfl⟩, rfl, rfl, ⟨_, rfl, hsafe name hname⟩, _, rfl,
      repeated_matches (by decide)⟩
  gates_names := by
    have hnames : (requiredReleaseGates.map (gateOf commit)).map (textOf "name") =
        requiredReleaseGates := rfl
    rw [hnames]
  artifacts_eq := rfl
  -- The same for the paths of the artifacts.
  artifacts_accepted := by
    have hsafe : ∀ kind ∈ requiredArtifacts, kind ≠ "" ∧ isSafePath ("files/" ++ kind) = true := by
      decide +kernel
    intro artifact hartifact
    obtain ⟨kind, hkind, rfl⟩ := List.mem_map.mp hartifact
    exact ⟨⟨kind, rfl, (hsafe kind hkind).1⟩, ⟨_, rfl, (hsafe kind hkind).2⟩, _, rfl,
      repeated_matches (by decide)⟩
  artifacts_kinds := by decide +kernel
  artifacts_required := by decide +kernel
  -- Gates and artifacts stand in directories of their own, so no path is used twice.
  paths := by
    have hpaths : (requiredReleaseGates.map (gateOf commit)).map (textOf "evidencePath") =
        requiredReleaseGates.map ("gates/" ++ ·) := rfl
    rw [hpaths]
    decide +kernel
  signature_eq := rfl
  signature_accepted := ⟨rfl, ⟨_, rfl, hreleaseKey, hreleaseTrusted⟩,
    names_artifactOf rfl (by decide), names_artifactOf rfl (by decide),
    names_artifactOf rfl (by decide)⟩
  review_eq := rfl
  review_accepted := ⟨rfl, ⟨_, rfl, hreviewerKey, hreviewerTrusted⟩,
    names_artifactOf rfl (by decide), names_artifactOf rfl (by decide),
    names_artifactOf rfl (by decide)⟩
  review_release := ⟨⟨_, rfl, hreviewed.commit_matches, hreviewed.commit_expected⟩, _, rfl,
    hreviewed.version_matches, hreviewed.version_expected⟩
  distinct_keys heq := by
    cases heq
    exact hdistinct rfl

end Sample

/-- A text the context does not differ from: the expected one, or else the other. -/
theorem exists_suiting {expected : Option String} {pattern : Regex} {other : String}
    (hadmits : ∀ value ∈ expected, value ≠ "" → pattern.wholeMatch value = true)
    (hother : pattern.wholeMatch other = true) :
    ∃ text, pattern.wholeMatch text = true ∧ differs expected text = false ∧
      (¬ Given expected → text = other) := by
  by_cases hgiven : Given expected
  · obtain ⟨value, hvalue, hne⟩ := hgiven
    cases hvalue
    exact ⟨value, hadmits value rfl hne, by simp [differs], fun h => absurd ⟨value, rfl, hne⟩ h⟩
  · refine ⟨other, hother, ?_, fun _ => rfl⟩
    cases hexpected : expected with
    | none => rfl
    | some value =>
      have hempty : value = "" := by
        by_contra hne
        exact hgiven ⟨value, hexpected, hne⟩
      simp [differs, hempty]

/-- Two different keys, the trusted ones where the context has them. -/
theorem Context.Admits.exists_keys {context : Context} (h : context.Admits) :
    ∃ releaseKey reviewerKey, sha256Pattern.wholeMatch releaseKey = true ∧
      (∀ key ∈ context.expectedReleasePublicKeySha256, releaseKey = key) ∧
      sha256Pattern.wholeMatch reviewerKey = true ∧
      (∀ key ∈ context.expectedReviewerPublicKeySha256, reviewerKey = key) ∧
      releaseKey ≠ reviewerKey := by
  -- Two fingerprints are at hand, so one of them differs from any given key.
  have hkeys : ∀ key, ∃ other, sha256Pattern.wholeMatch other = true ∧ other ≠ key := by
    intro key
    by_cases heq : key = repeated 64 'a'
    · exact ⟨repeated 64 'b', repeated_matches (by decide), by rw [heq]; decide +kernel⟩
    · exact ⟨repeated 64 'a', repeated_matches (by decide), fun h => heq h.symm⟩
  cases hrelease : context.expectedReleasePublicKeySha256 with
  | none =>
    cases hreviewer : context.expectedReviewerPublicKeySha256 with
    | none =>
      obtain ⟨other, hother, hne⟩ := hkeys (repeated 64 'a')
      exact ⟨other, repeated 64 'a', hother, by simp,
        repeated_matches (by decide), by simp, hne⟩
    | some reviewer =>
      obtain ⟨other, hother, hne⟩ := hkeys reviewer
      exact ⟨other, reviewer, hother, by simp, h.reviewerKey reviewer hreviewer, by simp, hne⟩
  | some release =>
    cases hreviewer : context.expectedReviewerPublicKeySha256 with
    | none =>
      obtain ⟨other, hother, hne⟩ := hkeys release
      exact ⟨release, other, h.releaseKey release hrelease, by simp, hother, by simp, hne.symm⟩
    | some reviewer =>
      refine ⟨release, reviewer, h.releaseKey release hrelease, by simp,
        h.reviewerKey reviewer hreviewer, by simp, ?_⟩
      rintro rfl
      exact h.distinct release hrelease hreviewer

/-! ## The release that was reviewed -/

/-- The sound ones of these manifests have the review of their own release. -/
theorem manifestOf_sound {commit version reviewedCommit reviewedVersion releaseKey
    reviewerKey : String} (h : Sound (.obj (manifestOf commit version reviewedCommit
      reviewedVersion releaseKey reviewerKey))) :
    reviewedCommit = commit ∧ reviewedVersion = version := by
  obtain ⟨_, _, _, _, _, _, _, hfields, hsound, hcommit, hversion⟩ := h
  cases hfields
  cases hsound.commit_eq
  cases hsound.version_eq
  cases hsound.review_eq
  cases hcommit
  cases hversion
  exact ⟨rfl, rfl⟩

/-- **What accepted manifests are worth.** In every context they are sound apart from the release
    that was reviewed; and they are sound altogether exactly when the context gives a commit and a
    version, or else admits no manifest. -/
theorem accepted_sound_iff (context : Context) :
    (∀ evidence, validateReleaseEvidence evidence context = some [] →
      SoundApartFromReview evidence) ∧
    ((∀ evidence, validateReleaseEvidence evidence context = some [] → Sound evidence) ↔
      Given context.expectedCommit ∧ Given context.expectedPackageVersion ∨ ¬ context.Admits) := by
  have haccepted : ∀ evidence, validateReleaseEvidence evidence context = some [] →
      ∃ fields commit version gates artifacts signature review, evidence = .obj fields ∧
        AcceptedEvidence context fields commit version gates artifacts signature review := by
    intro evidence h
    cases evidence with
    | obj fields =>
      obtain ⟨commit, version, gates, artifacts, signature, review, h⟩ :=
        validateReleaseEvidence_eq_nil_iff.mp h
      exact ⟨fields, commit, version, gates, artifacts, signature, review, rfl, h⟩
    | _ => cases h
  constructor
  · intro evidence hnone
    obtain ⟨fields, commit, version, gates, artifacts, signature, review, rfl, h⟩ :=
      haccepted evidence hnone
    exact ⟨fields, commit, version, gates, artifacts, signature, review, rfl, h.sound⟩
  constructor
  · intro hsound
    by_contra hnot
    rw [not_or, not_not] at hnot
    obtain ⟨hgiven, hadmits⟩ := hnot
    -- a release, and another one that was reviewed, as different as the context lets them be
    obtain ⟨commit, hcommit, hcommitExpected, hcommitEq⟩ := @exists_suiting _ _ (repeated 40 'a')
      hadmits.commit (repeated_matches (by decide))
    obtain ⟨reviewed, hreviewed, hreviewedExpected, hreviewedEq⟩ := @exists_suiting _ _
      (repeated 40 'b') hadmits.commit (repeated_matches (by decide))
    obtain ⟨version, hversion, hversionExpected, hversionEq⟩ := @exists_suiting _ _ "0.1.0"
      hadmits.version (by decide +kernel)
    obtain ⟨reviewedVersion, hreviewedVersion, hreviewedVersionExpected, hreviewedVersionEq⟩ :=
      @exists_suiting _ _ "0.1.1" hadmits.version (by decide +kernel)
    obtain ⟨releaseKey, reviewerKey, hrelease, htrusted, hreviewer, htrusted', hne⟩ :=
      hadmits.exists_keys
    obtain ⟨hsameCommit, hsameVersion⟩ := manifestOf_sound <| hsound _ <|
      validateReleaseEvidence_eq_nil_iff.mpr ⟨_, _, _, _, _, _, manifestOf_accepted
        ⟨hcommit, hcommitExpected, hversion, hversionExpected⟩
        ⟨hreviewed, hreviewedExpected, hreviewedVersion, hreviewedVersionExpected⟩
        hrelease htrusted hreviewer htrusted' hne⟩
    rcases not_and_or.mp hgiven with hgiven | hgiven
    · rw [hcommitEq hgiven, hreviewedEq hgiven] at hsameCommit
      exact absurd hsameCommit (by decide +kernel)
    · rw [hversionEq hgiven, hreviewedVersionEq hgiven] at hsameVersion
      exact absurd hsameVersion (by decide +kernel)
  · intro hcontext evidence hnone
    obtain ⟨fields, commit, version, gates, artifacts, signature, review, rfl, h⟩ :=
      haccepted evidence hnone
    rcases hcontext with
      ⟨⟨expected, hexpected, hne⟩, expectedVersion, hexpectedVersion, hne'⟩ | hnot
    · obtain ⟨reviewed, hreviewed, -, hreviewedExpected⟩ := h.review_release.reviewedCommit
      obtain ⟨reviewedVersion, hreviewedVersion, -, hreviewedVersionExpected⟩ :=
        h.review_release.reviewedPackageVersion
      refine ⟨fields, commit, version, gates, artifacts, signature, review, rfl, h.sound, ?_, ?_⟩
      · rw [hreviewed, eq_of_not_differs hreviewedExpected expected hexpected hne,
          eq_of_not_differs h.commit_expected expected hexpected hne]
      · rw [hreviewedVersion,
          eq_of_not_differs hreviewedVersionExpected expectedVersion hexpectedVersion hne',
          eq_of_not_differs h.version_expected expectedVersion hexpectedVersion hne']
    · exact absurd h.admits hnot

/-- Without a context, the review of another release is accepted. -/
theorem review_of_other_release_accepted :
    validateReleaseEvidence (.obj (manifestOf (repeated 40 'a') "0.1.0" (repeated 40 'b') "0.1.0"
        (repeated 64 'c') (repeated 64 'd'))) .empty = some [] ∧
      ¬ Sound (.obj (manifestOf (repeated 40 'a') "0.1.0" (repeated 40 'b') "0.1.0"
        (repeated 64 'c') (repeated 64 'd'))) := by
  constructor
  · exact validateReleaseEvidence_eq_nil_iff.mpr ⟨_, _, _, _, _, _, manifestOf_accepted
      ⟨repeated_matches (by decide), rfl, by decide +kernel, rfl⟩
      ⟨repeated_matches (by decide), rfl, by decide +kernel, rfl⟩ (repeated_matches (by decide))
      (by simp [Context.empty]) (repeated_matches (by decide)) (by simp [Context.empty])
      (by decide +kernel)⟩
  · intro h
    exact absurd (manifestOf_sound h).1 (by decide +kernel)

end SecureKeypad.Release
