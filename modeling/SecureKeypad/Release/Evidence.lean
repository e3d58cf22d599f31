import SecureKeypad.Library.JsonParts
import SecureKeypad.Library.Regex

/-!
# Release Evidence (`check-release-evidence.mjs`)

Embeds `validateReleaseEvidence`: it walks a manifest and pushes a finding for everything it does
not accept. A manifest is accepted when there are none. The commit and the version a release is
checked against are those of its context, where the caller gives them.

Paths are those of a POSIX host.
-/

namespace SecureKeypad.Release

/-! ## Patterns -/

/-- `[0-9a-f]` -/
def isHexDigit (c : Char) : Bool := c.isDigit || ('a' ≤ c && c ≤ 'f')

/-- `COMMIT`: `^[0-9a-f]{40}$` -/
def commitPattern : Regex := .many isHexDigit 40 (some 40)

/-- `SHA256`: `^[a-f0-9]{64}$` -/
def sha256Pattern : Regex := .many isHexDigit 64 (some 64)

/-- `[0-9A-Za-z.-]+` -/
def versionTag : Regex := .many (fun c => c.isAlphanum || c = '.' || c = '-') 1 none

/-- `VERSION`: `^\d+\.\d+\.\d+(?:-[0-9A-Za-z.-]+)?(?:\+[0-9A-Za-z.-]+)?$` -/
def versionPattern : Regex :=
  .seq (.many Char.isDigit 1 none) (.seq (.lit ['.'])
    (.seq (.many Char.isDigit 1 none) (.seq (.lit ['.'])
      (.seq (.many Char.isDigit 1 none)
        (.seq (.opt (.seq (.lit ['-']) versionTag)) (.opt (.seq (.lit ['+']) versionTag)))))))

/-- Any of the words, in either case. -/
def anyOf : List String → Regex
  | [] => .one fun _ => false
  | word :: words => .alt (.litCaseless word.toList) (anyOf words)

/-- `SECRET_KEY`, but for its last alternative, which is anchored. -/
def secretPattern : Regex :=
  .alt (anyOf ["password", "passphrase", "secret", "sentinel", "plaintext", "rawinput"])
    (.alt (.seq (anyOf ["credential"]) (anyOf ["value", "bytes"]))
      (.seq (anyOf ["input"]) (anyOf ["value", "text", "bytes"])))

/-- `SECRET_KEY.test(key)` -/
def isSecretKey (key : String) : Bool :=
  secretPattern.search key || (anyOf ["value"]).wholeMatch key

/-! ## Dates -/

/-- The number two digits are. -/
def twoDigits (tens ones : Char) : Option ℕ :=
  if tens.isDigit && ones.isDigit then some (10 * (tens.toNat - 48) + (ones.toNat - 48)) else none

/-- The number of a list of digits. -/
def digits (chars : List Char) : Option ℕ :=
  if chars.all Char.isDigit then
    some (chars.foldl (fun value c => 10 * value + (c.toNat - 48)) 0)
  else none

def isLeapYear (year : ℤ) : Bool := year % 4 = 0 && (year % 100 ≠ 0 || year % 400 = 0)

def daysInMonth (year : ℤ) (month : ℕ) : ℕ :=
  if month = 2 then if isLeapYear year then 29 else 28
  else if month ∈ [4, 6, 9, 11] then 30
  else 31

/-- A year as `toISOString` writes it, and what stands behind it. -/
def isoYear : List Char → Option (ℤ × List Char)
  | '+' :: rest => do
    let year ← digits (rest.take 6)
    if (rest.take 6).length = 6 ∧ 9999 < year then some (year, rest.drop 6) else none
  | '-' :: rest => do
    let year ← digits (rest.take 6)
    if (rest.take 6).length = 6 ∧ 0 < year then some (-year, rest.drop 6) else none
  | chars => do
    let year ← digits (chars.take 4)
    if (chars.take 4).length = 4 then some (year, chars.drop 4) else none

/-- The time within a day, in milliseconds. -/
def isoTime : List Char → Option ℕ
  | [h₁, h₂, ':', n₁, n₂, ':', s₁, s₂, '.', f₁, f₂, f₃, 'Z'] => do
    let hour ← twoDigits h₁ h₂
    let minute ← twoDigits n₁ n₂
    let second ← twoDigits s₁ s₂
    let millisecond ← digits [f₁, f₂, f₃]
    if hour < 24 ∧ minute < 60 ∧ second < 60 then
      some (((hour * 60 + minute) * 60 + second) * 1000 + millisecond)
    else none
  | _ => none

/-- Whether the text is what `toISOString` writes for a time: what `Date.parse` reads and
    `toISOString` gives back. Times go from April 20th of -271821 to September 13th of 275760. -/
def isIsoTimestamp (text : String) : Bool :=
  match isoYear text.toList with
  | some (year, '-' :: m₁ :: m₂ :: '-' :: d₁ :: d₂ :: 'T' :: time) =>
    match twoDigits m₁ m₂, twoDigits d₁ d₂, isoTime time with
    | some month, some day, some milliseconds =>
      1 ≤ month && month ≤ 12 && 1 ≤ day && day ≤ daysInMonth year month &&
        (-271821 < year || (year = -271821 && (4 < month || (month = 4 && 20 ≤ day)))) &&
        (year < 275760 || (year = 275760 && (month < 9 || (month = 9 && (day < 13 ||
          (day = 13 && milliseconds = 0))))))
    | _, _, _ => false
  | _ => false

/-! ## Helpers -/

/-- `path.isAbsolute` -/
def isAbsolute (path : List Char) : Bool := path.head? = some '/'

/-- `isSafeRelativePath` of a text. -/
def isSafePath (path : String) : Bool :=
  !path.toList.isEmpty && !isAbsolute path.toList && !path.toList.contains '\\' &&
    (path.toList.splitOn '/').all fun component =>
      !component.isEmpty && component ≠ ['.'] && component ≠ ['.', '.']

/-- `isSafeRelativePath` -/
def isSafeRelativePath : Option Json → Bool
  | some (.str path) => isSafePath path
  | _ => false

/-- `isSafeRelativePath`: the path, where it is one. -/
def safePath? : Option Json → Option String
  | some (.str path) => if isSafePath path then some path else none
  | _ => none

/-- A finding is pushed unless the check holds. -/
def expect (holds : Bool) (field detail : String) : List String :=
  if holds then [] else [field ++ ": " ++ detail]

@[simp] theorem expect_eq_nil {holds : Bool} {field detail : String} :
    expect holds field detail = [] ↔ holds = true := by
  cases holds <;> simp [expect]

/-- `x` followed by `f` succeeds exactly when both do. -/
theorem bind_eq_ok {ε α β : Type} {x : Except ε α} {f : α → Except ε β} {b : β} :
    (x >>= f) = .ok b ↔ ∃ a, x = .ok a ∧ f a = .ok b := by
  cases x <;> simp [bind, Except.bind]

/-- A text the pattern matches. -/
def isTextOf (pattern : Regex) : Option Json → Bool
  | some (.str text) => pattern.wholeMatch text
  | _ => false

/-- `checkHash` -/
def checkHash (field : String) (value : Option Json) : List String :=
  expect (isTextOf sha256Pattern value) field "must be a lowercase SHA-256 digest"

/-- `checkEvidencePath` -/
def checkEvidencePath (field : String) (value : Option Json) : List String :=
  expect (isSafeRelativePath value) field
    "must be a canonical relative path without empty, dot, or parent components"

/-- `checkUniquePath`: the findings, and the paths behind it. -/
def checkUniquePath (paths : List String) (field : String) :
    Option Json → List String × List String
  | some (.str path) =>
    if isSafePath path then
      if paths.contains path then
        ([field ++ ": must be unique across release evidence"], paths)
      else ([], path :: paths)
    else ([], paths)
  | _ => ([], paths)

/-- `pattern.test(value)`, which makes a string of the value first; `none` where that throws. -/
def test (pattern : Regex) : Option Json → Option Bool
  | none => some (pattern.wholeMatch "undefined")
  | some value => value.jsString.map pattern.wholeMatch

/-- `expected && value !== expected` -/
def differs (expected : Option String) (value : String) : Bool :=
  expected.any fun expected => expected ≠ "" && value ≠ expected

/-- A text of the pattern, which is the expected one where that is given. -/
def checkExpected (pattern : Regex) (expected : Option String)
    (field invalid mismatch : String) : Option Json → List String
  | some (.str text) =>
    if pattern.wholeMatch text then expect (!differs expected text) field mismatch
    else [field ++ ": " ++ invalid]
  | _ => [field ++ ": " ++ invalid]

/-! ## Secrets -/

mutual

/-- `checkSecretKeys` -/
def checkSecretKeys (field : String) : Json → List String
  | .arr items => checkSecretItems field 0 items
  | .obj fields => checkSecretFields field [] fields
  | _ => []

def checkSecretItems (field : String) : ℕ → List Json → List String
  | _, [] => []
  | index, item :: items =>
    let nestedField :=
      if field = "manifest" then toString index else field ++ "." ++ toString index
    expect (!isSecretKey (toString index)) nestedField "secret-bearing fields are forbidden" ++
      checkSecretKeys nestedField item ++ checkSecretItems field (index + 1) items

/-- The fields whose names are not among those seen. -/
def checkSecretFields (field : String) : List String → List (String × Json) → List String
  | _, [] => []
  | seen, (key, nested) :: fields =>
    if seen.contains key then checkSecretFields field seen fields
    else
      let nestedField := if field = "manifest" then key else field ++ "." ++ key
      expect (!isSecretKey key) nestedField "secret-bearing fields are forbidden" ++
        checkSecretKeys nestedField nested ++ checkSecretFields field (key :: seen) fields

end

/-! ## Gates -/

/-- `REQUIRED_RELEASE_GATES` -/
def requiredReleaseGates : List String :=
  ["rust-workspace", "javascript-contracts", "http-contract-version-parity",
    "opaque-protocol-parity", "native-parity", "release-version-parity", "framework-host-builds",
    "fuzz-stability", "linux-leak-sanitizer", "durable-backends", "ios-device-matrix",
    "android-device-matrix", "web-browser-matrix", "independent-security-review",
    "signed-release"]

/-- `REQUIRED_RELEASE_TOOLCHAINS`, in the order of `requiredToolchains`. -/
def requiredReleaseToolchains : List (String × String) :=
  [("rust", "1.97.1"), ("node", "22.13.0"), ("pnpm", "11.19.0"), ("flutter", "3.47.0"),
    ("reactNative", "0.87.0"), ("ndk", "27.1.12297006")]

/-- The context of a validation. -/
structure Context where
  expectedCommit : Option String
  expectedPackageVersion : Option String
  expectedReleasePublicKeySha256 : Option String
  expectedReviewerPublicKeySha256 : Option String
deriving DecidableEq

/-- The default context, which expects nothing. -/
def Context.empty : Context := ⟨none, none, none, none⟩

/-- The findings about a gate's name, and the names of `gatesByName` behind it. -/
def checkGateName (names : List String) (field : String) :
    Option Json → List String × List String
  | some (.str name) =>
    if name = "" then ([field ++ ".name: must be a non-empty gate name"], names)
    else if !requiredReleaseGates.contains name then
      ([field ++ ".name: must be a supported release gate"], names)
    else if names.contains name then ([field ++ ".name: must not be duplicated"], names)
    else ([], name :: names)
  | _ => ([field ++ ".name: must be a non-empty gate name"], names)

/-- The findings about a gate's commit. -/
def checkGateCommit (context : Context) (manifestCommit : Option Json) (field : String) :
    Option Json → Option (List String)
  | some (.str commit) =>
    if commitPattern.wholeMatch commit then do
      let manifestTest ← test commitPattern manifestCommit
      if manifestTest && (manifestCommit.bind Json.asString?) ≠ some commit then
        some [field ++ ".commit: must match the manifest commit"]
      else if differs context.expectedCommit commit then
        some [field ++ ".commit: must match the current checkout commit"]
      else some []
    else some [field ++ ".commit: must be the exact 40-character gate commit SHA"]
  | _ => some [field ++ ".commit: must be the exact 40-character gate commit SHA"]

/-- The loop over the gates: the findings, and the names and the paths behind it. -/
def checkGates (context : Context) (manifestCommit : Option Json) :
    ℕ → List String → List String → List Json →
      Option (List String × List String × List String)
  | _, names, paths, [] => some ([], names, paths)
  | index, names, paths, .obj gate :: gates => do
    let field := "gates[" ++ toString index ++ "]"
    let (nameFindings, names) := checkGateName names field (gate.lookup "name")
    let commitFindings ← checkGateCommit context manifestCommit field (gate.lookup "commit")
    let (pathFindings, paths) :=
      checkUniquePath paths (field ++ ".evidencePath") (gate.lookup "evidencePath")
    let (findings, names, paths) ←
      checkGates context manifestCommit (index + 1) names paths gates
    some (nameFindings ++ commitFindings ++
      expect ((gate.lookup "status").bind Json.asString? = some "pass") (field ++ ".status")
        "must equal pass" ++
      checkEvidencePath (field ++ ".evidencePath") (gate.lookup "evidencePath") ++ pathFindings ++
      checkHash (field ++ ".sha256") (gate.lookup "sha256") ++ findings, names, paths)
  | index, names, paths, _ :: gates => do
    let (findings, names, paths) ←
      checkGates context manifestCommit (index + 1) names paths gates
    some (("gates[" ++ toString index ++ "]: must be an object") :: findings, names, paths)

/-! ## Artifacts -/

/-- The kinds a release needs. -/
def requiredArtifacts : List String :=
  ["native-checksum", "native-checksum-android", "sbom", "license-notices", "release-bundle",
    "release-public-key", "release-signature", "independent-review-report",
    "independent-review-public-key", "independent-review-signature"]

/-- `artifactKinds`, `artifactsByPath` (the last of a path first) and `referencedPaths`. -/
structure ArtifactsSeen where
  kinds : List String
  byPath : List (String × List (String × Json))
  paths : List String

/-- The findings about an artifact's kind, and the kinds behind it. -/
def checkArtifactKind (kinds : List String) (field : String) :
    Option Json → List String × List String
  | some (.str kind) =>
    if kind = "" then ([field ++ ".kind: must be a non-empty artifact kind"], kinds)
    else if kinds.contains kind then ([field ++ ".kind: must not be duplicated"], kinds)
    else ([], kind :: kinds)
  | _ => ([field ++ ".kind: must be a non-empty artifact kind"], kinds)

/-- The artifacts by their paths behind one more. -/
def withPath (byPath : List (String × List (String × Json))) (artifact : List (String × Json)) :
    List (String × List (String × Json)) :=
  match artifact.lookup "path" with
  | some (.str path) => if isSafePath path then (path, artifact) :: byPath else byPath
  | _ => byPath

/-- The loop over the artifacts. -/
def checkArtifacts : ℕ → ArtifactsSeen → List Json → List String × ArtifactsSeen
  | _, seen, [] => ([], seen)
  | index, seen, .obj artifact :: artifacts =>
    let field := "artifacts[" ++ toString index ++ "]"
    let (kindFindings, kinds) := checkArtifactKind seen.kinds field (artifact.lookup "kind")
    let (pathFindings, paths) :=
      checkUniquePath seen.paths (field ++ ".path") (artifact.lookup "path")
    let (findings, seen) :=
      checkArtifacts (index + 1) ⟨kinds, withPath seen.byPath artifact, paths⟩ artifacts
    (kindFindings ++ checkEvidencePath (field ++ ".path") (artifact.lookup "path") ++
      pathFindings ++ checkHash (field ++ ".sha256") (artifact.lookup "sha256") ++ findings, seen)
  | index, seen, _ :: artifacts =>
    let (findings, seen) := checkArtifacts (index + 1) seen artifacts
    (("artifacts[" ++ toString index ++ "]: must be an object") :: findings, seen)

/-! ## Signatures -/

/-- `expectedKinds` -/
structure ExpectedKinds where
  signedArtifactKind : String
  publicKeyKind : String
  signatureKind : String

def signatureKinds : ExpectedKinds := ⟨"release-bundle", "release-public-key", "release-signature"⟩

def reviewKinds : ExpectedKinds :=
  ⟨"independent-review-report", "independent-review-public-key", "independent-review-signature"⟩

/-- `artifactsByPath.get(path)?.kind === kind` -/
def references (byPath : List (String × List (String × Json))) (path : Option Json)
    (kind : String) : Bool :=
  match path with
  | some (.str path) =>
    ((byPath.lookup path).bind fun artifact => artifact.lookup "kind").bind Json.asString? =
      some kind
  | _ => false

/-- The findings about the release a review is of. -/
def checkReviewedRelease (context : Context) (fieldName : String)
    (descriptor : List (String × Json)) : List String :=
  checkExpected commitPattern context.expectedCommit (fieldName ++ ".reviewedCommit")
      "must be the exact 40-character reviewed commit SHA" "must match the manifest commit"
      (descriptor.lookup "reviewedCommit") ++
    checkExpected versionPattern context.expectedPackageVersion
      (fieldName ++ ".reviewedPackageVersion") "must be the reviewed semantic package version"
      "must match the manifest package version" (descriptor.lookup "reviewedPackageVersion")

/-- The findings of a `binding` that requires a reviewed release. -/
def checkBinding (binding : Option Context) (fieldName : String)
    (descriptor : List (String × Json)) : List String :=
  match binding with
  | some context => checkReviewedRelease context fieldName descriptor
  | none => []

/-- `validateSignatureDescriptor`; `binding` is there for the independent review. -/
def validateSignatureDescriptor (fieldName : String) (descriptor : Option Json)
    (byPath : List (String × List (String × Json))) (kinds : ExpectedKinds)
    (trustedPublicKeySha256 : Option String) (binding : Option Context) : List String :=
  match descriptor with
  | some (.obj descriptor) =>
    expect ((descriptor.lookup "algorithm").bind Json.asString? = some "ed25519")
        (fieldName ++ ".algorithm") "must equal ed25519" ++
      (["publicKeyPath", "signedArtifactPath", "signaturePath"].map fun field =>
        checkEvidencePath (fieldName ++ "." ++ field) (descriptor.lookup field)).flatten ++
      checkHash (fieldName ++ ".publicKeySha256") (descriptor.lookup "publicKeySha256") ++
      expect (trustedPublicKeySha256.all fun trusted =>
          (descriptor.lookup "publicKeySha256").bind Json.asString? = some trusted)
        (fieldName ++ ".publicKeySha256") "must match the trusted public-key fingerprint" ++
      checkBinding binding fieldName descriptor ++
      expect (references byPath (descriptor.lookup "signedArtifactPath") kinds.signedArtifactKind)
        (fieldName ++ ".signedArtifactPath")
        ("must reference the " ++ kinds.signedArtifactKind ++ " artifact") ++
      expect (references byPath (descriptor.lookup "publicKeyPath") kinds.publicKeyKind)
        (fieldName ++ ".publicKeyPath")
        ("must reference the " ++ kinds.publicKeyKind ++ " artifact") ++
      expect (references byPath (descriptor.lookup "signaturePath") kinds.signatureKind)
        (fieldName ++ ".signaturePath")
        ("must reference the " ++ kinds.signatureKind ++ " artifact")
  | _ => [fieldName ++ ": must contain an Ed25519 detached-signature descriptor"]

/-- The fingerprint of a descriptor, where it is a text. -/
def fingerprint? (descriptor : Option Json) : Option String :=
  (descriptor.bind Json.asObject?).bind fun descriptor =>
    (descriptor.lookup "publicKeySha256").bind Json.asString?

/-! ## Manifests -/

/-- The findings about the commit of a manifest. -/
def checkCommit (context : Context) : Option Json → List String :=
  checkExpected commitPattern context.expectedCommit "commit"
    "must be a 40-character lowercase commit SHA" "must match the current checkout commit"

/-- The findings about the version of a manifest. -/
def checkPackageVersion (context : Context) : Option Json → List String :=
  checkExpected versionPattern context.expectedPackageVersion "packageVersion"
    "must be a semantic version" "must match the current release version"

/-- The findings about one toolchain. -/
def checkToolchain (toolchains : List (String × Json)) (name version : String) : List String :=
  match toolchains.lookup name with
  | some (.str value) =>
    if value = "" then ["toolchains." ++ name ++ ": must be a non-empty pinned version"]
    else expect (value = version) ("toolchains." ++ name) ("must equal " ++ version)
  | _ => ["toolchains." ++ name ++ ": must be a non-empty pinned version"]

/-- The findings about the toolchains. -/
def checkToolchains : Option Json → List String
  | some (.obj toolchains) =>
    (requiredReleaseToolchains.map fun (name, version) =>
      checkToolchain toolchains name version).flatten
  | _ => ["toolchains: must contain pinned toolchain versions"]

/-- The findings about the gates, with the names and the paths behind them. -/
def checkGatesField (context : Context) (manifestCommit : Option Json) :
    Option Json → Option (List String × List String × List String)
  | some (.arr gates) => checkGates context manifestCommit 0 [] [] gates
  | _ => some (["gates: must contain every required release gate"], [], [])

/-- The findings about the artifacts, with what is known of them behind. -/
def checkArtifactsField (paths : List String) : Option Json → List String × ArtifactsSeen
  | some (.arr artifacts) =>
    if artifacts.isEmpty then
      (["artifacts: must contain hashed release artifacts"], ⟨[], [], paths⟩)
    else checkArtifacts 0 ⟨[], [], paths⟩ artifacts
  | _ => (["artifacts: must contain hashed release artifacts"], ⟨[], [], paths⟩)

/-- `validateReleaseEvidence`; `none` where it throws. -/
def validateReleaseEvidence (evidence : Json) (context : Context) : Option (List String) :=
  match evidence with
  | .obj fields => do
    let (gateFindings, names, paths) ←
      checkGatesField context (fields.lookup "commit") (fields.lookup "gates")
    let (artifactFindings, seen) := checkArtifactsField paths (fields.lookup "artifacts")
    let signature := fields.lookup "signature"
    let independentReview := fields.lookup "independentReview"
    some (checkSecretKeys "manifest" evidence ++
      expect ((fields.lookup "schemaVersion").bind Json.asNumber? = some 1) "schemaVersion"
        "must equal 1" ++
      checkCommit context (fields.lookup "commit") ++
      expect ((fields.lookup "createdAt").bind Json.asString? |>.any isIsoTimestamp) "createdAt"
        "must be an ISO-8601 UTC timestamp" ++
      checkPackageVersion context (fields.lookup "packageVersion") ++
      checkToolchains (fields.lookup "toolchains") ++ gateFindings ++
      (requiredReleaseGates.map fun gate =>
        expect (names.contains gate) "gates" ("missing required gate " ++ gate)).flatten ++
      artifactFindings ++
      (requiredArtifacts.map fun kind =>
        expect (seen.kinds.contains kind) "artifacts"
          ("missing required artifact " ++ kind)).flatten ++
      validateSignatureDescriptor "signature" signature seen.byPath signatureKinds
        context.expectedReleasePublicKeySha256 none ++
      validateSignatureDescriptor "independentReview" independentReview seen.byPath reviewKinds
        context.expectedReviewerPublicKeySha256 (some context) ++
      expect (!((fingerprint? signature).isSome &&
          fingerprint? signature = fingerprint? independentReview))
        "independentReview.publicKeySha256"
        "must use a distinct public key from the maintainer release signature")
  | _ => some ["manifest: must be a JSON object"]

end SecureKeypad.Release
