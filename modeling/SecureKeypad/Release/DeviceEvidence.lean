import SecureKeypad.Release.PlatformSupport

/-!
# Device Evidence (`check-device-evidence.mjs`)

Embeds `validateDeviceEvidence`, which goes over the record of one device or browser run and pushes
a finding for everything it does not accept. The record is any JSON value, so the checks behind a
failed one still read what that one did not accept, and some of what they call throws.

The call stack is that of the engine, which throws a `RangeError` where calls are nested too deep:
how deep `rejectSecretKeys` can go, and how deep `String` can go down arrays, are parameters. The
files behind the paths are left out. Paths are those of a POSIX host.
-/

namespace SecureKeypad.Release

/-! ## Names -/

/-- `NATIVE_TESTS` -/
def nativeTests : List String :=
  ["maskedStateOnly", "captureAndBackground", "screenshotsAndBackgroundSnapshots",
    "autofillAndClipboard", "accessibility", "crashReportReview", "lifecycleAndZeroization",
    "serverReplayRateLimit", "protocolDowngrade"]

/-- `WEB_TESTS` -/
def webTests : List String :=
  ["passkeySecureContext", "originAndRpId", "boundedOptions", "fallbackWarning"]

/-- `REQUIRED_PHYSICAL_NATIVE_ARTIFACT_KINDS` -/
def requiredPhysicalNativeArtifactKinds : List String :=
  ["screen-capture", "background-snapshot", "accessibility-report", "autofill-clipboard-report",
    "crash-report-review", "platform-security-patch", "native-checksum"]

/-- `REQUIRED_TEST_EVIDENCE_ARTIFACT_KINDS` -/
def requiredTestEvidenceArtifactKinds : List (String × List String) :=
  [("captureAndBackground", ["screen-capture", "background-snapshot"]),
    ("screenshotsAndBackgroundSnapshots", ["screen-capture", "background-snapshot"]),
    ("autofillAndClipboard", ["autofill-clipboard-report"]),
    ("accessibility", ["accessibility-report"]),
    ("crashReportReview", ["crash-report-review"])]

/-- The frameworks of `ios`, and those of `android`. -/
def nativeFrameworks : List String := ["native", "react-native", "flutter"]

/-- `ALLOWED_FRAMEWORKS` -/
def allowedFrameworks : List (String × List String) :=
  [("ios", nativeFrameworks), ("android", nativeFrameworks), ("web", ["web"])]

/-- `REQUIRED_NATIVE_HOST_MODES` -/
def requiredNativeHostModes : List String := ["react-native", "flutter"]

/-- `DEVICE_RELEASE_GATES` -/
def deviceReleaseGates : List (String × String) :=
  [("ios-device-matrix", "ios"), ("android-device-matrix", "android"),
    ("web-browser-matrix", "web")]

/-- `FORBIDDEN_KEYS.test(key)` -/
def isForbiddenKey (key : String) : Bool :=
  (Regex.alt (anyOf ["password", "secret", "passphrase", "sentinel", "plaintext",
      "credentialvalue"])
    (.seq (anyOf ["input"]) (anyOf ["value", "text", "bytes"]))).search key ||
    (anyOf ["value"]).wholeMatch key

/-- The options of a validation. -/
structure DeviceOptions where
  requirePhysicalDevice : Bool
  requirePlatformSupport : Bool
  requireNativeHostModes : Bool
  expectedCommit : Option String
  expectedGate : Option String
  expectedHostModeVersions : Option (List (String × String))
deriving DecidableEq

/-- What engines differ in: whether a day that its month does not have is rolled over, how many
    calls of `rejectSecretKeys` can be nested, and how many arrays within one another `String` can
    go down. -/
structure Engine where
  rollsOver : Bool
  walkDepth : ℕ
  joinDepth : ℕ
deriving DecidableEq

/-- The default options. -/
def DeviceOptions.empty : DeviceOptions := ⟨false, false, false, none, none, none⟩

/-! ## Helpers -/

/-- `nonEmptyString` of a text. -/
def isNonEmptyText (text : String) : Bool :=
  (text.toList.map fun c => if c.toNat ≤ 0xffff then 1 else 2).sum ≤ 120 &&
    !(text.toList.any fun c => c = '\r' || c = '\n') && Node.jsTrim text ≠ ""

/-- `nonEmptyString` -/
def nonEmptyString : Option Json → Bool
  | some (.str text) => isNonEmptyText text
  | _ => false

/-- The key a value is as the name of a property. -/
def propertyKey (engine : Engine) : Option Json → Except JsException String
  | none => .ok "undefined"
  | some value =>
    if value.arrayLevels ≤ engine.joinDepth then
      match value.jsString with
      | some key => .ok key
      | none => .error .typeError
    else .error .rangeError

/-- `value === text` -/
def isText (text : String) (value : Option Json) : Bool := value.bind Json.asString? = some text

/-- A finding for every key that is not allowed. -/
def checkKeys (fields : List (String × Json)) (allowed : List String) (field detail : String) :
    List String :=
  (Json.keys fields).flatMap fun key => expect (allowed.contains key) (field ++ "." ++ key) detail

/-- The findings about a path, and the paths behind it. -/
def checkReferencedPath (paths : List String) (field invalid : String) :
    Option Json → List String × List String
  | some (.str path) =>
    if isSafePath path then
      if paths.contains path then ([field ++ ": must be unique across evidence files"], paths)
      else ([], path :: paths)
    else ([field ++ ": " ++ invalid], paths)
  | _ => ([field ++ ": " ++ invalid], paths)

def canonicalPathDetail : String :=
  "must be a canonical relative path without empty, dot, or parent components"

mutual

/-- `rejectSecretKeys`, where so many calls can still be nested. -/
def rejectSecretKeys (pathName : String) : ℕ → Json → Except JsException (List String)
  | 0, _ => .error .rangeError
  | depth + 1, .arr items => rejectSecretItems pathName depth 0 items
  | depth + 1, .obj fields => rejectSecretFields pathName depth [] fields
  | _ + 1, _ => .ok []

def rejectSecretItems (pathName : String) (depth : ℕ) :
    ℕ → List Json → Except JsException (List String)
  | _, [] => .ok []
  | index, item :: items => do
    let itemFindings ←
      rejectSecretKeys (pathName ++ "[" ++ toString index ++ "]") depth item
    let findings ← rejectSecretItems pathName depth (index + 1) items
    .ok (itemFindings ++ findings)

/-- The fields whose names are not among those seen. -/
def rejectSecretFields (pathName : String) (depth : ℕ) :
    List String → List (String × Json) → Except JsException (List String)
  | _, [] => .ok []
  | seen, (key, child) :: fields =>
    if seen.contains key then rejectSecretFields pathName depth seen fields
    else do
      let childPath := pathName ++ "." ++ key
      let childFindings ← rejectSecretKeys childPath depth child
      let findings ← rejectSecretFields pathName depth (key :: seen) fields
      .ok (expect (!isForbiddenKey key) childPath "secret-bearing evidence fields are forbidden" ++
        childFindings ++ findings)

end

/-! ## Tests -/

/-- `validateTests` -/
def validateTests (required : List String) : Option Json → List String
  | some (.obj testCases) =>
    required.flatMap fun name =>
      expect (isText "pass" (testCases.lookup name)) ("testCases." ++ name)
        "must be exactly 'pass'"
  | _ => ["testCases: must be an object"]

/-- The loop over the paths of one test case. -/
def checkTestPaths (available : List String) (field : String) :
    ℕ → List String → List Json → List String
  | _, _, [] => []
  | index, unique, evidencePath :: paths =>
    let here := field ++ "[" ++ toString index ++ "]"
    match evidencePath with
    | .str path =>
      if !isSafePath path then
        (here ++ ": must be a safe relative path") ::
          checkTestPaths available field (index + 1) unique paths
      else if unique.contains path then
        (here ++ ": must not repeat a path within one test case") ::
          checkTestPaths available field (index + 1) unique paths
      else
        expect (available.contains path) here
            "must reference the aggregate log, a host log, or a declared artifact" ++
          checkTestPaths available field (index + 1) (path :: unique) paths
    | _ =>
      (here ++ ": must be a safe relative path") ::
        checkTestPaths available field (index + 1) unique paths

/-- `artifactKindsByPath.get(evidencePath) === kind` -/
def isOfKind (kindsByPath : List (String × String)) (kind : String) : Json → Bool
  | .str path => kindsByPath.lookup path = some kind
  | _ => false

/-- The findings about the evidence of one test case. -/
def checkTestEvidence (available : List String) (kindsByPath : List (String × String))
    (name : String) : Option Json → List String
  | some (.arr paths) =>
    if paths.length = 0 || 8 < paths.length then
      ["testEvidence." ++ name ++ ": must contain one to eight declared evidence paths"]
    else
      checkTestPaths available ("testEvidence." ++ name) 0 [] paths ++
        ((requiredTestEvidenceArtifactKinds.lookup name).getD []).flatMap fun kind =>
          expect (paths.any (isOfKind kindsByPath kind)) ("testEvidence." ++ name)
            ("must reference artifact kind " ++ kind)
  | _ => ["testEvidence." ++ name ++ ": must contain one to eight declared evidence paths"]

/-- `validateTestEvidence` -/
def validateTestEvidence (required available : List String)
    (kindsByPath : List (String × String)) : Option Json → List String
  | some (.obj testEvidence) =>
    checkKeys testEvidence required "testEvidence" "is not a supported test case" ++
      required.flatMap fun name =>
        checkTestEvidence available kindsByPath name (testEvidence.lookup name)
  | _ => ["testEvidence: must map every physical test case to declared evidence paths"]

/-! ## Host modes -/

/-- `validateHostModeEvidence`: the findings, and the paths behind it. -/
def validateHostModeEvidence (required : Bool) (paths : List String) (field : String) :
    Option Json → List String × List String
  | some (.obj evidence) =>
    let (pathFindings, paths) := checkReferencedPath paths (field ++ ".logPath")
      "must be a relative, non-parent path" (evidence.lookup "logPath")
    (checkKeys evidence ["logPath", "logSha256"] field "unsupported host-mode evidence field" ++
      pathFindings ++ checkHash (field ++ ".logSha256") (evidence.lookup "logSha256"), paths)
  | _ => (expect (!required) field "must contain a host-mode log path and digest", paths)

/-- The findings about the framework of a host mode, and the frameworks behind it. -/
def checkHostFramework (frameworks : List String) (field : String) :
    Option Json → List String × List String
  | some (.str framework) =>
    if !nativeFrameworks.contains framework then
      ([field ++ ".framework: must be a supported native host mode"], frameworks)
    else if frameworks.contains framework then
      ([field ++ ".framework: must not be duplicated"], frameworks)
    else ([], framework :: frameworks)
  | _ => ([field ++ ".framework: must be a supported native host mode"], frameworks)

/-- The findings about the version of a host mode's framework. -/
def checkHostVersion (engine : Engine) (expectedVersions : Option (List (String × String)))
    (field : String) (framework version : Option Json) : Except JsException (List String) :=
  if nonEmptyString version then
    match expectedVersions with
    | some versions => do
      let key ← propertyKey engine framework
      .ok (expect ((versions.lookup key).all fun expected => isText expected version)
        (field ++ ".frameworkVersion") "must match the manifest toolchain version")
    | none => .ok []
  else .ok [field ++ ".frameworkVersion: must be non-empty"]

/-- The loop over the host modes: the findings, and the frameworks and the paths behind it. -/
def checkHostModes (engine : Engine) (required : Bool)
    (expectedVersions : Option (List (String × String))) :
    ℕ → List String → List String → List Json →
      Except JsException (List String × List String × List String)
  | _, frameworks, paths, [] => .ok ([], frameworks, paths)
  | index, frameworks, paths, .obj hostMode :: hostModes => do
    let field := "hostModes[" ++ toString index ++ "]"
    let (frameworkFindings, frameworks) :=
      checkHostFramework frameworks field (hostMode.lookup "framework")
    let versionFindings ← checkHostVersion engine expectedVersions field
      (hostMode.lookup "framework") (hostMode.lookup "frameworkVersion")
    let (evidenceFindings, paths) :=
      validateHostModeEvidence required paths (field ++ ".evidence") (hostMode.lookup "evidence")
    let (findings, frameworks, paths) ←
      checkHostModes engine required expectedVersions (index + 1) frameworks paths hostModes
    .ok (checkKeys hostMode ["framework", "frameworkVersion", "status", "evidence"] field
        "unsupported host-mode field" ++ frameworkFindings ++ versionFindings ++
      expect (isText "pass" (hostMode.lookup "status")) (field ++ ".status")
        "must be exactly 'pass'" ++ evidenceFindings ++ findings, frameworks, paths)
  | index, frameworks, paths, _ :: hostModes => do
    let (findings, frameworks, paths) ←
      checkHostModes engine required expectedVersions (index + 1) frameworks paths hostModes
    .ok (("hostModes[" ++ toString index ++ "]: must be an object") :: findings, frameworks, paths)

/-- `validateNativeHostModes`: the findings, and the paths behind it. -/
def validateNativeHostModes (engine : Engine) (required : Bool)
    (expectedVersions : Option (List (String × String))) :
    Json → Except JsException (List String × List String)
  | .arr hostModes =>
    if hostModes.length = 0 || 3 < hostModes.length then
      .ok (["hostModes: must contain one to three host-mode records"], [])
    else do
      let (findings, frameworks, paths) ←
        checkHostModes engine required expectedVersions 0 [] [] hostModes
      .ok (findings ++ (if required then requiredNativeHostModes.flatMap fun framework =>
        expect (frameworks.contains framework) "hostModes" ("must contain " ++ framework)
        else []), paths)
  | _ => .ok (["hostModes: must contain one to three host-mode records"], [])

/-- The log a host mode has, where its path is safe. -/
def hostLogPath? (hostMode : Json) : Option String :=
  safePath? (member (member (some hostMode) "evidence") "logPath")

/-- `for (const hostMode of evidence.hostModes)`: the logs. The characters of a text have none. -/
def hostLogPaths : Json → Except JsException (List String)
  | .arr hostModes => .ok (hostModes.filterMap hostLogPath?)
  | .str _ => .ok []
  | _ => .error .typeError

/-! ## Artifacts -/

/-- `referencedPaths`, `availableEvidencePaths`, `artifactKinds` and `artifactKindsByPath`, the last
    of a path first. -/
structure DeviceArtifactsSeen where
  paths : List String
  available : List String
  kinds : List String
  kindsByPath : List (String × String)

/-- The findings about the kind of an artifact of a physical device, and the kinds behind it. -/
def checkPhysicalKind (kinds : List String) (field : String) :
    Option Json → List String × List String
  | some (.str kind) =>
    if !isNonEmptyText kind then
      ([field ++ ".kind: must be a non-empty artifact kind for a physical-device gate"], kinds)
    else if kinds.contains kind then
      ([field ++ ".kind: must be unique for a physical-device gate"], kinds)
    else ([], kind :: kinds)
  | _ => ([field ++ ".kind: must be a non-empty artifact kind for a physical-device gate"], kinds)

/-- The kinds by their paths behind an artifact. -/
def withKind (kindsByPath : List (String × String)) (artifact : List (String × Json)) :
    List (String × String) :=
  match artifact.lookup "path", artifact.lookup "kind" with
  | some (.str path), some (.str kind) =>
    if isSafePath path && isNonEmptyText kind then (path, kind) :: kindsByPath else kindsByPath
  | _, _ => kindsByPath

/-- The loop over the artifacts. -/
def checkDeviceArtifacts (physical : Bool) :
    ℕ → DeviceArtifactsSeen → List Json → List String × DeviceArtifactsSeen
  | _, seen, [] => ([], seen)
  | index, seen, .obj artifact :: artifacts =>
    let field := "artifacts[" ++ toString index ++ "]"
    let (pathFindings, paths) := checkReferencedPath seen.paths (field ++ ".path")
      canonicalPathDetail (artifact.lookup "path")
    -- a path that is referenced once is available to the tests
    let available := if pathFindings.isEmpty then
      (safePath? (artifact.lookup "path")).toList ++ seen.available else seen.available
    let (kindFindings, kinds) :=
      if physical then checkPhysicalKind seen.kinds field (artifact.lookup "kind")
      else ([], seen.kinds)
    let (findings, seen) := checkDeviceArtifacts physical (index + 1)
      ⟨paths, available, kinds, withKind seen.kindsByPath artifact⟩ artifacts
    (pathFindings ++ checkHash (field ++ ".sha256") (artifact.lookup "sha256") ++ kindFindings ++
      findings, seen)
  | index, seen, _ :: artifacts =>
    let (findings, seen) := checkDeviceArtifacts physical (index + 1) seen artifacts
    (("artifacts[" ++ toString index ++ "]: must be an object") :: findings, seen)

/-- The findings about the artifacts, with what is known of them behind. -/
def checkDeviceArtifactsField (physical : Bool) (paths available : List String) :
    Option Json → List String × DeviceArtifactsSeen
  | some (.arr artifacts) =>
    if artifacts.isEmpty then
      (["artifacts: must contain at least one hashed artifact"], ⟨paths, available, [], []⟩)
    else
      let (findings, seen) := checkDeviceArtifacts physical 0 ⟨paths, available, [], []⟩ artifacts
      (findings ++ (if physical then requiredPhysicalNativeArtifactKinds.flatMap fun kind =>
        expect (seen.kinds.contains kind) "artifacts"
          ("must contain physical-device artifact kind " ++ kind) else []), seen)
  | _ => (["artifacts: must contain at least one hashed artifact"], ⟨paths, available, [], []⟩)

/-! ## Records -/

/-- `isNativePlatform` -/
def isNativePlatform (platform : Option Json) : Bool :=
  isText "ios" platform || isText "android" platform

/-- The findings about the commit of a record. -/
def checkDeviceCommit (expectedCommit : Option String) : Option Json → List String
  | some (.str commit) =>
    if commitPattern.wholeMatch commit then
      expect (expectedCommit.all (commit = ·)) "commit" "must match the expected checkout commit"
    else ["commit: must be a 40-character lowercase commit SHA"]
  | _ => ["commit: must be a 40-character lowercase commit SHA"]

/-- The findings about the gate of a record. -/
def checkDeviceGate (expectedGate : Option String) : Option Json → List String
  | some (.str gate) =>
    if (deviceReleaseGates.lookup gate).isSome then
      expect (expectedGate.all (gate = ·)) "gate" "must match the expected release gate"
    else ["gate: must be a supported device release gate"]
  | _ => ["gate: must be a supported device release gate"]

/-- `typeof gate === "string" && DEVICE_RELEASE_GATES[gate] !== platform`, negated. -/
def gateFitsPlatform (gate platform : Option Json) : Bool :=
  match gate.bind Json.asString? with
  | some gate => (deviceReleaseGates.lookup gate).any (isText · platform)
  | none => true

/-- The findings about the platform and the framework of a record. The platform is made the name of
    a property. -/
def checkPlatform (engine : Engine) (gate platform framework : Option Json) :
    Except JsException (List String) := do
  let key ← propertyKey engine platform
  match allowedFrameworks.lookup key with
  | none => .ok ["platform: must be ios, android, or web"]
  | some frameworks =>
    if (framework.bind Json.asString?).any frameworks.contains then
      .ok (expect (gateFitsPlatform gate platform) "gate" "must match the evidence platform")
    else .ok ["framework: is not supported for the selected platform"]

/-- The findings about the host modes, the paths behind them, and the logs they have. -/
def checkHostModesField (engine : Engine) (options : DeviceOptions)
    (platform hostModes : Option Json) :
    Except JsException (List String × List String × List String) :=
  let native := isNativePlatform platform
  let required := options.requireNativeHostModes || (options.requirePhysicalDevice && native)
  match native, hostModes with
  | true, some hostModes => do
    let (findings, paths) ←
      validateNativeHostModes engine required options.expectedHostModeVersions hostModes
    let available ← hostLogPaths hostModes
    .ok (findings, paths, available)
  | true, none =>
    .ok (expect (!required) "hostModes" "must contain both react-native and flutter host modes",
      [], [])
  | false, _ => .ok ([], [], [])

/-- The findings about the time of a record. -/
def checkRecordedAt (rollsOver : Bool) : Option Json → Except JsException (List String)
  | some (.str text) =>
    match isNonEmptyText text, isoTimestamp text with
    | true, some (date, time) => do
      let written ← toISOString rollsOver date time
      .ok (expect (written = (date, time)) "recordedAt" "must be an ISO-8601 UTC timestamp")
    | _, _ => .ok ["recordedAt: must be an ISO-8601 UTC timestamp"]
  | _ => .ok ["recordedAt: must be an ISO-8601 UTC timestamp"]

/-- The findings about the support of a device, where it is asked for. -/
def checkPlatformSupport (rollsOver : Bool) (options : DeviceOptions)
    (platform device : Option Json) : Except JsException (List String) :=
  if options.requirePlatformSupport then validatePlatformSupportDevice rollsOver platform device
  else .ok []

/-- The findings about the device of a record. -/
def checkDevice (rollsOver : Bool) (options : DeviceOptions) (platform : Option Json) :
    Option Json → Except JsException (List String)
  | some (.obj device) =>
    if isText "web" platform then
      .ok ((["browser", "browserVersion", "osVersion"].flatMap fun field =>
          expect (nonEmptyString (device.lookup field)) ("device." ++ field)
            "must be non-empty") ++
        expect ((device.lookup "secureContext").bind Json.asBool? = some true)
          "device.secureContext" "must be true")
    else do
      let supportFindings ←
        checkPlatformSupport rollsOver options platform (some (.obj device))
      .ok ((["model", "osVersion", "osBuild"].flatMap fun field =>
          expect (nonEmptyString (device.lookup field)) ("device." ++ field)
            "must be non-empty") ++ supportFindings)
  | _ => .ok ["device: must be an object"]

/-- The tests of a record. -/
def requiredTests (platform : Option Json) : List String :=
  if isText "web" platform then webTests else nativeTests

/-- `validateDeviceEvidence` -/
def validateDeviceEvidence (engine : Engine) (evidence : Json) (options : DeviceOptions) :
    Except JsException (List String) :=
  match evidence with
  | .obj fields => do
    let secretFindings ← rejectSecretKeys "root" engine.walkDepth evidence
    let platform := fields.lookup "platform"
    let physical := options.requirePhysicalDevice && isNativePlatform platform
    let platformFindings ←
      checkPlatform engine (fields.lookup "gate") platform (fields.lookup "framework")
    let (hostFindings, hostPaths, hostLogs) ←
      checkHostModesField engine options platform (fields.lookup "hostModes")
    let recordedFindings ← checkRecordedAt engine.rollsOver (fields.lookup "recordedAt")
    let deviceFindings ← checkDevice engine.rollsOver options platform (fields.lookup "device")
    let (logFindings, paths) :=
      checkReferencedPath hostPaths "logPath" canonicalPathDetail (fields.lookup "logPath")
    let available := (safePath? (fields.lookup "logPath")).toList ++ hostLogs
    let (artifactFindings, seen) :=
      checkDeviceArtifactsField physical paths available (fields.lookup "artifacts")
    .ok (secretFindings ++
      expect ((fields.lookup "schemaVersion").bind Json.asNumber? = some 1) "schemaVersion"
        "must be 1" ++
      expect (isText "pass" (fields.lookup "status")) "status" "must be exactly 'pass'" ++
      checkDeviceCommit options.expectedCommit (fields.lookup "commit") ++
      expect (options.expectedCommit.all commitPattern.wholeMatch) "expectedCommit"
        "must be a 40-character lowercase commit SHA" ++
      checkDeviceGate options.expectedGate (fields.lookup "gate") ++ platformFindings ++
      expect (nonEmptyString (fields.lookup "frameworkVersion")) "frameworkVersion"
        "must be non-empty" ++ hostFindings ++ recordedFindings ++
      expect ((fields.lookup "physicalDevice").bind Json.asBool? |>.isSome) "physicalDevice"
        "must be boolean" ++
      expect (!physical || (fields.lookup "physicalDevice").bind Json.asBool? = some true)
        "physicalDevice" "must be true for the physical-device release gate" ++
      deviceFindings ++ validateTests (requiredTests platform) (fields.lookup "testCases") ++
      expect ((fields.lookup "sanitizedLogs").bind Json.asBool? = some true) "sanitizedLogs"
        "must be true" ++ logFindings ++ checkHash "logSha256" (fields.lookup "logSha256") ++
      artifactFindings ++
      (if physical then
        validateTestEvidence nativeTests seen.available seen.kindsByPath
          (fields.lookup "testEvidence")
      else []))
  | _ => .ok ["root: must be an object"]

end SecureKeypad.Release
