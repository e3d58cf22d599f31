import SecureKeypad.Library.JsonText
import SecureKeypad.Library.SortBy
import SecureKeypad.Release.Evidence

/-!
# Merging Release Evidence (`merge-release-evidence.mjs`)

Embeds `mergeReleaseEvidence`: the fragments are folded into one manifest, which the validator
then has to accept. A context field is that of the first fragment with the field; gates, artifacts
and descriptors are each taken from the one fragment that has them.

`localeCompare` is a parameter. A field that is `undefined` in the manifest is left out of it.
-/

namespace SecureKeypad.Release.Merge

/-- What `mergeReleaseEvidence` throws: an `Error` of its own, or a `TypeError` of the runtime. -/
inductive Failure where
  | error (message : String)
  | typeError
deriving DecidableEq

/-- `isSafeRelativePath` of a text; unlike the validator's, it lets empty components and dots
    through. -/
def isSafePath (path : String) : Bool :=
  !path.toList.isEmpty && !isAbsolute path.toList && !path.toList.contains '\\' &&
    !(path.toList.splitOn '/').contains ['.', '.']

/-- A value that is such a text. -/
def relativePath? : Option Json → Option String
  | some (.str path) => if isSafePath path then some path else none
  | _ => none

/-! ## Values up to the order of their fields -/

/-- The value of a key that is an array index, which goes before other keys. -/
def arrayIndex? (key : String) : Option ℕ :=
  match digits key.toList with
  | some index => if toString index = key ∧ index < 2 ^ 32 - 1 then some index else none
  | none => none

/-- `Object.fromEntries`, in the order in which the keys are then enumerated. -/
def fromEntries (entries : List (String × Json)) : List (String × Json) :=
  sortBy compare (fun entry => arrayIndex? entry.1)
      (entries.filter fun entry => (arrayIndex? entry.1).isSome) ++
    entries.filter fun entry => (arrayIndex? entry.1).isNone

section Canonical

variable (localeCompare : String → String → Ordering)

mutual

/-- `canonicalize` -/
def canonicalize : Json → Json
  | .arr items => .arr (canonicalizeItems items)
  -- the children do not matter to the order, so it is theirs before or behind them
  | .obj fields => .obj (fromEntries (sortBy localeCompare Prod.fst (canonicalizeFields [] fields)))
  | value => value

def canonicalizeItems : List Json → List Json
  | [] => []
  | item :: items => canonicalize item :: canonicalizeItems items

/-- The fields whose names are not among those seen. -/
def canonicalizeFields : List String → List (String × Json) → List (String × Json)
  | _, [] => []
  | seen, (key, child) :: fields =>
    if seen.contains key then canonicalizeFields seen fields
    else (key, canonicalize child) :: canonicalizeFields (key :: seen) fields

end

/-- `sameValue` -/
def sameValue (left right : Json) : Bool :=
  (canonicalize localeCompare left).stringify = (canonicalize localeCompare right).stringify

end Canonical

/-! ## Folding the fragments -/

/-- The fields of the context. -/
def contextFields : List String := ["commit", "packageVersion", "toolchains"]

/-- What is known of the fragments so far. `gates` and `artifacts` are maps in the order in which
    their keys were set. -/
structure MergeState where
  context : String → Option Json
  gates : List (String × Json)
  artifacts : List (String × Json)
  referencedPaths : List String
  signature : Option Json
  independentReview : Option Json

def MergeState.empty : MergeState := ⟨fun _ => none, [], [], [], none, none⟩

/-- `addContext` -/
def addContext (localeCompare : String → String → Ordering) (fragment : List (String × Json))
    (fragmentIndex : ℕ) (context : String → Option Json) (field : String) :
    Except Failure (String → Option Json) :=
  match fragment.lookup field with
  | none => .ok context
  | some value =>
    match context field with
    | none => .ok (Function.update context field (some value))
    | some first =>
      if sameValue localeCompare first value then .ok context
      else .error (.error ("fragment " ++ toString fragmentIndex ++ " conflicts on " ++ field))

/-- What the loops over the gates and over the artifacts differ in. -/
structure ItemKind where
  nameField : String
  pathField : String
  invalid : String
  duplicate : String

def gateKind : ItemKind := ⟨"name", "evidencePath", "gate", "duplicate release gate "⟩

def artifactKind : ItemKind := ⟨"kind", "path", "artifact", "duplicate release artifact kind "⟩

/-- The items a `for` loop over `field ?? []` goes through. -/
def itemsOf : Option Json → Except Failure (List Json)
  | none => .ok []
  | some .null => .ok []
  | some (.arr items) => .ok items
  | some (.str text) => .ok (text.toList.map fun c => .str (String.ofList [c]))
  | some _ => .error .typeError

/-- The name of an item, where it has one. -/
def nameOf? (kind : ItemKind) : Json → Option String
  | .obj fields =>
    match fields.lookup kind.nameField with
    | some (.str name) => if name = "" then none else some name
    | _ => none
  | _ => none

/-- The path of an item, where it is safe. -/
def pathOf? (kind : ItemKind) : Json → Option String
  | .obj fields => relativePath? (fields.lookup kind.pathField)
  | _ => none

/-- A path that is referenced by one more item. -/
def addPath (paths : List String) : Option String → Except Failure (List String)
  | none => .ok paths
  | some path =>
    if paths.contains path then .error (.error ("duplicate release evidence path " ++ path))
    else .ok (paths ++ [path])

/-- The loop over the gates or the artifacts of a fragment, on the map of them and the referenced
    paths. -/
def addItems (kind : ItemKind) (fragmentIndex : ℕ) :
    List (String × Json) × List String → List Json →
      Except Failure (List (String × Json) × List String)
  | seen, [] => .ok seen
  | (items, paths), item :: rest =>
    match nameOf? kind item with
    | none =>
      .error (.error ("fragment " ++ toString fragmentIndex ++ " contains an invalid " ++
        kind.invalid))
    | some name =>
      if (items.lookup name).isSome then .error (.error (kind.duplicate ++ name))
      else do
        let paths ← addPath paths (pathOf? kind item)
        addItems kind fragmentIndex (items ++ [(name, item)], paths) rest

/-- A descriptor that no fragment before may have had. -/
def addDescriptor (duplicate : String) (before fragment : Option Json) :
    Except Failure (Option Json) :=
  match fragment with
  | none => .ok before
  | some descriptor =>
    if before.isSome then .error (.error duplicate) else .ok (some descriptor)

/-- `Array.isArray` -/
def isArray : Option Json → Bool
  | some (.arr _) => true
  | _ => false

/-- `schemaVersion !== undefined && schemaVersion !== 1`, negated. -/
def supportsSchema : Option Json → Bool
  | none => true
  | some value => value.asNumber? = some 1

/-- There is evidence in a fragment. -/
def isMergeable (fragment : List (String × Json)) : Bool :=
  isArray (fragment.lookup "gates") || isArray (fragment.lookup "artifacts") ||
    (fragment.lookup "signature").isSome || (fragment.lookup "independentReview").isSome

/-- One round of the loop over the fragments. -/
def mergeFragment (localeCompare : String → String → Ordering) (state : MergeState)
    (fragment : Json) (fragmentIndex : ℕ) : Except Failure MergeState :=
  match fragment with
  | .obj fields =>
    if !supportsSchema (fields.lookup "schemaVersion") then
      .error (.error ("fragment " ++ toString fragmentIndex ++ " has unsupported schemaVersion"))
    else do
      let context ← contextFields.foldlM (addContext localeCompare fields fragmentIndex)
        state.context
      if !isMergeable fields then
        .error (.error ("fragment " ++ toString fragmentIndex ++ " contains no mergeable evidence"))
      else do
        let fragmentGates ← itemsOf (fields.lookup "gates")
        let (gates, paths) ←
          addItems gateKind fragmentIndex (state.gates, state.referencedPaths) fragmentGates
        let fragmentArtifacts ← itemsOf (fields.lookup "artifacts")
        let (artifacts, paths) ←
          addItems artifactKind fragmentIndex (state.artifacts, paths) fragmentArtifacts
        let signature ← addDescriptor "duplicate release signature descriptor" state.signature
          (fields.lookup "signature")
        let independentReview ← addDescriptor "duplicate independent review descriptor"
          state.independentReview (fields.lookup "independentReview")
        .ok ⟨context, gates, artifacts, paths, signature, independentReview⟩
  | _ => .error (.error ("fragment " ++ toString fragmentIndex ++ " must be a JSON object"))

/-- The loop over the fragments. -/
def mergeFragments (localeCompare : String → String → Ordering) :
    MergeState → ℕ → List Json → Except Failure MergeState
  | state, _, [] => .ok state
  | state, fragmentIndex, fragment :: fragments => do
    let state ← mergeFragment localeCompare state fragment fragmentIndex
    mergeFragments localeCompare state (fragmentIndex + 1) fragments

/-! ## The manifest -/

/-- The fields that are not `undefined`. -/
def definedFields (fields : List (String × Option Json)) : List (String × Json) :=
  fields.filterMap fun field => field.2.map fun value => (field.1, value)

/-- The items of a map, in the order of their names. -/
def sortedItems (localeCompare : String → String → Ordering) (items : List (String × Json)) :
    Json :=
  .arr ((sortBy localeCompare Prod.fst items).map Prod.snd)

/-- `merged` -/
def mergedManifest (localeCompare : String → String → Ordering) (createdAt : String)
    (state : MergeState) : List (String × Json) :=
  definedFields
    [("schemaVersion", some (.number (.ofNat 1))),
      ("commit", state.context "commit"),
      ("createdAt", some (.str createdAt)),
      ("packageVersion", state.context "packageVersion"),
      ("toolchains", state.context "toolchains"),
      ("gates", some (sortedItems localeCompare state.gates)),
      ("artifacts", some (sortedItems localeCompare state.artifacts)),
      ("signature", state.signature),
      ("independentReview", state.independentReview)]

/-- `mergeReleaseEvidence` -/
def mergeReleaseEvidence (localeCompare : String → String → Ordering) (fragments : List Json)
    (createdAt : String) : Except Failure (List (String × Json)) :=
  if fragments.isEmpty then
    .error (.error "at least one release evidence fragment is required")
  else do
    let state ← mergeFragments localeCompare .empty 0 fragments
    let merged := mergedManifest localeCompare createdAt state
    match validateReleaseEvidence (.obj merged) .empty with
    | none => .error .typeError
    | some [] => .ok merged
    | some findings =>
      .error (.error ("merged release evidence is incomplete:\n" ++ "\n".intercalate findings))

end SecureKeypad.Release.Merge
