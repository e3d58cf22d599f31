import SecureKeypad.Release.Merge
import SecureKeypad.Release.Soundness

/-!
# The Order of Fragments

What a list of fragments is merged to does not depend on their order. The loop that folds them
succeeds exactly when they fit together, which says nothing of an order, and then its state is
given by the fragments at once; the manifest of two orders differs in the order of fields at most.

## Main results

- `same_of_sameValue`: `sameValue` compares values up to the order of fields
- `mergeFragments_total`: what the loop comes to
- `mergeReleaseEvidence_perm`: the order of fragments, and what is merged of them
-/

namespace SecureKeypad.Release.Merge

/-! ## Values up to the order of their fields -/

section Canonical

variable {localeCompare : String → String → Ordering}

theorem canonicalizeItems_eq (items : List Json) :
    canonicalizeItems localeCompare items = items.map (canonicalize localeCompare) := by
  induction items with
  | nil => rw [canonicalizeItems, List.map_nil]
  | cons item items ih => rw [canonicalizeItems, ih, List.map_cons]

theorem canonicalizeFields_eq (seen : List String) (fields : List (String × Json)) :
    canonicalizeFields localeCompare seen fields =
      (Json.entriesFrom seen fields).map fun field =>
        (field.1, canonicalize localeCompare field.2) := by
  induction fields generalizing seen with
  | nil => rw [canonicalizeFields, Json.entriesFrom, List.map_nil]
  | cons field fields ih =>
    rw [canonicalizeFields, Json.entriesFrom]
    split
    · exact ih seen
    · rw [ih, List.map_cons]

/-- The keys are enumerated in another order. -/
theorem perm_fromEntries (entries : List (String × Json)) : (fromEntries entries).Perm entries := by
  have hnone : (fun entry : String × Json => (arrayIndex? entry.1).isNone) =
      fun entry => !(arrayIndex? entry.1).isSome := by
    funext entry
    cases arrayIndex? entry.1 <;> rfl
  rw [fromEntries, hnone]
  exact ((perm_sortBy _ _ _).append_right _).trans (List.filter_append_perm _ _)

/-- What is looked up in canonical fields. -/
theorem lookup_canonical (fields : List (String × Json)) (key : String) :
    (fromEntries (sortBy localeCompare Prod.fst
      (canonicalizeFields localeCompare [] fields))).lookup key =
      (fields.lookup key).map (canonicalize localeCompare) := by
  have hperm := (perm_fromEntries (sortBy localeCompare Prod.fst
    (canonicalizeFields localeCompare [] fields))).trans (perm_sortBy _ _ _)
  rw [canonicalizeFields_eq] at hperm ⊢
  have hnodup : (((Json.entriesFrom [] fields).map fun field =>
      (field.1, canonicalize localeCompare field.2)).map Prod.fst).Nodup := by
    rw [List.map_map]
    exact Json.nodup_entries fields
  rw [← Json.lookup_perm hperm.symm hnodup, Json.lookup_map]
  exact congrArg _ (Json.lookup_entries fields key)

/-- **A canonical value is the value.** -/
theorem same_canonicalize (value : Json) : Json.Same (canonicalize localeCompare value) value := by
  induction value using Json.induction with
  | arr items ih =>
    rw [canonicalize, canonicalizeItems_eq]
    exact Json.same_arr (List.forall₂_map_left_iff.mpr (List.forall₂_same.mpr ih))
  | obj fields ih =>
    rw [canonicalize]
    refine Json.same_obj fun key => ?_
    rw [lookup_canonical]
    cases hvalue : fields.lookup key with
    | none => exact .none
    | some value => exact .some (ih key value hvalue)
  | _ =>
    rw [canonicalize]
    · exact .refl _
    all_goals exact fun _ => Json.noConfusion

theorem same_of_sameValue {left right : Json} (h : sameValue localeCompare left right = true) :
    Json.Same left right :=
  (same_canonicalize left).symm.trans
    ((Json.same_of_stringify (of_decide_eq_true h)).trans (same_canonicalize right))

theorem sameValue_refl (value : Json) : sameValue localeCompare value value = true :=
  decide_eq_true rfl

theorem sameValue_symm {a b : Json} (h : sameValue localeCompare a b = true) :
    sameValue localeCompare b a = true :=
  decide_eq_true (of_decide_eq_true h).symm

theorem sameValue_trans {a b c : Json} (hab : sameValue localeCompare a b = true)
    (hbc : sameValue localeCompare b c = true) : sameValue localeCompare a c = true :=
  decide_eq_true ((of_decide_eq_true hab).trans (of_decide_eq_true hbc))

end Canonical

/-! ## What the steps of the loop do -/

section Context

variable {localeCompare : String → String → Ordering} {fragment : List (String × Json)}
  {fragmentIndex : ℕ}

/-- A field that the fragment has agrees with the one of the context. -/
def Agrees (localeCompare : String → String → Ordering) (context : String → Option Json)
    (fragment : List (String × Json)) (field : String) : Prop :=
  ∀ first, context field = some first → ∀ value, fragment.lookup field = some value →
    sameValue localeCompare first value = true

theorem addContext_eq_ok {context context' : String → Option Json} {field : String} :
    addContext localeCompare fragment fragmentIndex context field = .ok context' ↔
      Agrees localeCompare context fragment field ∧
        context' = Function.update context field
          ((context field).or (fragment.lookup field)) := by
  unfold addContext Agrees
  split
  · next hnone =>
    simp only [hnone, Option.or_none, Function.update_eq_self, Except.ok.injEq, reduceCtorEq,
      false_imp_iff, implies_true, true_and]
    exact eq_comm
  · next value hvalue =>
    split
    · next hnone =>
      simp only [hnone, hvalue, Option.none_or, Except.ok.injEq, reduceCtorEq, false_imp_iff,
        implies_true, true_and]
      exact eq_comm
    · next first hfirst =>
      split_ifs with hsame
      · simp only [Except.ok.injEq, hfirst, hvalue, Option.some.injEq, forall_eq', hsame, true_and,
          Option.some_or]
        rw [← hfirst, Function.update_eq_self]
        exact eq_comm
      · simp [hfirst, hvalue, hsame]

/-- All fields of the context are added. -/
theorem foldlM_addContext {fields : List String} (hnodup : fields.Nodup)
    {context context' : String → Option Json} :
    fields.foldlM (addContext localeCompare fragment fragmentIndex) context = .ok context' ↔
      (∀ field ∈ fields, Agrees localeCompare context fragment field) ∧
        context' = fun field => if field ∈ fields then (context field).or (fragment.lookup field)
          else context field := by
  induction fields generalizing context with
  | nil => simp [pure, Except.pure, eq_comm]
  | cons field fields ih =>
    obtain ⟨hnew, hnodup⟩ := List.nodup_cons.mp hnodup
    rw [List.foldlM_cons, bind_eq_ok]
    simp only [addContext_eq_ok, ih hnodup, List.forall_mem_cons]
    -- the other fields of the context are as they were
    have hother : ∀ other ∈ fields, ∀ value : Option Json,
        Function.update context field value other = context other := by
      intro other hmem value
      apply Function.update_of_ne
      rintro rfl
      exact hnew hmem
    have hagrees : ∀ value : Option Json,
        (∀ other ∈ fields, Agrees localeCompare (Function.update context field value) fragment
          other) ↔ ∀ other ∈ fields, Agrees localeCompare context fragment other := by
      intro value
      refine forall₂_congr fun other hmem => ?_
      rw [Agrees, hother other hmem, Agrees]
    have hresult : (fun other => if other ∈ fields then
          (Function.update context field ((context field).or (fragment.lookup field)) other).or
            (fragment.lookup other)
        else Function.update context field ((context field).or (fragment.lookup field)) other) =
        fun other => if other ∈ field :: fields then (context other).or (fragment.lookup other)
          else context other := by
      funext other
      by_cases heq : other = field
      · subst heq
        simp [hnew]
      · simp [heq]
    constructor
    · rintro ⟨_, ⟨hfield, rfl⟩, hfields, rfl⟩
      exact ⟨⟨hfield, (hagrees _).mp hfields⟩, hresult⟩
    · rintro ⟨⟨hfield, hfields⟩, rfl⟩
      exact ⟨_, ⟨hfield, rfl⟩, (hagrees _).mpr hfields, hresult.symm⟩

end Context

/-- An item under its name. -/
def named? (kind : ItemKind) (item : Json) : Option (String × Json) :=
  (nameOf? kind item).map fun name => (name, item)

theorem map_fst_named (kind : ItemKind) (items : List Json) :
    (items.filterMap (named? kind)).map Prod.fst = items.filterMap (nameOf? kind) := by
  rw [List.map_filterMap]
  congr 1
  funext item
  cases h : nameOf? kind item <;> simp [named?, h]

theorem addPath_eq_ok {paths paths' : List String} (hpaths : paths.Nodup) {path : Option String} :
    addPath paths path = .ok paths' ↔
      (paths ++ path.toList).Nodup ∧ paths' = paths ++ path.toList := by
  cases path with
  | none => simp [addPath, hpaths, eq_comm]
  | some path =>
    by_cases hmem : path ∈ paths
    · simp [addPath, hmem, List.nodup_append]
    · simp [addPath, hmem, List.nodup_append, hpaths, eq_comm]
      exact fun _ a ha hsame => hmem (hsame ▸ ha)

/-- **The loop over items** succeeds when each has a name, and the names and the paths are new. -/
theorem addItems_eq_ok {kind : ItemKind} {fragmentIndex : ℕ} {seen seen' : List (String × Json)}
    {paths paths' : List String} {items : List Json} (hseen : (seen.map Prod.fst).Nodup)
    (hpaths : paths.Nodup) :
    addItems kind fragmentIndex (seen, paths) items = .ok (seen', paths') ↔
      (∀ item ∈ items, (nameOf? kind item).isSome = true) ∧
        (seen.map Prod.fst ++ items.filterMap (nameOf? kind)).Nodup ∧
        (paths ++ items.filterMap (pathOf? kind)).Nodup ∧
        seen' = seen ++ items.filterMap (named? kind) ∧
        paths' = paths ++ items.filterMap (pathOf? kind) := by
  -- The names and paths seen so far grow with each item.
  induction items generalizing seen paths with
  | nil =>
    simp only [addItems, Except.ok.injEq, Prod.mk.injEq, List.filterMap_nil, List.append_nil, hseen,
      hpaths, List.not_mem_nil, false_imp_iff, implies_true, true_and]
    exact and_congr eq_comm eq_comm
  | cons item items ih =>
    rw [addItems]
    split
    · next hnone => simp [hnone]
    · next name hname =>
      have hnamed : named? kind item = some (name, item) := by rw [named?, hname]; rfl
      have hpathOf : (item :: items).filterMap (pathOf? kind) =
          (pathOf? kind item).toList ++ items.filterMap (pathOf? kind) := by
        rw [List.filterMap_cons]
        cases pathOf? kind item <;> rfl
      rw [hpathOf, List.filterMap_cons_some hname, List.filterMap_cons_some hnamed,
        List.forall_mem_cons, hname]
      split_ifs with hold
      -- The name has been seen: neither side holds.
      · obtain ⟨value, hvalue⟩ := Option.isSome_iff_exists.mp hold
        have hmem : name ∈ seen.map Prod.fst := List.mem_map_of_mem (Json.mem_of_lookup hvalue)
        rw [false_iff]
        rintro ⟨-, hnodup, -⟩
        exact (List.nodup_append.mp hnodup).2.2 name hmem name List.mem_cons_self rfl
      -- A new name: the rest is merged with it among the names seen.
      · have hnew : name ∉ seen.map Prod.fst := by
          intro hmem
          obtain ⟨⟨_, value⟩, hvalue, rfl⟩ := List.mem_map.mp hmem
          exact hold (by rw [Json.lookup_of_mem hseen hvalue]; rfl)
        have hseen' : ((seen ++ [(name, item)]).map Prod.fst).Nodup := by
          rw [List.map_append]
          refine List.nodup_append.mpr ⟨hseen, List.nodup_singleton _, fun a ha b hb hab => ?_⟩
          rw [hab, List.mem_singleton.mp hb] at ha
          exact hnew ha
        rw [bind_eq_ok]
        simp only [addPath_eq_ok hpaths]
        constructor
        · rintro ⟨_, ⟨hpath, rfl⟩, hrest⟩
          rw [ih hseen' hpath] at hrest
          simpa [List.append_assoc] using hrest
        · rintro ⟨⟨-, hvalid⟩, hnames, hpathsNodup, rfl, rfl⟩
          rw [← List.append_assoc] at hpathsNodup
          have hpath := (List.nodup_append.mp hpathsNodup).1
          refine ⟨_, ⟨hpath, rfl⟩, (ih hseen' hpath).mpr ⟨hvalid, ?_, hpathsNodup, ?_, ?_⟩⟩
          · simpa [List.append_assoc] using hnames
          · simp [List.append_assoc]
          · simp [List.append_assoc]

theorem addDescriptor_eq_ok {duplicate : String} {before fragment after : Option Json} :
    addDescriptor duplicate before fragment = .ok after ↔
      (before.toList ++ fragment.toList).length ≤ 1 ∧ after = before.or fragment := by
  cases before <;> cases fragment <;> simp [addDescriptor, eq_comm]

/-! ## Fragments that fit together -/

/-- A field of a fragment. -/
def stated (field : String) : Json → Option Json
  | .obj fields => fields.lookup field
  | _ => none

/-- An array of a fragment. -/
def arrayOf (field : String) (fragment : Json) : List Json :=
  match stated field fragment with
  | some (.arr items) => items
  | _ => []

/-- The safe paths of a fragment, those of its gates first. -/
def pathsOf (fragment : Json) : List String :=
  (arrayOf "gates" fragment).filterMap (pathOf? gateKind) ++
    (arrayOf "artifacts" fragment).filterMap (pathOf? artifactKind)

/-- What the fragments have under a field, in their order. -/
def allStated (field : String) (fragments : List Json) : List Json :=
  fragments.filterMap (stated field)

/-- The items of the arrays of all fragments. -/
def allItems (field : String) (fragments : List Json) : List Json :=
  fragments.flatMap (arrayOf field)

/-- The names of the items of the fragments. -/
def allNames (kind : ItemKind) (field : String) (fragments : List Json) : List String :=
  (allItems field fragments).filterMap (nameOf? kind)

/-- A loop of its own accepts the items. -/
def ValidItems (kind : ItemKind) (field : String) (fragment : Json) : Prop :=
  itemsOf (stated field fragment) = .ok (arrayOf field fragment) ∧
    ∀ item ∈ arrayOf field fragment, (nameOf? kind item).isSome = true

/-- A fragment that can be merged by itself, but for what it has twice. -/
structure WellFormed (fragment : Json) : Prop where
  object : ∃ fields, fragment = .obj fields ∧ isMergeable fields = true
  schema : supportsSchema (stated "schemaVersion" fragment) = true
  gates : ValidItems gateKind "gates" fragment
  artifacts : ValidItems artifactKind "artifacts" fragment

section Mergeable

variable (localeCompare : String → String → Ordering)

/-- **The fragments fit together**, which says nothing of their order. -/
structure Mergeable (fragments : List Json) : Prop where
  wellFormed : ∀ fragment ∈ fragments, WellFormed fragment
  context : ∀ field ∈ contextFields, ∀ a ∈ allStated field fragments,
    ∀ b ∈ allStated field fragments, sameValue localeCompare a b = true
  gates : (allNames gateKind "gates" fragments).Nodup
  artifacts : (allNames artifactKind "artifacts" fragments).Nodup
  paths : (fragments.flatMap pathsOf).Nodup
  signature : (allStated "signature" fragments).length ≤ 1
  independentReview : (allStated "independentReview" fragments).length ≤ 1

end Mergeable

/-- The state behind the fragments. -/
def total (fragments : List Json) : MergeState where
  context field := if field ∈ contextFields then (allStated field fragments).head? else none
  gates := (allItems "gates" fragments).filterMap (named? gateKind)
  artifacts := (allItems "artifacts" fragments).filterMap (named? artifactKind)
  referencedPaths := fragments.flatMap pathsOf
  signature := (allStated "signature" fragments).head?
  independentReview := (allStated "independentReview" fragments).head?

/-! ## The loop over the fragments -/

theorem allStated_concat (field : String) (fragments : List Json) (fragment : Json) :
    allStated field (fragments ++ [fragment]) =
      allStated field fragments ++ (stated field fragment).toList := by
  rw [allStated, List.filterMap_append, allStated]
  cases h : stated field fragment <;> simp [h]

theorem allItems_concat (field : String) (fragments : List Json) (fragment : Json) :
    allItems field (fragments ++ [fragment]) = allItems field fragments ++ arrayOf field fragment := by
  simp [allItems]

theorem allNames_concat (kind : ItemKind) (field : String) (fragments : List Json)
    (fragment : Json) :
    allNames kind field (fragments ++ [fragment]) =
      allNames kind field fragments ++ (arrayOf field fragment).filterMap (nameOf? kind) := by
  rw [allNames, allItems_concat, List.filterMap_append, allNames]

theorem paths_concat (fragments : List Json) (fragment : Json) :
    (fragments ++ [fragment]).flatMap pathsOf = fragments.flatMap pathsOf ++ pathsOf fragment := by
  simp

/-- What comes behind one more fragment. -/
theorem total_concat (fragments : List Json) (fragment : Json) :
    total (fragments ++ [fragment]) =
      { context := fun field => if field ∈ contextFields then
            ((total fragments).context field).or (stated field fragment)
          else (total fragments).context field
        gates := (total fragments).gates ++
          (arrayOf "gates" fragment).filterMap (named? gateKind)
        artifacts := (total fragments).artifacts ++
          (arrayOf "artifacts" fragment).filterMap (named? artifactKind)
        referencedPaths := (total fragments).referencedPaths ++ pathsOf fragment
        signature := (total fragments).signature.or (stated "signature" fragment)
        independentReview :=
          (total fragments).independentReview.or (stated "independentReview" fragment) } := by
  have hhead : ∀ field, (allStated field (fragments ++ [fragment])).head? =
      (allStated field fragments).head?.or (stated field fragment) := by
    intro field
    rw [allStated_concat, List.head?_append]
    cases stated field fragment <;> rfl
  simp only [total, hhead, allItems_concat, List.filterMap_append, paths_concat]
  congr 1
  funext field
  split_ifs <;> rfl

section Loop

variable {localeCompare : String → String → Ordering}

/-- One more fragment fits, when it is well-formed and agrees with those before. -/
theorem mergeable_concat {fragments : List Json} (h : Mergeable localeCompare fragments)
    (fragment : Json) :
    Mergeable localeCompare (fragments ++ [fragment]) ↔
      WellFormed fragment ∧
      (∀ field ∈ contextFields, ∀ first, (allStated field fragments).head? = some first →
        ∀ value, stated field fragment = some value →
          sameValue localeCompare first value = true) ∧
      (allNames gateKind "gates" fragments ++
        (arrayOf "gates" fragment).filterMap (nameOf? gateKind)).Nodup ∧
      (allNames artifactKind "artifacts" fragments ++
        (arrayOf "artifacts" fragment).filterMap (nameOf? artifactKind)).Nodup ∧
      (fragments.flatMap pathsOf ++ pathsOf fragment).Nodup ∧
      (allStated "signature" fragments ++ (stated "signature" fragment).toList).length ≤ 1 ∧
      (allStated "independentReview" fragments ++
        (stated "independentReview" fragment).toList).length ≤ 1 := by
  constructor
  · intro hall
    refine ⟨hall.wellFormed _ (by simp), fun field hfield first hfirst value hvalue => ?_, ?_, ?_,
      ?_, ?_, ?_⟩
    · apply hall.context field hfield
      · rw [allStated_concat]
        exact List.mem_append_left _ (List.mem_of_mem_head? hfirst)
      · rw [allStated_concat, hvalue]
        exact List.mem_append_right _ (List.mem_singleton_self _)
    · exact allNames_concat _ _ _ _ ▸ hall.gates
    · exact allNames_concat _ _ _ _ ▸ hall.artifacts
    · exact paths_concat _ _ ▸ hall.paths
    · exact allStated_concat _ _ _ ▸ hall.signature
    · exact allStated_concat _ _ _ ▸ hall.independentReview
  · intro ⟨hwell, hcontext, hgates, hartifacts, hpaths, hsignature, hreview⟩
    refine ⟨?_, ?_, ?_, ?_, ?_, ?_, ?_⟩
    · intro other hother
      rcases List.mem_append.mp hother with hother | hother
      · exact h.wellFormed other hother
      · rwa [List.mem_singleton.mp hother]
    · intro field hfield
      -- what the fragment states is what all before it state, being what the first does
      have hnew : ∀ a ∈ allStated field fragments, ∀ value, stated field fragment = some value →
          sameValue localeCompare a value = true := by
        intro a ha value hvalue
        cases hhead : (allStated field fragments).head? with
        | none =>
          rw [List.head?_eq_none_iff.mp hhead] at ha
          cases ha
        | some first =>
          exact sameValue_trans (h.context field hfield a ha first (List.mem_of_mem_head? hhead))
            (hcontext field hfield first hhead value hvalue)
      intro a ha b hb
      rw [allStated_concat, List.mem_append, Option.mem_toList] at ha hb
      rcases ha with ha | ha <;> rcases hb with hb | hb
      · exact h.context field hfield a ha b hb
      · exact hnew a ha b hb
      · exact sameValue_symm (hnew b hb a ha)
      · cases Option.some.inj (ha.symm.trans hb)
        exact sameValue_refl a
    · exact (allNames_concat _ _ _ _).symm ▸ hgates
    · exact (allNames_concat _ _ _ _).symm ▸ hartifacts
    · exact (paths_concat _ _).symm ▸ hpaths
    · exact (allStated_concat _ _ _).symm ▸ hsignature
    · exact (allStated_concat _ _ _).symm ▸ hreview

/-- Items that have names are those of an array. -/
theorem eq_arrayOf {kind : ItemKind} {field : String} {fragment : Json} {items : List Json}
    (hitems : itemsOf (stated field fragment) = .ok items)
    (hvalid : ∀ item ∈ items, (nameOf? kind item).isSome = true) :
    items = arrayOf field fragment := by
  unfold arrayOf
  generalize stated field fragment = value at hitems ⊢
  match value with
  | none =>
    cases hitems
    rfl
  | some .null =>
    cases hitems
    rfl
  | some (.arr elements) =>
    cases hitems
    rfl
  | some (.str text) =>
    -- the characters of a text are no items, so there are none of them
    cases hitems
    cases htext : text.toList with
    | nil => rfl
    | cons c rest =>
      rw [htext, List.map_cons] at hvalid
      cases hvalid _ List.mem_cons_self
  | some (.bool _) => cases hitems
  | some (.number _) => cases hitems
  | some (.obj _) => cases hitems

/-- The loop over the items of a fragment. -/
theorem itemsOf_addItems {kind : ItemKind} {field : String} {fragment : Json} {fragmentIndex : ℕ}
    {seen seen' : List (String × Json)} {paths paths' : List String}
    (hseen : (seen.map Prod.fst).Nodup) (hpaths : paths.Nodup) :
    (∃ items, itemsOf (stated field fragment) = .ok items ∧
        addItems kind fragmentIndex (seen, paths) items = .ok (seen', paths')) ↔
      ValidItems kind field fragment ∧
        (seen.map Prod.fst ++ (arrayOf field fragment).filterMap (nameOf? kind)).Nodup ∧
        (paths ++ (arrayOf field fragment).filterMap (pathOf? kind)).Nodup ∧
        seen' = seen ++ (arrayOf field fragment).filterMap (named? kind) ∧
        paths' = paths ++ (arrayOf field fragment).filterMap (pathOf? kind) := by
  constructor
  · intro ⟨items, hitems, hadd⟩
    obtain ⟨hvalid, hrest⟩ := (addItems_eq_ok hseen hpaths).mp hadd
    obtain rfl := eq_arrayOf hitems hvalid
    exact ⟨⟨hitems, hvalid⟩, hrest⟩
  · intro ⟨⟨hitems, hvalid⟩, hrest⟩
    exact ⟨_, hitems, (addItems_eq_ok hseen hpaths).mpr ⟨hvalid, hrest⟩⟩

/-- The rounds of `mergeFragment`, one after the other. -/
theorem mergeFragment_eq_ok {state state' : MergeState} {fields : List (String × Json)}
    {fragmentIndex : ℕ} :
    mergeFragment localeCompare state (.obj fields) fragmentIndex = .ok state' ↔
      supportsSchema (fields.lookup "schemaVersion") = true ∧ isMergeable fields = true ∧
      contextFields.foldlM (addContext localeCompare fields fragmentIndex) state.context =
        .ok state'.context ∧
      ∃ paths,
        (∃ items, itemsOf (stated "gates" (.obj fields)) = .ok items ∧
          addItems gateKind fragmentIndex (state.gates, state.referencedPaths) items =
            .ok (state'.gates, paths)) ∧
        (∃ items, itemsOf (stated "artifacts" (.obj fields)) = .ok items ∧
          addItems artifactKind fragmentIndex (state.artifacts, paths) items =
            .ok (state'.artifacts, state'.referencedPaths)) ∧
        addDescriptor "duplicate release signature descriptor" state.signature
          (fields.lookup "signature") = .ok state'.signature ∧
        addDescriptor "duplicate independent review descriptor" state.independentReview
          (fields.lookup "independentReview") = .ok state'.independentReview := by
  rw [mergeFragment]
  constructor
  · intro hok
    split at hok
    · cases hok
    next hschema =>
    -- The binds in the order of the script, one field of the state each.
    obtain ⟨context, hcontext, hok⟩ := bind_eq_ok.mp hok
    split at hok
    · cases hok
    next hmergeable =>
    obtain ⟨gateItems, hgateItems, hok⟩ := bind_eq_ok.mp hok
    obtain ⟨⟨gates, paths⟩, hgates, hok⟩ := bind_eq_ok.mp hok
    obtain ⟨artifactItems, hartifactItems, hok⟩ := bind_eq_ok.mp hok
    obtain ⟨⟨artifacts, allPaths⟩, hartifacts, hok⟩ := bind_eq_ok.mp hok
    obtain ⟨signature, hsignature, hok⟩ := bind_eq_ok.mp hok
    obtain ⟨review, hreview, hok⟩ := bind_eq_ok.mp hok
    cases hok
    exact ⟨by simpa using hschema, by simpa using hmergeable, hcontext, paths,
      ⟨_, hgateItems, hgates⟩, ⟨_, hartifactItems, hartifacts⟩, hsignature, hreview⟩
  · intro ⟨hschema, hmergeable, hcontext, paths, ⟨gateItems, hgateItems, hgates⟩,
      ⟨artifactItems, hartifactItems, hartifacts⟩, hsignature, hreview⟩
    rw [hschema, hmergeable]
    exact bind_eq_ok.mpr ⟨_, hcontext, bind_eq_ok.mpr ⟨_, hgateItems, bind_eq_ok.mpr
      ⟨_, hgates, bind_eq_ok.mpr ⟨_, hartifactItems, bind_eq_ok.mpr ⟨_, hartifacts, bind_eq_ok.mpr
        ⟨_, hsignature, bind_eq_ok.mpr ⟨_, hreview, rfl⟩⟩⟩⟩⟩⟩⟩

/-- The list without what follows its first element. -/
theorem toList_head?_append {α : Type} {items : List α} {other : Option α}
    (hlength : items.length ≤ 1) :
    (items.head?.toList ++ other.toList).length = (items ++ other.toList).length := by
  match items, hlength with
  | [], _ => rfl
  | [_], _ => rfl

/-- **One round** takes the state behind the fragments to the state behind one more, exactly when
    that one fits. -/
theorem mergeFragment_total {fragments : List Json} (h : Mergeable localeCompare fragments)
    {fragment : Json} {fragmentIndex : ℕ} {state : MergeState} :
    mergeFragment localeCompare (total fragments) fragment fragmentIndex = .ok state ↔
      Mergeable localeCompare (fragments ++ [fragment]) ∧ state = total (fragments ++ [fragment]) := by
  rw [mergeable_concat h, total_concat]
  cases fragment with
  | obj fields =>
    -- What has been seen is what the fragments before state.
    have hgatesSeen : ((total fragments).gates.map Prod.fst) =
        allNames gateKind "gates" fragments := map_fst_named _ _
    have hartifactsSeen : ((total fragments).artifacts.map Prod.fst) =
        allNames artifactKind "artifacts" fragments := map_fst_named _ _
    -- A field of the context agrees if the first fragment that states it says the same.
    have hcontextFields : contextFields.Nodup := by decide
    have hagrees : (∀ field ∈ contextFields,
        Agrees localeCompare (total fragments).context fields field) ↔
        ∀ field ∈ contextFields, ∀ first, (allStated field fragments).head? = some first →
          ∀ value, stated field (.obj fields) = some value →
            sameValue localeCompare first value = true := by
      refine forall₂_congr fun field hfield => ?_
      have hfirst : (total fragments).context field = (allStated field fragments).head? :=
        if_pos hfield
      rw [Agrees, hfirst]
      rfl
    have hpathsSeen : (total fragments).referencedPaths.Nodup := h.paths
    -- One fragment is merged in steps: context, gates, artifacts, signature, review.
    rw [mergeFragment_eq_ok, foldlM_addContext hcontextFields, hagrees]
    simp only [itemsOf_addItems (hgatesSeen ▸ h.gates) hpathsSeen, addDescriptor_eq_ok]
    rw [show (total fragments).signature = (allStated "signature" fragments).head? from rfl,
      show (total fragments).independentReview =
        (allStated "independentReview" fragments).head? from rfl]
    rw [toList_head?_append h.signature, toList_head?_append h.independentReview]
    constructor
    -- Every step has succeeded, so nothing is stated twice, and the state is what they have added.
    · rintro ⟨hschema, hmergeable, ⟨hcontext, hcontextEq⟩, paths,
        ⟨hgates, hgateNames, hgatePaths, hgatesEq, rfl⟩, hartifacts, ⟨hsignature, hsignatureEq⟩,
        hreview, hreviewEq⟩
      obtain ⟨hartifacts, hartifactNames, hpaths, hartifactsEq, hpathsEq⟩ :=
        (itemsOf_addItems (hartifactsSeen ▸ h.artifacts) hgatePaths).mp hartifacts
      rw [hgatesSeen] at hgateNames
      rw [hartifactsSeen] at hartifactNames
      rw [List.append_assoc] at hpaths hpathsEq
      refine ⟨⟨⟨⟨fields, rfl, hmergeable⟩, hschema, hgates, hartifacts⟩, hcontext, hgateNames,
        hartifactNames, hpaths, hsignature, hreview⟩, ?_⟩
      cases state
      cases hcontextEq
      cases hgatesEq
      cases hartifactsEq
      cases hpathsEq
      cases hsignatureEq
      cases hreviewEq
      rfl
    -- Nothing is stated twice, so no step meets a name or a path that has been seen.
    · rintro ⟨⟨hwell, hcontext, hgateNames, hartifactNames, hpaths, hsignature, hreview⟩, rfl⟩
      obtain ⟨fields', heq, hmergeable⟩ := hwell.object
      cases heq
      have hassoc : (fragments.flatMap pathsOf ++
          (arrayOf "gates" (.obj fields)).filterMap (pathOf? gateKind) ++
            (arrayOf "artifacts" (.obj fields)).filterMap (pathOf? artifactKind)).Nodup := by
        rw [List.append_assoc]
        exact hpaths
      have hgatePaths := (List.nodup_append.mp hassoc).1
      refine ⟨hwell.schema, hmergeable, ⟨hcontext, rfl⟩, _,
        ⟨hwell.gates, hgatesSeen.symm ▸ hgateNames, hgatePaths, rfl, rfl⟩,
        (itemsOf_addItems (hartifactsSeen ▸ h.artifacts) hgatePaths).mpr
          ⟨hwell.artifacts, hartifactsSeen.symm ▸ hartifactNames, hassoc, rfl, ?_⟩,
        ⟨hsignature, rfl⟩, hreview, rfl⟩
      exact (List.append_assoc _ _ _).symm
  -- A fragment that is no object is refused before anything else.
  | _ =>
    refine iff_of_false (fun hok => by cases hok) fun hmerged => ?_
    obtain ⟨fields, heq, -⟩ := hmerged.1.1.object
    cases heq

/-- The fragments in front fit together when all do. -/
theorem Mergeable.of_append {fragments rest : List Json}
    (h : Mergeable localeCompare (fragments ++ rest)) : Mergeable localeCompare fragments where
  wellFormed fragment hfragment := h.wellFormed fragment (List.mem_append_left _ hfragment)
  context field hfield a ha b hb := by
    -- What a part states the whole states as well.
    have hsub : ∀ c ∈ allStated field fragments, c ∈ allStated field (fragments ++ rest) := by
      intro c hc
      rw [allStated, List.filterMap_append]
      exact List.mem_append_left _ hc
    exact h.context field hfield a (hsub a ha) b (hsub b hb)
  gates := by
    have hall := h.gates
    rw [allNames, allItems, List.flatMap_append, List.filterMap_append] at hall
    exact (List.nodup_append.mp hall).1
  artifacts := by
    have hall := h.artifacts
    rw [allNames, allItems, List.flatMap_append, List.filterMap_append] at hall
    exact (List.nodup_append.mp hall).1
  paths := by
    have hall := h.paths
    rw [List.flatMap_append] at hall
    exact (List.nodup_append.mp hall).1
  signature := by
    have hall := h.signature
    rw [allStated, List.filterMap_append, List.length_append] at hall
    exact (Nat.le_add_right _ _).trans hall
  independentReview := by
    have hall := h.independentReview
    rw [allStated, List.filterMap_append, List.length_append] at hall
    exact (Nat.le_add_right _ _).trans hall

/-- **The loop** succeeds exactly when the fragments fit together, and then its state is given by
    all of them. -/
theorem mergeFragments_total {fragments rest : List Json} (h : Mergeable localeCompare fragments)
    {fragmentIndex : ℕ} {state : MergeState} :
    mergeFragments localeCompare (total fragments) fragmentIndex rest = .ok state ↔
      Mergeable localeCompare (fragments ++ rest) ∧ state = total (fragments ++ rest) := by
  induction rest generalizing fragments fragmentIndex with
  | nil =>
    rw [mergeFragments, List.append_nil, Except.ok.injEq]
    exact ⟨fun heq => ⟨h, heq.symm⟩, fun hmerged => hmerged.2.symm⟩
  | cons fragment rest ih =>
    rw [mergeFragments, bind_eq_ok]
    simp only [mergeFragment_total h]
    have hassoc : fragments ++ fragment :: rest = (fragments ++ [fragment]) ++ rest := by simp
    rw [hassoc]
    constructor
    · rintro ⟨_, ⟨hfragment, rfl⟩, hrest⟩
      exact (ih hfragment).mp hrest
    · intro hall
      exact ⟨_, ⟨hall.1.of_append, rfl⟩, (ih hall.1.of_append).mpr hall⟩

end Loop

/-- The manifest is merged exactly when the fragments fit together and the validator accepts what
    they come to. -/
theorem mergeReleaseEvidence_eq_ok {localeCompare : String → String → Ordering} {createdAt : String}
    {fragments : List Json} {manifest : List (String × Json)} :
    mergeReleaseEvidence localeCompare fragments createdAt = .ok manifest ↔
      fragments ≠ [] ∧ Mergeable localeCompare fragments ∧
        manifest = mergedManifest localeCompare createdAt (total fragments) ∧
        validateReleaseEvidence (.obj manifest) .empty = some [] := by
  have hempty : Mergeable localeCompare [] := by constructor <;> simp [allStated, allNames, allItems]
  -- The fold starts at what no fragments state.
  have hstate : MergeState.empty = total [] := by
    rw [MergeState.empty, total]
    congr 1
    funext field
    split_ifs <;> rfl
  rw [mergeReleaseEvidence]
  split
  · next hnil => simp [List.isEmpty_iff.mp hnil]
  · next hne =>
    rw [List.isEmpty_iff] at hne
    rw [bind_eq_ok, hstate]
    simp only [mergeFragments_total hempty, List.nil_append]
    constructor
    · rintro ⟨_, ⟨hmergeable, rfl⟩, hok⟩
      split at hok
      · cases hok
      · next hvalid =>
        cases hok
        exact ⟨hne, hmergeable, rfl, hvalid⟩
      · cases hok
    · rintro ⟨-, hmergeable, rfl, hvalid⟩
      refine ⟨_, ⟨hmergeable, rfl⟩, ?_⟩
      rw [hvalid]

/-! ## Fragments in another order -/

section Order

variable {fragments fragments' : List Json} (hperm : fragments.Perm fragments')

include hperm

theorem perm_allStated (field : String) :
    (allStated field fragments).Perm (allStated field fragments') := hperm.filterMap _

theorem perm_allItems (field : String) :
    (allItems field fragments).Perm (allItems field fragments') := hperm.flatMap_right _

theorem perm_allNames (kind : ItemKind) (field : String) :
    (allNames kind field fragments).Perm (allNames kind field fragments') :=
  (perm_allItems hperm field).filterMap _

theorem Mergeable.perm {localeCompare : String → String → Ordering}
    (h : Mergeable localeCompare fragments) : Mergeable localeCompare fragments' where
  wellFormed fragment hfragment := h.wellFormed fragment (hperm.mem_iff.mpr hfragment)
  context field hfield a ha b hb := by
    have hmem := perm_allStated hperm field
    exact h.context field hfield a (hmem.mem_iff.mpr ha) b (hmem.mem_iff.mpr hb)
  gates := (perm_allNames hperm _ _).nodup_iff.mp h.gates
  artifacts := (perm_allNames hperm _ _).nodup_iff.mp h.artifacts
  paths := (hperm.flatMap_right _).nodup_iff.mp h.paths
  signature := (perm_allStated hperm _).length_eq ▸ h.signature
  independentReview := (perm_allStated hperm _).length_eq ▸ h.independentReview

end Order

/-- At most one element is first in any order. -/
theorem head?_eq_of_perm {α : Type} {items items' : List α} (hperm : items.Perm items')
    (hlength : items.length ≤ 1) : items.head? = items'.head? := by
  match items, hlength with
  | [], _ => rw [List.nil_perm.mp hperm]
  | [_], _ => rw [List.perm_singleton.mp hperm.symm]

/-- Items are sorted by name to the same, whatever their order. -/
theorem sortedItems_perm {localeCompare : String → String → Ordering} {kind : ItemKind}
    {items items' : List Json} (hperm : items.Perm items')
    (hnodup : (items.filterMap (nameOf? kind)).Nodup)
    (hlocale : StrictTotalOn localeCompare (items.filterMap (nameOf? kind))) :
    sortedItems localeCompare (items.filterMap (named? kind)) =
      sortedItems localeCompare (items'.filterMap (named? kind)) := by
  rw [← map_fst_named] at hnodup hlocale
  rw [sortedItems, sortedItems, sortBy_eq_of_perm hlocale (hperm.filterMap _) hnodup]

/-! ## The manifest -/

theorem lookup_definedFields {fields : List (String × Option Json)}
    (hnodup : (fields.map Prod.fst).Nodup) (key : String) :
    (definedFields fields).lookup key = (fields.lookup key).join := by
  induction fields with
  | nil => rfl
  | cons field fields ih =>
    obtain ⟨name, value⟩ := field
    obtain ⟨hnew, hrest⟩ := List.nodup_cons.mp hnodup
    have hcons : definedFields ((name, value) :: fields) =
        (value.map fun value => (name, value)).toList ++ definedFields fields := by
      cases value <;> rfl
    rw [hcons, Json.lookup_cons_eq]
    cases value with
    | none =>
      refine (ih hrest).trans ?_
      split
      · next heq =>
        -- Its name occurs once, so no later field answers for an undefined one.
        have hnone : fields.lookup key = none := by
          by_contra hsome
          obtain ⟨_, hvalue⟩ := Option.ne_none_iff_exists'.mp hsome
          rw [heq] at hvalue
          exact hnew (List.mem_map.mpr ⟨_, Json.mem_of_lookup hvalue, rfl⟩)
        rw [hnone]
        rfl
      · rfl
    | some value =>
      refine Json.lookup_cons_eq.trans ?_
      split
      · rfl
      · exact ih hrest

/-- Fields that are the same one by one are defined alike. -/
theorem definedFields_same {fields fields' : List (String × Option Json)}
    (h : List.Forall₂ (fun a b => a.1 = b.1 ∧ Option.Rel Json.Same a.2 b.2) fields fields') :
    List.Forall₂ (fun a b => a.1 = b.1 ∧ Json.Same a.2 b.2) (definedFields fields)
      (definedFields fields') := by
  induction h with
  | nil => exact .nil
  | @cons a b _ _ hfirst _ ih =>
    obtain ⟨name, value⟩ := a
    obtain ⟨name', value'⟩ := b
    obtain ⟨rfl, hvalue⟩ := hfirst
    cases hvalue with
    | none => exact ih
    | some hsame => exact .cons ⟨rfl, hsame⟩ ih

theorem rel_same_refl (value : Option Json) : Option.Rel Json.Same value value := by
  cases value with
  | none => exact .none
  | some value => exact .some (.refl value)

section Manifest

variable {localeCompare : String → String → Ordering} {createdAt : String}

/-- The field of the manifest with a name. -/
theorem lookup_mergedManifest (state : MergeState) (key : String) :
    (mergedManifest localeCompare createdAt state).lookup key =
      (([("schemaVersion", some (.number (.ofNat 1))),
        ("commit", state.context "commit"),
        ("createdAt", some (.str createdAt)),
        ("packageVersion", state.context "packageVersion"),
        ("toolchains", state.context "toolchains"),
        ("gates", some (sortedItems localeCompare state.gates)),
        ("artifacts", some (sortedItems localeCompare state.artifacts)),
        ("signature", state.signature),
        ("independentReview", state.independentReview)] : List (String × Option Json)).lookup
          key).join :=
  lookup_definedFields (by simp) key

/-- A field of the context is that of the first fragment with it, which is the same in any other
    order. -/
theorem total_context_same {fragments fragments' : List Json} (hperm : fragments.Perm fragments')
    (h : Mergeable localeCompare fragments) (field : String) :
    Option.Rel Json.Same ((total fragments).context field) ((total fragments').context field) := by
  unfold total
  by_cases hfield : field ∈ contextFields
  · simp only [if_pos hfield]
    have hmem := perm_allStated hperm field
    cases hfirst : (allStated field fragments).head? with
    | none =>
      rw [List.head?_eq_none_iff] at hfirst
      rw [hfirst] at hmem
      rw [List.nil_perm.mp hmem]
      exact .none
    | some first =>
      cases hfirst' : (allStated field fragments').head? with
      | none =>
        rw [List.head?_eq_none_iff] at hfirst'
        rw [hfirst'] at hmem
        rw [List.perm_nil.mp hmem] at hfirst
        cases hfirst
      | some first' =>
        exact .some (same_of_sameValue (h.context field hfield first
          (List.mem_of_mem_head? hfirst) first'
          (hmem.mem_iff.mpr (List.mem_of_mem_head? hfirst'))))
  · simp only [if_neg hfield]
    exact .none

section Perm

variable {fragments fragments' : List Json} (hperm : fragments.Perm fragments')
  (h : Mergeable localeCompare fragments)
  (hgates : StrictTotalOn localeCompare (allNames gateKind "gates" fragments))
  (hartifacts : StrictTotalOn localeCompare (allNames artifactKind "artifacts" fragments))

include hperm h hgates hartifacts

/-- **The manifest of another order**: the context may differ in the order of its fields. -/
theorem mergedManifest_perm :
    Json.Same (.obj (mergedManifest localeCompare createdAt (total fragments)))
        (.obj (mergedManifest localeCompare createdAt (total fragments'))) ∧
      ∀ key, key ∉ contextFields →
        (mergedManifest localeCompare createdAt (total fragments)).lookup key =
          (mergedManifest localeCompare createdAt (total fragments')).lookup key := by
  -- Sorting forgets the order; of a descriptor there is one at most.
  have hgatesEq : sortedItems localeCompare (total fragments).gates =
      sortedItems localeCompare (total fragments').gates :=
    sortedItems_perm (perm_allItems hperm "gates") h.gates hgates
  have hartifactsEq : sortedItems localeCompare (total fragments).artifacts =
      sortedItems localeCompare (total fragments').artifacts :=
    sortedItems_perm (perm_allItems hperm "artifacts") h.artifacts hartifacts
  have hsignature : (total fragments).signature = (total fragments').signature :=
    head?_eq_of_perm (perm_allStated hperm _) h.signature
  have hreview : (total fragments).independentReview = (total fragments').independentReview :=
    head?_eq_of_perm (perm_allStated hperm _) h.independentReview
  have hcontext := total_context_same hperm h
  constructor
  · apply Json.same_obj
    apply Json.entry_lookup
    apply definedFields_same
    simp only [List.forall₂_cons, List.forall₂_nil_right_iff, hgatesEq, hartifactsEq, hsignature,
      hreview, hcontext, rel_same_refl, and_true]
  · intro key hkey
    simp only [contextFields, List.mem_cons, List.not_mem_nil, or_false, not_or] at hkey
    obtain ⟨hcommit, hversion, htoolchains⟩ := hkey
    simp only [lookup_mergedManifest, Json.lookup_cons_eq, hgatesEq, hartifactsEq, hsignature,
      hreview, if_neg hcommit, if_neg hversion, if_neg htoolchains]

end Perm

end Manifest

/-! ## What the validator accepts of it -/

theorem noSecretKeys_of_same {a : Json} : ∀ {b : Json}, Json.Same a b → NoSecretKeys a →
    NoSecretKeys b := by
  induction a using Json.induction with
  -- Equal values agree at every step, so the items pair up by index and the fields by key.
  | arr items ih =>
    intro b hsame h
    obtain ⟨hshape, hsteps⟩ := Json.same_iff.mp hsame
    cases b with
    | arr items' =>
      refine noSecretKeys_arr.mpr fun item' hitem' => ?_
      obtain ⟨i, hi⟩ := List.mem_iff_getElem?.mp hitem'
      have hstep : Option.Rel Json.Same items[i]? items'[i]? := hsteps (.index i)
      rw [hi] at hstep
      generalize hitem : items[i]? = found at hstep
      cases hstep with
      | some hsameItem =>
        have hmem := List.mem_of_getElem? hitem
        exact ih _ hmem hsameItem (noSecretKeys_arr.mp h _ hmem)
    | _ => cases hshape
  | obj fields ih =>
    intro b hsame h
    obtain ⟨hshape, hsteps⟩ := Json.same_iff.mp hsame
    cases b with
    | obj fields' =>
      refine noSecretKeys_obj.mpr fun key nested' hnested' => ?_
      have hstep := hsame.lookup key
      rw [hnested'] at hstep
      generalize hnested : fields.lookup key = found at hstep
      cases hstep with
      | some hsameNested =>
        obtain ⟨hkey, hnestedKeys⟩ := noSecretKeys_obj.mp h key _ hnested
        exact ⟨hkey, ih key _ hnested hsameNested hnestedKeys⟩
    | _ => cases hshape
  | _ =>
    intro b hsame _
    obtain ⟨hshape, -⟩ := Json.same_iff.mp hsame
    cases b with
    | arr => cases hshape
    | obj => cases hshape
    | _ =>
      intro fields hwithin
      cases hwithin

/-- A text is found in the same object as well. -/
theorem lookup_str_of_same {fields fields' : List (String × Json)} {key text : String}
    (hsame : Json.Same (.obj fields) (.obj fields')) (h : fields.lookup key = some (.str text)) :
    fields'.lookup key = some (.str text) := by
  have hstep := hsame.lookup key
  rw [h] at hstep
  generalize fields'.lookup key = found at hstep ⊢
  cases hstep with
  | some hvalue => rw [hvalue.symm.eq_str]

/-- Manifests that differ in the order of the fields of their contexts are accepted alike. -/
theorem accepted_of_same {context : Context} {fields fields' : List (String × Json)}
    (hsame : Json.Same (.obj fields) (.obj fields'))
    (heq : ∀ key, key ∉ contextFields → fields.lookup key = fields'.lookup key)
    (h : validateReleaseEvidence (.obj fields) context = some []) :
    validateReleaseEvidence (.obj fields') context = some [] := by
  obtain ⟨commit, version, gates, artifacts, signature, review, h⟩ :=
    validateReleaseEvidence_eq_nil_iff.mp h
  refine validateReleaseEvidence_eq_nil_iff.mpr
    ⟨commit, version, gates, artifacts, signature, review, ?_⟩
  -- Of the fields the context states only the toolchains are read below their top.
  have htoolchains : ∃ toolchains, fields'.lookup "toolchains" = some (.obj toolchains) ∧
      ∀ required ∈ requiredReleaseToolchains,
        toolchains.lookup required.1 = some (.str required.2) := by
    obtain ⟨toolchains, hlookup, hrequired⟩ := h.toolchains
    have hstep := hsame.lookup "toolchains"
    rw [hlookup] at hstep
    generalize fields'.lookup "toolchains" = found at hstep ⊢
    cases hstep with
    | some hvalue =>
      obtain ⟨toolchains', rfl⟩ := hvalue.symm.eq_obj
      exact ⟨toolchains', rfl, fun required hmem => lookup_str_of_same hvalue (hrequired _ hmem)⟩
  exact
    { h with
      noSecretKeys := noSecretKeys_of_same hsame h.noSecretKeys
      schemaVersion := heq "schemaVersion" (by decide) ▸ h.schemaVersion
      commit_eq := lookup_str_of_same hsame h.commit_eq
      createdAt := heq "createdAt" (by decide) ▸ h.createdAt
      version_eq := lookup_str_of_same hsame h.version_eq
      toolchains := htoolchains
      gates_eq := heq "gates" (by decide) ▸ h.gates_eq
      artifacts_eq := heq "artifacts" (by decide) ▸ h.artifacts_eq
      signature_eq := heq "signature" (by decide) ▸ h.signature_eq
      review_eq := heq "independentReview" (by decide) ▸ h.review_eq }

/-! ## The order of fragments -/

/-- Both orders throw, or both are merged to the same. -/
inductive SameResult :
    Except Failure (List (String × Json)) → Except Failure (List (String × Json)) → Prop
  | throws (failure failure' : Failure) : SameResult (.error failure) (.error failure')
  | merges {manifest manifest' : List (String × Json)} :
      Json.Same (.obj manifest) (.obj manifest') → SameResult (.ok manifest) (.ok manifest')

/-- The items of a manifest are those of the fragments, none of them changed, dropped or doubled. -/
def UnionOf (kind : ItemKind) (field : String) (fragments : List Json)
    (manifest : List (String × Json)) : Prop :=
  ∃ items, manifest.lookup field = some (.arr items) ∧ items.Perm (allItems field fragments) ∧
    (items.map (nameOf? kind)).Nodup

/-- What a manifest has of the fragments it was merged from. -/
structure MergedFrom (fragments : List Json) (manifest : List (String × Json)) : Prop where
  gates : UnionOf gateKind "gates" fragments manifest
  artifacts : UnionOf artifactKind "artifacts" fragments manifest
  /-- One fragment has the descriptor, and it is passed through. -/
  descriptors : ∀ field ∈ ["signature", "independentReview"], ∃ descriptor,
    manifest.lookup field = some descriptor ∧ allStated field fragments = [descriptor]
  context : ∀ field ∈ contextFields, ∃ value, manifest.lookup field = some value ∧
    value ∈ allStated field fragments ∧
    ∀ other ∈ allStated field fragments, Json.Same value other

/-- Items that all have one are what is found of them. -/
theorem map_eq_some_filterMap {α β : Type} {f : α → Option β} {items : List α}
    (h : ∀ item ∈ items, (f item).isSome = true) : items.map f = (items.filterMap f).map some := by
  induction items with
  | nil => rfl
  | cons item items ih =>
    obtain ⟨hitem, hitems⟩ := List.forall_mem_cons.mp h
    obtain ⟨value, hvalue⟩ := Option.isSome_iff_exists.mp hitem
    rw [List.map_cons, List.filterMap_cons_some hvalue, List.map_cons, ih hitems, hvalue]

section Merged

variable {localeCompare : String → String → Ordering} {createdAt : String}
  {fragments : List Json}

/-- Items that all have names, in the order of these. -/
theorem unionOf_merged {kind : ItemKind} {field : String}
    (hvalid : ∀ fragment ∈ fragments, ValidItems kind field fragment)
    (hnodup : (allNames kind field fragments).Nodup)
    (hlookup : (mergedManifest localeCompare createdAt (total fragments)).lookup field =
      some (sortedItems localeCompare ((allItems field fragments).filterMap (named? kind)))) :
    UnionOf kind field fragments (mergedManifest localeCompare createdAt (total fragments)) := by
  have hall : ∀ item ∈ allItems field fragments, (nameOf? kind item).isSome = true := by
    intro item hitem
    obtain ⟨fragment, hfragment, hmem⟩ := List.mem_flatMap.mp hitem
    exact (hvalid fragment hfragment).2 item hmem
  have hitems : ((allItems field fragments).filterMap (named? kind)).map Prod.snd =
      allItems field fragments := by
    rw [List.map_filterMap]
    refine (List.filterMap_congr fun item hitem => ?_).trans List.filterMap_some
    obtain ⟨name, hname⟩ := Option.isSome_iff_exists.mp (hall item hitem)
    rw [named?, hname]
    rfl
  have hunion : ((sortBy localeCompare Prod.fst
      ((allItems field fragments).filterMap (named? kind))).map Prod.snd).Perm
        (allItems field fragments) := by
    have hsorted := (perm_sortBy localeCompare Prod.fst
      ((allItems field fragments).filterMap (named? kind))).map Prod.snd
    rwa [hitems] at hsorted
  refine ⟨_, hlookup, hunion, (hunion.map _).nodup_iff.mpr ?_⟩
  rw [map_eq_some_filterMap hall]
  exact hnodup.map (Option.some_injective _)

variable (h : Mergeable localeCompare fragments)

include h

/-- **What is merged**, once the validator has accepted it. -/
theorem mergedFrom (hvalid : validateReleaseEvidence
      (.obj (mergedManifest localeCompare createdAt (total fragments))) .empty = some []) :
    MergedFrom fragments (mergedManifest localeCompare createdAt (total fragments)) := by
  obtain ⟨commit, version, gates, artifacts, signature, review, haccepted⟩ :=
    validateReleaseEvidence_eq_nil_iff.mp hvalid
  have hlookup := @lookup_mergedManifest localeCompare createdAt (total fragments)
  -- The merge keeps at most one descriptor of each kind, and the validator demands one.
  have hdescriptor : ∀ {descriptors : List Json} {descriptor : Json}, descriptors.length ≤ 1 →
      descriptors.head? = some descriptor → descriptors = [descriptor] := by
    intro descriptors descriptor hlength hhead
    match descriptors, hlength with
    | [_], _ => rw [Option.some.inj hhead]
  refine ⟨unionOf_merged (fun fragment hmem => (h.wellFormed fragment hmem).gates) h.gates
      (hlookup "gates"),
    unionOf_merged (fun fragment hmem => (h.wellFormed fragment hmem).artifacts) h.artifacts
      (hlookup "artifacts"), ?_, ?_⟩
  · simp only [List.forall_mem_cons, List.not_mem_nil, false_imp_iff, implies_true, and_true]
    have hsignature := haccepted.signature_eq
    have hreview := haccepted.review_eq
    refine ⟨⟨_, hsignature, ?_⟩, _, hreview, ?_⟩
    · exact hdescriptor h.signature ((hlookup "signature").symm.trans hsignature)
    · exact hdescriptor h.independentReview ((hlookup "independentReview").symm.trans hreview)
  -- The validator demands the fields of the context, so each was stated by some fragment.
  · have hstated : ∀ field ∈ contextFields, ∃ value,
        (mergedManifest localeCompare createdAt (total fragments)).lookup field = some value := by
      obtain ⟨toolchains, htoolchains, -⟩ := haccepted.toolchains
      simp only [contextFields, List.forall_mem_cons, List.not_mem_nil, false_imp_iff,
        implies_true, and_true]
      exact ⟨⟨_, haccepted.commit_eq⟩, ⟨_, haccepted.version_eq⟩, _, htoolchains⟩
    have hcontext : ∀ field ∈ contextFields,
        (mergedManifest localeCompare createdAt (total fragments)).lookup field =
          (allStated field fragments).head? := by
      simp only [contextFields, List.forall_mem_cons, List.not_mem_nil, false_imp_iff,
        implies_true, and_true]
      exact ⟨hlookup "commit", hlookup "packageVersion", hlookup "toolchains"⟩
    intro field hfield
    obtain ⟨value, hvalue⟩ := hstated field hfield
    have hmem := List.mem_of_mem_head? ((hcontext field hfield).symm.trans hvalue)
    exact ⟨value, hvalue, hmem, fun other hother =>
      same_of_sameValue (h.context field hfield value hmem other hother)⟩

end Merged

section Order

variable {localeCompare : String → String → Ordering} {createdAt : String}
  {fragments fragments' : List Json} (hperm : fragments.Perm fragments')
  (hgates : StrictTotalOn localeCompare (allNames gateKind "gates" fragments))
  (hartifacts : StrictTotalOn localeCompare (allNames artifactKind "artifacts" fragments))

include hperm hgates hartifacts

/-- What one order is merged to, the other one is merged to as well. -/
theorem exists_merged_of_perm {manifest : List (String × Json)}
    (hmerged : mergeReleaseEvidence localeCompare fragments createdAt = .ok manifest) :
    ∃ manifest', mergeReleaseEvidence localeCompare fragments' createdAt = .ok manifest' ∧
      Json.Same (.obj manifest) (.obj manifest') := by
  obtain ⟨hne, h, rfl, hvalid⟩ := mergeReleaseEvidence_eq_ok.mp hmerged
  obtain ⟨hsame, heq⟩ := @mergedManifest_perm localeCompare createdAt _ _ hperm h hgates hartifacts
  have hne' : fragments' ≠ [] := by
    rintro rfl
    exact hne (List.perm_nil.mp hperm)
  exact ⟨_, mergeReleaseEvidence_eq_ok.mpr
    ⟨hne', h.perm hperm, rfl, accepted_of_same hsame heq hvalid⟩, hsame⟩

end Order

/-- **The order of fragments does not matter**: in two orders, both are refused, or both are merged
    to the same manifest; and it is made of the fragments' gates, artifacts, descriptors and
    context, as they are. -/
theorem mergeReleaseEvidence_perm {localeCompare : String → String → Ordering} {createdAt : String}
    {fragments fragments' : List Json} (hperm : fragments.Perm fragments')
    (hgates : StrictTotalOn localeCompare (allNames gateKind "gates" fragments))
    (hartifacts : StrictTotalOn localeCompare (allNames artifactKind "artifacts" fragments)) :
    SameResult (mergeReleaseEvidence localeCompare fragments createdAt)
        (mergeReleaseEvidence localeCompare fragments' createdAt) ∧
      ∀ manifest, mergeReleaseEvidence localeCompare fragments createdAt = .ok manifest →
        MergedFrom fragments manifest := by
  constructor
  · cases hmerged : mergeReleaseEvidence localeCompare fragments createdAt with
    | ok manifest =>
      obtain ⟨manifest', hmerged', hsame⟩ :=
        exists_merged_of_perm hperm hgates hartifacts hmerged
      rw [hmerged']
      exact .merges hsame
    | error failure =>
      cases hmerged' : mergeReleaseEvidence localeCompare fragments' createdAt with
      | error failure' => exact .throws failure failure'
      | ok manifest' =>
        -- the first order is one of the second's
        obtain ⟨manifest, hok, -⟩ := exists_merged_of_perm hperm.symm
          (hgates.mono fun _ hname => (perm_allNames hperm _ _).mem_iff.mpr hname)
          (hartifacts.mono fun _ hname => (perm_allNames hperm _ _).mem_iff.mpr hname) hmerged'
        rw [hmerged] at hok
        cases hok
  · intro manifest hmerged
    obtain ⟨-, h, rfl, hvalid⟩ := mergeReleaseEvidence_eq_ok.mp hmerged
    exact mergedFrom h hvalid

/-- A comparison by code points orders all names. -/
theorem strictTotalOn_compare (names : List String) : StrictTotalOn compare names where
  eq_iff _ _ _ _ := Std.LawfulEqOrd.compare_eq_iff_eq
  swap _ _ _ _ := Std.OrientedOrd.eq_swap
  trans _ _ _ _ _ _ hab hbc := Std.TransCmp.lt_trans hab hbc

/-- The fragment of a build: most of the gates, and the release. -/
def buildFragment (commit : String) : Json :=
  .obj [("schemaVersion", .number (.ofNat 1)), ("commit", .str commit),
    ("toolchains", .obj (requiredReleaseToolchains.map fun entry => (entry.1, .str entry.2))),
    ("gates", .arr ((requiredReleaseGates.drop 5).map fun name => .obj (gateOf commit name))),
    ("artifacts", .arr (requiredArtifacts.map fun kind => .obj (artifactOf kind))),
    ("signature", .obj (descriptorOf signatureKinds (repeated 64 'c')))]

/-- The fragment of a review: the other gates, and the toolchains in another order. -/
def reviewFragment (commit : String) : Json :=
  .obj [("packageVersion", .str "0.1.0"),
    ("toolchains",
      .obj (requiredReleaseToolchains.reverse.map fun entry => (entry.1, .str entry.2))),
    ("gates", .arr ((requiredReleaseGates.take 5).map fun name => .obj (gateOf commit name))),
    ("independentReview", .obj (reviewOf commit "0.1.0" (repeated 64 'd')))]

/-- A build and its review are merged in either order. -/
theorem build_and_review_merged :
    (mergeReleaseEvidence compare [buildFragment (repeated 40 'a'), reviewFragment (repeated 40 'a')]
        "2026-08-21T00:00:00.000Z").isOk = true ∧
      SameResult
        (mergeReleaseEvidence compare
          [buildFragment (repeated 40 'a'), reviewFragment (repeated 40 'a')]
          "2026-08-21T00:00:00.000Z")
        (mergeReleaseEvidence compare
          [reviewFragment (repeated 40 'a'), buildFragment (repeated 40 'a')]
          "2026-08-21T00:00:00.000Z") := by
  constructor
  · decide +kernel
  · have hperm := List.Perm.swap (reviewFragment (repeated 40 'a'))
      (buildFragment (repeated 40 'a')) []
    exact (@mergeReleaseEvidence_perm compare "2026-08-21T00:00:00.000Z" _ _ hperm
      (strictTotalOn_compare _) (strictTotalOn_compare _)).1

end SecureKeypad.Release.Merge
