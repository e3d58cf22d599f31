import SecureKeypad.Library.ObjectGraph
import SecureKeypad.Web.Base64Url

/-!
# Copying WebAuthn Extensions (`packages/web`)

Embeds `copyBoundedExtensionValue` and `copyRecord`. A value is a primitive or a reference into a
memory of arrays and plain objects, which may be shared and cyclic. The copies of an array or an
object are allocated when they are complete; until then nothing but the call that makes them has
them. Holes of arrays, getters and proxies are left out.

## Main results

- `copyBoundedExtensionValue_visits`: at most 257 nodes are visited, in every graph
- `copyRecord_unfolds`: what of the finite trees is copied, and what the copy is
-/

namespace SecureKeypad.Web

open ObjectGraph

def maxWebauthnExtensionDepth : ℕ := 4
def maxWebauthnExtensionNodes : ℕ := 256
def maxWebauthnExtensionKeys : ℕ := 32
def maxWebauthnExtensionStringLength : ℕ := 2048

/-- A number, as the 64 bits of its double. -/
abbrev Double := BitVec 64

/-- `Number.isFinite`: not all bits of the exponent are set. -/
def Double.isFinite (number : Double) : Bool := number.extractLsb' 52 11 != BitVec.allOnes 11

/-- The values that are not arrays and not objects. -/
inductive Primitive where
  | undefined
  | null
  | boolean (value : Bool)
  | string (value : JsString)
  | number (value : Double)
  /-- A symbol, a bigint or a function. -/
  | other
deriving DecidableEq

abbrev JsValue := Value Primitive
abbrev JsMemory := Memory Primitive JsString

/-- The memory, and `budget.nodes`, which is one more after each visit of a node. -/
structure CopyState where
  memory : JsMemory
  nodes : ℕ

/-- A computation that may throw; what it did to the state before stays. -/
abbrev CopyM := ExceptT WebAuthnClientError (StateM CopyState)

/-- The keys that are never copied. -/
def isForbiddenKey (key : JsString) : Bool :=
  key.length > 128 || key == codeUnits "__proto__" || key == codeUnits "constructor" ||
    key == codeUnits "prototype"

/-- A new array or object. -/
def allocate (object : Object Primitive JsString) : CopyM JsValue := do
  let state ← get
  let (reference, memory) := state.memory.alloc object
  set { state with memory }
  return reference

/-- `budget.nodes += 1`. -/
def countNode : CopyM ℕ := do
  modify fun state => { state with nodes := state.nodes + 1 }
  return (← get).nodes

section Copy

variable (field : String) (errorCode : ErrorCode)

/-- The branches of `copyBoundedExtensionValue` on what is no array and no object. -/
def copyPrimitive (primitive : Primitive) : CopyM JsValue :=
  match primitive with
  | .null | .boolean _ => return .leaf primitive
  | .string text =>
    if text.length > maxWebauthnExtensionStringLength then
      throw ⟨errorCode, field ++ " is too large"⟩
    else return .leaf primitive
  | .number number =>
    if !number.isFinite then throw ⟨errorCode, field ++ " is invalid"⟩
    else return .leaf primitive
  | .undefined | .other => throw ⟨errorCode, field ++ " is invalid"⟩

/-- The loop over the keys of an object. -/
def copyEntries (copy : JsValue → CopyM JsValue) :
    Record Primitive JsString → List (JsString × JsValue) → CopyM (Record Primitive JsString)
  | result, [] => return result
  | result, (key, value) :: rest =>
    if isForbiddenKey key then throw ⟨errorCode, field ++ " has an invalid key"⟩
    else do
      let copied ← copy value
      copyEntries copy (result.assign key copied) rest

/-- The branches of `copyBoundedExtensionValue` on an array and on an object, where `copy` is its
    call on an entry. -/
def copyObject (copy : JsValue → CopyM JsValue) : Object Primitive JsString → CopyM JsValue
  | .array items =>
    if items.length > maxWebauthnExtensionKeys then throw ⟨errorCode, field ++ " is too large"⟩
    else do
      let copied ← items.mapM copy
      allocate (.array copied)
  | .record properties =>
    if properties.entries.length > maxWebauthnExtensionKeys then
      throw ⟨errorCode, field ++ " has too many keys"⟩
    else do
      let result ← copyEntries field errorCode copy .empty properties.entries
      allocate (.record result)

end Copy

/-- `copyBoundedExtensionValue`. -/
def copyBoundedExtensionValue (value : JsValue) (field : String) (errorCode : ErrorCode)
    (depth : ℕ) : CopyM JsValue := do
  let nodes ← countNode
  if _ : nodes > maxWebauthnExtensionNodes ∨ depth > maxWebauthnExtensionDepth then
    throw ⟨errorCode, field ++ " is too complex"⟩
  else
    match value with
    | .leaf primitive => copyPrimitive field errorCode primitive
    | .ref address =>
      let state ← get
      copyObject field errorCode
        (fun entry => copyBoundedExtensionValue entry field errorCode (depth + 1))
        (state.memory.object address)
termination_by maxWebauthnExtensionDepth + 1 - depth
decreasing_by omega

/-- `isRecord`. -/
def isRecord (memory : JsMemory) : JsValue → Bool
  | .leaf _ => false
  | .ref address =>
    match memory.object address with
    | .array _ => false
    | .record _ => true

/-- `copyRecord`, with the memory it leaves behind and how many nodes were visited. -/
def copyRecord (value : JsValue) (field : String) (errorCode : ErrorCode) (memory : JsMemory) :
    Except WebAuthnClientError (Option JsValue) × CopyState :=
  if value = .leaf .undefined then (.ok none, ⟨memory, 0⟩)
  else if !isRecord memory value then
    (.error ⟨errorCode, "WebAuthn " ++ field ++ " is invalid"⟩, ⟨memory, 0⟩)
  else
    match copyBoundedExtensionValue value field errorCode 0 ⟨memory, 0⟩ with
    | (.error error, state) => (.error error, state)
    | (.ok result, state) =>
      if !isRecord state.memory result then
        (.error ⟨errorCode, "WebAuthn " ++ field ++ " is invalid"⟩, state)
      else (.ok (some result), state)

/-! ## One call -/

section Steps

variable {α β : Type} {field : String} {errorCode : ErrorCode} {depth : ℕ} {s s' : CopyState}

theorem bind_ok {x : CopyM α} {f : α → CopyM β} {a : α} (h : x s = (.ok a, s')) :
    (x >>= f) s = f a s' := by
  change ExceptT.bindCont f (x s).1 (x s).2 = _
  rw [h]
  rfl

theorem bind_error {x : CopyM α} {f : α → CopyM β} {error : WebAuthnClientError}
    (h : x s = (.error error, s')) : (x >>= f) s = (.error error, s') := by
  change ExceptT.bindCont f (x s).1 (x s).2 = _
  rw [h]
  rfl

/-- The state after one more visit. -/
def CopyState.visit (s : CopyState) : CopyState := { s with nodes := s.nodes + 1 }

/-- Whether a visit is one too many, or too deep. -/
abbrev TooComplex (depth : ℕ) (s : CopyState) : Prop :=
  s.nodes + 1 > maxWebauthnExtensionNodes ∨ depth > maxWebauthnExtensionDepth

theorem copy_complex (value : JsValue) (h : TooComplex depth s) :
    copyBoundedExtensionValue value field errorCode depth s =
      (.error ⟨errorCode, field ++ " is too complex"⟩, s.visit) := by
  have hcount : countNode s = (.ok (s.nodes + 1), s.visit) := rfl
  rw [copyBoundedExtensionValue.eq_def, bind_ok hcount, dif_pos h]
  rfl

theorem copy_leaf (primitive : Primitive) (h : ¬ TooComplex depth s) :
    copyBoundedExtensionValue (.leaf primitive) field errorCode depth s =
      copyPrimitive field errorCode primitive s.visit := by
  have hcount : countNode s = (.ok (s.nodes + 1), s.visit) := rfl
  rw [copyBoundedExtensionValue.eq_def, bind_ok hcount, dif_neg h]

theorem copy_ref (address : ℕ) (h : ¬ TooComplex depth s) :
    copyBoundedExtensionValue (.ref address) field errorCode depth s =
      copyObject field errorCode
        (fun entry => copyBoundedExtensionValue entry field errorCode (depth + 1))
        (s.memory.object address) s.visit := by
  have hcount : countNode s = (.ok (s.nodes + 1), s.visit) := rfl
  rw [copyBoundedExtensionValue.eq_def, bind_ok hcount, dif_neg h]
  rfl

theorem allocate_eq (object : Object Primitive JsString) (s : CopyState) :
    allocate object s =
      (.ok (.ref s.memory.next), { s with memory := (s.memory.alloc object).2 }) := rfl

end Steps

/-! ## Visits -/

section Visits

variable {α β : Type} {field : String} {errorCode : ErrorCode} {s : CopyState}

/-- At most 257 nodes were visited, and where nothing was thrown at most 256. -/
def WithinBudget (outcome : Except WebAuthnClientError α × CopyState) : Prop :=
  outcome.2.nodes ≤ 257 ∧ ∀ a, outcome.1 = .ok a → outcome.2.nodes ≤ 256

theorem WithinBudget.of_le {outcome : Except WebAuthnClientError α × CopyState}
    (h : outcome.2.nodes ≤ 256) : WithinBudget outcome :=
  ⟨h.trans (Nat.le_succ _), fun _ _ => h⟩

theorem WithinBudget.bind {x : CopyM α} {f : α → CopyM β} (hx : WithinBudget (x s))
    (hf : ∀ a s', s'.nodes ≤ 256 → WithinBudget (f a s')) : WithinBudget ((x >>= f) s) := by
  rcases hrun : x s with ⟨error | a, s'⟩
  · rw [hrun] at hx
    rw [bind_error hrun]
    exact ⟨hx.1, nofun⟩
  · rw [hrun] at hx
    rw [bind_ok hrun]
    exact hf a s' (hx.2 a rfl)

variable {copy : JsValue → CopyM JsValue}

theorem mapM_within (hcopy : ∀ value s, s.nodes ≤ 256 → WithinBudget (copy value s))
    (items : List JsValue) (hs : s.nodes ≤ 256) : WithinBudget (items.mapM copy s) := by
  induction items generalizing s with
  | nil => exact .of_le hs
  | cons item items ih =>
    rw [List.mapM_cons]
    refine (hcopy item s hs).bind fun copied s' hs' => (ih hs').bind fun rest s'' hs'' => ?_
    exact .of_le hs''

theorem copyEntries_within (hcopy : ∀ value s, s.nodes ≤ 256 → WithinBudget (copy value s))
    (result : Record Primitive JsString) (entries : List (JsString × JsValue))
    (hs : s.nodes ≤ 256) : WithinBudget (copyEntries field errorCode copy result entries s) := by
  induction entries generalizing result s with
  | nil => exact .of_le hs
  | cons entry entries ih =>
    rw [copyEntries]
    split
    · exact .of_le hs
    · exact (hcopy entry.2 s hs).bind fun copied s' hs' => ih _ hs'

theorem copyObject_within (hcopy : ∀ value s, s.nodes ≤ 256 → WithinBudget (copy value s))
    (object : Object Primitive JsString) (hs : s.nodes ≤ 256) :
    WithinBudget (copyObject field errorCode copy object s) := by
  cases object with
  | array items =>
    rw [copyObject]
    split
    · exact .of_le hs
    · exact (mapM_within hcopy items hs).bind fun copied s' hs' => .of_le hs'
  | record properties =>
    rw [copyObject]
    split
    · exact .of_le hs
    · exact (copyEntries_within hcopy _ _ hs).bind fun result s' hs' => .of_le hs'

theorem copyPrimitive_nodes (primitive : Primitive) :
    (copyPrimitive field errorCode primitive s).2.nodes = s.nodes := by
  unfold copyPrimitive
  split
  · rfl
  · rfl
  · split <;> rfl
  · split <;> rfl
  · rfl
  · rfl

/-- **The visits** are bounded in every graph: five levels down nothing is visited any more, and
    the 257th visit throws. -/
theorem copyBoundedExtensionValue_within (value : JsValue) (depth : ℕ) (hs : s.nodes ≤ 256) :
    WithinBudget (copyBoundedExtensionValue value field errorCode depth s) := by
  -- By induction on the levels that are left, not on the value, which may be cyclic.
  obtain ⟨levels, hlevels⟩ : ∃ levels, maxWebauthnExtensionDepth + 1 - depth = levels := ⟨_, rfl⟩
  induction levels generalizing value depth s with
  | zero =>
    have hdeep : TooComplex depth s := .inr (Nat.lt_of_succ_le (Nat.sub_eq_zero_iff_le.mp hlevels))
    rw [copy_complex value hdeep]
    exact ⟨Nat.succ_le_succ hs, nofun⟩
  | succ levels ih =>
    by_cases hcomplex : TooComplex depth s
    · rw [copy_complex value hcomplex]
      exact ⟨Nat.succ_le_succ hs, nofun⟩
    · have hvisit : s.visit.nodes ≤ 256 := Nat.le_of_not_lt fun hgt => hcomplex (.inl hgt)
      cases value with
      | leaf primitive =>
        rw [copy_leaf primitive hcomplex]
        refine .of_le ?_
        rw [copyPrimitive_nodes]
        exact hvisit
      | ref address =>
        rw [copy_ref address hcomplex]
        refine copyObject_within (fun value s' hs' => ih value (depth + 1) hs' ?_) _ hvisit
        omega

end Visits

/-! ## Trees -/

abbrev JsTree := Tree Primitive JsString

/-- What a node may be like. -/
def isWithinLimits : JsTree → Bool
  | .leaf .null | .leaf (.boolean _) => true
  | .leaf (.string text) => decide (text.length ≤ 2048)
  | .leaf (.number number) => number.isFinite
  | .leaf .undefined | .leaf .other => false
  | .array items => decide (items.length ≤ 32)
  | .record properties =>
    decide (properties.length ≤ 32) && properties.all fun e => !isForbiddenKey e.1

/-- And at what depth. -/
def isAdmissible (depth : ℕ) (node : JsTree) : Bool := decide (depth ≤ 4) && isWithinLimits node

section Trees

variable {α β : Type} {field : String} {errorCode : ErrorCode} {s : CopyState} {base : ℕ}

/-- A computation that succeeds exactly under a condition, with an outcome as described. -/
structure SucceedsIff (condition : Prop) (good : α → CopyState → Prop)
    (outcome : Except WebAuthnClientError α × CopyState) : Prop where
  ok : condition → ∃ a s', outcome = (.ok a, s') ∧ good a s'
  error : ¬ condition → ∃ error s', outcome = (.error error, s')

theorem SucceedsIff.of_ok {condition : Prop} {good : α → CopyState → Prop} {a : α}
    (h : condition) (hgood : good a s) : SucceedsIff condition good (.ok a, s) :=
  ⟨fun _ => ⟨a, s, rfl, hgood⟩, fun hnot => absurd h hnot⟩

theorem SucceedsIff.of_error {condition : Prop} {good : α → CopyState → Prop}
    {error : WebAuthnClientError} (h : ¬ condition) :
    SucceedsIff condition good (.error error, s) :=
  ⟨fun hcondition => absurd hcondition h, fun _ => ⟨error, s, rfl⟩⟩

theorem SucceedsIff.bind {x : CopyM α} {f : α → CopyM β} {first second condition : Prop}
    {good : α → CopyState → Prop} {good' : β → CopyState → Prop}
    (hx : SucceedsIff first good (x s))
    (hf : first → ∀ a s', good a s' → SucceedsIff second good' (f a s'))
    (hboth : condition ↔ first ∧ second) : SucceedsIff condition good' ((x >>= f) s) := by
  by_cases hfirst : first
  · obtain ⟨a, s', hrun, hgood⟩ := hx.ok hfirst
    have hsecond := hf hfirst a s' hgood
    rw [bind_ok hrun]
    exact ⟨fun h => hsecond.ok (hboth.mp h).2,
      fun h => hsecond.error fun hs => h (hboth.mpr ⟨hfirst, hs⟩)⟩
  · obtain ⟨error, s', hrun⟩ := hx.error hfirst
    rw [bind_error hrun]
    exact .of_error fun h => hfirst (hboth.mp h).1

/-- From one state to another: nodes were visited, and the memory grew. -/
structure Advance (nodes : ℕ) (s s' : CopyState) : Prop where
  nodes_eq : s'.nodes = s.nodes + nodes
  memory : s.memory.Extends s'.memory

theorem Advance.trans {m n : ℕ} {s₁ s₂ s₃ : CopyState} (h : Advance m s₁ s₂)
    (h' : Advance n s₂ s₃) : Advance (m + n) s₁ s₃ :=
  ⟨by rw [h'.nodes_eq, h.nodes_eq, Nat.add_assoc], h.memory.trans h'.memory⟩

/-- A copy of a tree whose root is at a depth succeeds exactly when every node is admissible and
    the budget suffices, and makes a fresh tree like it. -/
def CopySpec (base : ℕ) (copy : JsValue → CopyM JsValue) (depth : ℕ) (tree : JsTree) : Prop :=
  ∀ value s, base ≤ s.memory.next → Unfolds 0 s.memory tree value →
    SucceedsIff (tree.AllNodes (isAdmissible · ·) depth ∧ s.nodes + tree.size ≤ 256)
      (fun copied s' => Advance tree.size s s' ∧ Unfolds base s'.memory tree copied) (copy value s)

variable {copy : JsValue → CopyM JsValue} {depth : ℕ}

theorem mapM_spec {trees : List JsTree} (hcopy : ∀ t ∈ trees, CopySpec base copy depth t)
    {items : List JsValue} (hbase : base ≤ s.memory.next) (hs : s.nodes ≤ 256)
    (hitems : List.Forall₂ (Unfolds 0 s.memory) trees items) :
    SucceedsIff ((∀ t ∈ trees, t.AllNodes (isAdmissible · ·) depth) ∧
        s.nodes + (trees.map Tree.size).sum ≤ 256)
      (fun copied s' => Advance (trees.map Tree.size).sum s s' ∧
        List.Forall₂ (Unfolds base s'.memory) trees copied) (items.mapM copy s) := by
  induction trees generalizing items s with
  | nil =>
    rw [List.forall₂_nil_left_iff] at hitems
    subst hitems
    exact .of_ok ⟨nofun, hs⟩ ⟨⟨rfl, .refl _⟩, .nil⟩
  | cons tree trees ih =>
    obtain ⟨item, rest, hitem, hrest, rfl⟩ := List.forall₂_cons_left_iff.mp hitems
    rw [List.forall_mem_cons] at hcopy
    rw [List.mapM_cons]
    have hcondition : ((∀ t ∈ tree :: trees, t.AllNodes (isAdmissible · ·) depth) ∧
        s.nodes + ((tree :: trees).map Tree.size).sum ≤ 256) ↔
        (tree.AllNodes (isAdmissible · ·) depth ∧ s.nodes + tree.size ≤ 256) ∧
          (∀ t ∈ trees, t.AllNodes (isAdmissible · ·) depth) ∧
            s.nodes + tree.size + (trees.map Tree.size).sum ≤ 256 := by
      rw [List.forall_mem_cons, List.map_cons, List.sum_cons, Nat.add_assoc]
      exact ⟨fun ⟨⟨hhead, htail⟩, hsum⟩ => ⟨⟨hhead, by omega⟩, htail, hsum⟩,
        fun ⟨⟨hhead, _⟩, htail, hsum⟩ => ⟨⟨hhead, htail⟩, hsum⟩⟩
    refine (hcopy.1 item s hbase hitem).bind ?_ hcondition
    intro ⟨_, hfits⟩ copied s' ⟨hadvance, hcopied⟩
    -- The rest is copied in a memory that has grown, and unfolds to the same trees there.
    have hrest' : List.Forall₂ (Unfolds 0 s'.memory) trees rest :=
      hrest.imp fun _ _ h => h.mono le_rfl hadvance.memory
    have htail := ih hcopy.2 (hbase.trans hadvance.memory.next_le)
      (hadvance.nodes_eq.trans_le hfits) hrest'
    rw [hadvance.nodes_eq] at htail
    refine htail.bind ?_ (and_true _).symm.to_iff
    intro _ copies s'' ⟨hadvance', hcopies⟩
    exact .of_ok trivial ⟨hadvance.trans hadvance',
      .cons (hcopied.mono le_rfl hadvance'.memory) hcopies⟩

theorem copyEntries_spec {trees : List (JsString × JsTree)}
    (hcopy : ∀ e ∈ trees, CopySpec base copy depth e.2) {result : Record Primitive JsString}
    {entries : List (JsString × JsValue)} (hbase : base ≤ s.memory.next) (hs : s.nodes ≤ 256)
    (hentries : List.Forall₂ (fun tree entry => entry.1 = tree.1 ∧
      Unfolds 0 s.memory tree.2 entry.2) trees entries)
    (hdistinct : ((result.entries ++ entries).map Prod.fst).Nodup) :
    SucceedsIff ((∀ e ∈ trees, isForbiddenKey e.1 = false ∧
        e.2.AllNodes (isAdmissible · ·) depth) ∧ s.nodes + (trees.map fun e => e.2.size).sum ≤ 256)
      (fun copied s' => Advance (trees.map fun e => e.2.size).sum s s' ∧
        ∃ copies, copied.entries = result.entries ++ copies ∧
          List.Forall₂ (fun tree entry => entry.1 = tree.1 ∧
            Unfolds base s'.memory tree.2 entry.2) trees copies)
      (copyEntries field errorCode copy result entries s) := by
  induction trees generalizing entries result s with
  | nil =>
    rw [List.forall₂_nil_left_iff] at hentries
    subst hentries
    exact .of_ok ⟨nofun, hs⟩ ⟨⟨rfl, .refl _⟩, [], (List.append_nil _).symm, .nil⟩
  | cons tree trees ih =>
    obtain ⟨⟨key, value⟩, rest, ⟨hkey, hvalue⟩, hrest, rfl⟩ :=
      List.forall₂_cons_left_iff.mp hentries
    obtain rfl : key = tree.1 := hkey
    rw [List.forall_mem_cons] at hcopy
    rw [copyEntries]
    split
    · next hforbidden =>
      refine .of_error fun h => ?_
      rw [(h.1 tree List.mem_cons_self).1] at hforbidden
      cases hforbidden
    · next hforbidden =>
      rw [Bool.not_eq_true] at hforbidden
      have hcondition : ((∀ e ∈ tree :: trees, isForbiddenKey e.1 = false ∧
          e.2.AllNodes (isAdmissible · ·) depth) ∧
          s.nodes + ((tree :: trees).map fun e => e.2.size).sum ≤ 256) ↔
          (tree.2.AllNodes (isAdmissible · ·) depth ∧ s.nodes + tree.2.size ≤ 256) ∧
            (∀ e ∈ trees, isForbiddenKey e.1 = false ∧ e.2.AllNodes (isAdmissible · ·) depth) ∧
              s.nodes + tree.2.size + (trees.map fun e => e.2.size).sum ≤ 256 := by
        rw [List.forall_mem_cons, List.map_cons, List.sum_cons, Nat.add_assoc]
        exact ⟨fun ⟨⟨hhead, htail⟩, hsum⟩ => ⟨⟨hhead.2, by omega⟩, htail, hsum⟩,
          fun ⟨⟨hhead, _⟩, htail, hsum⟩ => ⟨⟨⟨hforbidden, hhead⟩, htail⟩, hsum⟩⟩
      refine (hcopy.1 value s hbase hvalue).bind ?_ hcondition
      intro ⟨_, hfits⟩ copied s' ⟨hadvance, hcopied⟩
      have hrest' : List.Forall₂ (fun tree entry => entry.1 = tree.1 ∧
          Unfolds 0 s'.memory tree.2 entry.2) trees rest :=
        hrest.imp fun _ _ h => ⟨h.1, h.2.mono le_rfl hadvance.memory⟩
      -- The key is new to the object that is built, so the copy becomes its last property.
      rw [List.map_append, List.map_cons] at hdistinct
      have hnew : tree.1 ∉ result.entries.map Prod.fst := fun hmem =>
        (List.nodup_append.mp hdistinct).2.2 _ hmem _ List.mem_cons_self rfl
      have hassign := Record.entries_assign hnew copied
      have hdistinct' : (((result.assign tree.1 copied).entries ++ rest).map Prod.fst).Nodup := by
        rw [hassign, List.append_assoc, List.map_append]
        exact hdistinct
      have htail := ih hcopy.2 (hbase.trans hadvance.memory.next_le)
        (hadvance.nodes_eq.trans_le hfits) hrest' hdistinct'
      rw [hadvance.nodes_eq] at htail
      refine ⟨fun h => ?_, htail.error⟩
      obtain ⟨record, s'', hrun, hadvance', copies, hentries', hcopies⟩ := htail.ok h
      refine ⟨record, s'', hrun, hadvance.trans hadvance', (tree.1, copied) :: copies, ?_, ?_⟩
      · rw [hentries', hassign, List.append_assoc]
        rfl
      · exact .cons ⟨rfl, hcopied.mono le_rfl hadvance'.memory⟩ hcopies

theorem not_fits_of_tooComplex {tree : JsTree} (h : TooComplex depth s) :
    ¬ (tree.AllNodes (isAdmissible · ·) depth ∧ s.nodes + tree.size ≤ 256) := by
  intro ⟨hnodes, hsize⟩
  have hdepth : depth ≤ 4 := by
    have hroot := hnodes.root
    rw [isAdmissible, Bool.and_eq_true] at hroot
    exact of_decide_eq_true hroot.1
  have hpos : 1 ≤ tree.size := tree.size_pos
  rcases h with h | h
  · exact absurd h (Nat.not_lt.mpr ((Nat.add_le_add_left hpos _).trans hsize))
  · exact absurd h (Nat.not_lt.mpr hdepth)

theorem isAdmissible_of_not_tooComplex (h : ¬ TooComplex depth s) (node : JsTree) :
    isAdmissible depth node = isWithinLimits node := by
  have hdepth : depth ≤ 4 := Nat.le_of_not_lt (not_or.mp h).2
  rw [isAdmissible, decide_eq_true hdepth, Bool.true_and]

theorem copyPrimitive_spec (primitive : Primitive) (h : ¬ TooComplex depth s) :
    SucceedsIff ((Tree.leaf primitive : JsTree).AllNodes (isAdmissible · ·) depth ∧
        s.nodes + 1 ≤ 256)
      (fun copied s' => Advance 1 s s' ∧ Unfolds base s'.memory (.leaf primitive) copied)
      (copyPrimitive field errorCode primitive s.visit) := by
  obtain ⟨hnodes, hdepth⟩ := not_or.mp h
  have hvisits : s.nodes + 1 ≤ 256 := Nat.le_of_not_lt hnodes
  rw [Tree.allNodes_leaf, and_iff_left hvisits, isAdmissible_of_not_tooComplex h]
  have hdone : Advance 1 s s.visit ∧
      Unfolds base s.visit.memory (.leaf primitive : JsTree) (.leaf primitive) :=
    ⟨⟨rfl, .refl _⟩, rfl⟩
  cases primitive with
  | undefined => exact .of_error Bool.false_ne_true
  | null => exact .of_ok rfl hdone
  | boolean value => exact .of_ok rfl hdone
  -- Only texts and numbers have a bound of their own.
  | string text =>
    rw [copyPrimitive]
    split
    · next hlarge => exact .of_error fun hle => Nat.not_le.mpr hlarge (of_decide_eq_true hle)
    · next hsmall => exact .of_ok (decide_eq_true (Nat.le_of_not_lt hsmall)) hdone
  | number value =>
    rw [copyPrimitive]
    split
    · next hinfinite =>
      rw [Bool.not_eq_true'] at hinfinite
      exact .of_error fun hfinite => Bool.false_ne_true (hinfinite.symm.trans hfinite)
    · next hfinite =>
      rw [Bool.not_eq_true', Bool.not_eq_false] at hfinite
      exact .of_ok hfinite hdone
  | other => exact .of_error Bool.false_ne_true

/-- The new array or object is fresh, and refers to what it was made of. -/
theorem allocate_spec {tree : JsTree} {n : ℕ} {s' : CopyState} (hbase : base ≤ s.memory.next)
    (hadvance : Advance n s.visit s') (object : Object Primitive JsString)
    (hunfolds : ∀ memory, s'.memory.Extends memory → s'.memory.next < memory.next →
      memory.object s'.memory.next = object → base ≤ s'.memory.next →
      Unfolds base memory tree (.ref s'.memory.next)) :
    SucceedsIff True (fun copied s'' => Advance (1 + n) s s'' ∧ Unfolds base s''.memory tree copied)
      (allocate object s') := by
  have hgrown := Memory.extends_alloc s'.memory object
  have hnodes : s'.nodes = s.nodes + (1 + n) := by
    rw [hadvance.nodes_eq, CopyState.visit, Nat.add_assoc]
  rw [allocate_eq]
  refine .of_ok trivial ⟨⟨hnodes, hadvance.memory.trans hgrown⟩, ?_⟩
  exact hunfolds _ hgrown (Nat.lt_succ_self _) (Function.update_self ..)
    (hbase.trans hadvance.memory.next_le)

theorem copyItems_spec {trees : List JsTree}
    (hcopy : ∀ t ∈ trees, CopySpec base copy (depth + 1) t) {items : List JsValue}
    (h : ¬ TooComplex depth s) (hbase : base ≤ s.memory.next)
    (hitems : List.Forall₂ (Unfolds 0 s.memory) trees items) :
    SucceedsIff ((Tree.array trees).AllNodes (isAdmissible · ·) depth ∧
        s.nodes + (Tree.array trees).size ≤ 256)
      (fun copied s' => Advance (Tree.array trees).size s s' ∧
        Unfolds base s'.memory (.array trees) copied)
      (copyObject field errorCode copy (.array items) s.visit) := by
  have hvisits : s.visit.nodes ≤ 256 := Nat.le_of_not_lt (not_or.mp h).1
  have hmap := @mapM_spec s.visit base copy (depth + 1) trees hcopy items hbase hvisits hitems
  rw [copyObject, ← hitems.length_eq, Tree.allNodes_array, isAdmissible_of_not_tooComplex h,
    Tree.size_array, isWithinLimits, decide_eq_true_eq]
  split
  · next hlarge => exact .of_error fun hfits => Nat.not_le.mpr hlarge hfits.1.1
  · next hsmall =>
    have hlength : trees.length ≤ 32 := Nat.le_of_not_lt hsmall
    rw [and_iff_right hlength, ← Nat.add_assoc]
    refine hmap.bind ?_ (iff_of_eq (and_true _).symm)
    intro _ copied s' ⟨hadvance, hcopied⟩
    refine allocate_spec hbase hadvance (.array copied) fun memory hgrown hlt hobject hge => ?_
    refine ⟨_, copied, rfl, hge, hlt, hobject, unfoldItems_iff.mpr ?_⟩
    exact hcopied.imp fun _ _ hunfolds => hunfolds.mono le_rfl hgrown

theorem copyProperties_spec {trees : List (JsString × JsTree)}
    (hcopy : ∀ e ∈ trees, CopySpec base copy (depth + 1) e.2)
    {properties : Record Primitive JsString} (h : ¬ TooComplex depth s)
    (hbase : base ≤ s.memory.next)
    (hproperties : List.Forall₂ (fun tree entry => entry.1 = tree.1 ∧
      Unfolds 0 s.memory tree.2 entry.2) trees properties.entries) :
    SucceedsIff ((Tree.record trees).AllNodes (isAdmissible · ·) depth ∧
        s.nodes + (Tree.record trees).size ≤ 256)
      (fun copied s' => Advance (Tree.record trees).size s s' ∧
        Unfolds base s'.memory (.record trees) copied)
      (copyObject field errorCode copy (.record properties) s.visit) := by
  have hvisits : s.visit.nodes ≤ 256 := Nat.le_of_not_lt (not_or.mp h).1
  -- The entries are copied into an empty record, in their order.
  have hloop := @copyEntries_spec field errorCode s.visit base copy (depth + 1) trees hcopy .empty
    properties.entries hbase hvisits hproperties properties.distinct
  rw [copyObject, ← hproperties.length_eq, Tree.allNodes_record,
    isAdmissible_of_not_tooComplex h, Tree.size_record, isWithinLimits, Bool.and_eq_true,
    decide_eq_true_eq, List.all_eq_true]
  simp only [Bool.not_eq_true']
  split
  · next hlarge => exact .of_error fun hfits => Nat.not_le.mpr hlarge hfits.1.1.1
  · next hsmall =>
    have hlength : trees.length ≤ 32 := Nat.le_of_not_lt hsmall
    rw [and_iff_right hlength, ← Nat.add_assoc, ← forall₂_and]
    refine hloop.bind ?_ (iff_of_eq (and_true _).symm)
    intro _ copied s' ⟨hadvance, copies, hentries, hcopies⟩
    -- The copy is a new object, which nothing older points to.
    refine allocate_spec hbase hadvance (.record copied) fun memory hgrown hlt hobject hge => ?_
    refine ⟨_, copied, rfl, hge, hlt, hobject, unfoldProperties_iff.mpr ?_⟩
    rw [hentries]
    exact hcopies.imp fun _ _ hunfolds => ⟨hunfolds.1, hunfolds.2.mono le_rfl hgrown⟩

/-- **What is copied of a tree** in any memory, at any depth and with any budget. -/
theorem copy_spec (tree : JsTree) (depth : ℕ) :
    CopySpec base (fun value => copyBoundedExtensionValue value field errorCode depth) depth
      tree := by
  -- Each node is counted before it is looked at; its children lie one level deeper.
  induction tree using Tree.induct generalizing depth with
  | leaf primitive =>
    intro value s hbase h
    obtain rfl : value = .leaf primitive := h
    beta_reduce
    by_cases hcomplex : TooComplex depth s
    · rw [copy_complex _ hcomplex]
      exact .of_error (not_fits_of_tooComplex hcomplex)
    · rw [copy_leaf primitive hcomplex]
      exact copyPrimitive_spec primitive hcomplex
  | array trees ih =>
    intro value s hbase h
    obtain ⟨address, items, rfl, _, hlt, hobject, hitems⟩ := h
    beta_reduce
    by_cases hcomplex : TooComplex depth s
    · rw [copy_complex _ hcomplex]
      exact .of_error (not_fits_of_tooComplex hcomplex)
    · rw [copy_ref address hcomplex, hobject]
      exact copyItems_spec (fun t ht => ih t ht (depth + 1)) hcomplex hbase
        (unfoldItems_iff.mp hitems)
  | record trees ih =>
    intro value s hbase h
    obtain ⟨address, properties, rfl, _, hlt, hobject, hproperties⟩ := h
    beta_reduce
    by_cases hcomplex : TooComplex depth s
    · rw [copy_complex _ hcomplex]
      exact .of_error (not_fits_of_tooComplex hcomplex)
    · rw [copy_ref address hcomplex, hobject]
      exact copyProperties_spec (fun e he => ih e he (depth + 1)) hcomplex hbase
        (unfoldProperties_iff.mp hproperties)

end Trees

/-! ## The record -/

/-- The trees that are copied. -/
def IsCopied (tree : JsTree) : Prop :=
  (∃ properties, tree = .record properties) ∧ tree.size ≤ 256 ∧
    ∀ node ∈ Tree.nodesFrom 0 tree, isAdmissible node.1 node.2 = true

theorem isRecord_eq_true_iff {base : ℕ} {memory : JsMemory} {tree : JsTree} {value : JsValue}
    (h : Unfolds base memory tree value) :
    isRecord memory value = true ↔ ∃ properties, tree = .record properties := by
  cases tree with
  | leaf primitive =>
    obtain rfl : value = .leaf primitive := h
    exact iff_of_false Bool.false_ne_true nofun
  | array trees =>
    obtain ⟨address, items, rfl, _, _, hobject, _⟩ := h
    rw [isRecord, hobject]
    exact iff_of_false Bool.false_ne_true nofun
  | record trees =>
    obtain ⟨address, properties, rfl, _, _, hobject, _⟩ := h
    rw [isRecord, hobject]
    exact iff_of_true rfl ⟨trees, rfl⟩

/-- What `copyRecord` answers for a value that unfolds to a tree. -/
structure CopyContract (field : String) (errorCode : ErrorCode) (memory : JsMemory) (tree : JsTree)
    (value : JsValue) : Prop where
  /-- A tree within the limits becomes a fresh one like it, and no object there was is touched. -/
  copied : IsCopied tree → ∃ copied s',
    copyRecord value field errorCode memory = (.ok (some copied), s') ∧
      Unfolds memory.next s'.memory tree copied ∧ memory.Extends s'.memory
  /-- Every other tree makes it throw. -/
  thrown : ¬ IsCopied tree → ∃ error s',
    copyRecord value field errorCode memory = (.error error, s')

theorem copyRecord_unfolds {field : String} {errorCode : ErrorCode} {memory : JsMemory}
    {tree : JsTree} {value : JsValue} (h : Unfolds 0 memory tree value)
    (htree : tree ≠ .leaf .undefined) : CopyContract field errorCode memory tree value := by
  have hdefined : value ≠ .leaf .undefined := by
    intro hundefined
    rw [hundefined] at h
    cases tree with
    | leaf primitive => exact htree (congrArg Tree.leaf (Value.leaf.inj h).symm)
    | array trees =>
      obtain ⟨_, _, heq, _⟩ := h
      cases heq
    | record trees =>
      obtain ⟨_, _, heq, _⟩ := h
      cases heq
  -- The walk itself, from an empty count at depth 0.
  have hspec := @copy_spec field errorCode memory.next tree 0 value ⟨memory, 0⟩ le_rfl h
  have hrecord := isRecord_eq_true_iff h
  -- Only a record is walked; the copy of a record is a record again.
  by_cases hroot : ∃ properties, tree = .record properties
  · have htest : (!isRecord memory value) = false := by rw [hrecord.mpr hroot, Bool.not_true]
    have hcondition : IsCopied tree ↔
        tree.AllNodes (isAdmissible · ·) 0 ∧ 0 + tree.size ≤ 256 := by
      rw [IsCopied, and_iff_right hroot, Nat.zero_add, and_comm]
      rfl
    rw [← hcondition] at hspec
    beta_reduce at hspec
    constructor
    · intro hcopied
      obtain ⟨copied, s', hrun, hadvance, hunfolds⟩ := hspec.ok hcopied
      have htest' : (!isRecord s'.memory copied) = false := by
        rw [(isRecord_eq_true_iff hunfolds).mpr hroot, Bool.not_true]
      refine ⟨copied, s', ?_, hunfolds, hadvance.memory⟩
      rw [copyRecord, if_neg hdefined, htest, if_neg Bool.false_ne_true, hrun]
      simp only [htest', Bool.false_eq_true, if_false]
    · intro hnot
      obtain ⟨error, s', hrun⟩ := hspec.error hnot
      refine ⟨error, s', ?_⟩
      rw [copyRecord, if_neg hdefined, htest, if_neg Bool.false_ne_true, hrun]
  · have htest : (!isRecord memory value) = true := by
      rw [Bool.not_eq_true', ← Bool.not_eq_true, hrecord]
      exact hroot
    refine ⟨fun hcopied => absurd hcopied.1 hroot, fun _ => ?_⟩
    rw [copyRecord, if_neg hdefined, if_pos htest]
    exact ⟨_, _, rfl⟩

theorem copyRecord_visits (value : JsValue) (field : String) (errorCode : ErrorCode)
    (memory : JsMemory) : (copyRecord value field errorCode memory).2.nodes ≤ 257 := by
  have hwithin := @copyBoundedExtensionValue_within field errorCode ⟨memory, 0⟩ value 0
    (Nat.zero_le _)
  unfold copyRecord
  split
  · exact Nat.zero_le _
  · split
    · exact Nat.zero_le _
    · split
      · next hrun =>
        rw [hrun] at hwithin
        exact hwithin.1
      · next hrun =>
        rw [hrun] at hwithin
        split <;> exact hwithin.1

/-- **The bounded copy**: every tree is copied exactly when it is within the limits, and in every
    graph, cyclic or not, at most 257 nodes are visited. -/
theorem copyRecord_contract (field : String) (errorCode : ErrorCode) (memory : JsMemory)
    (value : JsValue) :
    (∀ tree, Unfolds 0 memory tree value → tree ≠ .leaf .undefined →
      CopyContract field errorCode memory tree value) ∧
      (copyRecord value field errorCode memory).2.nodes ≤ 257 :=
  ⟨fun _ h htree => copyRecord_unfolds h htree, copyRecord_visits value field errorCode memory⟩

/-- A record that has itself as its only property. -/
def selfReference : JsMemory where
  object := fun _ => .record ⟨[(codeUnits "self", .ref 0)], List.nodup_singleton _⟩
  next := 1

/-- A record with `null` as its only property. -/
def nullProperty : JsMemory where
  object := fun _ => .record ⟨[(codeUnits "appid", .leaf .null)], List.nodup_singleton _⟩
  next := 1

theorem copyRecord_contract_applied :
    (copyRecord (.ref 0) "extensions" .invalidOptions selfReference).2.nodes ≤ 257 ∧
      ∃ copied s', copyRecord (.ref 0) "extensions" .invalidOptions nullProperty =
        (.ok (some copied), s') ∧
        Unfolds 1 s'.memory (.record [(codeUnits "appid", .leaf .null)]) copied := by
  have hcyclic := copyRecord_contract "extensions" .invalidOptions selfReference (.ref 0)
  have htree := copyRecord_contract "extensions" .invalidOptions nullProperty (.ref 0)
  have hunfolds : Unfolds 0 nullProperty (.record [(codeUnits "appid", .leaf .null)]) (.ref 0) :=
    ⟨0, _, rfl, le_rfl, Nat.one_pos, rfl, _, [], rfl, rfl, rfl, rfl⟩
  have hcopied : IsCopied (.record [(codeUnits "appid", .leaf .null)]) :=
    ⟨⟨_, rfl⟩, by decide, by decide +kernel⟩
  obtain ⟨copied, s', hrun, hcopy, _⟩ := (htree.1 _ hunfolds nofun).copied hcopied
  exact ⟨hcyclic.2, copied, s', hrun, hcopy⟩

end SecureKeypad.Web
