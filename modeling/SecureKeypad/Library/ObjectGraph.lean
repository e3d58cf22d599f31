import Mathlib

/-!
# Object Graphs and the Trees They Unfold to

A memory of arrays and records that refer to each other by address, as programs with reference
semantics have it. Nothing keeps a graph from being shared or cyclic. A value *unfolds to* a tree
when following its references gives that tree; a cyclic value unfolds to none.

## Main definitions

- `Memory.alloc`, `Memory.Extends`: a memory grows by fresh objects, and those it has stay
- `Tree.nodesFrom`: the nodes of a tree, each with its depth
- `Unfolds base`: what a value unfolds to, over objects allocated from `base` on

## Main results

- `Tree.induct`: induction over the trees
- `Unfolds.mono`: what a value unfolds to stays when the memory grows
-/

namespace ObjectGraph

universe u

variable {Leaf Key : Type u}

/-! ## Memories -/

/-- A value: a primitive, or a reference. -/
inductive Value (Leaf : Type u) where
  | leaf (primitive : Leaf)
  | ref (address : ℕ)
deriving DecidableEq

/-- The properties of a record, in order, of which no two have the same key. -/
structure Record (Leaf Key : Type u) where
  entries : List (Key × Value Leaf)
  distinct : (entries.map Prod.fst).Nodup

inductive Object (Leaf Key : Type u) where
  | array (items : List (Value Leaf))
  | record (properties : Record Leaf Key)

/-- The objects, of which those below `next` are allocated. -/
structure Memory (Leaf Key : Type u) where
  object : ℕ → Object Leaf Key
  next : ℕ

namespace Record

def empty : Record Leaf Key := ⟨[], List.nodup_nil⟩

variable [DecidableEq Key]

/-- Assignment to a property, which becomes the last one if it is new. -/
def assign (record : Record Leaf Key) (key : Key) (value : Value Leaf) : Record Leaf Key :=
  if hkey : key ∈ record.entries.map Prod.fst then
    { entries := record.entries.map fun entry => (entry.1, if entry.1 = key then value else entry.2)
      distinct := by
        rw [List.map_map]
        exact record.distinct }
  else
    { entries := record.entries ++ [(key, value)]
      distinct := by
        rw [List.map_append]
        refine List.nodup_append.mpr ⟨record.distinct, List.nodup_singleton _, ?_⟩
        intro a ha b hb hab
        rw [hab, List.mem_singleton.mp hb] at ha
        exact hkey ha }

theorem entries_assign {record : Record Leaf Key} {key : Key}
    (hkey : key ∉ record.entries.map Prod.fst) (value : Value Leaf) :
    (record.assign key value).entries = record.entries ++ [(key, value)] := by
  rw [assign, dif_neg hkey]

end Record

namespace Memory

/-- A fresh address for an object. -/
def alloc (memory : Memory Leaf Key) (object : Object Leaf Key) : Value Leaf × Memory Leaf Key :=
  (.ref memory.next, ⟨Function.update memory.object memory.next object, memory.next + 1⟩)

/-- Every allocated object stays what it is. -/
structure Extends (memory memory' : Memory Leaf Key) : Prop where
  next_le : memory.next ≤ memory'.next
  object_eq : ∀ address < memory.next, memory'.object address = memory.object address

theorem Extends.refl (memory : Memory Leaf Key) : memory.Extends memory := ⟨le_rfl, fun _ _ => rfl⟩

theorem Extends.trans {m₁ m₂ m₃ : Memory Leaf Key} (h : m₁.Extends m₂) (h' : m₂.Extends m₃) :
    m₁.Extends m₃ := by
  refine ⟨h.next_le.trans h'.next_le, fun address haddress => ?_⟩
  rw [h'.object_eq address (haddress.trans_le h.next_le), h.object_eq address haddress]

theorem extends_alloc (memory : Memory Leaf Key) (object : Object Leaf Key) :
    memory.Extends (memory.alloc object).2 :=
  ⟨Nat.le_succ _, fun _ haddress => Function.update_of_ne (Nat.ne_of_lt haddress) ..⟩

end Memory

/-! ## Trees -/

/-- What a finite value without references is. -/
inductive Tree (Leaf Key : Type u) where
  | leaf (primitive : Leaf)
  | array (items : List (Tree Leaf Key))
  | record (properties : List (Key × Tree Leaf Key))

namespace Tree

/-- Induction over the trees. -/
theorem induct {P : Tree Leaf Key → Prop} (leaf : ∀ primitive, P (.leaf primitive))
    (array : ∀ items, (∀ t ∈ items, P t) → P (.array items))
    (record : ∀ properties, (∀ e ∈ properties, P e.2) → P (.record properties)) :
    ∀ tree, P tree :=
  @Tree.rec Leaf Key P (fun items => ∀ t ∈ items, P t) (fun properties => ∀ e ∈ properties, P e.2)
    (fun e => P e.2) leaf array record nofun
    (fun _ _ hhead htail => List.forall_mem_cons.mpr ⟨hhead, htail⟩) nofun
    (fun _ _ hhead htail => List.forall_mem_cons.mpr ⟨hhead, htail⟩) fun _ _ h => h

mutual

/-- The nodes of a tree whose root is at a depth, each with its own. -/
def nodesFrom (depth : ℕ) : Tree Leaf Key → List (ℕ × Tree Leaf Key)
  | .leaf primitive => [(depth, .leaf primitive)]
  | .array items => (depth, .array items) :: nodesOfItems (depth + 1) items
  | .record properties => (depth, .record properties) :: nodesOfProperties (depth + 1) properties

def nodesOfItems (depth : ℕ) : List (Tree Leaf Key) → List (ℕ × Tree Leaf Key)
  | [] => []
  | item :: items => nodesFrom depth item ++ nodesOfItems depth items

def nodesOfProperties (depth : ℕ) : List (Key × Tree Leaf Key) → List (ℕ × Tree Leaf Key)
  | [] => []
  | property :: properties =>
    nodesFrom depth property.2 ++ nodesOfProperties depth properties

end

theorem nodesOfItems_eq (depth : ℕ) (items : List (Tree Leaf Key)) :
    nodesOfItems depth items = items.flatMap (nodesFrom depth) := by
  induction items with
  | nil => rfl
  | cons item items ih => rw [nodesOfItems, ih, List.flatMap_cons]

theorem nodesOfProperties_eq (depth : ℕ) (properties : List (Key × Tree Leaf Key)) :
    nodesOfProperties depth properties = properties.flatMap fun e => nodesFrom depth e.2 := by
  induction properties with
  | nil => rfl
  | cons property properties ih => rw [nodesOfProperties, ih, List.flatMap_cons]

/-- The number of nodes. -/
def size (tree : Tree Leaf Key) : ℕ := (nodesFrom 0 tree).length

theorem length_nodesFrom (depth : ℕ) (tree : Tree Leaf Key) :
    (nodesFrom depth tree).length = tree.size := by
  have hsame : ∀ depth', (nodesFrom depth tree).length = (nodesFrom depth' tree).length := by
    induction tree using Tree.induct generalizing depth with
    | leaf => exact fun _ => rfl
    | array items ih =>
      intro depth'
      rw [nodesFrom, nodesFrom, List.length_cons, List.length_cons, nodesOfItems_eq,
        nodesOfItems_eq, List.length_flatMap, List.length_flatMap]
      congr 2
      exact List.map_congr_left fun t ht => ih t ht (depth + 1) (depth' + 1)
    | record properties ih =>
      intro depth'
      rw [nodesFrom, nodesFrom, List.length_cons, List.length_cons, nodesOfProperties_eq,
        nodesOfProperties_eq, List.length_flatMap, List.length_flatMap]
      congr 2
      exact List.map_congr_left fun e he => ih e he (depth + 1) (depth' + 1)
  exact hsame 0

@[simp] theorem size_leaf (primitive : Leaf) : (.leaf primitive : Tree Leaf Key).size = 1 := rfl

@[simp] theorem size_array (items : List (Tree Leaf Key)) :
    (array items).size = 1 + (items.map size).sum := by
  rw [size, nodesFrom, List.length_cons, nodesOfItems_eq, List.length_flatMap, Nat.add_comm]
  congr 2
  exact List.map_congr_left fun t _ => length_nodesFrom 1 t

@[simp] theorem size_record (properties : List (Key × Tree Leaf Key)) :
    (record properties).size = 1 + (properties.map fun e => e.2.size).sum := by
  rw [size, nodesFrom, List.length_cons, nodesOfProperties_eq, List.length_flatMap, Nat.add_comm]
  congr 2
  exact List.map_congr_left fun e _ => length_nodesFrom 1 e.2

theorem size_pos (tree : Tree Leaf Key) : 0 < tree.size := by
  cases tree <;> exact Nat.succ_pos _

/-- Every node of a tree whose root is at a depth meets a condition on the depth and the node. -/
def AllNodes (P : ℕ → Tree Leaf Key → Prop) (depth : ℕ) (tree : Tree Leaf Key) : Prop :=
  ∀ node ∈ nodesFrom depth tree, P node.1 node.2

section AllNodes

variable {P : ℕ → Tree Leaf Key → Prop} {depth : ℕ}

theorem AllNodes.root {tree : Tree Leaf Key} (h : AllNodes P depth tree) : P depth tree := by
  cases tree <;> exact h _ List.mem_cons_self

theorem allNodes_leaf {primitive : Leaf} :
    AllNodes P depth (.leaf primitive) ↔ P depth (.leaf primitive) := List.forall_mem_singleton

theorem allNodes_array {items : List (Tree Leaf Key)} :
    AllNodes P depth (.array items) ↔
      P depth (.array items) ∧ ∀ t ∈ items, AllNodes P (depth + 1) t := by
  rw [AllNodes, nodesFrom, List.forall_mem_cons, nodesOfItems_eq, List.forall_mem_flatMap]
  rfl

theorem allNodes_record {properties : List (Key × Tree Leaf Key)} :
    AllNodes P depth (.record properties) ↔
      P depth (.record properties) ∧ ∀ e ∈ properties, AllNodes P (depth + 1) e.2 := by
  rw [AllNodes, nodesFrom, List.forall_mem_cons, nodesOfProperties_eq, List.forall_mem_flatMap]
  rfl

end AllNodes

end Tree

/-! ## Unfolding -/

section Unfolding

variable (base : ℕ) (memory : Memory Leaf Key)

mutual

/-- Following the references of the value, all to objects allocated from `base` on, gives the
    tree. -/
def Unfolds : Tree Leaf Key → Value Leaf → Prop
  | .leaf primitive, value => value = .leaf primitive
  | .array trees, value => ∃ address items, value = .ref address ∧ base ≤ address ∧
      address < memory.next ∧ memory.object address = .array items ∧ UnfoldItems trees items
  | .record trees, value => ∃ address properties, value = .ref address ∧ base ≤ address ∧
      address < memory.next ∧ memory.object address = .record properties ∧
      UnfoldProperties trees properties.entries

def UnfoldItems : List (Tree Leaf Key) → List (Value Leaf) → Prop
  | [], items => items = []
  | tree :: trees, items => ∃ item rest, items = item :: rest ∧ Unfolds tree item ∧
      UnfoldItems trees rest

def UnfoldProperties : List (Key × Tree Leaf Key) → List (Key × Value Leaf) → Prop
  | [], properties => properties = []
  | tree :: trees, properties => ∃ property rest, properties = property :: rest ∧
      property.1 = tree.1 ∧ Unfolds tree.2 property.2 ∧ UnfoldProperties trees rest

end

end Unfolding

section Unfolds

variable {base : ℕ} {memory : Memory Leaf Key}

theorem unfoldItems_iff {trees : List (Tree Leaf Key)} {items : List (Value Leaf)} :
    UnfoldItems base memory trees items ↔ List.Forall₂ (Unfolds base memory) trees items := by
  induction trees generalizing items with
  | nil => rw [UnfoldItems, List.forall₂_nil_left_iff]
  | cons tree trees ih =>
    simp only [UnfoldItems, List.forall₂_cons_left_iff, ih]
    exact ⟨fun ⟨item, rest, heq, hitem, hrest⟩ => ⟨item, rest, hitem, hrest, heq⟩,
      fun ⟨item, rest, hitem, hrest, heq⟩ => ⟨item, rest, heq, hitem, hrest⟩⟩

theorem unfoldProperties_iff {trees : List (Key × Tree Leaf Key)}
    {properties : List (Key × Value Leaf)} :
    UnfoldProperties base memory trees properties ↔
      List.Forall₂ (fun tree property => property.1 = tree.1 ∧
        Unfolds base memory tree.2 property.2) trees properties := by
  induction trees generalizing properties with
  | nil => rw [UnfoldProperties, List.forall₂_nil_left_iff]
  | cons tree trees ih =>
    simp only [UnfoldProperties, List.forall₂_cons_left_iff, ih]
    exact ⟨fun ⟨property, rest, heq, hkey, hvalue, hrest⟩ =>
        ⟨property, rest, ⟨hkey, hvalue⟩, hrest, heq⟩,
      fun ⟨property, rest, ⟨hkey, hvalue⟩, hrest, heq⟩ =>
        ⟨property, rest, heq, hkey, hvalue, hrest⟩⟩

/-- What a value unfolds to stays when the memory grows. -/
theorem Unfolds.mono {base' : ℕ} {memory' : Memory Leaf Key} {tree : Tree Leaf Key}
    {value : Value Leaf} (h : Unfolds base memory tree value) (hbase : base' ≤ base)
    (hextends : memory.Extends memory') : Unfolds base' memory' tree value := by
  induction tree using Tree.induct generalizing value with
  | leaf primitive => exact h
  | array trees ih =>
    obtain ⟨address, items, rfl, hge, hlt, hobject, hitems⟩ := h
    refine ⟨address, items, rfl, hbase.trans hge, hlt.trans_le hextends.next_le, ?_, ?_⟩
    · rw [hextends.object_eq address hlt, hobject]
    · rw [unfoldItems_iff] at hitems ⊢
      exact ((List.forall₂_and_left ..).mpr ⟨ih, hitems⟩).imp fun _ _ ⟨hih, hitem⟩ => hih hitem
  | record trees ih =>
    obtain ⟨address, properties, rfl, hge, hlt, hobject, hproperties⟩ := h
    refine ⟨address, properties, rfl, hbase.trans hge, hlt.trans_le hextends.next_le, ?_, ?_⟩
    · rw [hextends.object_eq address hlt, hobject]
    · rw [unfoldProperties_iff] at hproperties ⊢
      exact ((List.forall₂_and_left ..).mpr ⟨ih, hproperties⟩).imp
        fun _ _ ⟨hih, hkey, hvalue⟩ => ⟨hkey, hih hvalue⟩

end Unfolds

end ObjectGraph
