import SecureKeypad.Library.KeyedMap

/-!
# Keyed Tables and Transactions

A table with a primary key is a finite map from the key columns to the other columns. Statements
act on the working copy of a transaction; the copy becomes the table when the transaction commits
and is dropped when it does not.

## Main results

- `lookup_deleteWhere`: which rows a `DELETE` leaves
- `insertRow_eq_ok`, `updateRow_eq_ok`: when the constraints accept a row
-/

namespace Sql

variable {K : Type*} {V : Type*} {α : Type*}

/-! ## Statements -/

/-- Why the database refuses a row. -/
inductive Violation where
  | unique
  | check
deriving DecidableEq, Repr

/-- `DELETE FROM … WHERE p`. -/
def deleteWhere (p : K → V → Bool) (table : KeyedMap K V) : KeyedMap K V :=
  table.retain fun k v => !p k v

/-- `SELECT count(*) FROM … WHERE p`. -/
def countWhere (p : K → V → Bool) (table : KeyedMap K V) : ℕ := (table.retain p).size

variable [DecidableEq K]

/-- `INSERT INTO …`: the `CHECK` constraints come before the unique index. -/
def insertRow (ok : K → V → Bool) (table : KeyedMap K V) (k : K) (v : V) :
    Except Violation (KeyedMap K V) :=
  if ¬ ok k v then .error .check
  else if (table.lookup k).isSome then .error .unique
  else .ok (table.insert k v)

/-- `UPDATE … SET v = f v WHERE key = k`. -/
def updateRow (ok : K → V → Bool) (table : KeyedMap K V) (k : K) (f : V → V) :
    Except Violation (KeyedMap K V) :=
  match table.lookup k with
  | none => .ok table
  | some v => if ok k (f v) then .ok (table.insert k (f v)) else .error .check

theorem lookup_deleteWhere {p : K → V → Bool} {table : KeyedMap K V} {k : K} {v : V} :
    (deleteWhere p table).lookup k = some v ↔ table.lookup k = some v ∧ p k v = false := by
  rw [deleteWhere, KeyedMap.lookup_retain_eq_some, Bool.not_eq_true']

/-- One row more is one more at most. -/
theorem countWhere_insert_le (p : K → V → Bool) (table : KeyedMap K V) (k : K) (v : V) :
    countWhere p (table.insert k v) ≤ countWhere p table + 1 := by
  have hsub : countWhere p (table.insert k v) ≤
      KeyedMap.size ((KeyedMap.retain p table).insert k v) := by
    apply KeyedMap.size_le_of_lookup
    intro k' v' hk'
    obtain ⟨hlookup, hp⟩ := KeyedMap.lookup_retain_eq_some.mp hk'
    rw [KeyedMap.lookup_insert_ite] at hlookup ⊢
    by_cases heq : k' = k
    · rw [if_pos heq]
      exact ⟨v, rfl⟩
    · rw [if_neg heq] at hlookup ⊢
      exact ⟨v', KeyedMap.lookup_retain_eq_some.mpr ⟨hlookup, hp⟩⟩
  exact hsub.trans (KeyedMap.size_insert_le _ k v)

/-- A row that passes its checks is inserted where there is none yet. -/
theorem insertRow_eq_ok {ok : K → V → Bool} {table : KeyedMap K V} {k : K} {v : V}
    (hok : ok k v = true) (hnone : table.lookup k = none) :
    insertRow ok table k v = .ok (table.insert k v) := by
  simp [insertRow, hok, hnone]

theorem updateRow_eq_ok {ok : K → V → Bool} {table : KeyedMap K V} {k : K} {v : V} {f : V → V}
    (hrow : table.lookup k = some v) (hok : ok k (f v) = true) :
    updateRow ok table k f = .ok (table.insert k (f v)) := by
  simp [updateRow, hrow, hok]

/-! ## Transactions -/

/-- How a transaction ends. -/
inductive TxEnd (T : Type*) (α : Type*) where
  /-- It commits its working copy. -/
  | committed (work : T) (value : α)
  /-- It is dropped without a commit. -/
  | rolledBack (value : α)

/-- The answer of a transaction and the table after it. -/
def TxEnd.settle {T : Type*} (start : T) : TxEnd T α → α × T
  | .committed work value => (value, work)
  | .rolledBack value => (value, start)

@[simp] theorem TxEnd.settle_committed {T : Type*} (start work : T) (value : α) :
    (TxEnd.committed work value).settle start = (value, work) := rfl

@[simp] theorem TxEnd.settle_rolledBack {T : Type*} (start : T) (value : α) :
    (TxEnd.rolledBack value : TxEnd T α).settle start = (value, start) := rfl

end Sql
