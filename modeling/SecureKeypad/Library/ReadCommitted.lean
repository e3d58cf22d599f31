import SecureKeypad.Library.Machine
import SecureKeypad.Library.Sql

/-!
# Transactions Under READ COMMITTED

A client call is a program of statements on one table, `Tx`. Statements of different clients
interleave; each sees the committed rows under the transaction's own writes, at the moment it
runs. A statement that writes a row, or selects it `FOR UPDATE`, locks the row until its
transaction ends and does not run while another transaction holds that lock. Advisory locks
belong to a transaction in the same way. `now()` is the clock when the transaction began. A
commit publishes the writes; whatever else ends a transaction drops them.

An autocommitted statement is a transaction of that statement and a commit.

## Main definitions

- `Tx`, `Session`, `Db`: programs, running transactions, and the database
- `step`: the scheduler lets one client take its next statement
- `Moved`: all one step can do
- `Outline`: assertions on running transactions that hold whatever the others commit

## Main results

- `moved_step`: every step is one of the moves of `Moved`
- `lookup_view_of_not_locked`: a commit changes no row but those it has locked
- `Outline.sound_run`: an outline holds in every state of every run
-/

namespace ReadCommitted

variable {K V L A ι : Type}

/-! ## Programs -/

/-- What a client does in one transaction on a table with keys `K` and rows `V`. Predicates on
    rows take `now()` first. -/
inductive Tx (K V L A : Type) where
  /-- `SELECT pg_advisory_xact_lock(l)`. -/
  | advisoryLock (l : L) (next : Tx K V L A)
  /-- `DELETE FROM … WHERE p RETURNING …`. -/
  | deleteWhere (p : ℕ → K → V → Bool) (next : List (K × V) → Tx K V L A)
  /-- `SELECT count(*) FROM … WHERE p`. -/
  | countWhere (p : ℕ → K → V → Bool) (next : ℕ → Tx K V L A)
  /-- `INSERT … ON CONFLICT DO NOTHING`; the answer says whether a row was inserted. -/
  | insertNew (k : K) (row : ℕ → V) (next : Bool → Tx K V L A)
  /-- `SELECT … WHERE key = k`. -/
  | selectRow (k : K) (next : Option V → Tx K V L A)
  /-- `SELECT … WHERE key = k FOR UPDATE`. -/
  | selectForUpdate (k : K) (next : Option V → Tx K V L A)
  /-- `UPDATE … SET row = f row WHERE key = k AND p`; `f` may overflow. The answer is the number
      of rows it changed. -/
  | updateRow (k : K) (p : V → Bool) (f : V → Option V) (next : ℕ → Tx K V L A)
  | commit (a : A)
  /-- The program returns without a commit. -/
  | rollback (a : A)

/-- What the next statement of a program comes to. -/
inductive Move (K V L A : Type) where
  | lock (l : L) (next : Tx K V L A)
  /-- A statement that locks `rows` and writes `work`. -/
  | statement (rows : List K) (work : List (K × Option V)) (next : Tx K V L A)
  /-- The database refuses the statement. -/
  | refused
  | commit (a : A)
  | rollback (a : A)

variable [DecidableEq K]

/-- The next statement on the rows in `view`, with the `CHECK` constraints `ok`. -/
def Tx.move (ok : K → V → Bool) (now : ℕ) (view : KeyedMap K V) : Tx K V L A → Move K V L A
  | .advisoryLock l next => .lock l next
  | .deleteWhere p next =>
    let deleted := (view.entries.filter fun entry => p now entry.1 entry.2).map
      fun entry => (entry.1, entry.2)
    .statement (deleted.map Prod.fst) (deleted.map fun row => (row.1, none)) (next deleted)
  | .countWhere p next => .statement [] [] (next (Sql.countWhere (p now) view))
  | .insertNew k row next =>
    -- The constraints are checked before the unique index is.
    if ok k (row now) = false then .refused
    else
      match view.lookup k with
      | some _ => .statement [] [] (next false)
      | none => .statement [k] [(k, some (row now))] (next true)
  | .selectRow k next => .statement [] [] (next (view.lookup k))
  | .selectForUpdate k next =>
    match view.lookup k with
    | none => .statement [] [] (next none)
    | some row => .statement [k] [] (next (some row))
  | .updateRow k p f next =>
    match (view.lookup k).filter p with
    | none => .statement [] [] (next 0)
    | some row =>
      match f row with
      | none => .refused
      | some row => if ok k row then .statement [k] [(k, some row)] (next 1) else .refused
  | .commit a => .commit a
  | .rollback a => .rollback a

theorem Tx.move_eq_commit {ok : K → V → Bool} {now : ℕ} {view : KeyedMap K V}
    {tx : Tx K V L A} {a : A} : tx.move ok now view = .commit a ↔ tx = .commit a := by
  cases tx with
  | insertNew k row next =>
    simp only [move]
    split
    · exact ⟨nofun, nofun⟩
    · split <;> exact ⟨nofun, nofun⟩
  | selectForUpdate k next =>
    simp only [move]
    split <;> exact ⟨nofun, nofun⟩
  | updateRow k p f next =>
    simp only [move]
    split
    · exact ⟨nofun, nofun⟩
    · split
      · exact ⟨nofun, nofun⟩
      · split <;> exact ⟨nofun, nofun⟩
  | commit a' => simp [move]
  | _ => exact ⟨nofun, nofun⟩

theorem Tx.move_eq_rollback {ok : K → V → Bool} {now : ℕ} {view : KeyedMap K V}
    {tx : Tx K V L A} {a : A} : tx.move ok now view = .rollback a ↔ tx = .rollback a := by
  cases tx with
  | insertNew k row next =>
    simp only [move]
    split
    · exact ⟨nofun, nofun⟩
    · split <;> exact ⟨nofun, nofun⟩
  | selectForUpdate k next =>
    simp only [move]
    split <;> exact ⟨nofun, nofun⟩
  | updateRow k p f next =>
    simp only [move]
    split
    · exact ⟨nofun, nofun⟩
    · split
      · exact ⟨nofun, nofun⟩
      · split <;> exact ⟨nofun, nofun⟩
  | rollback a' => simp [move]
  | _ => exact ⟨nofun, nofun⟩

/-! ## Rows under a transaction's own writes -/

/-- One uncommitted write; `none` is a deletion. -/
def write (table : KeyedMap K V) : K × Option V → KeyedMap K V
  | (k, some row) => table.insert k row
  | (k, none) => table.erase k

/-- The table under the writes, the oldest first. -/
def overlay (table : KeyedMap K V) (work : List (K × Option V)) : KeyedMap K V :=
  work.foldl write table

theorem lookup_write (table : KeyedMap K V) (w : K × Option V) (k : K) :
    (write table w).lookup k = if k = w.1 then w.2 else table.lookup k := by
  obtain ⟨k', row | row⟩ := w
  · exact KeyedMap.lookup_erase_ite table k' k
  · exact KeyedMap.lookup_insert_ite table k' k row

/-- A row comes from the writes or from the table. -/
theorem mem_or_of_lookup_overlay {table : KeyedMap K V} {work : List (K × Option V)} {k : K}
    {v : V} (h : (overlay table work).lookup k = some v) :
    (k, some v) ∈ work ∨ table.lookup k = some v := by
  induction work generalizing table with
  | nil => exact .inr h
  | cons w work ih =>
    rcases ih h with hmem | hold
    · exact .inl (List.mem_cons_of_mem w hmem)
    · rw [lookup_write] at hold
      split at hold
      · next heq =>
        left
        rw [heq, ← hold]
        exact List.mem_cons_self
      · exact .inr hold

/-- A table under deletions alone. -/
theorem lookup_overlay_deletions (table : KeyedMap K V) (keys : List K) (k : K) :
    (overlay table (keys.map fun k => (k, none))).lookup k =
      if k ∈ keys then none else table.lookup k := by
  induction keys generalizing table with
  | nil => simp [overlay]
  | cons k' keys ih =>
    have hstep : overlay table ((k' :: keys).map fun k => (k, none)) =
        overlay (write table (k', none)) (keys.map fun k => (k, none)) := rfl
    rw [hstep, ih, lookup_write]
    by_cases hk : k ∈ keys
    · rw [if_pos hk, if_pos (List.mem_cons_of_mem k' hk)]
    · rw [if_neg hk]
      by_cases heq : k = k'
      · rw [if_pos heq, if_pos (List.mem_cons.mpr (.inl heq))]
      · rw [if_neg heq, if_neg (List.not_mem_cons_of_ne_of_not_mem heq hk)]

@[simp] theorem overlay_nil (table : KeyedMap K V) : overlay table [] = table := rfl

theorem overlay_append (table : KeyedMap K V) (work work' : List (K × Option V)) :
    overlay table (work ++ work') = overlay (overlay table work) work' := by
  rw [overlay, overlay, overlay, List.foldl_append]

/-- What a row is under the writes depends on the table only through that row. -/
theorem lookup_overlay_congr {table table' : KeyedMap K V} {k : K}
    (h : table.lookup k = table'.lookup k) (work : List (K × Option V)) :
    (overlay table work).lookup k = (overlay table' work).lookup k := by
  induction work generalizing table table' with
  | nil => exact h
  | cons w work ih =>
    apply ih
    rw [lookup_write, lookup_write, h]

/-- A row that is not written is as in the table. -/
theorem lookup_overlay_of_not_mem {table : KeyedMap K V} {work : List (K × Option V)} {k : K}
    (h : k ∉ work.map Prod.fst) : (overlay table work).lookup k = table.lookup k := by
  induction work generalizing table with
  | nil => rfl
  | cons w work ih =>
    rw [List.map_cons, List.mem_cons, not_or] at h
    have hrest : (overlay (write table w) work).lookup k = (write table w).lookup k := ih h.2
    rw [lookup_write, if_neg h.1] at hrest
    exact hrest

/-- A row that is written is what the writes say, whatever the table. -/
theorem lookup_overlay_of_mem {table table' : KeyedMap K V} {work : List (K × Option V)} {k : K}
    (h : k ∈ work.map Prod.fst) :
    (overlay table work).lookup k = (overlay table' work).lookup k := by
  induction work generalizing table table' with
  | nil => cases h
  | cons w work ih =>
    by_cases hrest : k ∈ work.map Prod.fst
    · exact ih hrest
    · rw [List.map_cons, List.mem_cons] at h
      have hk : k = w.1 := h.resolve_right hrest
      have hnow : (write table w).lookup k = (write table' w).lookup k := by
        rw [lookup_write, lookup_write, if_pos hk, if_pos hk]
      exact lookup_overlay_congr hnow work

/-! ## Databases -/

/-- A running transaction, with the call it serves. -/
structure Session (K V L A ι : Type) where
  call : ι
  now : ℕ
  code : Tx K V L A
  work : List (K × Option V)
  rows : List K
  locks : List L

/-- The rows the transaction sees. -/
def Session.view (s : Session K V L A ι) (table : KeyedMap K V) : KeyedMap K V :=
  overlay table s.work

/-- A transaction that has begun. -/
def Session.start (call : ι) (now : ℕ) (code : Tx K V L A) : Session K V L A ι :=
  { call, now, code, work := [], rows := [], locks := [] }

/-- The transaction after a statement. -/
def Session.after (s : Session K V L A ι) (rows : List K) (work : List (K × Option V))
    (next : Tx K V L A) : Session K V L A ι :=
  { s with code := next, work := s.work ++ work, rows := s.rows ++ rows }

/-- The transaction with one more advisory lock. -/
def Session.acquire (s : Session K V L A ι) (l : L) (next : Tx K V L A) : Session K V L A ι :=
  { s with code := next, locks := l :: s.locks }

/-- The clock, the committed rows, and the transactions by connection. -/
structure Db (K V L A ι : Type) where
  clock : ℕ
  table : KeyedMap K V
  sessions : KeyedMap ℕ (Session K V L A ι)

/-- No other connection's transaction has the property. -/
def Db.NoOther (db : Db K V L A ι) (c : ℕ) (p : Session K V L A ι → Bool) : Bool :=
  db.sessions.entries.all fun entry => entry.1 = c || !p entry.2

omit [DecidableEq K] in
theorem Db.noOther_iff {db : Db K V L A ι} {c : ℕ} {p : Session K V L A ι → Bool} :
    db.NoOther c p = true ↔
      ∀ c' s, c' ≠ c → db.sessions.lookup c' = some s → p s = false := by
  simp only [NoOther, List.all_eq_true, Bool.or_eq_true, decide_eq_true_eq, Bool.not_eq_true']
  constructor
  · intro h c' s hne hs
    exact (h ⟨c', s⟩ (KeyedMap.lookup_eq_some_iff.mp hs)).resolve_left hne
  · rintro h ⟨c', s⟩ hmem
    by_cases hc : c' = c
    · exact .inl hc
    · exact .inr (h c' s hc (KeyedMap.lookup_eq_some_iff.mpr hmem))

/-- What the scheduler may do. -/
inductive Input (ι : Type) where
  | tick (elapsed : ℕ)
  /-- The client on connection `c` begins a call. -/
  | begin (c : ℕ) (call : ι)
  /-- The client takes its next statement, unless a lock keeps it waiting. -/
  | step (c : ℕ)
  /-- The client's next statement, or its connection, fails. -/
  | fail (c : ℕ)

/-- What a client learns. -/
inductive Output (ι A : Type) where
  | quiet
  | finished (call : ι) (now : ℕ) (answer : A)
deriving DecidableEq

section Step

variable [DecidableEq L] (ok : K → V → Bool) (code : ι → Tx K V L A) (failed : A)

/-- The transaction on connection `c` takes its next statement. -/
def advance (db : Db K V L A ι) (c : ℕ) (s : Session K V L A ι) :
    Output ι A × Db K V L A ι :=
  match s.code.move ok s.now (s.view db.table) with
  | .lock l next =>
    if db.NoOther c (fun other => l ∈ other.locks) then
      (.quiet, { db with sessions := db.sessions.insert c (s.acquire l next) })
    else (.quiet, db)
  | .statement rows work next =>
    if db.NoOther c (fun other => rows.any (· ∈ other.rows)) then
      (.quiet, { db with sessions := db.sessions.insert c (s.after rows work next) })
    else (.quiet, db)
  | .refused => (.finished s.call s.now failed, { db with sessions := db.sessions.erase c })
  | .commit a =>
    (.finished s.call s.now a,
      { db with table := s.view db.table, sessions := db.sessions.erase c })
  | .rollback a => (.finished s.call s.now a, { db with sessions := db.sessions.erase c })

/-- One step of the database. -/
def step (db : Db K V L A ι) : Input ι → Output ι A × Db K V L A ι
  | .tick elapsed => (.quiet, { db with clock := db.clock + elapsed })
  | .begin c call =>
    match db.sessions.lookup c with
    | some _ => (.quiet, db)
    | none =>
      (.quiet, { db with
        sessions := db.sessions.insert c (Session.start call db.clock (code call)) })
  | .step c =>
    match db.sessions.lookup c with
    | none => (.quiet, db)
    | some s => advance ok failed db c s
  | .fail c =>
    match db.sessions.lookup c with
    | none => (.quiet, db)
    | some s => (.finished s.call s.now failed, { db with sessions := db.sessions.erase c })

/-- All one step can do. -/
inductive Moved (db : Db K V L A ι) : Input ι → Output ι A → Db K V L A ι → Prop where
  /-- Nothing: the client waits, or there is none. -/
  | idle (input : Input ι) : Moved db input .quiet db
  | tick (elapsed : ℕ) :
      Moved db (.tick elapsed) .quiet { db with clock := db.clock + elapsed }
  | begin (c : ℕ) (call : ι) (hfree : db.sessions.lookup c = none) :
      Moved db (.begin c call) .quiet { db with
        sessions := db.sessions.insert c (Session.start call db.clock (code call)) }
  | lock (c : ℕ) (s : Session K V L A ι) (l : L) (next : Tx K V L A)
      (hs : db.sessions.lookup c = some s)
      (hmove : s.code.move ok s.now (s.view db.table) = .lock l next)
      (hfree : ∀ c' s', c' ≠ c → db.sessions.lookup c' = some s' → l ∉ s'.locks) :
      Moved db (.step c) .quiet
        { db with sessions := db.sessions.insert c (s.acquire l next) }
  | statement (c : ℕ) (s : Session K V L A ι) (rows : List K) (work : List (K × Option V))
      (next : Tx K V L A) (hs : db.sessions.lookup c = some s)
      (hmove : s.code.move ok s.now (s.view db.table) = .statement rows work next)
      (hfree : ∀ c' s', c' ≠ c → db.sessions.lookup c' = some s' → ∀ k ∈ rows, k ∉ s'.rows) :
      Moved db (.step c) .quiet
        { db with sessions := db.sessions.insert c (s.after rows work next) }
  | commit (c : ℕ) (s : Session K V L A ι) (a : A) (hs : db.sessions.lookup c = some s)
      (hmove : s.code.move ok s.now (s.view db.table) = .commit a) :
      Moved db (.step c) (.finished s.call s.now a)
        { db with table := s.view db.table, sessions := db.sessions.erase c }
  | rollback (c : ℕ) (s : Session K V L A ι) (a : A) (hs : db.sessions.lookup c = some s)
      (hmove : s.code.move ok s.now (s.view db.table) = .rollback a) :
      Moved db (.step c) (.finished s.call s.now a)
        { db with sessions := db.sessions.erase c }
  | fail (input : Input ι) (c : ℕ) (s : Session K V L A ι)
      (hs : db.sessions.lookup c = some s) :
      Moved db input (.finished s.call s.now failed)
        { db with sessions := db.sessions.erase c }

/-- **Every step is one of the moves.** -/
theorem moved_step (db : Db K V L A ι) (input : Input ι) :
    Moved ok code failed db input (step ok code failed db input).1
      (step ok code failed db input).2 := by
  cases input with
  | tick elapsed => exact .tick elapsed
  | begin c call =>
    rcases hc : db.sessions.lookup c with _ | s
    · simp only [step, hc]
      exact .begin c call hc
    · simp only [step, hc]
      exact .idle _
  -- A session moves if what it asks for is free, and waits otherwise.
  | step c =>
    rcases hc : db.sessions.lookup c with _ | s
    · simp only [step, hc]
      exact .idle _
    · simp only [step, hc, advance]
      cases hmove : s.code.move ok s.now (s.view db.table) with
      | lock l next =>
        simp only
        split
        · next hfree =>
          refine .lock c s l next hc hmove ?_
          intro c' s' hne hs'
          simpa using Db.noOther_iff.mp hfree c' s' hne hs'
        · exact .idle _
      | statement rows work next =>
        simp only
        split
        · next hfree =>
          refine .statement c s rows work next hc hmove ?_
          intro c' s' hne hs' k hk
          have hnone := Db.noOther_iff.mp hfree c' s' hne hs'
          rw [List.any_eq_false] at hnone
          simpa using hnone k hk
        · exact .idle _
      | refused => exact .fail _ c s hc
      | commit a => exact .commit c s a hc hmove
      | rollback a => exact .rollback c s a hc hmove
  | fail c =>
    rcases hc : db.sessions.lookup c with _ | s
    · simp only [step, hc]
      exact .idle _
    · simp only [step, hc]
      exact .fail _ c s hc

end Step

/-! ## Locks -/

/-- Locks are held by one transaction at a time, and only locked rows are written. -/
structure LocksHeld (db : Db K V L A ι) : Prop where
  rows : ∀ c s c' s', c ≠ c' → db.sessions.lookup c = some s → db.sessions.lookup c' = some s' →
    ∀ k ∈ s.rows, k ∉ s'.rows
  locks : ∀ c s c' s', c ≠ c' → db.sessions.lookup c = some s → db.sessions.lookup c' = some s' →
    ∀ l ∈ s.locks, l ∉ s'.locks
  work : ∀ c s, db.sessions.lookup c = some s → ∀ w ∈ s.work, w.1 ∈ s.rows
  begun : ∀ c s, db.sessions.lookup c = some s → s.now ≤ db.clock

/-- A commit changes no row but those its transaction has locked. -/
theorem lookup_view_of_not_locked {s : Session K V L A ι} (hwork : ∀ w ∈ s.work, w.1 ∈ s.rows)
    (table : KeyedMap K V) {k : K} (hk : k ∉ s.rows) :
    (s.view table).lookup k = table.lookup k := by
  apply lookup_overlay_of_not_mem
  intro hmem
  obtain ⟨w, hw, rfl⟩ := List.mem_map.mp hmem
  exact hk (hwork w hw)

/-- A statement writes no row it does not lock. -/
theorem work_mem_rows {ok : K → V → Bool} {now : ℕ} {view : KeyedMap K V} {tx next : Tx K V L A}
    {rows : List K} {work : List (K × Option V)}
    (h : tx.move ok now view = .statement rows work next) : ∀ w ∈ work, w.1 ∈ rows := by
  intro w hw
  -- A statement that writes names the rows it writes; the others write nothing.
  cases tx with
  | advisoryLock l next => cases h
  | deleteWhere p next =>
    cases h
    obtain ⟨row, hrow, rfl⟩ := List.mem_map.mp hw
    exact List.mem_map.mpr ⟨row, hrow, rfl⟩
  | countWhere p next =>
    cases h
    cases hw
  | insertNew k row next =>
    simp only [Tx.move] at h
    split at h
    · cases h
    · split at h
      · cases h
        cases hw
      · cases h
        rw [List.mem_singleton] at hw
        subst hw
        exact List.mem_singleton_self k
  | selectRow k next =>
    cases h
    cases hw
  | selectForUpdate k next =>
    simp only [Tx.move] at h
    split at h
    · cases h
      cases hw
    · cases h
      cases hw
  | updateRow k p f next =>
    simp only [Tx.move] at h
    split at h
    · cases h
      cases hw
    · split at h
      · cases h
      · split at h
        · cases h
          rw [List.mem_singleton] at hw
          subst hw
          exact List.mem_singleton_self k
        · cases h
  | commit a => cases h
  | rollback a => cases h

section Sessions

variable {db : Db K V L A ι} {c : ℕ} {s : Session K V L A ι}

omit [DecidableEq K] in
/-- What holds of pairs of sessions holds when one of them is replaced. -/
theorem forall_pairs_insert {r : Session K V L A ι → Session K V L A ι → Prop}
    {sessions : KeyedMap ℕ (Session K V L A ι)}
    (hold : ∀ c₁ s₁ c₂ s₂, c₁ ≠ c₂ → sessions.lookup c₁ = some s₁ →
      sessions.lookup c₂ = some s₂ → r s₁ s₂)
    (hnew : ∀ c' s', c' ≠ c → sessions.lookup c' = some s' → r s s' ∧ r s' s) :
    ∀ c₁ s₁ c₂ s₂, c₁ ≠ c₂ → (sessions.insert c s).lookup c₁ = some s₁ →
      (sessions.insert c s).lookup c₂ = some s₂ → r s₁ s₂ := by
  intro c₁ s₁ c₂ s₂ hne h₁ h₂
  rw [KeyedMap.lookup_insert_ite] at h₁ h₂
  by_cases hc₁ : c₁ = c
  · rw [if_pos hc₁] at h₁
    cases h₁
    have hc₂ : c₂ ≠ c := fun h => hne (hc₁.trans h.symm)
    rw [if_neg hc₂] at h₂
    exact (hnew c₂ s₂ hc₂ h₂).1
  · rw [if_neg hc₁] at h₁
    by_cases hc₂ : c₂ = c
    · rw [if_pos hc₂] at h₂
      cases h₂
      exact (hnew c₁ s₁ hc₁ h₁).2
    · rw [if_neg hc₂] at h₂
      exact hold c₁ s₁ c₂ s₂ hne h₁ h₂

omit [DecidableEq K] in
theorem forall_insert {P : Session K V L A ι → Prop} {sessions : KeyedMap ℕ (Session K V L A ι)}
    (hold : ∀ c' s', c' ≠ c → sessions.lookup c' = some s' → P s') (hnew : P s) :
    ∀ c' s', (sessions.insert c s).lookup c' = some s' → P s' := by
  intro c' s' hs'
  rw [KeyedMap.lookup_insert_ite] at hs'
  by_cases hc : c' = c
  · rw [if_pos hc] at hs'
    cases hs'
    exact hnew
  · rw [if_neg hc] at hs'
    exact hold c' s' hc hs'

omit [DecidableEq K] in
/-- A session left after one has ended is another one, and was there before. -/
theorem lookup_of_erase {c' : ℕ} {s' : Session K V L A ι}
    {sessions : KeyedMap ℕ (Session K V L A ι)}
    (h : (sessions.erase c).lookup c' = some s') : c' ≠ c ∧ sessions.lookup c' = some s' := by
  rw [KeyedMap.lookup_erase_ite] at h
  by_cases hc : c' = c
  · rw [if_pos hc] at h
    cases h
  · rw [if_neg hc] at h
    exact ⟨hc, h⟩

omit [DecidableEq K] in
/-- Ending a session keeps the locks of the others apart. -/
theorem LocksHeld.erase (h : LocksHeld db) (c : ℕ) (table : KeyedMap K V) :
    LocksHeld { db with table := table, sessions := db.sessions.erase c } where
  rows c₁ s₁ c₂ s₂ hne h₁ h₂ :=
    h.rows c₁ s₁ c₂ s₂ hne (lookup_of_erase h₁).2 (lookup_of_erase h₂).2
  locks c₁ s₁ c₂ s₂ hne h₁ h₂ :=
    h.locks c₁ s₁ c₂ s₂ hne (lookup_of_erase h₁).2 (lookup_of_erase h₂).2
  work c' s' hs' := h.work c' s' (lookup_of_erase hs').2
  begun c' s' hs' := h.begun c' s' (lookup_of_erase hs').2

end Sessions

section Rules

variable [DecidableEq L] {ok : K → V → Bool} {code : ι → Tx K V L A} {failed : A}
  {db db' : Db K V L A ι} {input : Input ι} {out : Output ι A}

omit [DecidableEq L] in
/-- **Locks stay apart.** -/
theorem Moved.locksHeld (hmoved : Moved ok code failed db input out db') (h : LocksHeld db) :
    LocksHeld db' := by
  cases hmoved with
  | idle _ => exact h
  | tick elapsed =>
    exact ⟨h.rows, h.locks, h.work, fun c s hs => (h.begun c s hs).trans (Nat.le_add_right _ _)⟩
  -- A new session holds nothing.
  | begin c call hfree =>
    refine ⟨?_, ?_, ?_, ?_⟩
    · exact forall_pairs_insert h.rows fun c' s' hne hs' => ⟨by simp [Session.start],
        by simp [Session.start]⟩
    · exact forall_pairs_insert h.locks fun c' s' hne hs' => ⟨by simp [Session.start],
        by simp [Session.start]⟩
    · exact forall_insert (fun c' s' _ => h.work c' s') (by simp [Session.start])
    · exact forall_insert (fun c' s' _ => h.begun c' s') (le_refl _)
  -- The lock was free, so no other session holds it.
  | lock c s l next hs hmove hfree =>
    refine ⟨?_, ?_, ?_, ?_⟩
    · exact forall_pairs_insert h.rows fun c' s' hne hs' =>
        ⟨h.rows c s c' s' hne.symm hs hs', h.rows c' s' c s hne hs' hs⟩
    · refine forall_pairs_insert h.locks fun c' s' hne hs' => ⟨?_, ?_⟩
      · intro l' hl'
        rcases List.mem_cons.mp hl' with rfl | hold
        · exact hfree c' s' hne hs'
        · exact h.locks c s c' s' hne.symm hs hs' l' hold
      · intro l' hl' hmem
        rcases List.mem_cons.mp hmem with rfl | hold
        · exact hfree c' s' hne hs' hl'
        · exact h.locks c' s' c s hne hs' hs l' hl' hold
    · exact forall_insert (fun c' s' _ => h.work c' s') (h.work c s hs)
    · exact forall_insert (fun c' s' _ => h.begun c' s') (h.begun c s hs)
  -- The rows of the statement were free, and what it writes is among them.
  | statement c s rows work next hs hmove hfree =>
    refine ⟨?_, ?_, ?_, ?_⟩
    · refine forall_pairs_insert h.rows fun c' s' hne hs' => ⟨?_, ?_⟩
      · intro k hk
        rcases List.mem_append.mp hk with hold | hnew
        · exact h.rows c s c' s' hne.symm hs hs' k hold
        · exact hfree c' s' hne hs' k hnew
      · intro k hk hmem
        rcases List.mem_append.mp hmem with hold | hnew
        · exact h.rows c' s' c s hne hs' hs k hk hold
        · exact hfree c' s' hne hs' k hnew hk
    · exact forall_pairs_insert h.locks fun c' s' hne hs' =>
        ⟨h.locks c s c' s' hne.symm hs hs', h.locks c' s' c s hne hs' hs⟩
    · refine forall_insert (fun c' s' _ => h.work c' s') ?_
      intro w hw
      rcases List.mem_append.mp hw with hold | hnew
      · exact List.mem_append_left _ (h.work c s hs w hold)
      · exact List.mem_append_right _ (work_mem_rows hmove w hnew)
    · exact forall_insert (fun c' s' _ => h.begun c' s') (h.begun c s hs)
  -- Ending a session only gives locks back.
  | commit c s a hs hmove => exact h.erase c _
  | rollback c s a hs hmove => exact h.erase c db.table
  | fail _ c s hs => exact h.erase c db.table

/-! ## Proof outlines

An outline gives each running transaction an assertion on the committed rows. Its own statements
keep it by their effect; the commits of others keep it because of the locks. -/

/-- `Global` holds of the committed rows and `Local` of every running transaction, as long as the
    calls begun are `legal`. What else is known of two transactions when the second commits is
    `fair`. -/
structure Outline (ok : K → V → Bool) (code : ι → Tx K V L A) (legal : ι → Prop)
    (fair : Session K V L A ι → Session K V L A ι → Prop) (Global : ℕ → KeyedMap K V → Prop)
    (Local : KeyedMap K V → Session K V L A ι → Prop) : Prop where
  tick : ∀ now now' table, now ≤ now' → Global now table → Global now' table
  start : ∀ now table call, legal call → Global now table →
    Local table (Session.start call now (code call))
  lock : ∀ table s l next, Local table s →
    s.code.move ok s.now (s.view table) = .lock l next → Local table (s.acquire l next)
  statement : ∀ now table s rows work next, Global now table → Local table s →
    s.code.move ok s.now (s.view table) = .statement rows work next →
    Local table (s.after rows work next)
  other : ∀ table s s' a, Local table s → Local table s' →
    s'.code.move ok s'.now (s'.view table) = .commit a → fair s s' →
    (∀ k ∈ s.rows, k ∉ s'.rows) → (∀ l ∈ s.locks, l ∉ s'.locks) →
    (∀ w ∈ s.work, w.1 ∈ s.rows) → (∀ w ∈ s'.work, w.1 ∈ s'.rows) →
    Local (s'.view table) s
  commit : ∀ now table s a, s.now ≤ now → Global now table → Local table s →
    s.code.move ok s.now (s.view table) = .commit a → Global now (s.view table)

/-- What an outline says of a database. -/
structure Sound (Global : ℕ → KeyedMap K V → Prop)
    (Local : KeyedMap K V → Session K V L A ι → Prop) (db : Db K V L A ι) : Prop where
  held : LocksHeld db
  rows : Global db.clock db.table
  sessions : ∀ c s, db.sessions.lookup c = some s → Local db.table s

/-- The others are fair to a transaction whose commit answers `out`. -/
def FairStep (ok : K → V → Bool) (fair : Session K V L A ι → Session K V L A ι → Prop)
    (db : Db K V L A ι) (out : Output ι A) : Prop :=
  ∀ c s c' s' a, c ≠ c' → db.sessions.lookup c = some s → db.sessions.lookup c' = some s' →
    s'.code.move ok s'.now (s'.view db.table) = .commit a →
    out = .finished s'.call s'.now a → fair s s'

omit [DecidableEq L] in
theorem FairStep.of_true : FairStep ok (fun _ _ => True) db out :=
  fun _ _ _ _ _ _ _ _ _ _ => trivial

variable {legal : ι → Prop} {fair : Session K V L A ι → Session K V L A ι → Prop}
  {Global : ℕ → KeyedMap K V → Prop} {Local : KeyedMap K V → Session K V L A ι → Prop}

omit [DecidableEq L] in
/-- **One step keeps an outline.** -/
theorem Outline.sound_moved (outline : Outline ok code legal fair Global Local)
    (hmoved : Moved ok code failed db input out db') (h : Sound Global Local db)
    (hlegal : ∀ c call, input = .begin c call → legal call) (hfair : FairStep ok fair db out) :
    Sound Global Local db' := by
  have hheld := hmoved.locksHeld h.held
  cases hmoved with
  | idle _ => exact h
  | tick elapsed =>
    exact ⟨hheld, outline.tick _ _ _ (Nat.le_add_right _ _) h.rows, h.sessions⟩
  | begin c call hfree =>
    exact ⟨hheld, h.rows, forall_insert (fun c' s' _ => h.sessions c' s')
      (outline.start db.clock db.table call (hlegal c call rfl) h.rows)⟩
  | lock c s l next hs hmove hfree =>
    exact ⟨hheld, h.rows, forall_insert (fun c' s' _ => h.sessions c' s')
      (outline.lock _ s l next (h.sessions c s hs) hmove)⟩
  | statement c s rows work next hs hmove hfree =>
    exact ⟨hheld, h.rows, forall_insert (fun c' s' _ => h.sessions c' s')
      (outline.statement _ _ s rows work next h.rows (h.sessions c s hs) hmove)⟩
  | commit c s a hs hmove =>
    refine ⟨hheld, outline.commit _ _ s a (h.held.begun c s hs) h.rows (h.sessions c s hs) hmove,
      ?_⟩
    intro c' s' hs'
    obtain ⟨hne, hold⟩ := lookup_of_erase hs'
    -- The other sessions held none of the locks and rows of the one that commits.
    exact outline.other db.table s' s a (h.sessions c' s' hold) (h.sessions c s hs) hmove
      (hfair c' s' c s a hne hold hs hmove rfl) (h.held.rows c' s' c s hne hold hs)
      (h.held.locks c' s' c s hne hold hs) (h.held.work c' s' hold) (h.held.work c s hs)
  | rollback c s a hs hmove =>
    exact ⟨hheld, h.rows, fun c' s' hs' => h.sessions c' s' (lookup_of_erase hs').2⟩
  | fail _ c s hs =>
    exact ⟨hheld, h.rows, fun c' s' hs' => h.sessions c' s' (lookup_of_erase hs').2⟩

/-- A database no transaction runs in. -/
def Db.Resting (db : Db K V L A ι) : Prop := ∀ c, db.sessions.lookup c = none

omit [DecidableEq K] [DecidableEq L] in
theorem Sound.of_resting (hrest : db.Resting) (hrows : Global db.clock db.table) :
    Sound Global Local db where
  held :=
    { rows := fun c s _ _ _ hs => by rw [hrest c] at hs; cases hs
      locks := fun c s _ _ _ hs => by rw [hrest c] at hs; cases hs
      work := fun c s hs => by rw [hrest c] at hs; cases hs
      begun := fun c s hs => by rw [hrest c] at hs; cases hs }
  rows := hrows
  sessions c s hs := by
    rw [hrest c] at hs
    cases hs

/-- **An outline holds in every state of every run** whose commits are fair. -/
theorem Outline.sound_run (outline : Outline ok code legal fair Global Local)
    (h : Sound Global Local db) (inputs : List (Input ι))
    (hlegal : ∀ c call, .begin c call ∈ inputs → legal call)
    (hfair : ∀ j input, inputs[j]? = some input →
      let before := Machine.run (step ok code failed) db (inputs.take j)
      FairStep ok fair before (step ok code failed before input).1) :
    ∀ j, Sound Global Local (Machine.run (step ok code failed) db (inputs.take j)) := by
  intro j
  induction j with
  | zero => exact h
  | succ j ih =>
    rcases hj : inputs[j]? with _ | input
    · have hend : inputs.take (j + 1) = inputs.take j := by
        rw [List.take_add_one, hj, Option.toList_none, List.append_nil]
      rw [hend]
      exact ih
    · rw [Machine.run_take_succ (step ok code failed) hj]
      exact outline.sound_moved (moved_step ok code failed _ input) ih
        (fun c call heq => hlegal c call (heq ▸ List.mem_of_getElem? hj)) (hfair j input hj)

/-- With nothing asked of the calls. -/
theorem Outline.sound_run_of_unfair
    (outline : Outline ok code (fun _ => True) (fun _ _ => True) Global Local)
    (h : Sound Global Local db) (inputs : List (Input ι)) (j : ℕ) :
    Sound Global Local (Machine.run (step ok code failed) db (inputs.take j)) :=
  outline.sound_run h inputs (fun _ _ _ => trivial) (fun _ _ _ => FairStep.of_true) j

end Rules

end ReadCommitted
