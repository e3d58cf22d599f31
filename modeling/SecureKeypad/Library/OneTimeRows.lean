import SecureKeypad.Library.ReadCommitted

/-!
# One-Time Rows Under an Advisory Lock

A store that hands each value out once keeps a row for each, with an expiry. An insert takes the
advisory lock of its namespace, deletes the rows that have expired, counts the others and, with
room left, inserts under the first fresh handle it draws. A consume is a single `DELETE …
RETURNING` and takes no advisory lock. Both see the clock as it was when they began.

## Main definitions

- `Layout`: the namespaces, keys and locks of the rows
- `Call.tx`: the transaction of a call
- `At`: what holds at each point of a transaction, whatever the others commit
- `Effect`: what one step may do to the rows, with the event it shows

## Main results

- `outline`: the assertions `At` are a proof outline
- `step_effect`: every step of the database is an `Effect`
- `redeemsOnce_run`: each inserted row is handed out at most once, before its expiry
- `consumed_fits`: what is handed out fits the clock of its consume
-/

namespace OneTimeRows

open Machine Machine.Ledger ReadCommitted

variable {N H K V L E ι : Type}

/-! ## Transactions -/

/-- Where stores keep their rows in a table. -/
structure Layout (N H K V L : Type) where
  /-- The namespace of a row. -/
  space : K → N
  key : N → H → K
  lock : N → L
  expiresAt : V → ℕ
  /-- What the `DELETE` of a consume asks for beside the key. -/
  takes : ℕ → V → Bool
  space_key : ∀ n h, space (key n h) = n
  lock_injective : Function.Injective lock

/-- What a transaction answers. -/
inductive Answer (H V E : Type) where
  | inserted (h : H)
  | consumed (row : Option V)
  | refused (e : E)
deriving DecidableEq

/-- An insert of `row now`, with the handles it draws and the errors it may end in. -/
structure Insert (N H V E : Type) where
  space : N
  capacity : ℕ
  rounds : ℕ
  draw : ℕ → H
  row : ℕ → V
  full : E
  collision : E

/-- A call of a store. -/
inductive Call (N H V E : Type) where
  /-- Arguments the store refuses before it asks for a connection. -/
  | refuse (e : E)
  | insert (job : Insert N H V E)
  | consume (n : N) (h : H)

section Programs

variable [DecidableEq N] [DecidableEq K] (layout : Layout N H K V L)

/-- The rounds left of an insert. -/
def rounds (job : Insert N H V E) : ℕ → (ℕ → H) → Tx K V L (Answer H V E)
  | 0, _ => .rollback (.refused job.collision)
  | n + 1, draw =>
    .insertNew (layout.key job.space (draw 0)) job.row fun inserted =>
      if inserted then .commit (.inserted (draw 0)) else rounds job n fun i => draw (i + 1)

/-- An insert that has counted the `active` rows of its namespace. -/
def counted (job : Insert N H V E) (active : ℕ) : Tx K V L (Answer H V E) :=
  if active ≥ job.capacity then .rollback (.refused job.full)
  else rounds layout job job.rounds job.draw

/-- An insert behind its `DELETE`. -/
def purged (job : Insert N H V E) : Tx K V L (Answer H V E) :=
  .countWhere (fun now k v => layout.space k = job.space && now < layout.expiresAt v)
    (counted layout job)

/-- An insert that holds its lock. -/
def locked (job : Insert N H V E) : Tx K V L (Answer H V E) :=
  .deleteWhere (fun now k v => layout.space k = job.space && layout.expiresAt v ≤ now)
    fun _ => purged layout job

def insertTx (job : Insert N H V E) : Tx K V L (Answer H V E) :=
  .advisoryLock (layout.lock job.space) (locked layout job)

def consumeTx (n : N) (h : H) : Tx K V L (Answer H V E) :=
  .deleteWhere (fun now k v => k = layout.key n h && layout.takes now v)
    fun deleted => .commit (.consumed (deleted.head?.map Prod.snd))

/-- The transaction of a call. -/
def Call.tx : Call N H V E → Tx K V L (Answer H V E)
  | .refuse e => .rollback (.refused e)
  | .insert job => insertTx layout job
  | .consume n h => consumeTx layout n h

end Programs

/-! ## The rows of a namespace -/

section Rows

variable [DecidableEq N] [DecidableEq K] (layout : Layout N H K V L)

/-- The number of rows of a namespace, expired or not. -/
def rowsOf (n : N) (table : KeyedMap K V) : ℕ :=
  Sql.countWhere (fun k _ => layout.space k = n) table

/-- In the namespace no row is new or other than it was. -/
def Shrinks (n : N) (table table' : KeyedMap K V) : Prop :=
  ∀ k v, layout.space k = n → table'.lookup k = some v → table.lookup k = some v

variable {layout} {n : N} {table table' : KeyedMap K V}

theorem rowsOf_le_countWhere {p : K → V → Bool}
    (h : ∀ k v, layout.space k = n → table'.lookup k = some v →
      ∃ v', table.lookup k = some v' ∧ p k v' = true) :
    rowsOf layout n table' ≤ Sql.countWhere p table := by
  apply KeyedMap.size_le_of_lookup
  intro k v hk
  obtain ⟨hlookup, hspace⟩ := KeyedMap.lookup_retain_eq_some.mp hk
  obtain ⟨v', hv', hp⟩ := h k v (of_decide_eq_true hspace) hlookup
  exact ⟨v', KeyedMap.lookup_retain_eq_some.mpr ⟨hv', hp⟩⟩

theorem Shrinks.rowsOf_le (h : Shrinks layout n table table') :
    rowsOf layout n table' ≤ rowsOf layout n table :=
  rowsOf_le_countWhere fun k v hspace hlookup => ⟨v, h k v hspace hlookup, decide_eq_true hspace⟩

omit [DecidableEq N] in
/-- A namespace shrinks under pending writes if it shrinks without them. -/
theorem Shrinks.overlay (h : Shrinks layout n table table') (work : List (K × Option V)) :
    Shrinks layout n (overlay table work) (overlay table' work) := by
  intro k v hspace hlookup
  by_cases hk : k ∈ work.map Prod.fst
  · rw [lookup_overlay_of_mem hk]
    exact hlookup
  · rw [lookup_overlay_of_not_mem hk] at hlookup ⊢
    exact h k v hspace hlookup

omit [DecidableEq N] in
/-- Writes elsewhere leave a namespace as it is. -/
theorem lookup_overlay_of_space {work : List (K × Option V)} {n' : N}
    (hwork : ∀ w ∈ work, layout.space w.1 = n') {k : K} (hk : layout.space k ≠ n') :
    (overlay table work).lookup k = table.lookup k := by
  apply lookup_overlay_of_not_mem
  intro hmem
  obtain ⟨w, hw, rfl⟩ := List.mem_map.mp hmem
  exact hk (hwork w hw)

end Rows

/-! ## What holds during a transaction -/

section Assertions

variable [DecidableEq N] [DecidableEq K] (layout : Layout N H K V L) (program : ι → Call N H V E)

/-- The transactions of a store. -/
abbrev Running (H K V L E ι : Type) := Session K V L (Answer H V E) ι

/-- Deletions in a namespace. -/
def Deletions (n : N) (work : List (K × Option V)) : Prop :=
  ∀ w ∈ work, layout.space w.1 = n ∧ w.2 = none

/-- What holds at each point of a transaction. -/
inductive At (table : KeyedMap K V) (s : Running H K V L E ι) : Prop
  /-- It ends without a commit. -/
  | refused (e : E) (hcode : s.code = .rollback (.refused e))
  | start (job : Insert N H V E) (hcall : program s.call = .insert job)
      (hcode : s.code = insertTx layout job) (hwork : s.work = [])
  | locked (job : Insert N H V E) (hcall : program s.call = .insert job)
      (hcode : s.code = locked layout job) (hlock : layout.lock job.space ∈ s.locks)
      (hwork : s.work = [])
  /-- No row it can see has expired. -/
  | purged (job : Insert N H V E) (hcall : program s.call = .insert job)
      (hcode : s.code = purged layout job) (hlock : layout.lock job.space ∈ s.locks)
      (hwork : Deletions layout job.space s.work)
      (hlive : ∀ k v, layout.space k = job.space → (s.view table).lookup k = some v →
        s.now < layout.expiresAt v)
  /-- There is room for one row. -/
  | round (job : Insert N H V E) (left : ℕ) (draw : ℕ → H)
      (hcall : program s.call = .insert job) (hcode : s.code = rounds layout job left draw)
      (hlock : layout.lock job.space ∈ s.locks) (hwork : Deletions layout job.space s.work)
      (hroom : rowsOf layout job.space (s.view table) < job.capacity)
  | inserted (job : Insert N H V E) (h : H) (hcall : program s.call = .insert job)
      (hcode : s.code = .commit (.inserted h)) (hlock : layout.lock job.space ∈ s.locks)
      (hwork : ∀ w ∈ s.work, layout.space w.1 = job.space ∧
        (w.2 = none ∨ w = (layout.key job.space h, some (job.row s.now))))
      (hnew : (layout.key job.space h, some (job.row s.now)) ∈ s.work)
      (hview : (s.view table).lookup (layout.key job.space h) = some (job.row s.now))
      (hbound : rowsOf layout job.space (s.view table) ≤ job.capacity)
  | consume (n : N) (h : H) (hcall : program s.call = .consume n h)
      (hcode : s.code = consumeTx layout n h) (hwork : s.work = [])
  | missed (n : N) (h : H) (hcall : program s.call = .consume n h)
      (hcode : s.code = .commit (.consumed none)) (hwork : s.work = [])
  /-- It has locked the row it hands out. -/
  | found (n : N) (h : H) (v : V) (hcall : program s.call = .consume n h)
      (hcode : s.code = .commit (.consumed (some v)))
      (hwork : s.work = [(layout.key n h, none)]) (hrow : layout.key n h ∈ s.rows)
      (hlookup : table.lookup (layout.key n h) = some v) (htakes : layout.takes s.now v = true)

variable {layout} {program} {table : KeyedMap K V} {s s' : Running H K V L E ι} {n : N}

omit [DecidableEq N] [DecidableEq K] in
theorem Deletions.append {work work' : List (K × Option V)} (h : Deletions layout n work)
    (h' : Deletions layout n work') : Deletions layout n (work ++ work') := by
  intro w hw
  rcases List.mem_append.mp hw with hold | hnew
  · exact h w hold
  · exact h' w hnew

/-- The commit of another transaction adds nothing to a namespace whose lock it does not hold. -/
theorem At.shrinks (hother : At layout program table s') {a : Answer H V E}
    (hcommit : s'.code = .commit a) (hlock : layout.lock n ∉ s'.locks) :
    Shrinks layout n table (s'.view table) := by
  intro k v hspace hlookup
  cases hother with
  | inserted job h hcall hcode hheld hwork hnew hview hbound =>
    -- An insertion into this space would hold its lock.
    have hne : layout.space k ≠ job.space := by
      rintro heq
      rw [← heq, hspace] at hheld
      exact hlock hheld
    rw [Session.view, lookup_overlay_of_space (fun w hw => (hwork w hw).1) hne] at hlookup
    exact hlookup
  | missed n' h hcall hcode hwork =>
    rw [Session.view, hwork] at hlookup
    exact hlookup
  | found n' h v' hcall hcode hwork hrow hstored htakes =>
    rw [Session.view, hwork, overlay, List.foldl_cons, List.foldl_nil, lookup_write] at hlookup
    by_cases hk : k = layout.key n' h
    · rw [if_pos hk] at hlookup
      cases hlookup
    · rw [if_neg hk] at hlookup
      exact hlookup
  | refused e hcode =>
    rw [hcode] at hcommit
    cases hcommit
  | start job hcall hcode hwork =>
    rw [hcode] at hcommit
    cases hcommit
  | locked job hcall hcode hheld hwork =>
    rw [hcode] at hcommit
    cases hcommit
  | purged job hcall hcode hheld hwork hlive =>
    rw [hcode] at hcommit
    cases hcommit
  | round job left draw hcall hcode hheld hwork hroom =>
    rw [hcode] at hcommit
    cases left <;> cases hcommit
  | consume n' h hcall hcode hwork =>
    rw [hcode] at hcommit
    cases hcommit

/-- **What another transaction commits keeps the assertions.** -/
theorem At.other (hself : At layout program table s) (hother : At layout program table s')
    {a : Answer H V E} (hcommit : s'.code = .commit a) (hrows : ∀ k ∈ s.rows, k ∉ s'.rows)
    (hlocks : ∀ l ∈ s.locks, l ∉ s'.locks) (hwrites : ∀ w ∈ s'.work, w.1 ∈ s'.rows) :
    At layout program (s'.view table) s := by
  -- Behind its lock an insert sees its namespace shrink and nothing else.
  have hview : ∀ n, layout.lock n ∈ s.locks →
      Shrinks layout n (s.view table) (s.view (s'.view table)) :=
    fun n hheld => (hother.shrinks hcommit (hlocks _ hheld)).overlay s.work
  cases hself with
  | refused e hcode => exact .refused e hcode
  | start job hcall hcode hwork => exact .start job hcall hcode hwork
  | locked job hcall hcode hlock hwork => exact .locked job hcall hcode hlock hwork
  | purged job hcall hcode hlock hwork hlive =>
    refine .purged job hcall hcode hlock hwork fun k v hspace hlookup => ?_
    exact hlive k v hspace (hview job.space hlock k v hspace hlookup)
  | round job left draw hcall hcode hlock hwork hroom =>
    refine .round job left draw hcall hcode hlock hwork ?_
    exact lt_of_le_of_lt (hview job.space hlock).rowsOf_le hroom
  | inserted job h hcall hcode hlock hwork hnew hrow hbound =>
    refine .inserted job h hcall hcode hlock hwork hnew ?_
      (le_trans (hview job.space hlock).rowsOf_le hbound)
    have hmem : layout.key job.space h ∈ s.work.map Prod.fst := List.mem_map.mpr ⟨_, hnew, rfl⟩
    rw [← hrow]
    exact lookup_overlay_of_mem hmem
  | consume n h hcall hcode hwork => exact .consume n h hcall hcode hwork
  | missed n h hcall hcode hwork => exact .missed n h hcall hcode hwork
  | found n h v hcall hcode hwork hrow hlookup htakes =>
    refine .found n h v hcall hcode hwork hrow ?_ htakes
    rw [lookup_view_of_not_locked hwrites table (hrows _ hrow)]
    exact hlookup

/-- The lock of an insert. -/
theorem At.lock {ok : K → V → Bool} (hself : At layout program table s) {l : L}
    {next : Tx K V L (Answer H V E)}
    (hmove : s.code.move ok s.now (s.view table) = .lock l next) :
    At layout program table (s.acquire l next) := by
  -- Only an insertion takes a lock, and it does so first.
  cases hself with
  | start job hcall hcode hwork =>
    rw [hcode] at hmove
    cases hmove
    exact .locked job hcall rfl List.mem_cons_self hwork
  | refused e hcode =>
    rw [hcode] at hmove
    cases hmove
  | locked job hcall hcode hlock hwork =>
    rw [hcode] at hmove
    cases hmove
  | purged job hcall hcode hlock hwork hlive =>
    rw [hcode] at hmove
    cases hmove
  | round job left draw hcall hcode hlock hwork hroom =>
    rw [hcode] at hmove
    cases left with
    | zero => cases hmove
    | succ left =>
      simp only [rounds, Tx.move] at hmove
      split at hmove
      · cases hmove
      · split at hmove <;> cases hmove
  | inserted job h hcall hcode hlock hwork hnew hview hbound =>
    rw [hcode] at hmove
    cases hmove
  | consume n h hcall hcode hwork =>
    rw [hcode] at hmove
    cases hmove
  | missed n h hcall hcode hwork =>
    rw [hcode] at hmove
    cases hmove
  | found n h v hcall hcode hwork hrow hlookup htakes =>
    rw [hcode] at hmove
    cases hmove

/-- Behind the `DELETE` of an insert no visible row of the namespace has expired. -/
theorem deletions_expired (layout : Layout N H K V L) (job : Insert N H V E) (now : ℕ)
    (view : KeyedMap K V) {deleted : List (K × V)}
    (hdeleted : deleted = (view.entries.filter fun entry =>
      layout.space entry.1 = job.space && layout.expiresAt entry.2 ≤ now).map
        fun entry => (entry.1, entry.2)) :
    Deletions layout job.space (deleted.map fun row => (row.1, none)) ∧
    ∀ k v, layout.space k = job.space →
      (overlay view (deleted.map fun row => (row.1, none))).lookup k = some v →
      now < layout.expiresAt v := by
  subst hdeleted
  constructor
  · intro w hw
    simp only [List.mem_map, List.mem_filter, Bool.and_eq_true, decide_eq_true_eq] at hw
    obtain ⟨_, ⟨entry, ⟨_, hspace, _⟩, rfl⟩, rfl⟩ := hw
    exact ⟨hspace, rfl⟩
  · intro k v hspace hlookup
    have hkeys : ((view.entries.filter fun entry =>
        layout.space entry.1 = job.space && layout.expiresAt entry.2 ≤ now).map
          fun entry => (entry.1, entry.2)).map (fun row => (row.1, (none : Option V))) =
        ((view.entries.filter fun entry => layout.space entry.1 = job.space &&
          layout.expiresAt entry.2 ≤ now).map fun entry => entry.1).map fun k => (k, none) := by
      simp only [List.map_map, Function.comp_def]
    rw [hkeys, lookup_overlay_deletions] at hlookup
    split at hlookup
    · cases hlookup
    · next hkept =>
      -- A row that had expired would have been deleted.
      by_contra hexpired
      refine hkept (List.mem_map.mpr ⟨⟨k, v⟩, ?_, rfl⟩)
      rw [List.mem_filter]
      exact ⟨KeyedMap.lookup_eq_some_iff.mp hlookup, by simp [hspace, not_lt.mp hexpired]⟩

/-- **A statement leads from one assertion to the next.** -/
theorem At.statement {ok : K → V → Bool} (hself : At layout program table s) {rows : List K}
    {work : List (K × Option V)} {next : Tx K V L (Answer H V E)}
    (hmove : s.code.move ok s.now (s.view table) = .statement rows work next) :
    At layout program table (s.after rows work next) := by
  have hview : (s.after rows work next).view table = overlay (s.view table) work :=
    overlay_append table s.work work
  cases hself with
  -- Under the lock the expired rows go first.
  | locked job hcall hcode hlock hwork =>
    rw [hcode] at hmove
    simp only [OneTimeRows.locked, Tx.move, Move.statement.injEq] at hmove
    obtain ⟨-, rfl, rfl⟩ := hmove
    obtain ⟨hdeletions, hlive⟩ := deletions_expired layout job s.now (s.view table) rfl
    refine .purged job hcall rfl hlock ?_ ?_
    · rw [Session.after, hwork, List.nil_append]
      exact hdeletions
    · rw [hview]
      exact hlive
  -- Behind the purge the live rows of the space are counted.
  | purged job hcall hcode hlock hwork hlive =>
    rw [hcode] at hmove
    simp only [OneTimeRows.purged, Tx.move, Move.statement.injEq] at hmove
    obtain ⟨rfl, rfl, rfl⟩ := hmove
    by_cases hfull : Sql.countWhere (fun k v => layout.space k = job.space &&
        s.now < layout.expiresAt v) (s.view table) ≥ job.capacity
    · exact .refused job.full (by simp [Session.after, counted, hfull])
    · refine .round job job.rounds job.draw hcall (by simp [Session.after, counted, hfull]) hlock
        (by simpa [Session.after] using hwork) ?_
      rw [hview]
      refine lt_of_le_of_lt (rowsOf_le_countWhere fun k v hspace hlookup => ?_) (not_le.mp hfull)
      exact ⟨v, hlookup, by simp [hspace, hlive k v hspace hlookup]⟩
  -- A round draws a handle, and inserts under it unless it is taken.
  | round job left draw hcall hcode hlock hwork hroom =>
    rw [hcode] at hmove
    cases left with
    | zero => cases hmove
    | succ left =>
      simp only [rounds, Tx.move] at hmove
      split at hmove
      · cases hmove
      · split at hmove
        · -- The handle is taken: the next round.
          cases hmove
          refine .round job left (fun i => draw (i + 1)) hcall rfl hlock
            (by simpa [Session.after] using hwork) ?_
          rw [hview]
          exact hroom
        · cases hmove
          have hmem : (layout.key job.space (draw 0), some (job.row s.now)) ∈
              s.work ++ [(layout.key job.space (draw 0), some (job.row s.now))] :=
            List.mem_append_right _ (List.mem_singleton_self _)
          refine .inserted job (draw 0) hcall rfl hlock ?_ hmem ?_ ?_
          · intro w hw
            rcases List.mem_append.mp hw with hold | hnew
            · exact ⟨(hwork w hold).1, .inl (hwork w hold).2⟩
            · rw [List.mem_singleton] at hnew
              subst hnew
              exact ⟨layout.space_key job.space (draw 0), .inr rfl⟩
          · rw [hview]
            exact AList.lookup_insert _
          · rw [hview]
            exact (Sql.countWhere_insert_le _ _ _ _).trans hroom
  -- A row that is there and has not expired is deleted.
  | consume n h hcall hcode hwork =>
    rw [hcode] at hmove
    simp only [consumeTx, Tx.move, KeyedMap.entries_filter_key, Move.statement.injEq] at hmove
    have hrow : s.view table = table := by rw [Session.view, hwork, overlay_nil]
    rw [hrow] at hmove
    rcases hfound : (table.lookup (layout.key n h)).filter (layout.takes s.now) with _ | v
    · rw [hfound] at hmove
      obtain ⟨rfl, rfl, rfl⟩ := hmove
      exact .missed n h hcall rfl (by simp [Session.after, hwork])
    · rw [hfound] at hmove
      obtain ⟨rfl, rfl, rfl⟩ := hmove
      obtain ⟨hlookup, htakes⟩ := Option.filter_eq_some_iff.mp hfound
      exact .found n h v hcall rfl (by simp [Session.after, hwork]) (by simp [Session.after])
        hlookup htakes
  -- The transaction makes no statement anywhere else.
  | refused e hcode =>
    rw [hcode] at hmove
    cases hmove
  | start job hcall hcode hwork =>
    rw [hcode] at hmove
    cases hmove
  | inserted job h hcall hcode hlock hwork hnew hrow hbound =>
    rw [hcode] at hmove
    cases hmove
  | missed n h hcall hcode hwork =>
    rw [hcode] at hmove
    cases hmove
  | found n h v hcall hcode hwork hrow hlookup htakes =>
    rw [hcode] at hmove
    cases hmove

/-- The assertion a transaction begins with. -/
theorem At.begin (table : KeyedMap K V) (call : ι) (now : ℕ) :
    At layout program table (Session.start call now ((program call).tx layout)) := by
  cases hcall : program call with
  | refuse e => exact .refused e rfl
  | insert job => exact .start job hcall rfl rfl
  | consume n h => exact .consume n h hcall rfl rfl

/-- **The assertions are a proof outline.** -/
theorem outline (ok : K → V → Bool) :
    Outline ok (fun call => (program call).tx layout) (fun _ => True) (fun _ _ => True)
      (fun _ _ => True) (At layout program) where
  tick _ _ _ _ _ := trivial
  start now table call _ _ := At.begin table call now
  lock _ _ _ _ h hmove := h.lock hmove
  statement _ _ _ _ _ _ _ h hmove := h.statement hmove
  other _ _ _ _ h hother hcommit _ hrows hlocks _ hwrites :=
    h.other hother (Tx.move_eq_commit.mp hcommit) hrows hlocks hwrites
  commit _ _ _ _ _ _ _ _ := trivial

end Assertions

/-! ## What a step does -/

section Effects

variable [DecidableEq N] [DecidableEq K] (layout : Layout N H K V L) (program : ι → Call N H V E)

/-- All one step can do to the rows, with what a client learns. -/
inductive Effect (table table' : KeyedMap K V) : Output ι (Answer H V E) → Prop
  /-- Nothing is committed. -/
  | unchanged (out : Output ι (Answer H V E))
      (hout : out = .quiet ∨ ∃ call now e, out = .finished call now (.refused e))
      (htable : table' = table) : Effect table table' out
  /-- A committed insert: in its namespace one row is new, the others were there before. -/
  | inserted (call : ι) (now : ℕ) (job : Insert N H V E) (h : H)
      (hcall : program call = .insert job)
      (hnew : table'.lookup (layout.key job.space h) = some (job.row now))
      (hold : ∀ k v, table'.lookup k = some v → k = layout.key job.space h ∨
        table.lookup k = some v)
      (helse : ∀ k, layout.space k ≠ job.space → table'.lookup k = table.lookup k)
      (hbound : rowsOf layout job.space table' ≤ job.capacity) :
      Effect table table' (.finished call now (.inserted h))
  /-- A consume that finds no row. -/
  | missed (call : ι) (now : ℕ) (n : N) (h : H) (hcall : program call = .consume n h)
      (htable : table' = table) : Effect table table' (.finished call now (.consumed none))
  /-- A consume that hands out its row and deletes it. -/
  | found (call : ι) (now : ℕ) (n : N) (h : H) (v : V) (hcall : program call = .consume n h)
      (hrow : table.lookup (layout.key n h) = some v) (htakes : layout.takes now v = true)
      (htable : ∀ k, table'.lookup k =
        if k = layout.key n h then none else table.lookup k) :
      Effect table table' (.finished call now (.consumed (some v)))

variable {layout} {program} {table : KeyedMap K V} {s : Running H K V L E ι}

/-- What a commit does. -/
theorem At.commit (hself : At layout program table s) {a : Answer H V E}
    (hcommit : s.code = .commit a) :
    Effect layout program table (s.view table) (.finished s.call s.now a) := by
  -- By the point of the program; only the three ends of it are commits.
  cases hself with
  | inserted job h hcall hcode hlock hwork hnew hview hbound =>
    rw [hcode] at hcommit
    cases hcommit
    refine .inserted s.call s.now job h hcall hview ?_ ?_ hbound
    · intro k v hlookup
      rcases mem_or_of_lookup_overlay hlookup with hmem | hold
      · -- The one write that is no deletion is the new row.
        rcases (hwork _ hmem).2 with hnone | heq
        · cases hnone
        · exact .inl (Prod.ext_iff.mp heq).1
      · exact .inr hold
    · intro k hspace
      exact lookup_overlay_of_space (fun w hw => (hwork w hw).1) hspace
  | missed n h hcall hcode hwork =>
    rw [hcode] at hcommit
    cases hcommit
    exact .missed s.call s.now n h hcall (by rw [Session.view, hwork, overlay_nil])
  | found n h v hcall hcode hwork hrow hlookup htakes =>
    rw [hcode] at hcommit
    cases hcommit
    refine .found s.call s.now n h v hcall hlookup htakes fun k => ?_
    rw [Session.view, hwork, overlay, List.foldl_cons, List.foldl_nil, lookup_write]
  | refused e hcode =>
    rw [hcode] at hcommit
    cases hcommit
  | start job hcall hcode hwork =>
    rw [hcode] at hcommit
    cases hcommit
  | locked job hcall hcode hheld hwork =>
    rw [hcode] at hcommit
    cases hcommit
  | purged job hcall hcode hheld hwork hlive =>
    rw [hcode] at hcommit
    cases hcommit
  | round job left draw hcall hcode hheld hwork hroom =>
    rw [hcode] at hcommit
    cases left <;> cases hcommit
  | consume n' h hcall hcode hwork =>
    rw [hcode] at hcommit
    cases hcommit

/-- A transaction that returns without a commit has been refused. -/
theorem At.rollback (hself : At layout program table s) {a : Answer H V E}
    (hrollback : s.code = .rollback a) : ∃ e, a = .refused e := by
  -- Two points roll back: a refusal, and the rounds when none is left.
  cases hself with
  | refused e hcode =>
    rw [hcode] at hrollback
    cases hrollback
    exact ⟨e, rfl⟩
  | round job left draw hcall hcode hlock hwork hroom =>
    rw [hcode] at hrollback
    cases left with
    | zero =>
      cases hrollback
      exact ⟨job.collision, rfl⟩
    | succ left => cases hrollback
  | start job hcall hcode hwork =>
    rw [hcode] at hrollback
    cases hrollback
  | locked job hcall hcode hlock hwork =>
    rw [hcode] at hrollback
    cases hrollback
  | purged job hcall hcode hlock hwork hlive =>
    rw [hcode] at hrollback
    cases hrollback
  | inserted job h hcall hcode hlock hwork hnew hview hbound =>
    rw [hcode] at hrollback
    cases hrollback
  | consume n h hcall hcode hwork =>
    rw [hcode] at hrollback
    cases hrollback
  | missed n h hcall hcode hwork =>
    rw [hcode] at hrollback
    cases hrollback
  | found n h v hcall hcode hwork hrow hlookup htakes =>
    rw [hcode] at hrollback
    cases hrollback

variable (layout) (program)

/-- The assertions hold of every running transaction. -/
abbrev Outlined (db : Db K V L (Answer H V E) ι) : Prop :=
  Sound (fun _ _ => True) (At layout program) db

variable {layout} {program} [DecidableEq L] {ok : K → V → Bool} {unavailable : E}
  {db : Db K V L (Answer H V E) ι}

/-- **Every step of the database is an effect.** -/
theorem step_effect (h : Outlined layout program db) (input : Input ι) :
    Effect layout program db.table
      (step ok (fun call => (program call).tx layout) (.refused unavailable) db input).2.table
      (step ok (fun call => (program call).tx layout) (.refused unavailable) db input).1 := by
  have hmoved := moved_step ok (fun call => (program call).tx layout) (.refused unavailable) db
    input
  revert hmoved
  generalize step ok (fun call => (program call).tx layout) (.refused unavailable) db input =
    result
  obtain ⟨out, db'⟩ := result
  intro hmoved
  cases hmoved with
  | idle _ => exact .unchanged _ (.inl rfl) rfl
  | tick elapsed => exact .unchanged _ (.inl rfl) rfl
  | begin c call hfree => exact .unchanged _ (.inl rfl) rfl
  | lock c s l next hs hmove hfree => exact .unchanged _ (.inl rfl) rfl
  | statement c s rows work next hs hmove hfree => exact .unchanged _ (.inl rfl) rfl
  | commit c s a hs hmove => exact (h.sessions c s hs).commit (Tx.move_eq_commit.mp hmove)
  | rollback c s a hs hmove =>
    obtain ⟨e, rfl⟩ := (h.sessions c s hs).rollback (Tx.move_eq_rollback.mp hmove)
    exact .unchanged _ (.inr ⟨_, _, e, rfl⟩) rfl
  | fail _ c s hs => exact .unchanged _ (.inr ⟨_, _, unavailable, rfl⟩) rfl

end Effects

/-! ## Runs -/

section Runs

variable [DecidableEq N] [DecidableEq K] [DecidableEq L] (layout : Layout N H K V L)
  (program : ι → Call N H V E)

/-- The event a client's answer shows to an observer of the namespace. -/
def observe (n : N) : Output ι (Answer H V E) → Event K V
  | .finished call now (.inserted h) =>
    match program call with
    | .insert job =>
      if job.space = n then
        .issue (layout.key job.space h) (job.row now) (layout.expiresAt (job.row now))
      else .quiet
    | _ => .quiet
  | .finished call now (.consumed (some v)) =>
    match program call with
    | .consume n' h =>
      if n' = n ∧ now < layout.expiresAt v then .redeem (layout.key n' h) v now else .quiet
    | _ => .quiet
  | _ => .quiet

/-- The rows of the namespace, with their expiry. -/
def stored (n : N) (table : KeyedMap K V) (k : K) : Option (V × ℕ) :=
  if layout.space k = n then (table.lookup k).map fun v => (v, layout.expiresAt v) else none

variable {layout} {program} {n : N} {table table' : KeyedMap K V} {k : K} {v : V} {e : ℕ}

omit [DecidableEq L] in
theorem stored_eq_some :
    stored layout n table k = some (v, e) ↔
      layout.space k = n ∧ table.lookup k = some v ∧ layout.expiresAt v = e := by
  unfold stored
  split
  · next hspace =>
    simp only [Option.map_eq_some_iff, Prod.mk.injEq, hspace, true_and]
    constructor
    · rintro ⟨v', hlookup, rfl, rfl⟩
      exact ⟨hlookup, rfl⟩
    · rintro ⟨hlookup, rfl⟩
      exact ⟨v, hlookup, rfl, rfl⟩
  · next hspace =>
    constructor
    · nofun
    · intro h
      exact absurd h.1 hspace

variable {out : Output ι (Answer H V E)} {now : ℕ}

omit [DecidableEq L] in
/-- A row is there because it was, or because its insert has just been committed. -/
theorem Effect.appears (h : Effect layout program table table' out)
    (hstored : stored layout n table' k = some (v, e)) :
    stored layout n table k = some (v, e) ∨ observe layout program n out = .issue k v e := by
  obtain ⟨hspace, hlookup, rfl⟩ := stored_eq_some.mp hstored
  cases h with
  | unchanged _ hout htable =>
    left
    rw [htable] at hstored
    exact hstored
  | inserted call now job h hcall hnew hold helse hbound =>
    rcases hold k v hlookup with rfl | hbefore
    · right
      rw [layout.space_key] at hspace
      rw [hnew, Option.some.injEq] at hlookup
      subst hlookup
      simp [observe, hcall, hspace]
    · exact .inl (stored_eq_some.mpr ⟨hspace, hbefore, rfl⟩)
  | missed call now n' h hcall htable =>
    left
    rw [htable] at hstored
    exact hstored
  | found call now n' h v' hcall hrow htakes htable =>
    left
    rw [htable] at hlookup
    split at hlookup
    · cases hlookup
    · exact stored_eq_some.mpr ⟨hspace, hlookup, rfl⟩

omit [DecidableEq L] in
/-- A row handed out before its expiry was there, and is gone. -/
theorem Effect.redeems (h : Effect layout program table table' out)
    (hredeem : observe layout program n out = .redeem k v now) :
    (∃ e, stored layout n table k = some (v, e) ∧ now < e) ∧
      stored layout n table' k = none := by
  cases h with
  | unchanged _ hout htable =>
    rcases hout with rfl | ⟨call, now, e, rfl⟩ <;> cases hredeem
  | inserted call now job h hcall hnew hold helse hbound =>
    simp only [observe, hcall] at hredeem
    split at hredeem <;> cases hredeem
  | missed call now n' h hcall htable => cases hredeem
  | found call now n' h v' hcall hrow htakes htable =>
    simp only [observe, hcall] at hredeem
    split at hredeem
    · next hlive =>
      cases hredeem
      constructor
      · refine ⟨layout.expiresAt v, stored_eq_some.mpr ⟨?_, hrow, rfl⟩, hlive.2⟩
        rw [layout.space_key, hlive.1]
      · have hgone : table'.lookup (layout.key n' h) = none := by rw [htable, if_pos rfl]
        rw [stored, hgone]
        split <;> rfl
    · cases hredeem

variable (layout) (program) (ok : K → V → Bool) (unavailable : E)

/-- The database whose clients run the transactions of a store. -/
abbrev databaseStep (db : Db K V L (Answer H V E) ι) (input : Input ι) :
    Output ι (Answer H V E) × Db K V L (Answer H V E) ι :=
  step ok (fun call => (program call).tx layout) (.refused unavailable) db input

variable {layout} {program} {ok} {unavailable} {start : Db K V L (Answer H V E) ι}

theorem outlined_run (hrest : start.Resting) (inputs : List (Input ι)) (j : ℕ) :
    Outlined layout program
      (run (databaseStep layout program ok unavailable) start (inputs.take j)) :=
  (outline ok).sound_run_of_unfair (Sound.of_resting hrest trivial) inputs j

/-- The database refines the one-time store of the rows of a namespace. -/
theorem refinement (n : N) :
    Refinement (databaseStep layout program ok unavailable)
      (fun _ out => observe layout program n out)
      (fun db => stored layout n db.table) (Outlined layout program) where
  inv db input h := (outline ok).sound_moved (moved_step _ _ _ db input) h
    (fun _ _ _ => trivial) FairStep.of_true
  appears _ input _ _ _ h hstored := (step_effect h input).appears hstored
  redeems _ input _ _ _ h hredeem := ((step_effect h input).redeems hredeem).1
  removes _ input _ _ _ h hredeem := ((step_effect h input).redeems hredeem).2

/-- **Each inserted row is handed out at most once**, under its own key and before its expiry. -/
theorem redeemsOnce_run (hrest : start.Resting)
    (hempty : ∀ k, layout.space k = n → start.table.lookup k = none) (inputs : List (Input ι)) :
    RedeemsOnce (events (fun _ out => observe layout program n out)
      (databaseStep layout program ok unavailable) start inputs) := by
  refine redeemsOnce_of_refinement (refinement n) (Sound.of_resting hrest trivial) ?_ inputs
  intro k
  unfold stored
  split
  · next hspace => rw [hempty k hspace, Option.map_none]
  · rfl

/-- The effect of a step of a run. -/
theorem effect_of_trace (hrest : start.Resting) {inputs : List (Input ι)} {j : ℕ}
    {input : Input ι} {out : Output ι (Answer H V E)}
    (hout : (trace (databaseStep layout program ok unavailable) start inputs)[j]? =
      some (input, out)) :
    Effect layout program
      (run (databaseStep layout program ok unavailable) start (inputs.take j)).table
      (run (databaseStep layout program ok unavailable) start (inputs.take (j + 1))).table out := by
  obtain ⟨hinput, rfl⟩ := trace_getElem?_eq_some _ hout
  rw [run_take_succ _ hinput]
  exact step_effect (outlined_run hrest inputs j) input

variable (layout) (program) (ok) (unavailable) (start) in
/-- What holds of a run. -/
structure Guarantee (inputs : List (Input ι)) : Prop where
  /-- Behind every committed insert its namespace is within the capacity. -/
  bounded : ∀ j input call now h job,
    (trace (databaseStep layout program ok unavailable) start inputs)[j]? =
      some (input, .finished call now (.inserted h)) → program call = .insert job →
    rowsOf layout job.space (run (databaseStep layout program ok unavailable) start
      (inputs.take (j + 1))).table ≤ job.capacity
  /-- From an empty namespace, each inserted row is handed out at most once, under its own key and
      before its expiry. -/
  once : ∀ n, (∀ k, layout.space k = n → start.table.lookup k = none) →
    RedeemsOnce (events (fun _ out => observe layout program n out)
      (databaseStep layout program ok unavailable) start inputs)
  /-- A consume touches no row but its own. -/
  own : ∀ j input call now row n h,
    (trace (databaseStep layout program ok unavailable) start inputs)[j]? =
      some (input, .finished call now (.consumed row)) → program call = .consume n h →
    ∀ k, k ≠ layout.key n h →
      (run (databaseStep layout program ok unavailable) start (inputs.take (j + 1))).table.lookup k =
        (run (databaseStep layout program ok unavailable) start (inputs.take j)).table.lookup k
  /-- A call that fails leaves the rows as they were, and so does every step that ends none. -/
  unchanged : ∀ j input out,
    (trace (databaseStep layout program ok unavailable) start inputs)[j]? = some (input, out) →
    (out = .quiet ∨ ∃ call now e, out = .finished call now (.refused e)) →
    (run (databaseStep layout program ok unavailable) start (inputs.take (j + 1))).table =
      (run (databaseStep layout program ok unavailable) start (inputs.take j)).table

/-- What a consume hands out is what its `DELETE` asks for. -/
theorem takes_of_trace (hrest : start.Resting) {inputs : List (Input ι)} {j : ℕ}
    {input : Input ι} {call : ι} {now : ℕ} {v : V}
    (hout : (trace (databaseStep layout program ok unavailable) start inputs)[j]? =
      some (input, .finished call now (.consumed (some v)))) : layout.takes now v = true := by
  have heffect := effect_of_trace hrest hout
  generalize (run (databaseStep layout program ok unavailable) start
    (inputs.take (j + 1))).table = table' at heffect
  cases heffect with
  | found _ _ n h _ hcall hrow htakes htable => exact htakes
  | unchanged _ hnone htable =>
    rcases hnone with hquiet | ⟨_, _, _, hrefused⟩
    · cases hquiet
    · cases hrefused

/-- **Every run from a database at rest.** -/
theorem guarantee_run (hrest : start.Resting) (inputs : List (Input ι)) :
    Guarantee layout program ok unavailable start inputs where
  -- The bound was counted under the lock, and holds at the commit.
  bounded j input call now h job hout hcall := by
    have heffect := effect_of_trace hrest hout
    generalize (run (databaseStep layout program ok unavailable) start (inputs.take (j + 1))).table =
      table' at heffect ⊢
    cases heffect with
    | unchanged _ hnone htable =>
      rcases hnone with hquiet | ⟨_, _, _, hrefused⟩
      · cases hquiet
      · cases hrefused
    | inserted _ _ job' _ hcall' hnew hold helse hbound =>
      have hsame : Call.insert job = (Call.insert job' : Call N H V E) := hcall.symm.trans hcall'
      cases hsame
      exact hbound
  once n hempty := redeemsOnce_run hrest hempty inputs
  -- A consume deletes the row it has found, and no other.
  own j input call now row n h hout hcall k hk := by
    have heffect := effect_of_trace hrest hout
    generalize (run (databaseStep layout program ok unavailable) start (inputs.take (j + 1))).table =
      table' at heffect ⊢
    cases heffect with
    | unchanged _ hnone htable => rw [htable]
    | missed _ _ n' h' hcall' htable => rw [htable]
    | found _ _ n' h' v hcall' hrow htakes htable =>
      have hsame : Call.consume n h = (Call.consume n' h' : Call N H V E) := hcall.symm.trans hcall'
      cases hsame
      rw [htable, if_neg hk]
  -- A call that answers no success leaves the table as it was.
  unchanged j input out hout hnone := by
    have heffect := effect_of_trace hrest hout
    generalize (run (databaseStep layout program ok unavailable) start (inputs.take (j + 1))).table =
      table' at heffect ⊢
    cases heffect with
    | unchanged _ _ htable => exact htable
    | missed _ _ n' h' hcall' htable => exact htable
    | inserted _ _ job' _ hcall' hnew hold helse hbound =>
      rcases hnone with hquiet | ⟨_, _, _, hrefused⟩
      · cases hquiet
      · cases hrefused
    | found _ _ n' h' v hcall' hrow htakes htable =>
      rcases hnone with hquiet | ⟨_, _, _, hrefused⟩
      · cases hquiet
      · cases hrefused

end Runs

/-! ## What consumes hand out

A consume that begins behind the commit of the insert finds a row that fits its clock, as an
expiry within the time to live of the clock does. -/

section Fits

variable [DecidableEq N] [DecidableEq K] (layout : Layout N H K V L) (program : ι → Call N H V E)
  (Fits : ℕ → V → Prop) (n : N)

/-- The rows of the namespace fit the clock. -/
def RowsFit (now : ℕ) (table : KeyedMap K V) : Prop :=
  ∀ k v, layout.space k = n → table.lookup k = some v → Fits now v

/-- What a call inserts into the namespace fits its clock. -/
def InsertsFit (call : ι) : Prop :=
  ∀ job, program call = .insert job → job.space = n → ∀ now, Fits now (job.row now)

/-- The row a consume is about to find, or has found, fits the clock of the consume. -/
def AtFits (table : KeyedMap K V) (s : Running H K V L E ι) : Prop :=
  At layout program table s ∧ InsertsFit program Fits n s.call ∧ ∀ h, program s.call = .consume n h →
    ∀ v, table.lookup (layout.key n h) = some v → Fits s.now v

/-- When `s'` commits a handle, `s` is not a consume of it. -/
def NotConsuming (s s' : Running H K V L E ι) : Prop :=
  ∀ job h' n' h, program s'.call = .insert job → s'.code = .commit (.inserted h') →
    program s.call = .consume n' h → layout.key n' h ≠ layout.key job.space h'

variable {layout} {program} {Fits} {n}

/-- **With fair consumes the rows fit.** -/
theorem fitsOutline (ok : K → V → Bool)
    (hmono : ∀ now now' v, now ≤ now' → Fits now v → Fits now' v) :
    Outline ok (fun call => (program call).tx layout) (InsertsFit program Fits n)
      (NotConsuming layout program) (RowsFit layout Fits n) (AtFits layout program Fits n) where
  tick now now' _ hle hrows := fun k v hspace hlookup =>
    hmono now now' v hle (hrows k v hspace hlookup)
  start now table call hlegal hrows := by
    refine ⟨At.begin table call now, hlegal, fun h hcall v hlookup => ?_⟩
    exact hrows (layout.key n h) v (layout.space_key n h) hlookup
  lock _ _ _ _ h hmove := ⟨h.1.lock hmove, h.2⟩
  statement _ _ _ _ _ _ _ h hmove := ⟨h.1.statement hmove, h.2⟩
  other table s s' a hself hother hmove hfair hrows hlocks _ hwrites := by
    -- Only the commit of another transaction changes the rows this one has read.
    have hcommit := Tx.move_eq_commit.mp hmove
    refine ⟨hself.1.other hother.1 hcommit hrows hlocks hwrites, hself.2.1, ?_⟩
    intro h hcall v hlookup
    apply hself.2.2 h hcall v
    have heffect := hother.1.commit hcommit
    generalize s'.view table = table' at hlookup heffect
    cases heffect with
    | unchanged _ hout htable => rwa [htable] at hlookup
    | inserted _ _ job h' hcall' hnew hold helse hbound =>
      -- Its own handle was drawn afresh, so the other transaction has not inserted under it.
      rcases hold _ v hlookup with heq | hbefore
      · exact absurd heq (hfair job h' n h hcall' hcommit hcall)
      · exact hbefore
    | missed _ _ n' h' hcall' htable => rwa [htable] at hlookup
    | found _ _ n' h' v' hcall' hrow htakes htable =>
      rw [htable] at hlookup
      split at hlookup
      · cases hlookup
      · exact hlookup
  commit now table s a hnow hrows hself hmove := by
    intro k v hspace hlookup
    -- What the transaction leaves behind, by its effect.
    have heffect := hself.1.commit (Tx.move_eq_commit.mp hmove)
    generalize s.view table = table' at hlookup heffect
    cases heffect with
    | unchanged _ hout htable =>
      rw [htable] at hlookup
      exact hrows k v hspace hlookup
    | inserted _ _ job h hcall hnew hold helse hbound =>
      rcases hold k v hlookup with rfl | hbefore
      -- The inserted row fits at the instant it was read, hence later too.
      · rw [layout.space_key] at hspace
        rw [hnew, Option.some.injEq] at hlookup
        rw [← hlookup]
        exact hmono s.now now _ hnow (hself.2.1 job hcall hspace s.now)
      · exact hrows k v hspace hbefore
    | missed _ _ n' h hcall htable =>
      rw [htable] at hlookup
      exact hrows k v hspace hlookup
    | found _ _ n' h v' hcall hrow htakes htable =>
      rw [htable] at hlookup
      split at hlookup
      · cases hlookup
      · exact hrows k v hspace hlookup

variable [DecidableEq L] {ok : K → V → Bool} {unavailable : E}
  {start : Db K V L (Answer H V E) ι} {inputs : List (Input ι)}

/-- What a consume hands out under the assertions. -/
theorem step_fits {db : Db K V L (Answer H V E) ι}
    (hsound : Sound (RowsFit layout Fits n) (AtFits layout program Fits n) db) {input : Input ι}
    {call : ι} {now : ℕ} {h : H} {v : V}
    (hout : (databaseStep layout program ok unavailable db input).1 =
      .finished call now (.consumed (some v)))
    (hcall : program call = .consume n h) : Fits now v := by
  have hmoved := moved_step ok (fun call => (program call).tx layout) (.refused unavailable) db
    input
  rw [show (step ok (fun call => (program call).tx layout) (.refused unavailable) db input).1 =
    .finished call now (.consumed (some v)) from hout] at hmoved
  generalize (step ok (fun call => (program call).tx layout) (.refused unavailable) db input).2 =
    db' at hmoved
  -- Only a commit answers a row; what it answers is what its consume has found.
  cases hmoved with
  | commit c s a hs hmove =>
    obtain ⟨hat, -, hfits⟩ := hsound.sessions c s hs
    have heffect := hat.commit (Tx.move_eq_commit.mp hmove)
    generalize s.view db.table = table' at heffect
    cases heffect with
    | found _ _ n' h' _ hcall' hrow htakes htable =>
      have hsame : Call.consume n' h' = (Call.consume n h : Call N H V E) := hcall'.symm.trans hcall
      cases hsame
      exact hfits h hcall v hrow
    | unchanged _ hnone htable =>
      rcases hnone with hquiet | ⟨_, _, _, hrefused⟩
      · cases hquiet
      · cases hrefused
  | rollback c s a hs hmove =>
    obtain ⟨e, he⟩ := (hsound.sessions c s hs).1.rollback (Tx.move_eq_rollback.mp hmove)
    cases he

variable (layout) (program) (ok) (unavailable) (start) (inputs)

/-- When an insert returns a handle, no consume of it is running. -/
def NoEarlyConsume : Prop :=
  ∀ j input call now h job, (trace (databaseStep layout program ok unavailable) start inputs)[j]? =
      some (input, .finished call now (.inserted h)) → program call = .insert job →
    ∀ c s n' h', (run (databaseStep layout program ok unavailable) start
        (inputs.take j)).sessions.lookup c = some s →
      program s.call = .consume n' h' → layout.key n' h' ≠ layout.key job.space h

variable {layout} {program} {ok} {unavailable} {start} {inputs}

/-- **What a consume hands out fits its clock**, if every row inserted fits the clock of its
    insert and no consume runs ahead of the insert. -/
theorem consumed_fits (hmono : ∀ now now' v, now ≤ now' → Fits now v → Fits now' v)
    (hcalls : ∀ c call, .begin c call ∈ inputs → InsertsFit program Fits n call)
    (hrest : start.Resting) (hrows : RowsFit layout Fits n start.clock start.table)
    (hearly : NoEarlyConsume layout program ok unavailable start inputs) {j : ℕ} {input : Input ι}
    {call : ι} {now : ℕ} {h : H} {v : V}
    (hout : (trace (databaseStep layout program ok unavailable) start inputs)[j]? =
      some (input, .finished call now (.consumed (some v))))
    (hcall : program call = .consume n h) : Fits now v := by
  have hfair : ∀ j input, inputs[j]? = some input →
      let before := run (databaseStep layout program ok unavailable) start (inputs.take j)
      FairStep ok (NotConsuming layout program) before
        (databaseStep layout program ok unavailable before input).1 := by
    intro j input hinput before c s c' s' a hne hs hs' hmove hanswer job h' n' h hjob hcode hconsume
    have hcommit := Tx.move_eq_commit.mp hmove
    rw [hcode] at hcommit
    cases hcommit
    have htrace := trace_getElem?_of_getElem? (databaseStep layout program ok unavailable)
      (s := start) hinput
    refine hearly j input s'.call s'.now h' job ?_ hjob c s n' h hs hconsume
    rw [htrace]
    exact congrArg (fun out => some (input, out)) hanswer
  have hsound : Sound (RowsFit layout Fits n) (AtFits layout program Fits n)
      (run (databaseStep layout program ok unavailable) start (inputs.take j)) :=
    (fitsOutline ok hmono).sound_run (Sound.of_resting hrest hrows) inputs hcalls hfair j
  obtain ⟨hinput, hstep⟩ := trace_getElem?_eq_some _ hout
  exact step_fits hsound hstep.symm hcall

end Fits

end OneTimeRows
