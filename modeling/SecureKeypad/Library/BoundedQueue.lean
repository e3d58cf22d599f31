import Mathlib

/-!
# A Bounded Queue of Events for a Listener That May Be Away

Events wait in a queue of bounded length while nobody listens, and the next listener is handed all
of them. Some events are fleeting: the next fleeting event overtakes one that waits last, and when
the queue is full the first fleeting event makes room. Only a full queue without any loses its
oldest event.

Each event of a run carries the number of its emission, so that it can be followed from the queue
to a listener.

## Main results

- `exists_survives`: everything one push can do to a queue within its bound
- `Survives.separated`, `Survives.dropped`: what stays, and what may be lost
- `Ledger.run_valid`: numbers only increase from the first delivery to the last waiting event
- `Ledger.delivered_once`: a waiting event reaches the next listener, and nobody again
-/

namespace BoundedQueue

universe u v

variable {α : Type u} {Sink : Type v}

/-! ## Pushing -/

section Push

variable (fleeting : α → Bool) (capacity : ℕ)

/-- A fleeting event overtakes a fleeting one that waits last. -/
def coalesce (queue : List α) (entry : α) : List α :=
  if fleeting entry && queue.getLast?.any fleeting then queue.dropLast else queue

/-- A full queue makes room: its first fleeting event goes, or its oldest one. -/
def evict (queue : List α) : List α :=
  if capacity ≤ queue.length then
    if queue.any fleeting then queue.eraseP fleeting else queue.tail
  else queue

def push (queue : List α) (entry : α) : List α :=
  evict fleeting capacity (coalesce fleeting queue entry) ++ [entry]

/-- No two fleeting events wait next to each other. -/
def Separated (queue : List α) : Prop :=
  queue.IsChain fun a b => ¬ (fleeting a = true ∧ fleeting b = true)

/-- What is left of a queue when an event is pushed. -/
inductive Survives (queue : List α) (entry : α) : List α → Prop
  | all (hlast : fleeting entry = true → ∀ last ∈ queue.getLast?, fleeting last = false)
      (hroom : queue.length < capacity) : Survives queue entry queue
  | overtaken (rest : List α) (last : α) (hqueue : queue = rest ++ [last])
      (hlast : fleeting last = true) (hroom : rest.length < capacity) : Survives queue entry rest
  | evicted (pre : List α) (x : α) (post : List α) (hqueue : queue = pre ++ x :: post)
      (hlast : fleeting entry = true → ∀ last ∈ queue.getLast?, fleeting last = false)
      (hfull : queue.length = capacity) (hx : fleeting x = true)
      (hpre : ∀ a ∈ pre, fleeting a = false) : Survives queue entry (pre ++ post)
  | oldest (x : α) (rest : List α) (hqueue : queue = x :: rest) (hfull : queue.length = capacity)
      (hnone : ∀ a ∈ queue, fleeting a = false) : Survives queue entry rest

variable {fleeting capacity}

private theorem exists_survives_evict {queue : List α} {entry : α} (hpos : 0 < capacity)
    (hbound : queue.length ≤ capacity)
    (hlast : fleeting entry = true → ∀ last ∈ queue.getLast?, fleeting last = false) :
    Survives fleeting capacity queue entry (evict fleeting capacity queue) := by
  unfold evict
  split
  · next hge =>
    have hfull : queue.length = capacity := hbound.antisymm hge
    split
    · next hany =>
      obtain ⟨a, ha, hfleeting⟩ := List.any_eq_true.mp hany
      obtain ⟨x, pre, post, hpre, hx, hqueue, herase⟩ := List.exists_of_eraseP ha hfleeting
      rw [herase]
      exact .evicted pre x post hqueue hlast hfull hx fun b hb => Bool.not_eq_true _ ▸ hpre b hb
    · next hany =>
      have hnone : ∀ a ∈ queue, fleeting a = false := by
        intro a ha
        rw [← Bool.not_eq_true]
        exact fun hfleeting => hany (List.any_eq_true.mpr ⟨a, ha, hfleeting⟩)
      cases queue with
      | nil => exact absurd hfull (Nat.ne_of_lt hpos)
      | cons x rest => exact .oldest x rest rfl hfull hnone
  · next hlt => exact .all hlast (Nat.lt_of_not_le hlt)

/-- **Everything one push can do** to a queue within its bound. -/
theorem exists_survives {queue : List α} (entry : α) (hpos : 0 < capacity)
    (hbound : queue.length ≤ capacity) :
    ∃ survivors, Survives fleeting capacity queue entry survivors ∧
      push fleeting capacity queue entry = survivors ++ [entry] := by
  refine ⟨_, ?_, rfl⟩
  unfold coalesce
  split
  · next hboth =>
    rw [Bool.and_eq_true] at hboth
    obtain ⟨hentry, hlast⟩ := hboth
    -- The queue is one shorter now, so nothing is evicted.
    rcases List.eq_nil_or_concat queue with rfl | ⟨rest, last, rfl⟩
    · cases hlast
    · rw [List.concat_eq_append] at *
      rw [List.length_append, List.length_singleton] at hbound
      rw [List.getLast?_concat] at hlast
      rw [List.dropLast_concat, evict, if_neg (Nat.not_le.mpr hbound)]
      exact .overtaken rest last rfl hlast hbound
  · next hboth =>
    refine exists_survives_evict hpos hbound fun hentry last hlast => ?_
    rw [← Bool.not_eq_true]
    intro hfleeting
    rw [hentry, Option.mem_def.mp hlast] at hboth
    exact hboth hfleeting

section Survivors

variable {queue : List α} {entry : α} {survivors : List α}

theorem Survives.length_lt (h : Survives fleeting capacity queue entry survivors) :
    survivors.length < capacity := by
  cases h with
  | all _ hroom => exact hroom
  | overtaken _ last _ _ hroom => exact hroom
  | evicted pre x post hqueue _ hfull =>
    rw [hqueue, List.length_append, List.length_cons] at hfull
    rw [List.length_append]
    omega
  | oldest x rest hqueue hfull =>
    rw [hqueue, List.length_cons] at hfull
    omega

theorem Survives.sublist (h : Survives fleeting capacity queue entry survivors) :
    survivors.Sublist queue := by
  cases h with
  | all => exact .refl _
  | overtaken _ last hqueue =>
    rw [hqueue]
    exact List.sublist_append_left ..
  | evicted pre x post hqueue =>
    rw [hqueue]
    exact (List.Sublist.refl pre).append (List.sublist_cons_self x post)
  | oldest x rest hqueue =>
    rw [hqueue]
    exact List.sublist_cons_self ..

/-- A fleeting event is never put behind another. -/
theorem Survives.separated (h : Survives fleeting capacity queue entry survivors)
    (hqueue : Separated fleeting queue) : Separated fleeting (survivors ++ [entry]) := by
  -- The new entry may stand behind everything but a fleeting one of its kind.
  have happend : ∀ {rest : List α}, Separated fleeting rest →
      (fleeting entry = true → ∀ last ∈ rest.getLast?, fleeting last = false) →
      Separated fleeting (rest ++ [entry]) := by
    intro rest hrest hlast
    refine List.isChain_append.mpr ⟨hrest, .singleton _, ?_⟩
    intro last hmem next hnext ⟨hfleeting, hentry⟩
    cases hnext
    rw [hlast hentry last hmem] at hfleeting
    cases hfleeting
  cases h with
  | all hlast => exact happend hqueue hlast
  | overtaken _ last hsplit hfleeting =>
    rw [hsplit] at hqueue
    obtain ⟨hrest, _, hnext⟩ := List.isChain_append.mp hqueue
    refine happend hrest fun _ before hbefore => ?_
    rw [← Bool.not_eq_true]
    exact fun htrue => hnext before hbefore last rfl ⟨htrue, hfleeting⟩
  -- Before the evicted entry nothing is fleeting, so closing the gap joins no two of them.
  | evicted pre x post hsplit hlast _ hx hpre =>
    rw [hsplit] at hqueue hlast
    obtain ⟨hleft, hright, _⟩ := List.isChain_append.mp hqueue
    have hmiddle : Separated fleeting (pre ++ post) := by
      refine List.isChain_append.mpr ⟨hleft, hright.tail, ?_⟩
      intro a ha b _ ⟨hfleeting, _⟩
      rw [hpre a (List.mem_of_mem_getLast? ha)] at hfleeting
      cases hfleeting
    refine happend hmiddle fun hentry last hmem => ?_
    cases post with
    | nil =>
      rw [List.append_nil] at hmem
      exact hpre last (List.mem_of_mem_getLast? hmem)
    | cons y post =>
      apply hlast hentry last
      rw [List.getLast?_append_cons] at hmem ⊢
      rwa [List.getLast?_cons_cons]
  | oldest x rest hsplit _ hnone =>
    rw [hsplit] at hqueue hnone
    refine happend hqueue.tail fun _ last hmem => ?_
    exact hnone last (List.mem_cons_of_mem _ (List.mem_of_mem_getLast? hmem))

/-- What is lost is fleeting, or the oldest of a full queue with no fleeting event. -/
theorem Survives.dropped (h : Survives fleeting capacity queue entry survivors) {a : α}
    (ha : a ∈ queue) (hlost : a ∉ survivors) :
    fleeting a = true ∨
      queue.length = capacity ∧ (∀ b ∈ queue, fleeting b = false) ∧ queue.head? = some a := by
  cases h with
  | all => exact absurd ha hlost
  | overtaken _ last hqueue hfleeting =>
    rw [hqueue, List.mem_append, List.mem_singleton] at ha
    rcases ha with ha | rfl
    · exact absurd ha hlost
    · exact .inl hfleeting
  | evicted pre x post hqueue _ _ hx =>
    rw [hqueue, List.mem_append, List.mem_cons] at ha
    rcases ha with ha | rfl | ha
    · exact absurd (List.mem_append_left _ ha) hlost
    · exact .inl hx
    · exact absurd (List.mem_append_right _ ha) hlost
  | oldest x rest hqueue hfull hnone =>
    right
    refine ⟨hfull, hnone, ?_⟩
    rw [hqueue, List.mem_cons] at ha
    rcases ha with rfl | ha
    · rw [hqueue, List.head?_cons]
    · exact absurd ha hlost

end Survivors

/-- Pushing looks at nothing of an event but whether it is fleeting. -/
theorem push_map {β : Type u} (f : β → α) (queue : List β) (entry : β) :
    push fleeting capacity (queue.map f) (f entry) =
      (push (fun b => fleeting (f b)) capacity queue entry).map f := by
  have hcoalesce : coalesce fleeting (queue.map f) (f entry) =
      (coalesce (fun b => fleeting (f b)) queue entry).map f := by
    rw [coalesce, coalesce, List.getLast?_map, Option.any_map, ← List.map_dropLast]
    split <;> rfl
  have hevict : ∀ rest : List β, evict fleeting capacity (rest.map f) =
      (evict (fun b => fleeting (f b)) capacity rest).map f := by
    intro rest
    rw [evict, evict, List.length_map, List.any_map, List.eraseP_map, ← List.map_tail,
      apply_ite (List.map f), apply_ite (List.map f)]
    rfl
  rw [push, hcoalesce, hevict, push, List.map_append, List.map_singleton]

end Push

/-! ## Listeners -/

/-- What happens to a queue: an event, a listener that comes, or one that leaves. -/
inductive Call (α : Type u) (Sink : Type v) where
  | emit (entry : α)
  | listen (sink : Sink)
  | cancel

/-- The queue and the deliveries of a run, where each event has the number of its emission. -/
structure Ledger (α : Type u) (Sink : Type v) where
  sink : Option Sink
  waiting : List (ℕ × α)
  delivered : List (Sink × ℕ × α)
  emitted : ℕ

namespace Ledger

section Steps

variable (fleeting : α → Bool) (capacity : ℕ)

def empty : Ledger α Sink := ⟨none, [], [], 0⟩

def step (ledger : Ledger α Sink) : Call α Sink → Ledger α Sink
  | .emit entry =>
    match ledger.sink with
    | some sink =>
      { ledger with
        delivered := ledger.delivered ++ [(sink, ledger.emitted, entry)]
        emitted := ledger.emitted + 1 }
    | none =>
      { ledger with
        waiting := push (fun e => fleeting e.2) capacity ledger.waiting (ledger.emitted, entry)
        emitted := ledger.emitted + 1 }
  | .listen sink =>
    { ledger with
      sink := some sink
      waiting := []
      delivered := ledger.delivered ++ ledger.waiting.map fun e => (sink, e) }
  | .cancel => { ledger with sink := none }

def run (calls : List (Call α Sink)) : Ledger α Sink :=
  calls.foldl (step fleeting capacity) empty

theorem run_snoc (calls : List (Call α Sink)) (call : Call α Sink) :
    run fleeting capacity (calls ++ [call]) =
      step fleeting capacity (run fleeting capacity calls) call := by
  rw [run, List.foldl_append]
  rfl

end Steps

/-- The events of a run, in the order of their emission. -/
def emissions (calls : List (Call α Sink)) : List α :=
  calls.filterMap fun
    | .emit entry => some entry
    | _ => none

/-- The numbers of what was delivered, and behind them of what waits. -/
def numbers (ledger : Ledger α Sink) : List ℕ :=
  ledger.delivered.map (·.2.1) ++ ledger.waiting.map (·.1)

/-- What holds of a queue with its deliveries after `events` were emitted. -/
structure Valid (fleeting : α → Bool) (capacity : ℕ) (events : List α) (ledger : Ledger α Sink) :
    Prop where
  emitted : ledger.emitted = events.length
  bounded : ledger.waiting.length ≤ capacity
  separated : Separated (fun e => fleeting e.2) ledger.waiting
  idle : ledger.sink ≠ none → ledger.waiting = []
  waits : ∀ e ∈ ledger.waiting, events[e.1]? = some e.2
  went : ∀ d ∈ ledger.delivered, events[d.2.1]? = some d.2.2
  increasing : ledger.numbers.Pairwise (· < ·)
  newest : ∀ n, ledger.emitted = n + 1 → ledger.numbers.getLast? = some n

section Invariant

variable {fleeting : α → Bool} {capacity : ℕ} {events : List α} {ledger : Ledger α Sink}

theorem Valid.number_lt (h : ledger.Valid fleeting capacity events) :
    ∀ n ∈ ledger.numbers, n < ledger.emitted := by
  intro n hn
  rw [h.emitted]
  rw [numbers, List.mem_append, List.mem_map, List.mem_map] at hn
  rcases hn with ⟨d, hd, rfl⟩ | ⟨e, he, rfl⟩
  · exact (List.getElem?_eq_some_iff.mp (h.went d hd)).1
  · exact (List.getElem?_eq_some_iff.mp (h.waits e he)).1

theorem empty_valid : (empty : Ledger α Sink).Valid fleeting capacity [] where
  emitted := rfl
  bounded := Nat.zero_le _
  separated := .nil
  idle := fun h => absurd rfl h
  waits := nofun
  went := nofun
  increasing := .nil
  newest := nofun

/-- With nobody listening, the event joins what is left of the queue. -/
theorem step_emit_waiting (hpos : 0 < capacity) (h : ledger.Valid fleeting capacity events)
    (hsink : ledger.sink = none) (entry : α) :
    ∃ survivors, Survives (fun e => fleeting e.2) capacity ledger.waiting (ledger.emitted, entry)
        survivors ∧
      step fleeting capacity ledger (.emit entry) =
        { ledger with
          waiting := survivors ++ [(ledger.emitted, entry)]
          emitted := ledger.emitted + 1 } := by
  obtain ⟨survivors, hsurvives, hpush⟩ :=
    @exists_survives _ (fun e => fleeting e.2) _ _ (ledger.emitted, entry) hpos h.bounded
  refine ⟨survivors, hsurvives, ?_⟩
  simp only [step, hsink, hpush]

/-- A listener gets the event at once. -/
theorem step_emit_delivered {sink : Sink} (hsink : ledger.sink = some sink) (entry : α) :
    step fleeting capacity ledger (.emit entry) =
      { ledger with
        delivered := ledger.delivered ++ [(sink, ledger.emitted, entry)]
        emitted := ledger.emitted + 1 } := by
  simp only [step, hsink]

private theorem getElem?_snoc {n : ℕ} {a : α} (h : events[n]? = some a) (entry : α) :
    (events ++ [entry])[n]? = some a := by
  rw [List.getElem?_append_left (List.getElem?_eq_some_iff.mp h).1, h]

/-- An emission gets the next number, whether it is delivered or put behind what waits. -/
private theorem Valid.emit (h : ledger.Valid fleeting capacity events) (entry : α)
    {ledger' : Ledger α Sink} {kept : List ℕ} (hemitted : ledger'.emitted = ledger.emitted + 1)
    (hbounded : ledger'.waiting.length ≤ capacity)
    (hseparated : Separated (fun e => fleeting e.2) ledger'.waiting)
    (hidle : ledger'.sink ≠ none → ledger'.waiting = [])
    (hwaits : ∀ e ∈ ledger'.waiting, e ∈ ledger.waiting ∨ e = (ledger.emitted, entry))
    (hwent : ∀ d ∈ ledger'.delivered, d ∈ ledger.delivered ∨ d.2 = (ledger.emitted, entry))
    (hkept : kept.Sublist ledger.numbers) (hnumbers : ledger'.numbers = kept ++ [ledger.emitted]) :
    ledger'.Valid fleeting capacity (events ++ [entry]) := by
  -- The event takes the next number.
  have hnew : (events ++ [entry])[ledger.emitted]? = some entry := by
    rw [h.emitted, List.getElem?_concat_length]
  constructor
  · rw [hemitted, List.length_append, ← h.emitted]
    rfl
  · exact hbounded
  · exact hseparated
  · exact hidle
  · intro e he
    rcases hwaits e he with he | rfl
    · exact getElem?_snoc (h.waits e he) entry
    · exact hnew
  · intro d hd
    rcases hwent d hd with hd | hd
    · exact getElem?_snoc (h.went d hd) entry
    · rw [hd]
      exact hnew
  · rw [hnumbers, List.pairwise_append]
    refine ⟨h.increasing.sublist hkept, List.pairwise_singleton _ _, ?_⟩
    intro n hn m hm
    rw [List.mem_singleton.mp hm]
    exact h.number_lt n (hkept.subset hn)
  · intro n hn
    rw [hnumbers, List.getLast?_concat]
    exact congrArg some (Nat.succ.inj (hemitted.symm.trans hn))

theorem step_valid (hpos : 0 < capacity) (h : ledger.Valid fleeting capacity events)
    (call : Call α Sink) :
    (step fleeting capacity ledger call).Valid fleeting capacity (events ++ emissions [call]) := by
  cases call with
  | emit entry =>
    change Valid fleeting capacity (events ++ [entry]) _
    cases hsink : ledger.sink with
    -- Nobody listens: the event waits, and the oldest of the fleeting ones may make room for it.
    | none =>
      obtain ⟨survivors, hsurvives, hstep⟩ := step_emit_waiting hpos h hsink entry
      have hkept : (ledger.delivered.map (·.2.1) ++ survivors.map (·.1)).Sublist ledger.numbers :=
        (List.Sublist.refl _).append (hsurvives.sublist.map _)
      have hlength : (survivors ++ [(ledger.emitted, entry)]).length ≤ capacity := by
        rw [List.length_append]
        exact hsurvives.length_lt
      rw [hstep]
      refine h.emit entry rfl hlength (hsurvives.separated h.separated)
        (fun hne => absurd hsink hne) ?_ (fun d hd => .inl hd) hkept ?_
      · intro e he
        rw [List.mem_append, List.mem_singleton] at he
        exact he.imp_left fun he => hsurvives.sublist.subset he
      · rw [numbers, List.map_append, List.append_assoc]
        rfl
    -- A sink is there, so nothing waits and the event goes straight through.
    | some sink =>
      have hwaiting : ledger.waiting = [] := by
        apply h.idle
        rw [hsink]
        exact Option.some_ne_none _
      rw [step_emit_delivered hsink]
      refine h.emit entry rfl h.bounded h.separated h.idle (fun e he => .inl he) ?_ (.refl _) ?_
      · intro d hd
        rw [List.mem_append, List.mem_singleton] at hd
        exact hd.imp_right fun hd => congrArg Prod.snd hd
      · rw [numbers, numbers, hwaiting, List.map_append, List.map_nil, List.append_nil,
          List.append_nil]
        rfl
  -- All that waits is delivered in its order; the numbers stay the same.
  | listen sink =>
    change Valid fleeting capacity (events ++ []) _
    rw [List.append_nil]
    have hnumbers : (step fleeting capacity ledger (.listen sink)).numbers = ledger.numbers := by
      rw [step, numbers, numbers, List.map_append, List.map_map, List.map_nil, List.append_nil]
      rfl
    refine ⟨h.emitted, Nat.zero_le _, .nil, fun _ => rfl, nofun, ?_, hnumbers ▸ h.increasing,
      hnumbers ▸ h.newest⟩
    intro d hd
    rcases List.mem_append.mp hd with hd | hd
    · exact h.went d hd
    · obtain ⟨e, he, rfl⟩ := List.mem_map.mp hd
      exact h.waits e he
  | cancel =>
    change Valid fleeting capacity (events ++ []) _
    rw [List.append_nil]
    exact ⟨h.emitted, h.bounded, h.separated, fun hne => absurd rfl hne, h.waits, h.went,
      h.increasing, h.newest⟩

end Invariant

section Runs

variable (fleeting : α → Bool) {capacity : ℕ}

/-- **Every run** keeps the queue bounded and separated, and its numbers increasing. -/
theorem run_valid (hpos : 0 < capacity) (calls : List (Call α Sink)) :
    (run fleeting capacity calls).Valid fleeting capacity (emissions calls) := by
  induction calls using List.reverseRecOn with
  | nil => exact empty_valid
  | append_singleton calls call ih =>
    rw [run_snoc, emissions, List.filterMap_append]
    exact step_valid hpos ih call

theorem delivered_in_order (calls more : List (Call α Sink)) :
    (run fleeting capacity calls).delivered <+:
      (run fleeting capacity (calls ++ more)).delivered := by
  induction more using List.reverseRecOn with
  | nil => rw [List.append_nil]
  | append_singleton more call ih =>
    refine ih.trans ?_
    rw [← List.append_assoc, run_snoc]
    cases call with
    | emit entry =>
      simp only [step]
      split
      · exact List.prefix_append ..
      · exact List.prefix_refl _
    | listen sink => exact List.prefix_append ..
    | cancel => exact List.prefix_refl _

/-- **A waiting event is delivered once**, to the next listener, whatever happens after that. -/
theorem delivered_once (hpos : 0 < capacity) (calls more : List (Call α Sink)) (sink : Sink)
    {e : ℕ × α} (he : e ∈ (run fleeting capacity calls).waiting) :
    ((run fleeting capacity (calls ++ .listen sink :: more)).delivered.filter
      fun d => d.2.1 == e.1) = [(sink, e)] := by
  have hmem : (sink, e) ∈ (run fleeting capacity (calls ++ .listen sink :: more)).delivered := by
    rw [List.append_cons]
    refine (delivered_in_order fleeting (calls ++ [.listen sink]) more).subset ?_
    rw [run_snoc]
    exact List.mem_append_right _ (List.mem_map_of_mem he)
  have hincreasing := (run_valid fleeting hpos (calls ++ .listen sink :: more)).increasing
  have hdelivered := (List.pairwise_append.mp hincreasing).1
  rw [List.pairwise_map] at hdelivered
  obtain ⟨before, after, hsplit⟩ := List.append_of_mem hmem
  rw [hsplit, List.pairwise_append, List.pairwise_cons] at hdelivered
  obtain ⟨_, ⟨hafter, _⟩, hbefore⟩ := hdelivered
  rw [hsplit, List.filter_append, List.filter_cons_of_pos (by exact beq_self_eq_true _)]
  -- Numbers increase, so no other delivery has this one.
  have hnone : before.filter (fun d => d.2.1 == e.1) = [] := by
    rw [List.filter_eq_nil_iff]
    intro d hd heq
    exact absurd (eq_of_beq heq) (Nat.ne_of_lt (hbefore d hd _ List.mem_cons_self))
  have hrest : after.filter (fun d => d.2.1 == e.1) = [] := by
    rw [List.filter_eq_nil_iff]
    intro d hd heq
    exact absurd (eq_of_beq heq) (Nat.ne_of_gt (hafter d hd))
  rw [hnone, hrest]
  rfl

end Runs

end Ledger

end BoundedQueue
