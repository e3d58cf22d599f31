import SecureKeypad.Library.Callback

/-!
# Replay Floors of Re-Entrant Objects

An object accepts a numbered command if the number is above its floor, works, and raises the floor
to the number when the work has succeeded. What the work is about is a call it makes before it calls
the host; behind that call the host may issue further commands before the work is done. A command
takes effect where its call stands in the log of calls, which need not be the order in which the
commands are done.

## Main definitions

- `Guarded`: commands that compare first, make their call, work, and raise the floor last
- `Undisturbed`: no command goes on when another one has taken effect inside it
- `KeepsFloor`: what a replay floor is for

## Main rules

- `step_change`: only a command that succeeds moves the floor
- `run_keepsFloor`: in runs that meet `Undisturbed`, the numbers are increasing in the order of their
  calls, and the floor never decreases
- `step_among`: floors come from accepted commands only
- `run_unmoved`: in every run, a step in which no command succeeds leaves the floor alone
-/

namespace ReplayFloor

open Callback

variable {σ κ ε ρ τ ι Λ : Type}

/-- The number is above the floor. -/
def Above (floor : Option ℤ) (n : ℤ) : Prop := ∀ m, floor = some m → m < n

instance (floor : Option ℤ) (n : ℤ) : Decidable (Above floor n) :=
  decidable_of_iff (floor.all (· < n) = true) (by simp [Above, Option.all_eq_true])

/-- No floor at all is the lowest. -/
def FloorLe (floor floor' : Option ℤ) : Prop :=
  ∀ m, floor = some m → ∃ n, floor' = some n ∧ m ≤ n

theorem FloorLe.refl (floor : Option ℤ) : FloorLe floor floor := fun m h => ⟨m, h, le_rfl⟩

theorem FloorLe.trans {a b c : Option ℤ} (hab : FloorLe a b) (hbc : FloorLe b c) : FloorLe a c := by
  intro m hm
  obtain ⟨n, hn, hmn⟩ := hab m hm
  obtain ⟨o, ho, hno⟩ := hbc n hn
  exact ⟨o, ho, hmn.trans hno⟩

theorem FloorLe.above {floor floor' : Option ℤ} {n : ℤ} (hle : FloorLe floor floor')
    (habove : Above floor' n) : Above floor n := by
  intro m hm
  obtain ⟨o, ho, hmo⟩ := hle m hm
  exact lt_of_le_of_lt hmo (habove o ho)

theorem Above.floorLe {floor : Option ℤ} {n : ℤ} (h : Above floor n) : FloorLe floor (some n) :=
  fun m hm => ⟨n, rfl, (h m hm).le⟩

/-- A floor, and a log of calls in order. Of the numbers that took effect, in the order in which
    they were done, `effects` has the positions of their calls in the log. -/
structure Gauge (σ Λ : Type) where
  floor : σ → Option ℤ
  effects : σ → List (ℕ × ℤ)
  log : σ → List Λ
  /-- The call has succeeded. -/
  succeeds : Λ → Bool

/-- What is known of an accepted command: its number, and the floor and the length of the log when
    it was issued. -/
structure Stamp where
  number : ℤ
  floor : Option ℤ
  since : ℕ
deriving DecidableEq

variable (gauge : Gauge σ Λ)

/-- The call at the position has succeeded. -/
def Acted (position : ℕ) (s : σ) : Prop :=
  ∃ call, (gauge.log s)[position]? = some call ∧ gauge.succeeds call = true

/-- Floor and effects are as they were, and the log has only grown. -/
structure Same (a b : σ) : Prop where
  floor : gauge.floor b = gauge.floor a
  effects : gauge.effects b = gauge.effects a
  log : gauge.log a <+: gauge.log b

/-- Command `n` has taken effect with the call at the position. -/
structure Assigns (position : ℕ) (n : ℤ) (a b : σ) : Prop where
  floor : gauge.floor b = some n
  effects : gauge.effects b = gauge.effects a ++ [(position, n)]
  log : gauge.log a <+: gauge.log b

instance : Keeping (Same gauge) where
  refl _ := ⟨rfl, rfl, List.prefix_rfl⟩
  trans _ _ _ hab hbc :=
    ⟨hbc.1.trans hab.1, hbc.2.trans hab.2, hab.3.trans hbc.3⟩

/-- The work of command `n`: only its last stretch may move the floor, and only to `n`. -/
def Works (position : ℕ) (n : ℤ) (pre : σ) (res : Res σ κ ε ρ Unit) : Prop :=
  res.Runs (Same gauge) (fun _ a b => Same gauge a b ∨ Assigns gauge position n a b) (Same gauge) pre

/-- A command on its way: it leaves the floor alone, or it was accepted, has made its call before it
    first calls the host, and works as its number. -/
def OnItsWay (accepted : Option Stamp) (pre : σ) (res : Res σ κ ε ρ Unit) : Prop :=
  res.Guar (Same gauge) pre ∨
    ∃ stamp position, accepted = some stamp ∧ stamp.since ≤ position ∧
      Acted gauge position res.state ∧ Works gauge position stamp.number pre res

/-- A call that is made now stands at the end of the log. -/
theorem acted_of_concat {a b : σ} {call : Λ} (hlog : gauge.log b = gauge.log a ++ [call])
    (hsucceeds : gauge.succeeds call = true) : Acted gauge (gauge.log a).length b :=
  ⟨call, by rw [hlog, List.getElem?_concat_length], hsucceeds⟩

section Work

variable {gauge}

theorem Acted.mono {position : ℕ} {a b : σ} (h : Acted gauge position a)
    (hlog : gauge.log a <+: gauge.log b) : Acted gauge position b := by
  obtain ⟨call, hcall, hsucceeds⟩ := h
  obtain ⟨hlt, hget⟩ := List.getElem?_eq_some_iff.mp hcall
  exact ⟨call, by rw [List.prefix_iff_getElem?.mp hlog position hlt, hget], hsucceeds⟩

theorem Acted.lt {position : ℕ} {s : σ} (h : Acted gauge position s) :
    position < (gauge.log s).length := by
  obtain ⟨call, hcall, _⟩ := h
  exact (List.getElem?_eq_some_iff.mp hcall).1

theorem OnItsWay.before {accepted : Option Stamp} {pre s : σ} {res : Res σ κ ε ρ Unit}
    (h : OnItsWay gauge accepted s res) (hsame : Same gauge pre s) :
    OnItsWay gauge accepted pre res := by
  rcases h with hguar | ⟨stamp, position, haccepted, hsince, hacted, hworks⟩
  · exact .inl (hguar.before hsame)
  · refine .inr ⟨stamp, position, haccepted, hsince, hacted, ?_⟩
    cases res with
    | done a t =>
      rcases hworks with hkept | ⟨hfloor, heffects, hlog⟩
      · exact .inl (Keeping.trans _ _ _ hsame hkept)
      · exact .inr ⟨hfloor, by rw [heffects, hsame.effects], hsame.log.trans hlog⟩
    | thrown e t => exact Keeping.trans _ _ _ hsame hworks
    | call c t resume => exact ⟨Keeping.trans _ _ _ hsame hworks.1, hworks.2⟩

/-- **A command that raises the floor behind its work** is on its way if the work either fails or has
    made its call before it first calls the host. -/
theorem onItsWay_raise {stamp : Stamp} {position : ℕ} {pre : σ} {work : Res σ κ ε ρ Bool}
    {raise : σ → σ} (hwork : work.Guar (Same gauge) pre) (hsince : stamp.since ≤ position)
    (hcall : work.Ends (Same gauge) (· = false) pre ∨ Acted gauge position work.state)
    (hraise : ∀ s, Assigns gauge position stamp.number s (raise s)) :
    OnItsWay gauge (some stamp) pre
      (work.bind fun done => if done then Code.modify raise else pure ()) := by
  rcases hcall with hfails | hacted
  · left
    refine hfails.guar_bind ?_
    rintro done rfl
    exact guar_pure ()
  · right
    refine ⟨stamp, position, rfl, hsince, ?_, ?_⟩
    · -- The floor is raised behind the last callback, or there is no callback.
      cases work with
      | done done s =>
        cases done with
        | true => exact hacted.mono (hraise s).log
        | false => exact hacted
      | thrown e s => exact hacted
      | call c s resume => exact hacted
    · refine hwork.ends.bind Keeping.trans ?_ Keeping.trans (fun _ _ h => h) ?_
      · intro _ a b c hab hbc
        rcases hbc with hsame | ⟨hfloor, heffects, hlog⟩
        · exact .inl (Keeping.trans _ _ _ hab hsame)
        · exact .inr ⟨hfloor, by rw [heffects, hab.effects], hab.log.trans hlog⟩
      · intro done _ s
        cases done with
        | true => exact .inr (hraise s)
        | false => exact .inl (Keeping.refl s)

end Work

/-- The stamp of a command that is accepted in the state. -/
structure Stamp.Fits (stamp : Stamp) (s : σ) : Prop where
  above : Above (gauge.floor s) stamp.number
  floor : stamp.floor = gauge.floor s
  since : stamp.since = (gauge.log s).length

/-- The commands compare first and assign last. `accepted` reads from a tag what is known of its
    command, if it was accepted. -/
structure Guarded (code : ι → Code σ κ ε ρ Unit) (tag : ι → σ → τ)
    (accepted : τ → Option Stamp) : Prop where
  fits : ∀ i s stamp, accepted (tag i s) = some stamp → stamp.Fits gauge s
  onItsWay : ∀ i s, OnItsWay gauge (accepted (tag i s)) s (code i s)

/-- Every command that waits is on its way. -/
def Waits (accepted : τ → Option Stamp) (world : World σ κ ε ρ τ) : Prop :=
  ∀ frame ∈ world.stack, (∀ r, (frame.resume r).Guar (Same gauge)) ∨
    ∃ stamp position, accepted frame.tag = some stamp ∧ stamp.since ≤ position ∧
      Acted gauge position world.state ∧
      ∀ r s, Works gauge position stamp.number s (frame.resume r s)

/-- If the callback of an accepted command comes back, the floor is as it was when the command was
    accepted. -/
def Undisturbed (accepted : τ → Option Stamp) (world : World σ κ ε ρ τ) : Event ι ρ → Prop
  | .issue _ => True
  | .reply _ => ∀ frame ∈ world.stack.head?, ∀ stamp ∈ accepted frame.tag,
    gauge.floor world.state = stamp.floor

instance (accepted : τ → Option Stamp) (world : World σ κ ε ρ τ) :
    ∀ event : Event ι ρ, Decidable (Undisturbed gauge accepted world event)
  | .issue _ => inferInstanceAs (Decidable True)
  | .reply _ => inferInstanceAs (Decidable (∀ frame ∈ world.stack.head?, _))

/-- The first effect is before the second one, and its number is lower. -/
def Before (effect effect' : ℕ × ℤ) : Prop := effect.1 < effect'.1 ∧ effect.2 < effect'.2

instance (effect effect' : ℕ × ℤ) : Decidable (Before effect effect') :=
  inferInstanceAs (Decidable (_ ∧ _))

/-- What holds of an accepted command while it waits. As long as the floor has not moved, what took
    effect did so before the command was issued. -/
structure Held (stamp : Stamp) (s : σ) : Prop where
  above : Above stamp.floor stamp.number
  low : FloorLe stamp.floor (gauge.floor s)
  earlier : gauge.floor s = stamp.floor → ∀ effect ∈ gauge.effects s, effect.1 < stamp.since

/-- The effects are in the order of their calls, with increasing numbers, and the floor is the last
    of the numbers. -/
structure Ordered (accepted : τ → Option Stamp) (world : World σ κ ε ρ τ) : Prop where
  waits : Waits gauge accepted world
  held : ∀ frame ∈ world.stack, ∀ stamp, accepted frame.tag = some stamp →
    Held gauge stamp world.state
  last : gauge.floor world.state = (gauge.effects world.state).getLast?.map Prod.snd
  acted : ∀ effect ∈ gauge.effects world.state, Acted gauge effect.1 world.state
  increasing : (gauge.effects world.state).Pairwise Before

/-- The floor, and the numbers of the accepted commands at work, are among the numbers in `P`. -/
def Among (accepted : τ → Option Stamp) (P : ℤ → Prop) (world : World σ κ ε ρ τ) : Prop :=
  (∀ n, gauge.floor world.state = some n → P n) ∧
  ∀ frame ∈ world.stack, ∀ stamp, accepted frame.tag = some stamp → P stamp.number

/-- The command a step goes on with. -/
def active (tag : ι → σ → τ) (world : World σ κ ε ρ τ) : Event ι ρ → Option τ
  | .issue i => some (tag i world.state)
  | .reply _ => world.stack.head?.map Frame.tag

/-- A step in which the command tagged `t` takes effect. -/
structure TakesEffect (accepted : τ → Option Stamp) (t : τ) (stamp : Stamp) (position : ℕ)
    (a b : σ) : Prop where
  accepted : accepted t = some stamp
  since : stamp.since ≤ position
  acted : Acted gauge position b
  assigns : Assigns gauge position stamp.number a b

section Steps

variable {gauge} {code : ι → Code σ κ ε ρ Unit} {tag : ι → σ → τ} {accepted : τ → Option Stamp}

theorem Works.log {position : ℕ} {n : ℤ} {pre : σ} {res : Res σ κ ε ρ Unit}
    (h : Works gauge position n pre res) : gauge.log pre <+: gauge.log res.state := by
  cases res with
  | done a s =>
    rcases h with hsame | hassigns
    · exact hsame.log
    · exact hassigns.log
  | thrown e s => exact Same.log h
  | call c s resume => exact h.1.log

/-- What waits goes on waiting while the log grows. -/
theorem Waits.mono {s t : σ} {stack : List (Frame σ κ ε ρ τ)}
    (h : Waits gauge accepted ⟨s, stack⟩) (hlog : gauge.log s <+: gauge.log t) :
    Waits gauge accepted ⟨t, stack⟩ := by
  intro frame hframe
  rcases h frame hframe with hguar | ⟨stamp, position, haccepted, hsince, hacted, hworks⟩
  · exact .inl hguar
  · exact .inr ⟨stamp, position, haccepted, hsince, hacted.mono hlog, hworks⟩

/-- A command that waits is on its way when its callback comes back. -/
theorem Waits.onItsWay {world : World σ κ ε ρ τ} (h : Waits gauge accepted world)
    {frame : Frame σ κ ε ρ τ} (hframe : frame ∈ world.stack) (r : ρ) :
    OnItsWay gauge (accepted frame.tag) world.state (frame.resume r world.state) := by
  rcases h frame hframe with hguar | ⟨stamp, position, haccepted, hsince, hacted, hworks⟩
  · exact .inl (hguar r world.state)
  · have hwork := hworks r world.state
    exact .inr ⟨stamp, position, haccepted, hsince, hacted.mono hwork.log, hwork⟩

/-- What a stretch of a command on its way does. -/
theorem land_change {t : τ} {stack : List (Frame σ κ ε ρ τ)} {res : Res σ κ ε ρ Unit} {pre : σ}
    (hres : OnItsWay gauge (accepted t) pre res) (hstack : Waits gauge accepted ⟨pre, stack⟩) :
    Waits gauge accepted (land t stack res).2 ∧
    (Same gauge pre (land t stack res).2.state ∨
      ∃ stamp position, TakesEffect gauge accepted t stamp position pre
        (land t stack res).2.state) := by
  rcases hres with hguar | ⟨stamp, position, haccepted, hsince, hacted, hworks⟩
  · cases res with
    | done a s => exact ⟨hstack.mono hguar.log, .inl hguar⟩
    | thrown e s => exact ⟨hstack.mono hguar.log, .inl hguar⟩
    | call c s resume =>
      refine ⟨?_, .inl hguar.1⟩
      intro frame hframe
      rcases List.mem_cons.mp hframe with rfl | hold
      · exact .inl hguar.2
      · exact hstack.mono hguar.1.log frame hold
  · have hlog := hworks.log
    cases res with
    | done a s =>
      -- Only here, at the end of an accepted command, the floor may move.
      rcases hworks with hsame | hassigns
      · exact ⟨hstack.mono hlog, .inl hsame⟩
      · exact ⟨hstack.mono hlog, .inr ⟨stamp, position, haccepted, hsince, hacted, hassigns⟩⟩
    | thrown e s => exact ⟨hstack.mono hlog, .inl hworks⟩
    | call c s resume =>
      refine ⟨?_, .inl hworks.1⟩
      intro frame hframe
      rcases List.mem_cons.mp hframe with rfl | hold
      · exact .inr ⟨stamp, position, haccepted, hsince, hacted, hworks.2⟩
      · exact hstack.mono hlog frame hold

/-- **Only a command that succeeds moves the floor**, and it moves it to its own number. -/
theorem step_change (hg : Guarded gauge code tag accepted) {world : World σ κ ε ρ τ}
    (hw : Waits gauge accepted world) (event : Event ι ρ) :
    Waits gauge accepted (step code tag world event).2 ∧
    (Same gauge world.state (step code tag world event).2.state ∨
      ∃ t stamp position, active tag world event = some t ∧
        TakesEffect gauge accepted t stamp position world.state
          (step code tag world event).2.state) := by
  cases event with
  | issue i =>
    obtain ⟨hwaits, hsame | ⟨stamp, position, heffect⟩⟩ :=
      land_change (hg.onItsWay i world.state) hw
    · exact ⟨hwaits, .inl hsame⟩
    · exact ⟨hwaits, .inr ⟨_, stamp, position, rfl, heffect⟩⟩
  | reply r =>
    simp only [step]
    split
    · exact ⟨hw, .inl (Keeping.refl _)⟩
    · next frame stack hs =>
      have hframe : frame ∈ world.stack := hs ▸ List.mem_cons_self
      have hstack : Waits gauge accepted ⟨world.state, stack⟩ :=
        fun frame hframe => hw frame (hs ▸ List.mem_cons_of_mem _ hframe)
      obtain ⟨hwaits, hsame | ⟨stamp, position, heffect⟩⟩ :=
        land_change (hw.onItsWay hframe r) hstack
      · exact ⟨hwaits, .inl hsame⟩
      · refine ⟨hwaits, .inr ⟨_, stamp, position, ?_, heffect⟩⟩
        rw [active, hs, List.head?_cons, Option.map_some]

/-- What waits behind a step waited before, or is the command the step goes on with. -/
theorem step_stack {world : World σ κ ε ρ τ} (event : Event ι ρ) :
    ∀ frame ∈ (step code tag world event).2.stack,
      active tag world event = some frame.tag ∨ frame ∈ world.stack := by
  have hland : ∀ {t : τ} {stack : List (Frame σ κ ε ρ τ)} {res : Res σ κ ε ρ Unit},
      ∀ frame ∈ (land t stack res).2.stack, frame.tag = t ∨ frame ∈ stack := by
    intro t stack res frame hframe
    cases res with
    | done a s => exact .inr hframe
    | thrown e s => exact .inr hframe
    | call c s resume =>
      rcases List.mem_cons.mp hframe with rfl | hold
      · exact .inl rfl
      · exact .inr hold
  intro frame hframe
  cases event with
  | issue i =>
    rcases hland frame hframe with htag | hold
    · exact .inl (by rw [active, htag])
    · exact .inr hold
  | reply r =>
    simp only [step] at hframe
    split at hframe
    · exact .inr hframe
    · next head stack hs =>
      rw [active, hs, List.head?_cons, Option.map_some]
      rcases hland frame hframe with htag | hold
      · exact .inl (by rw [htag])
      · exact .inr (List.mem_cons_of_mem _ hold)

/-! ### Keeping the order -/

theorem Held.of_same {stamp : Stamp} {a b : σ} (h : Held gauge stamp a) (hsame : Same gauge a b) :
    Held gauge stamp b := by
  refine ⟨h.above, ?_, ?_⟩
  · rw [hsame.floor]
    exact h.low
  · rw [hsame.floor, hsame.effects]
    exact h.earlier

/-- The floor has moved on from that of the stamp. -/
theorem Held.of_assigns {stamp : Stamp} {position : ℕ} {n : ℤ} {a b : σ} (h : Held gauge stamp a)
    (hassigns : Assigns gauge position n a b) (habove : Above (gauge.floor a) n) :
    Held gauge stamp b := by
  refine ⟨h.above, ?_, ?_⟩
  · rw [hassigns.floor]
    exact h.low.trans habove.floorLe
  · intro hfloor
    have hlow : n < n := h.low.above habove n (hfloor ▸ hassigns.floor)
    exact absurd hlow (lt_irrefl n)

/-- The command a step goes on with is held, also if it is issued with the step. -/
theorem Ordered.active_held (hg : Guarded gauge code tag accepted) {world : World σ κ ε ρ τ}
    (h : Ordered gauge accepted world) {event : Event ι ρ} {t : τ} {stamp : Stamp}
    (hactive : active tag world event = some t) (haccepted : accepted t = some stamp) :
    Held gauge stamp world.state := by
  cases event with
  | issue i =>
    cases hactive
    have hfits := hg.fits i _ stamp haccepted
    refine ⟨hfits.floor ▸ hfits.above, ?_, ?_⟩
    · rw [hfits.floor]
      exact FloorLe.refl _
    · intro _ effect heffect
      rw [hfits.since]
      exact (h.acted effect heffect).lt
  | reply r =>
    obtain ⟨frame, hframe, rfl⟩ := Option.map_eq_some_iff.mp hactive
    exact h.held frame (List.mem_of_mem_head? hframe) stamp haccepted

/-- In a step that meets `Undisturbed`, the floor is that of the command's stamp. -/
theorem Undisturbed.floor (hg : Guarded gauge code tag accepted) {world : World σ κ ε ρ τ}
    {event : Event ι ρ} (h : Undisturbed gauge accepted world event) {t : τ} {stamp : Stamp}
    (hactive : active tag world event = some t) (haccepted : accepted t = some stamp) :
    gauge.floor world.state = stamp.floor := by
  cases event with
  | issue i =>
    cases hactive
    exact (hg.fits i _ stamp haccepted).floor.symm
  | reply r =>
    obtain ⟨frame, hframe, rfl⟩ := Option.map_eq_some_iff.mp hactive
    exact h frame hframe stamp haccepted

/-- An effect behind the others, with a number above the last one, keeps the order. -/
theorem increasing_snoc {effects : List (ℕ × ℤ)} {position : ℕ} {n : ℤ}
    (h : effects.Pairwise Before) (hposition : ∀ effect ∈ effects, effect.1 < position)
    (habove : Above (effects.getLast?.map Prod.snd) n) :
    (effects ++ [(position, n)]).Pairwise Before := by
  rw [List.pairwise_append]
  refine ⟨h, List.pairwise_singleton _ _, ?_⟩
  intro effect heffect new hnew
  rw [List.mem_singleton] at hnew
  subst hnew
  refine ⟨hposition effect heffect, ?_⟩
  rcases List.eq_nil_or_concat effects with rfl | ⟨front, last, heq⟩
  · cases heffect
  · rw [List.concat_eq_append] at heq
    subst heq
    have hlast : last.2 < n := habove last.2 (by simp)
    rw [List.mem_append, List.mem_singleton] at heffect
    rcases heffect with hfront | rfl
    · exact ((List.pairwise_append.mp h).2.2 effect hfront last (by simp)).2.trans hlast
    · exact hlast

/-- **One event** keeps the order if no command goes on behind one that took effect inside it. -/
theorem step_ordered (hg : Guarded gauge code tag accepted) {world : World σ κ ε ρ τ}
    (h : Ordered gauge accepted world) {event : Event ι ρ}
    (hundisturbed : Undisturbed gauge accepted world event) :
    Ordered gauge accepted (step code tag world event).2 := by
  -- What waits behind the step was held before it.
  have hheld : ∀ frame ∈ (step code tag world event).2.stack, ∀ stamp,
      accepted frame.tag = some stamp → Held gauge stamp world.state := by
    intro frame hframe stamp haccepted
    rcases step_stack event frame hframe with hactive | hold
    · exact h.active_held hg hactive haccepted
    · exact h.held frame hold stamp haccepted
  obtain ⟨hwaits, hsame | ⟨t, stamp, position, hactive, heffect⟩⟩ := step_change hg h.waits event
  · refine ⟨hwaits, fun frame hframe stamp haccepted => ?_, ?_, ?_, ?_⟩
    · exact (hheld frame hframe stamp haccepted).of_same hsame
    · rw [hsame.floor, hsame.effects]
      exact h.last
    · rw [hsame.effects]
      exact fun effect heffect => (h.acted effect heffect).mono hsame.log
    · rw [hsame.effects]
      exact h.increasing
  · -- The floor has not moved since the command was issued, so it is still below its number.
    have hfloor := hundisturbed.floor hg hactive heffect.accepted
    have hcommand := h.active_held hg hactive heffect.accepted
    have habove : Above (gauge.floor world.state) stamp.number := hfloor ▸ hcommand.above
    have hassigns := heffect.assigns
    refine ⟨hwaits, fun frame hframe stamp haccepted => ?_, ?_, ?_, ?_⟩
    · exact (hheld frame hframe stamp haccepted).of_assigns hassigns habove
    · rw [hassigns.floor, hassigns.effects, List.getLast?_concat, Option.map_some]
    · rw [hassigns.effects]
      intro effect hmem
      rcases List.mem_append.mp hmem with hold | hnew
      · exact (h.acted effect hold).mono hassigns.log
      · rw [List.mem_singleton.mp hnew]
        exact heffect.acted
    · rw [hassigns.effects]
      apply increasing_snoc h.increasing
      · intro effect hold
        exact (hcommand.earlier hfloor effect hold).trans_le heffect.since
      · rw [← h.last]
        exact habove

/-- Numbers come in only with the commands that are accepted. -/
theorem step_among (hg : Guarded gauge code tag accepted) {world : World σ κ ε ρ τ}
    (hw : Waits gauge accepted world) {P : ℤ → Prop} (h : Among gauge accepted P world)
    {event : Event ι ρ}
    (hissue : ∀ i stamp, event = .issue i → accepted (tag i world.state) = some stamp →
      P stamp.number) :
    Among gauge accepted P (step code tag world event).2 := by
  have hcommand : ∀ t stamp, active tag world event = some t → accepted t = some stamp →
      P stamp.number := by
    intro t stamp hactive haccepted
    cases event with
    | issue i =>
      cases hactive
      exact hissue i stamp rfl haccepted
    | reply r =>
      obtain ⟨frame, hframe, rfl⟩ := Option.map_eq_some_iff.mp hactive
      exact h.2 frame (List.mem_of_mem_head? hframe) stamp haccepted
  constructor
  · intro n hn
    obtain ⟨_, hsame | ⟨t, stamp, position, hactive, heffect⟩⟩ := step_change hg hw event
    · exact h.1 n (hsame.floor.symm.trans hn)
    · rw [heffect.assigns.floor, Option.some.injEq] at hn
      exact hn ▸ hcommand t stamp hactive heffect.accepted
  · intro frame hframe stamp haccepted
    rcases step_stack event frame hframe with hactive | hold
    · exact hcommand _ stamp hactive haccepted
    · exact h.2 frame hold stamp haccepted

end Steps

section Runs

variable {gauge} {code : ι → Code σ κ ε ρ Unit} {tag : ι → σ → τ} {accepted : τ → Option Stamp}

/-- The world after the first `n` events. -/
def after (code : ι → Code σ κ ε ρ Unit) (tag : ι → σ → τ) (world : World σ κ ε ρ τ)
    (events : List (Event ι ρ)) (n : ℕ) : World σ κ ε ρ τ :=
  Machine.run (step code tag) world (events.take n)

/-- In the whole run no command goes on behind one that took effect inside it. -/
def RunsUndisturbed (gauge : Gauge σ Λ) (code : ι → Code σ κ ε ρ Unit) (tag : ι → σ → τ)
    (accepted : τ → Option Stamp) (world : World σ κ ε ρ τ) (events : List (Event ι ρ)) : Prop :=
  ∀ n event, events[n]? = some event →
    Undisturbed gauge accepted (after code tag world events n) event

instance (gauge : Gauge σ Λ) (code : ι → Code σ κ ε ρ Unit) (tag : ι → σ → τ)
    (accepted : τ → Option Stamp) (world : World σ κ ε ρ τ) (events : List (Event ι ρ)) :
    Decidable (RunsUndisturbed gauge code tag accepted world events) :=
  decidable_of_iff
    (∀ n : Fin events.length,
      Undisturbed gauge accepted (after code tag world events n) events[n]) <| by
    constructor
    · intro h n event hevent
      obtain ⟨hn, rfl⟩ := List.getElem?_eq_some_iff.mp hevent
      exact h ⟨n, hn⟩
    · intro h n
      exact h n _ (List.getElem?_eq_getElem n.isLt)

/-- What a replay floor is for. -/
structure KeepsFloor (gauge : Gauge σ Λ) (code : ι → Code σ κ ε ρ Unit) (tag : ι → σ → τ)
    (world : World σ κ ε ρ τ) (events : List (Event ι ρ)) : Prop where
  /-- The floor never decreases. -/
  mono : ∀ m n, m ≤ n → n ≤ events.length →
    FloorLe (gauge.floor (after code tag world events m).state)
      (gauge.floor (after code tag world events n).state)
  /-- What takes effect does so with a call that has succeeded. -/
  acted : ∀ n ≤ events.length,
    ∀ effect ∈ gauge.effects (after code tag world events n).state,
      Acted gauge effect.1 (after code tag world events n).state
  /-- In the order of the calls, the numbers that take effect are increasing. -/
  increasing : ∀ n ≤ events.length,
    (gauge.effects (after code tag world events n).state).Pairwise Before
  /-- A step in which no command succeeds leaves the floor alone. -/
  rejected : ∀ n < events.length,
    gauge.effects (after code tag world events (n + 1)).state =
      gauge.effects (after code tag world events n).state →
    gauge.floor (after code tag world events (n + 1)).state =
      gauge.floor (after code tag world events n).state

/-- **The numbers that take effect are increasing**, in every run where no command goes on behind
    one that took effect inside it. -/
theorem run_ordered (hg : Guarded gauge code tag accepted) {world : World σ κ ε ρ τ}
    (h : Ordered gauge accepted world) {events : List (Event ι ρ)}
    (hundisturbed : RunsUndisturbed gauge code tag accepted world events) {n : ℕ}
    (hn : n ≤ events.length) : Ordered gauge accepted (after code tag world events n) := by
  refine Machine.run_take_window (step code tag) (P := Ordered gauge accepted) (Nat.zero_le n) hn
    h ?_
  intro m event _ _ hevent hordered
  exact step_ordered hg hordered (hundisturbed m event hevent)

theorem run_waits (hg : Guarded gauge code tag accepted) {world : World σ κ ε ρ τ}
    (h : Waits gauge accepted world) (events : List (Event ι ρ)) (n : ℕ) :
    Waits gauge accepted (after code tag world events n) :=
  Machine.run_invariant (step code tag) (P := Waits gauge accepted)
    (fun _ event hw => (step_change hg hw event).1) h _

theorem after_succ {world : World σ κ ε ρ τ} {events : List (Event ι ρ)} {n : ℕ}
    (hn : n < events.length) : after code tag world events (n + 1) =
      (step code tag (after code tag world events n) events[n]).2 :=
  Machine.run_take_succ (step code tag) (List.getElem?_eq_getElem hn)

/-- **The floor never decreases** in such a run. -/
theorem floor_mono (hg : Guarded gauge code tag accepted) {world : World σ κ ε ρ τ}
    (h : Ordered gauge accepted world) {events : List (Event ι ρ)}
    (hundisturbed : RunsUndisturbed gauge code tag accepted world events) {m n : ℕ} (hmn : m ≤ n)
    (hn : n ≤ events.length) :
    FloorLe (gauge.floor (after code tag world events m).state)
      (gauge.floor (after code tag world events n).state) := by
  induction n, hmn using Nat.le_induction with
  | base => exact FloorLe.refl _
  | succ n hmn ih =>
    refine (ih (Nat.le_of_lt hn)).trans ?_
    have hbefore := run_ordered hg h hundisturbed (Nat.le_of_lt hn)
    rw [after_succ hn]
    obtain ⟨_, hsame | ⟨t, stamp, position, hactive, heffect⟩⟩ :=
      step_change hg hbefore.waits events[n]
    · rw [hsame.floor]
      exact FloorLe.refl _
    · -- The floor goes up to a number above it.
      have hfloor := (hundisturbed n events[n] (List.getElem?_eq_getElem hn)).floor hg hactive
        heffect.accepted
      rw [heffect.assigns.floor, hfloor]
      exact (hbefore.active_held hg hactive heffect.accepted).above.floorLe

/-- **A step in which no command succeeds leaves the floor alone**, in every run. -/
theorem run_unmoved (hg : Guarded gauge code tag accepted) {world : World σ κ ε ρ τ}
    (h : Waits gauge accepted world) {events : List (Event ι ρ)} {n : ℕ} (hn : n < events.length)
    (heffects : gauge.effects (after code tag world events (n + 1)).state =
      gauge.effects (after code tag world events n).state) :
    gauge.floor (after code tag world events (n + 1)).state =
      gauge.floor (after code tag world events n).state := by
  rw [after_succ hn] at heffects ⊢
  obtain ⟨_, hsame | ⟨t, stamp, position, hactive, heffect⟩⟩ :=
    step_change hg (run_waits hg h events n) events[n]
  · exact hsame.floor
  · rw [heffect.assigns.effects] at heffects
    exact absurd (congrArg List.length heffects) (by simp)

/-- **A run in which no command goes on behind one that took effect inside it keeps the floor.** -/
theorem run_keepsFloor (hg : Guarded gauge code tag accepted) {world : World σ κ ε ρ τ}
    (h : Ordered gauge accepted world) {events : List (Event ι ρ)}
    (hundisturbed : RunsUndisturbed gauge code tag accepted world events) :
    KeepsFloor gauge code tag world events :=
  ⟨fun _ _ hmn hn => floor_mono hg h hundisturbed hmn hn,
    fun _ hn => (run_ordered hg h hundisturbed hn).acted,
    fun _ hn => (run_ordered hg h hundisturbed hn).increasing,
    fun _ hn => run_unmoved hg h.waits hn⟩

end Runs

end ReplayFloor
