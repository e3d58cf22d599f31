import Mathlib

/-!
# Ledgers of Handles

A library hands out handles that stand for memory it has allocated: each may be used until it is
freed, and must be freed once. A ledger follows what is live through a list of such acts and stops
at the first that breaks the rules. An allocator may hand out a handle again once it is free, so an
allocation is told by its place in the list, not by its handle.

## Main definitions

- `run`: the live handles after a list of acts, `none` if one of them breaks the rules
- `Disciplined`: what the rules come to, said of the list alone

## Main results

- `disciplined_of_run`: a list the ledger accepts is disciplined
-/

namespace HandleLedger

variable {H C : Type*}

/-- What a call does with a handle. -/
inductive Act (H C : Type*) where
  /-- The handle is new, for a purpose `c`. -/
  | allocate (h : H) (c : C)
  | use (h : H)
  /-- The handle is given up. -/
  | free (h : H)

/-- The live handles, with what they were allocated for. -/
abbrev Live (H C : Type*) := H → Option C

/-- No handle is live. -/
def Live.empty : Live H C := fun _ => none

/-- An act begins or ends the life of `h`. -/
def Act.Touches (h : H) (act : Act H C) : Prop := act = .free h ∨ ∃ c, act = .allocate h c

section Run

variable [DecidableEq H]

/-- One act on the live handles. -/
def step (live : Live H C) : Act H C → Option (Live H C)
  | .allocate h c => if live h = none then some (Function.update live h (some c)) else none
  | .use h => if (live h).isSome then some live else none
  | .free h => if (live h).isSome then some (Function.update live h none) else none

/-- One handle is live, and no other. -/
def Live.single (h : H) (c : C) : Live H C := Function.update Live.empty h (some c)

theorem step_allocate_empty (h : H) (c : C) :
    step Live.empty (.allocate h c) = some (Live.single h c) := by
  simp only [step, Live.single, Live.empty, if_true]

theorem step_use_single (h : H) (c : C) : step (Live.single h c) (.use h) = some (Live.single h c) := by
  simp [step, Live.single]

theorem step_free_single (h : H) (c : C) : step (Live.single h c) (.free h) = some Live.empty := by
  have hempty : Function.update (Live.empty : Live H C) h none = Live.empty :=
    Function.update_eq_self h Live.empty
  simp [step, Live.single, hempty]

/-- The acts in their order. -/
def run (live : Live H C) : List (Act H C) → Option (Live H C)
  | [] => some live
  | act :: acts => (step live act).bind (run · acts)

@[simp] theorem run_nil (live : Live H C) : run live [] = some live := rfl

@[simp] theorem run_cons (live : Live H C) (act : Act H C) (acts : List (Act H C)) :
    run live (act :: acts) = (step live act).bind (run · acts) := rfl

theorem run_append (live : Live H C) (acts acts' : List (Act H C)) :
    run live (acts ++ acts') = (run live acts).bind (run · acts') := by
  induction acts generalizing live with
  | nil => rfl
  | cons act acts ih =>
    rw [List.cons_append, run_cons, run_cons, Option.bind_assoc]
    congr 1
    funext after
    exact ih after

/-- One act more. -/
theorem run_snoc {live after : Live H C} {acts : List (Act H C)} (h : run live acts = some after)
    (act : Act H C) : run live (acts ++ [act]) = step after act := by
  rw [run_append, h, Option.bind_some, run_cons]
  cases step after act <;> rfl

/-- What an act leaves alone. -/
theorem step_apply {live after : Live H C} {act : Act H C} (hstep : step live act = some after)
    {h : H} (htouch : ¬ act.Touches h) : after h = live h := by
  cases act with
  | allocate h' c =>
    have hne : h ≠ h' := fun heq => htouch (.inr ⟨c, heq ▸ rfl⟩)
    simp only [step] at hstep
    split at hstep
    · cases hstep
      exact Function.update_of_ne hne _ _
    · cases hstep
  | use h' =>
    simp only [step] at hstep
    split at hstep
    · cases hstep
      rfl
    · cases hstep
  | free h' =>
    have hne : h ≠ h' := fun heq => htouch (.inl (heq ▸ rfl))
    simp only [step] at hstep
    split at hstep
    · cases hstep
      exact Function.update_of_ne hne _ _
    · cases hstep

/-- An act on the life of `h`, in a list the ledger accepts: an allocation of what is not live, or
    the end of what is. -/
theorem step_touches {live after : Live H C} {act : Act H C} (hstep : step live act = some after)
    {h : H} (htouch : act.Touches h) :
    (∃ c, act = .allocate h c ∧ live h = none ∧ after h = some c) ∨
      act = .free h ∧ (live h).isSome ∧ after h = none := by
  rcases htouch with rfl | ⟨c, rfl⟩
  · simp only [step] at hstep
    split at hstep
    · next hlive =>
      cases hstep
      exact .inr ⟨rfl, hlive, Function.update_self ..⟩
    · cases hstep
  · simp only [step] at hstep
    split at hstep
    · next hfree =>
      cases hstep
      exact .inl ⟨c, rfl, hfree, Function.update_self ..⟩
    · cases hstep

/-- What is used is live. -/
theorem step_use {live after : Live H C} {h : H} (hstep : step live (.use h) = some after) :
    (live h).isSome := by
  simp only [step] at hstep
  split at hstep
  · assumption
  · cases hstep

/-! ## What the rules come to -/

/-- No act in a list touches `h`. -/
def Untouched (acts : List (Act H C)) (h : H) : Prop := ∀ act ∈ acts, ¬ act.Touches h

/-- **The discipline of handles**, of a list of acts at whose end `live` is live. -/
structure Disciplined (acts : List (Act H C)) (live : Live H C) : Prop where
  /-- What is allocated is freed by the next act that touches its handle, or still live. -/
  allocated : ∀ before h c after, acts = before ++ .allocate h c :: after →
    (∃ during rest, after = during ++ .free h :: rest ∧ Untouched during h) ∨
      live h = some c ∧ Untouched after h
  /-- What is used or freed has been allocated, and not been freed since. -/
  spent : ∀ before h act after, acts = before ++ act :: after → act = .use h ∨ act = .free h →
    ∃ before' c during, before = before' ++ .allocate h c :: during ∧ Untouched during h
  /-- What is live has been allocated, and not been freed since. -/
  live : ∀ h c, live h = some c →
    ∃ before during, acts = before ++ .allocate h c :: during ∧ Untouched during h

/-- The life of a handle that is live before the acts. -/
theorem freed_or_live {live after : Live H C} {acts : List (Act H C)}
    (hrun : run live acts = some after) {h : H} {c : C} (hlive : live h = some c) :
    (∃ during rest, acts = during ++ .free h :: rest ∧ Untouched during h) ∨
      after h = some c ∧ Untouched acts h := by
  induction acts generalizing live with
  | nil =>
    cases hrun
    exact .inr ⟨hlive, fun act hact => by cases hact⟩
  | cons act acts ih =>
    obtain ⟨next, hstep, hrest⟩ := Option.bind_eq_some_iff.mp hrun
    by_cases htouch : act.Touches h
    · rcases step_touches hstep htouch with ⟨c', -, hnone, -⟩ | ⟨rfl, -, -⟩
      · cases hlive.symm.trans hnone
      · exact .inl ⟨[], acts, rfl, fun act hact => by cases hact⟩
    · rcases ih hrest ((step_apply hstep htouch).trans hlive) with
        ⟨during, rest, rfl, huntouched⟩ | ⟨hafter, huntouched⟩
      · refine .inl ⟨act :: during, rest, rfl, ?_⟩
        exact List.forall_mem_cons.mpr ⟨htouch, huntouched⟩
      · exact .inr ⟨hafter, List.forall_mem_cons.mpr ⟨htouch, huntouched⟩⟩

/-- Where a live handle comes from. -/
theorem allocated_of_live {after : Live H C} {acts : List (Act H C)}
    (hrun : run Live.empty acts = some after) {h : H} {c : C} (hlive : after h = some c) :
    ∃ before during, acts = before ++ .allocate h c :: during ∧ Untouched during h := by
  induction acts using List.reverseRecOn generalizing after with
  | nil =>
    cases hrun
    cases hlive
  | append_singleton acts act ih =>
    rw [run_append] at hrun
    obtain ⟨last, hlast, hstep⟩ := Option.bind_eq_some_iff.mp hrun
    rw [run_cons] at hstep
    obtain ⟨after', hstep, hsame⟩ := Option.bind_eq_some_iff.mp hstep
    cases hsame
    by_cases htouch : act.Touches h
    · rcases step_touches hstep htouch with ⟨c', rfl, -, hc'⟩ | ⟨-, -, hnone⟩
      · cases hc'.symm.trans hlive
        exact ⟨acts, [], rfl, fun act hact => by cases hact⟩
      · cases hnone.symm.trans hlive
    · obtain ⟨before, during, rfl, huntouched⟩ := ih hlast ((step_apply hstep htouch).symm.trans hlive)
      refine ⟨before, during ++ [act], by rw [List.append_assoc, List.cons_append], ?_⟩
      intro act' hact'
      rcases List.mem_append.mp hact' with hold | hnew
      · exact huntouched act' hold
      · rw [List.mem_singleton.mp hnew]
        exact htouch

/-- **What the ledger accepts is disciplined.** -/
theorem disciplined_of_run {live : Live H C} {acts : List (Act H C)}
    (hrun : run Live.empty acts = some live) : Disciplined acts live where
  allocated := by
    rintro before h c after rfl
    rw [run_append] at hrun
    obtain ⟨middle, -, hrest⟩ := Option.bind_eq_some_iff.mp hrun
    rw [run_cons] at hrest
    obtain ⟨next, hstep, hafter⟩ := Option.bind_eq_some_iff.mp hrest
    rcases step_touches hstep (.inr ⟨c, rfl⟩) with ⟨c', hact, -, hnext⟩ | ⟨hact, -⟩
    · cases hact
      exact freed_or_live hafter hnext
    · cases hact
  spent := by
    rintro before h act after rfl hact
    rw [run_append] at hrun
    obtain ⟨middle, hmiddle, hrest⟩ := Option.bind_eq_some_iff.mp hrun
    rw [run_cons] at hrest
    obtain ⟨next, hstep, -⟩ := Option.bind_eq_some_iff.mp hrest
    have hlive : (middle h).isSome := by
      rcases hact with rfl | rfl
      · exact step_use hstep
      · rcases step_touches hstep (.inl rfl) with ⟨c, hact, -⟩ | ⟨-, hlive, -⟩
        · cases hact
        · exact hlive
    obtain ⟨c, hc⟩ := Option.isSome_iff_exists.mp hlive
    obtain ⟨before', during, hbefore, huntouched⟩ := allocated_of_live hmiddle hc
    exact ⟨before', c, during, hbefore, huntouched⟩
  live := fun _ _ hlive => allocated_of_live hrun hlive

end Run

end HandleLedger
