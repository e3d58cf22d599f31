import SecureKeypad.Native.CommandFloors

/-!
# Protected Presentation of the iOS View

`protectedPresentation` is set from several notifications, the release of a session runs the host in
the middle of the transition, and the host may start a session, press a key or move the view there.
What the view has done is in its history, in order. Whatever the host nests, the history of a view
passes no key on under a protected presentation, frees a session with the transition, and leaves the
protection with a session no key has reached.

## Main definitions

- `Presentation.after`: what a history has come to, the session held and what it has accepted
- `Guarded`: the invariant
- `Protects`: what the protection is for

## Main results

- `protected_presentation`: every run of a view protects
-/

namespace SecureKeypad.Native.Ios

open Callback

variable {Theme : Type}

/-! ## What a history has come to -/

/-- A session as the history knows it. -/
structure Held where
  session : ℕ
  /-- It was created under a protected presentation. -/
  createdProtected : Bool
  /-- The key presses that have succeeded on it. -/
  presses : List NativeCall

/-- What a call makes of the session held. -/
def Held.next (held : Held) (call : NativeCall) : Option Held :=
  if call = .sessionFree held.session then none
  else if call.keyPress? = some (held.session, 0) then
    some { held with presses := held.presses ++ [call] }
  else some held

structure Presentation where
  isProtected : Bool
  held : Option Held

namespace Presentation

def next (presentation : Presentation) : Moment → Presentation
  | .call call => { presentation with held := presentation.held.bind (Held.next · call) }
  | .held session =>
    { presentation with held := some ⟨session, presentation.isProtected, []⟩ }
  | .protection isProtected => { presentation with isProtected }

/-- A new view is protected, and holds no session. -/
def after (history : List Moment) : Presentation := history.foldl next ⟨true, none⟩

@[simp] theorem after_nil : after [] = ⟨true, none⟩ := rfl

theorem after_append (history added : List Moment) :
    after (history ++ added) = added.foldl next (after history) := List.foldl_append

@[simp] theorem after_concat (history : List Moment) (moment : Moment) :
    after (history ++ [moment]) = (after history).next moment := by
  rw [after_append, List.foldl_cons, List.foldl_nil]

end Presentation

theorem Held.session_of_next {held held' : Held} {call : NativeCall}
    (h : held.next call = some held') : held'.session = held.session := by
  unfold Held.next at h
  split at h
  · cases h
  · split at h <;> cases h <;> rfl

/-- A call that frees nothing leaves a session held. -/
theorem Held.map_next {held : Held} {call : NativeCall}
    (hfree : ∀ session, call ≠ .sessionFree session) :
    (held.next call).map Held.session = some held.session := by
  cases hnext : held.next call with
  | none =>
    unfold Held.next at hnext
    rw [if_neg (hfree _)] at hnext
    split at hnext <;> cases hnext
  | some held' => rw [Option.map_some, Held.session_of_next hnext]

theorem Held.next_of_not_keyPress {held : Held} {call : NativeCall}
    (hfree : ∀ session, call ≠ .sessionFree session) (hkey : call.keyPress? = none) :
    held.next call = some held := by
  unfold Held.next
  rw [if_neg (hfree _), hkey, if_neg (by simp)]

/-! ## The invariant -/

/-- No key has reached the session since it was created under the protection. -/
structure Held.Untouched (held : Held) : Prop where
  createdProtected : held.createdProtected = true
  presses : held.presses = []

/-- What the protection asks of a moment, with what was before it and what comes behind it. -/
def Permitted (before : List Moment) (moment : Moment) (rest : List Moment) : Prop :=
  match moment with
  | .call call => (Presentation.after before).isProtected = true → call.keyPress? = none
  | .held _ => True
  | .protection true => ∀ held ∈ (Presentation.after before).held,
      rest.head? = some (.call (.sessionFree held.session))
  | .protection false => (Presentation.after before).isProtected = true →
      ∀ held ∈ (Presentation.after before).held, held.Untouched

/-- Every moment of the history was permitted. -/
def Orderly (history : List Moment) : Prop :=
  ∀ before moment rest, history = before ++ moment :: rest → Permitted before moment rest

theorem Permitted.append {before rest : List Moment} {moment : Moment}
    (h : Permitted before moment rest) (added : List Moment) :
    Permitted before moment (rest ++ added) := by
  match moment with
  | .call call => exact h
  | .held session => trivial
  | .protection false => exact h
  | .protection true =>
    intro held hheld
    have hhead := h held hheld
    cases rest with
    | nil => cases hhead
    | cons first rest => exact hhead

/-- A history goes on with moments that are permitted. -/
theorem Orderly.append {history added : List Moment} (h : Orderly history)
    (hadded : ∀ before moment rest, added = before ++ moment :: rest →
      Permitted (history ++ before) moment rest) : Orderly (history ++ added) := by
  intro before moment rest hsplit
  rcases List.append_eq_append_iff.mp hsplit with ⟨early, rfl, hlate⟩ | ⟨late, rfl, hrest⟩
  · exact hadded early moment rest hlate
  · cases late with
    | nil =>
      have hhere := hadded [] moment rest hrest.symm
      rw [List.append_nil] at hhere
      rw [List.append_nil] at hhere
      exact hhere
    | cons first late =>
      obtain ⟨rfl, rfl⟩ := List.cons_eq_cons.mp hrest
      exact (h before moment late rfl).append added

theorem Orderly.concat {history : List Moment} {moment : Moment} (h : Orderly history)
    (hmoment : Permitted history moment []) : Orderly (history ++ [moment]) := by
  apply h.append
  intro before moment' rest hsplit
  cases before with
  | nil =>
    obtain ⟨rfl, rfl⟩ := List.cons_eq_cons.mp hsplit
    rw [List.append_nil]
    exact hmoment
  | cons first before => simp at hsplit

/-- **The invariant.** -/
structure Guarded (view : View Theme) : Prop where
  isProtected : (Presentation.after view.history).isProtected = view.protectedPresentation
  session : (Presentation.after view.history).held.map Held.session = view.session
  untouched : view.protectedPresentation = true →
    ∀ held ∈ (Presentation.after view.history).held, held.Untouched
  orderly : Orderly view.history

theorem guarded_new : Guarded (View.new Theme) where
  isProtected := rfl
  session := rfl
  untouched _ held hheld := by cases hheld
  orderly before moment rest hsplit := by simp [View.new] at hsplit

namespace Guarded

variable {view : View Theme}

/-- The session of the history is the one the view holds. -/
theorem exists_held (h : Guarded view) {session : ℕ} (hsession : view.session = some session) :
    ∃ held, (Presentation.after view.history).held = some held ∧ held.session = session :=
  Option.map_eq_some_iff.mp (h.session.trans hsession)

theorem held_eq_none (h : Guarded view) (hsession : view.session = none) :
    (Presentation.after view.history).held = none :=
  Option.map_eq_none_iff.mp (h.session.trans hsession)

/-- Nothing else of a view matters. -/
theorem of_same (h : Guarded view) {view' : View Theme} (hhistory : view'.history = view.history)
    (hprotected : view'.protectedPresentation = view.protectedPresentation)
    (hsession : view'.session = view.session) : Guarded view' := by
  constructor
  · rw [hhistory, hprotected]
    exact h.isProtected
  · rw [hhistory, hsession]
    exact h.session
  · rw [hhistory, hprotected]
    exact h.untouched
  · rw [hhistory]
    exact h.orderly

theorem recorded (h : Guarded view) {call : NativeCall}
    (hfree : ∀ session, call ≠ .sessionFree session)
    (hkey : view.protectedPresentation = true → call.keyPress? = none) :
    Guarded (view.recorded call) := by
  have hafter : Presentation.after (view.recorded call).history =
      (Presentation.after view.history).next (.call call) := Presentation.after_concat _ _
  constructor
  · rw [hafter]
    exact h.isProtected
  · rw [hafter]
    change ((Presentation.after view.history).held.bind (Held.next · call)).map Held.session =
      view.session
    rw [← h.session]
    cases (Presentation.after view.history).held with
    | none => rfl
    | some held => exact Held.map_next hfree
  · intro hprotected held hheld
    rw [hafter] at hheld
    obtain ⟨old, hold, hnext⟩ := Option.bind_eq_some_iff.mp hheld
    rw [Held.next_of_not_keyPress hfree (hkey hprotected), Option.some.injEq] at hnext
    exact hnext ▸ h.untouched hprotected old hold
  · apply h.orderly.concat
    intro hprotected
    exact hkey (h.isProtected.symm.trans hprotected)

/-- Behind the call that frees it, no session is held. -/
theorem held_freed (h : Guarded view) {session : ℕ} (hsession : view.session = some session) :
    (Presentation.after view.history).held.bind (Held.next · (.sessionFree session)) = none := by
  obtain ⟨held, hheld, rfl⟩ := h.exists_held hsession
  rw [hheld, Option.bind_some, Held.next, if_pos rfl]

theorem freed (h : Guarded view) {session : ℕ} (hsession : view.session = some session) :
    Guarded (view.freed session) := by
  have hafter : Presentation.after (view.freed session).history =
      ⟨(Presentation.after view.history).isProtected, none⟩ := by
    rw [← h.held_freed hsession]
    exact Presentation.after_concat _ _
  constructor
  · rw [hafter]
    exact h.isProtected
  · rw [hafter]
    rfl
  · rw [hafter]
    intro _ held hheld
    cases hheld
  · exact h.orderly.concat fun _ => rfl

theorem holding (h : Guarded view) (session : ℕ) (layout : List KeySpec) :
    Guarded (view.holding session layout) := by
  have hafter : Presentation.after (view.holding session layout).history =
      ⟨view.protectedPresentation, some ⟨session, view.protectedPresentation, []⟩⟩ := by
    rw [← h.isProtected]
    exact Presentation.after_concat _ _
  constructor
  · rw [hafter]
    rfl
  · rw [hafter]
    rfl
  · rw [hafter]
    intro hprotected held hheld
    cases hheld
    exact ⟨hprotected, rfl⟩
  · exact h.orderly.concat trivial

theorem presented (h : Guarded view) (isProtected : Bool)
    (hnone : isProtected = true → view.session = none) : Guarded (view.presented isProtected) := by
  have hafter : Presentation.after (view.presented isProtected).history =
      ⟨isProtected, (Presentation.after view.history).held⟩ := Presentation.after_concat _ _
  constructor
  · rw [hafter]
    rfl
  · rw [hafter]
    exact h.session
  · rw [hafter]
    intro hprotected held hheld
    rw [h.held_eq_none (hnone hprotected)] at hheld
    cases hheld
  · apply h.orderly.concat
    cases isProtected with
    | false =>
      intro hprotected
      exact h.untouched (h.isProtected.symm.trans hprotected)
    | true =>
      intro held hheld
      rw [h.held_eq_none (hnone rfl)] at hheld
      cases hheld

/-- The transition frees the session it finds. -/
theorem cleared (h : Guarded view) {session : ℕ} (hsession : view.session = some session) :
    Guarded ((view.presented true).freed session) := by
  have hhistory : ((view.presented true).freed session).history =
      view.history ++ [.protection true, .call (.sessionFree session)] :=
    List.append_assoc _ _ _
  have hafter : Presentation.after ((view.presented true).freed session).history =
      ⟨true, none⟩ := by
    rw [← h.held_freed hsession, hhistory, Presentation.after_append]
    rfl
  constructor
  · rw [hafter]
    rfl
  · rw [hafter]
    rfl
  · rw [hafter]
    intro _ held hheld
    cases hheld
  · rw [hhistory]
    apply h.orderly.append
    intro before moment rest hsplit
    -- Two moments are added: the protection, and behind it the release of the session held.
    cases before with
    | nil =>
      obtain ⟨rfl, rfl⟩ := List.cons_eq_cons.mp hsplit
      rw [List.append_nil]
      intro held hheld
      obtain ⟨held', hheld', hsame⟩ := h.exists_held hsession
      rw [Option.mem_def.mp hheld, Option.some.injEq] at hheld'
      rw [List.head?_cons, hheld', hsame]
    | cons first before =>
      obtain ⟨rfl, hlast⟩ := List.cons_eq_cons.mp hsplit
      cases before with
      | nil =>
        obtain ⟨rfl, rfl⟩ := List.cons_eq_cons.mp hlast
        exact fun _ => rfl
      | cons second before => simp at hlast

end Guarded

/-- One of two views follows the other. -/
def Guards (a b : View Theme) : Prop := Guarded a → Guarded b

instance : Keeping (@Guards Theme) where
  refl _ h := h
  trans _ _ _ hab hbc h := hbc (hab h)

theorem guards_kept : Kept (@Guards Theme) where
  aside hcore h := h.of_same (congrArg Core.history hcore)
    (congrArg Core.protectedPresentation hcore) (congrArg Core.session hcore)
  recorded _ _ hfree hkey h := h.recorded hfree hkey
  freed hsession h := h.freed hsession
  holding _ session layout h := h.holding session layout
  presented _ isProtected hnone h := h.presented isProtected hnone
  cleared hsession h := h.cleared hsession

section Device

variable (device : Device Theme)

/-- The floors do not matter here, so the numbered commands are as the others. -/
theorem command_guards (command : Command Theme) : (command.code device).Guar Guards := by
  cases command with
  | requestHeadlessKeyPress requestId keyId =>
    refine guar_bind guar_get fun view => ?_
    cases hkey : acceptedKey (view.refusesHeadless requestId keyId) view.lastHeadlessKeyPress
        requestId (view.key keyId) with
    | none =>
      rcases headlessBranch_of_not_accepted (onError 1) (pure ()) (headlessWork device requestId)
        hkey with hcode | hcode
      · rw [hcode]
        exact onError_kept _
      · rw [hcode]
        exact guar_pure _
    | some key =>
      rw [headlessBranch_of_accepted _ _ _ hkey]
      exact guar_bind guar_get fun _ => guar_bind (activate_kept guards_kept device key) fun _ =>
        guar_ite (guar_modify fun _ h => h.of_same rfl rfl rfl) (guar_pure _)
  | requestCancel requestId =>
    refine guar_bind guar_get fun view => ?_
    cases monotonicCommandDecision view.lastCancelRequest requestId with
    | invalid => exact onError_kept _
    | ignore => exact guar_pure _
    | accept =>
      exact guar_bind (cancelSessionAndReport_kept guards_kept device) fun _ =>
        guar_ite (guar_modify fun _ h => h.of_same rfl rfl rfl) (guar_pure _)
  | _ => exact code_kept guards_kept device (by simp) (by simp)

/-- Every view of a run is guarded. -/
theorem run_guarded (events : Events Theme) :
    Guarded (Machine.run (step (Command.code device) Command.tag) (start Theme) events).state := by
  have hwaits : (start Theme).Waits Guards := List.forall_mem_nil _
  exact run_guar (command_guards device) hwaits events guarded_new

end Device

/-! ## What the protection is for -/

/-- The calls of a history. -/
def callsOf (history : List Moment) : List NativeCall :=
  history.filterMap fun moment =>
    match moment with
    | .call call => some call
    | _ => none

/-- What the history of a view says of its protection. -/
structure Protects (view : View Theme) : Prop where
  /-- The history knows the presentation and the session of the view. -/
  isProtected : (Presentation.after view.history).isProtected = view.protectedPresentation
  session : (Presentation.after view.history).held.map Held.session = view.session
  /-- Under a protected presentation the session was created so, and has accepted no key. -/
  untouched : view.protectedPresentation = true → ∀ session, view.session = some session →
    (Presentation.after view.history).held = some ⟨session, true, []⟩
  /-- No key is passed on under a protected presentation. -/
  silent : ∀ before call rest, view.history = before ++ .call call :: rest →
    (Presentation.after before).isProtected = true → call.keyPress? = none
  /-- A session held when the presentation becomes protected is freed next. -/
  freed : ∀ before rest held, view.history = before ++ .protection true :: rest →
    (Presentation.after before).held = some held →
      ∃ rest', rest = .call (.sessionFree held.session) :: rest'
  /-- What a session has accepted behind the protection, it was sent behind the protection. -/
  fresh : ∀ before middle rest held,
    view.history = before ++ .protection false :: (middle ++ rest) →
    (Presentation.after before).isProtected = true →
    (Presentation.after (before ++ .protection false :: middle)).held = some held →
      held.presses.Sublist (callsOf middle)

/-- What the session held has accepted. -/
def Presentation.presses (presentation : Presentation) : List NativeCall :=
  presentation.held.elim [] Held.presses

theorem Presentation.presses_next (presentation : Presentation) (moment : Moment) :
    (presentation.next moment).presses.Sublist (presentation.presses ++ callsOf [moment]) := by
  cases moment with
  | held session => exact List.nil_sublist _
  | protection isProtected => exact List.sublist_append_left _ _
  | call call =>
    change ((presentation.held.bind (Held.next · call)).elim [] Held.presses).Sublist
      (presentation.held.elim [] Held.presses ++ [call])
    cases presentation.held with
    | none => exact List.nil_sublist _
    | some held =>
      change ((held.next call).elim [] Held.presses).Sublist (held.presses ++ [call])
      unfold Held.next
      split
      · exact List.nil_sublist _
      · split
        · exact List.Sublist.refl _
        · exact List.sublist_append_left _ _

/-- What a session has accepted in the end it had accepted before, or was sent meanwhile. -/
theorem Presentation.presses_foldl (history : List Moment) (presentation : Presentation) :
    (history.foldl next presentation).presses.Sublist
      (presentation.presses ++ callsOf history) := by
  induction history generalizing presentation with
  | nil => exact List.sublist_append_left _ _
  | cons moment history ih =>
    have hcalls : callsOf (moment :: history) = callsOf [moment] ++ callsOf history :=
      List.filterMap_append (l := [moment])
    rw [List.foldl_cons, hcalls, ← List.append_assoc]
    exact (ih _).trans ((presses_next presentation moment).append_right _)

theorem Guarded.protects {view : View Theme} (h : Guarded view) : Protects view where
  isProtected := h.isProtected
  session := h.session
  untouched := by
    intro hprotected session hsession
    obtain ⟨held, hheld, rfl⟩ := h.exists_held hsession
    obtain ⟨hcreated, hpresses⟩ := h.untouched hprotected held hheld
    rw [hheld, ← hcreated, ← hpresses]
  silent before call rest hsplit := h.orderly before (.call call) rest hsplit
  freed := by
    intro before rest held hsplit hheld
    have hhead := h.orderly before (.protection true) rest hsplit held hheld
    obtain ⟨rest', hrest⟩ := List.head?_eq_some_iff.mp hhead
    exact ⟨rest', hrest⟩
  fresh := by
    intro before middle rest held hsplit hprotected hheld
    have hleft := h.orderly before (.protection false) (middle ++ rest) hsplit hprotected
    have hempty : (Presentation.after (before ++ [.protection false])).presses = [] := by
      rw [Presentation.after_concat]
      change Option.elim (Presentation.after before).held [] Held.presses = []
      cases hheld : (Presentation.after before).held with
      | none => rfl
      | some held => exact (hleft held hheld).presses
    have hsublist := Presentation.presses_foldl middle
      (Presentation.after (before ++ [.protection false]))
    rw [hempty, List.nil_append, ← Presentation.after_append, List.append_assoc,
      List.singleton_append, Presentation.presses, hheld] at hsublist
    exact hsublist

/-- **Protected presentation**: in every run of a view, with whatever the host calls from inside its
    callbacks, the session held under a protected presentation was created so and has accepted no
    key, none is passed on, the session that is held when the protection comes is freed with it, and
    what a session has accepted once the protection is left it was sent after that. -/
theorem protected_presentation (device : Device Theme) (events : Events Theme) :
    Protects (Machine.run (step (Command.code device) Command.tag) (start Theme) events).state :=
  (run_guarded device events).protects

end SecureKeypad.Native.Ios
