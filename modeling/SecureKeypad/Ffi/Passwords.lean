import SecureKeypad.Core.Typing
import SecureKeypad.Ffi.Ownership

/-!
# From Keys to the Engine

A password is typed into one object, sealed into another and handed to the engine from there, with
the handles of both in the hands of a caller that may free them, mix them up and have their
addresses come back for something else. What the engine is given is nonetheless the text of the
edits that were made in one session, between its creation and its sealing.

The notes of the calls are the events below. A note is made of what a call answered, and of nothing
in the object but the password that goes to the engine. That this is the password the engine is
given shows in what comes of the call (`Starts`), which is what the engine makes of it.

## Main results

- `Accounted.exec`: each live session and each live submission is accounted for by the events
- `starts_startCall`: what is noted of a start call and what comes of it
- `password_flow`: where a used password comes from
-/

namespace SecureKeypad.Ffi

open Rust ByteMemory HandleLedger
open SecureKeypad.Auth (AuthError)
open SecureKeypad.Core (Edit InputPolicy SecureSession SessionError SessionOp Submission
  passwordOf typed)
open SecureKeypad.Native (SecureKeypadError)

variable {State : Flow → Type} (target : Target)

/-! ## Events -/

/-- What a caller sees of a call. -/
inductive Event where
  | quiet
  | created (session : ℕ) (policy : InputPolicy)
  | edited (session : ℕ) (edit : Edit)
  | cancelled (session : ℕ)
  | sealed (session submission : ℕ)
  | freed (handle : ℕ)
  | used (submission : ℕ) (flow : Flow) (password : Bytes)

/-- The handles whose life an event starts or ends. -/
def Event.names : Event → List ℕ
  | .quiet | .edited _ _ => []
  | .created handle _ | .cancelled handle | .freed handle | .used handle _ _ => [handle]
  | .sealed session submission => [session, submission]

/-- The edit that an event makes in a session. -/
def Event.editOf (session : ℕ) : Event → Option Edit
  | .edited session' edit => if session' = session then some edit else none
  | _ => none

/-- An event that only a successful call makes. -/
def Event.when (status : SecureKeypadError) (event : Event) : Event :=
  if status = .ok then event else .quiet

/-- The event of a start function: the engine is given the submission unless the checks refuse. -/
def startEvent (flow : Flow) (a : StartArguments) (status : SecureKeypadError) (w : World State) :
    Event :=
  match w.heap (w.readPointer target a.submission) with
  | some (.submission submission) =>
    if status = .invalidArgument then .quiet
    else .used (w.readPointer target a.submission) flow submission.buffer.bytes
  | _ => .quiet

/-- The event of a call. -/
def Call.event (w : World State) (call : Call State) : Event :=
  let status := (call.exec target w).1
  match call with
  | .sessionNewNumeric tokens _ _ fresh _ => .when status (.created fresh (.numeric tokens))
  | .sessionNewAscii tokens _ _ fresh _ => .when status (.created fresh (.ascii tokens))
  | .sessionNewHangul tokens _ _ fresh _ => .when status (.created fresh (.hangul tokens))
  | .free _ handle => if handle = 0 then .quiet else .freed handle
  | .sessionPressKey session keyId keyIdLen _ _ =>
    (parseKeyId w keyId keyIdLen).toOption.elim .quiet fun keyId =>
      .when status (.edited session (.press keyId))
  | .sessionBackspace session _ _ => .when status (.edited session .backspace)
  | .sessionClear session _ _ => .when status (.edited session .clear)
  | .sessionCancel session => .when status (.cancelled session)
  | .sessionSubmit session _ _ fresh => .when status (.sealed session fresh)
  | .clientLoginStart a _ _ _ => startEvent target .login a status w
  | .clientRegistrationStart a _ _ _ => startEvent target .registration a status w
  | _ => .quiet

@[simp] theorem Event.when_ok (event : Event) : Event.when .ok event = event := rfl

theorem Event.when_cases (status : SecureKeypadError) (event : Event) :
    Event.when status event = event ∨ Event.when status event = .quiet := ite_eq_or_eq ..

theorem Event.when_of_ne {status : SecureKeypadError} (h : status ≠ .ok) (event : Event) :
    Event.when status event = .quiet := if_neg h

theorem mapSessionError_ne_ok (error : SessionError) : mapSessionError error ≠ .ok := by
  cases error with
  | invalidKey key => exact (by decide : SecureKeypadError.invalidKey ≠ .ok)
  | _ => decide

/-- An edit answers `Ok` when it was made. -/
theorem editStatus_eq_ok_iff (core : SecureSession) (now done : ℕ) {op : SessionOp} {edit : Edit}
    (h : op.edit = some edit) :
    editStatus (core.apply now done op).1 = .ok ↔ (core.apply now done op).1.isEdit = true := by
  have hanswer : ∀ answer, (answer = .panicked ∨ ∃ result, answer = .edited result) →
      (editStatus answer = .ok ↔ answer.isEdit = true) := by
    rintro answer (rfl | ⟨result, rfl⟩)
    · exact iff_of_false (by decide) (by decide)
    · cases result with
      | error e => exact iff_of_false (mapSessionError_ne_ok e) Bool.false_ne_true
      | ok => exact iff_of_true rfl rfl
  exact hanswer _ (core.answer_of_edit now done h)

theorem mapAuthError_ne_invalidArgument (error : AuthError) :
    mapAuthError error ≠ .invalidArgument := by
  cases error <;> decide

section StartEvent

variable {target} {w : World State} {flow : Flow} {a : StartArguments}

theorem startEvent_of_refused : startEvent target flow a .invalidArgument w = .quiet := by
  rw [startEvent]
  split
  · exact if_pos rfl
  · rfl

theorem startEvent_of_used {status : SecureKeypadError} {submission : Submission}
    (hobject : w.heap (w.readPointer target a.submission) = some (.submission submission))
    (hstatus : status ≠ .invalidArgument) : startEvent target flow a status w =
      .used (w.readPointer target a.submission) flow submission.buffer.bytes := by
  rw [startEvent, hobject]
  exact if_neg hstatus

end StartEvent

/-! ## Accounts -/

/-- A session of the policy was made, and these edits were made in it since; nothing else became of
    it. -/
def Typing (events : List Event) (session : ℕ) (policy : InputPolicy) (edits : List Edit) : Prop :=
  ∃ before after, events = before ++ .created session policy :: after ∧
    edits = after.filterMap (Event.editOf session) ∧ ∀ event ∈ after, session ∉ event.names

/-- A submission was sealed from a session of the policy in which these edits were made, and nothing
    became of it since. -/
def Sealed (events : List Event) (submission : ℕ) (policy : InputPolicy) (edits : List Edit) :
    Prop :=
  ∃ session before after, events = before ++ .sealed session submission :: after ∧
    Typing before session policy edits ∧ ∀ event ∈ after, submission ∉ event.names

theorem Typing.created (events : List Event) (session : ℕ) (policy : InputPolicy) :
    Typing (events ++ [.created session policy]) session policy [] :=
  ⟨events, [], rfl, rfl, fun _ hmem => absurd hmem List.not_mem_nil⟩

theorem Typing.snoc {events : List Event} {session : ℕ} {policy : InputPolicy} {edits : List Edit}
    (h : Typing events session policy edits) {event : Event} (hnames : session ∉ event.names) :
    Typing (events ++ [event]) session policy (edits ++ (event.editOf session).toList) := by
  obtain ⟨before, after, rfl, rfl, hafter⟩ := h
  refine ⟨before, after ++ [event], by simp only [List.append_assoc, List.cons_append], ?_, ?_⟩
  · rw [List.filterMap_append]
    cases hedit : event.editOf session with
    | none => rw [List.filterMap_cons_none hedit]; rfl
    | some edit => rw [List.filterMap_cons_some hedit]; rfl
  · intro other hother
    rcases List.mem_append.mp hother with hother | hother
    · exact hafter other hother
    · rwa [List.mem_singleton.mp hother]

theorem Typing.seal {events : List Event} {session : ℕ} {policy : InputPolicy} {edits : List Edit}
    (h : Typing events session policy edits) (submission : ℕ) :
    Sealed (events ++ [.sealed session submission]) submission policy edits :=
  ⟨session, events, [], rfl, h, fun _ hmem => absurd hmem List.not_mem_nil⟩

theorem Sealed.snoc {events : List Event} {submission : ℕ} {policy : InputPolicy}
    {edits : List Edit} (h : Sealed events submission policy edits) {event : Event}
    (hnames : submission ∉ event.names) : Sealed (events ++ [event]) submission policy edits := by
  obtain ⟨session, before, after, rfl, htyping, hafter⟩ := h
  refine ⟨session, before, after ++ [event], ?_, htyping, ?_⟩
  · simp only [List.append_assoc, List.cons_append]
  · intro other hother
    rcases List.mem_append.mp hother with hother | hother
    · exact hafter other hother
    · rwa [List.mem_singleton.mp hother]

/-- An open session holds what the events say was typed into it. -/
def SessionAccount (events : List Event) (handle : ℕ) (core : SecureSession) : Prop :=
  core.input = none ∨ ∃ policy edits, Typing events handle policy edits ∧ core.Follows policy edits

/-- A submission holds the text of what the events say was typed into its session. -/
def SubmissionAccount (events : List Event) (handle : ℕ) (core : Submission) : Prop :=
  ∃ policy edits, Sealed events handle policy edits ∧ typed policy edits ≠ [] ∧
    core.buffer.bytes = passwordOf (typed policy edits)

/-- What is on the heap is accounted for. -/
structure Accounted (events : List Event) (w : World State) : Prop where
  session : ∀ handle core, w.heap handle = some (.session core) →
    SessionAccount events handle core
  submission : ∀ handle core, w.heap handle = some (.submission core) →
    SubmissionAccount events handle core

variable {target} {w w' : World State} {live : Owners} {events : List Event}

/-- **The account after one event**, object by object: what the event does not name is as it was. -/
theorem Accounted.snoc (h : Accounted events w) {event : Event}
    (hsession : ∀ handle core, w'.heap handle = some (.session core) →
      handle ∉ event.names ∧ event.editOf handle = none ∧
          w.heap handle = some (.session core) ∨
        SessionAccount (events ++ [event]) handle core)
    (hsubmission : ∀ handle core, w'.heap handle = some (.submission core) →
      handle ∉ event.names ∧ w.heap handle = some (.submission core) ∨
        SubmissionAccount (events ++ [event]) handle core) :
    Accounted (events ++ [event]) w' where
  session := by
    intro handle core hcore
    rcases hsession handle core hcore with ⟨hnames, hedit, hbefore⟩ | haccount
    · refine (h.session handle core hbefore).imp_right ?_
      rintro ⟨policy, edits, htyping, hfollows⟩
      have hsnoc := htyping.snoc hnames
      rw [hedit, Option.toList_none, List.append_nil] at hsnoc
      exact ⟨policy, edits, hsnoc, hfollows⟩
    · exact haccount
  submission := by
    intro handle core hcore
    rcases hsubmission handle core hcore with ⟨hnames, hbefore⟩ | haccount
    · obtain ⟨policy, edits, hsealed, hrest⟩ := h.submission handle core hbefore
      exact ⟨policy, edits, hsealed.snoc hnames, hrest⟩
    · exact haccount

/-- Every session and every submission of the second world is in the first. -/
structure Within (w w' : World State) : Prop where
  session : ∀ handle core, w'.heap handle = some (.session core) →
    w.heap handle = some (.session core)
  submission : ∀ handle core, w'.heap handle = some (.submission core) →
    w.heap handle = some (.submission core)

theorem Within.of_heap_eq (h : w'.heap = w.heap) : Within w w' := by
  refine ⟨fun handle core hcore => ?_, fun handle core hcore => ?_⟩
  · rwa [h] at hcore
  · rwa [h] at hcore

section Heap

variable {heap : ℕ → Option (Object State)} {handle other : ℕ} {object object' : Object State}

theorem eq_or_of_update_some
    (h : Function.update heap handle (some object) other = some object') :
    other = handle ∧ object = object' ∨ other ≠ handle ∧ heap other = some object' := by
  by_cases heq : other = handle
  · subst heq
    rw [Function.update_self, Option.some.injEq] at h
    exact .inl ⟨rfl, h⟩
  · rw [Function.update_of_ne heq] at h
    exact .inr ⟨heq, h⟩

theorem ne_of_update_none (h : Function.update heap handle none other = some object') :
    other ≠ handle ∧ heap other = some object' := by
  by_cases heq : other = handle
  · subst heq
    rw [Function.update_self] at h
    cases h
  · rw [Function.update_of_ne heq] at h
    exact ⟨heq, h⟩

end Heap

/-- A box of another kind brings no session and no submission. -/
theorem Within.boxIntoRaw (h : Within w w') {handle slot : ℕ} {object : Object State}
    (hsession : object.kind ≠ .session) (hsubmission : object.kind ≠ .submission) :
    Within w (w'.boxIntoRaw handle slot object) := by
  refine ⟨fun other core hcore => ?_, fun other core hcore => ?_⟩
  · rcases eq_or_of_update_some hcore with ⟨-, rfl⟩ | ⟨-, hcore⟩
    · exact absurd rfl hsession
    · exact h.session other core hcore
  · rcases eq_or_of_update_some hcore with ⟨-, rfl⟩ | ⟨-, hcore⟩
    · exact absurd rfl hsubmission
    · exact h.submission other core hcore

theorem Within.boxMessage (h : Within w w') {handle slot : ℕ} {message : Bytes} :
    Within w (w'.boxIntoRaw handle slot (.authMessage message)) :=
  h.boxIntoRaw (by decide : Kind.authMessage ≠ _) (by decide : Kind.authMessage ≠ _)

theorem Within.boxClient (h : Within w w') {handle slot : ℕ} {flow : Flow} {state : State flow} :
    Within w (w'.boxIntoRaw handle slot (.client flow state)) := by
  refine h.boxIntoRaw ?_ ?_
  · intro hkind
    cases hkind
  · intro hkind
    cases hkind

theorem Within.writePointer (h : Within w w') (slot pointer : ℕ) :
    Within w (w'.writePointer target slot pointer) := ⟨h.session, h.submission⟩

theorem Within.boxFromRaw (w : World State) (handle : ℕ) : Within w (w.boxFromRaw handle) :=
  ⟨fun _ _ hcore => (ne_of_update_none hcore).2, fun _ _ hcore => (ne_of_update_none hcore).2⟩

namespace Accounted

/-- A call that makes no event and brings nothing. -/
theorem quiet (h : Accounted events w) (hwithin : Within w w') :
    Accounted (events ++ [.quiet]) w' :=
  h.snoc
    (fun handle core hcore => .inl ⟨List.not_mem_nil, rfl, hwithin.session handle core hcore⟩)
    fun handle core hcore => .inl ⟨List.not_mem_nil, hwithin.submission handle core hcore⟩

theorem unchanged (h : Accounted events w) : Accounted (events ++ [.quiet]) w :=
  h.quiet (.of_heap_eq rfl)

/-- The end of an object. -/
theorem gone (h : Accounted events w) {handle : ℕ} {event : Event}
    (hwithin : Within (w.boxFromRaw handle) w') (hnames : event.names = [handle])
    (hedit : ∀ session, event.editOf session = none) : Accounted (events ++ [event]) w' := by
  refine h.snoc (fun other core hcore => ?_) fun other core hcore => ?_
  · obtain ⟨hne, hbefore⟩ := ne_of_update_none (hwithin.session other core hcore)
    rw [hnames, List.mem_singleton]
    exact .inl ⟨hne, hedit other, hbefore⟩
  · obtain ⟨hne, hbefore⟩ := ne_of_update_none (hwithin.submission other core hcore)
    rw [hnames, List.mem_singleton]
    exact .inl ⟨hne, hbefore⟩

/-- A session in place of itself or at a new address. -/
theorem put (h : Accounted events w) {handle : ℕ} {core : SecureSession} {event : Event}
    (hheap : w'.heap = Function.update w.heap handle (some (.session core)))
    (hspares : ∀ other, other ≠ handle → other ∉ event.names ∧ event.editOf other = none)
    (haccount : SessionAccount (events ++ [event]) handle core) :
    Accounted (events ++ [event]) w' := by
  refine h.snoc (fun other core' hcore => ?_) fun other core' hcore => ?_
  · rw [hheap] at hcore
    rcases eq_or_of_update_some hcore with ⟨rfl, hsame⟩ | ⟨hne, hbefore⟩
    · cases hsame
      exact .inr haccount
    · exact .inl ⟨(hspares other hne).1, (hspares other hne).2, hbefore⟩
  · rw [hheap] at hcore
    rcases eq_or_of_update_some hcore with ⟨-, hother⟩ | ⟨hne, hbefore⟩
    · cases hother
    · exact .inl ⟨(hspares other hne).1, hbefore⟩

/-! ## Calls on sessions -/

theorem sessionNew (h : Accounted events w) {policy : ℕ → InputPolicy}
    (hpolicy : ∀ n, (policy n).IsConstructed) (tokens timeoutMs now fresh output : ℕ) :
    Accounted
      (events ++ [.when (sessionNew target policy tokens timeoutMs now fresh output w).1
        (.created fresh (policy tokens))])
      (sessionNew target policy tokens timeoutMs now fresh output w).2 := by
  rw [Ffi.sessionNew]
  split
  · exact h.unchanged
  rw [createSession]
  split
  · exact h.unchanged
  · refine h.put rfl (fun other hne => ⟨?_, rfl⟩) (.inr ⟨policy tokens, [], .created .., ?_⟩)
    · exact fun hmem => hne (List.mem_singleton.mp hmem)
    · exact .begin (hpolicy tokens) _ now

theorem freeOf (h : Accounted events w) (kind : Kind) (handle : ℕ) :
    Accounted (events ++ [if handle = 0 then .quiet else .freed handle])
      (freeOf kind handle w) := by
  have hfree : Accounted (events ++ [if handle = 0 then .quiet else .freed handle])
      (freeHandle handle w) := by
    rw [freeHandle]
    split
    · exact h.unchanged
    · exact h.gone (.of_heap_eq rfl) rfl fun _ => rfl
  cases kind with
  | client flow => cases flow <;> exact hfree
  | _ => exact hfree

/-- A call that edits a session: the edit is noted if it was made. -/
theorem editSession (h : Accounted events w) {op : SessionOp} {edit : Edit}
    (hop : op.edit = some edit) (session now done : ℕ) :
    Accounted
      (events ++ [.when (editSession session (fun core => core.apply now done op) w).1
        (.edited session edit)])
      (editSession session (fun core => core.apply now done op) w).2 := by
  rw [Ffi.editSession]
  split
  swap
  · exact h.unchanged
  next core hcore =>
  dsimp only
  refine h.put rfl (fun other hne => ?_) ?_
  · rcases Event.when_cases (editStatus (core.apply now done op).1) (.edited session edit) with
      heq | heq
    · rw [heq]
      exact ⟨List.not_mem_nil, if_neg hne.symm⟩
    · rw [heq]
      exact ⟨List.not_mem_nil, rfl⟩
  -- a closed session stays closed, so that only an open one is edited
  rcases h.session session core hcore with hclosed | ⟨policy, edits, htyping, hfollows⟩
  · exact .inl ((core.apply_effect now done op).stays_closed hclosed)
  · right
    have happly := hfollows.apply now done op
    rw [SessionOp.made, hop, Option.toList_some] at happly
    have hstatus := editStatus_eq_ok_iff core now done hop
    refine ⟨policy, _, ?_, happly⟩
    cases hedit : (core.apply now done op).1.isEdit with
    | true =>
      have hsnoc := @Typing.snoc _ _ _ _ htyping (.edited session edit) List.not_mem_nil
      rw [Event.editOf, if_pos rfl, Option.toList_some] at hsnoc
      rw [if_pos rfl, hstatus.mpr hedit]
      exact hsnoc
    | false =>
      have hne : editStatus (core.apply now done op).1 ≠ .ok := by
        rw [Ne, hstatus, hedit]
        exact Bool.false_ne_true
      rw [if_neg Bool.false_ne_true, Event.when_of_ne hne]
      exact htyping.snoc List.not_mem_nil

theorem cancel (h : Accounted events w) (session : ℕ) :
    Accounted
      (events ++ [.when (secureKeypadSessionCancel session w).1 (.cancelled session)])
      (secureKeypadSessionCancel session w).2 := by
  rw [secureKeypadSessionCancel]
  split
  · exact h.unchanged
  rw [Ffi.editSession]
  split
  · refine h.put rfl (fun other hne => ⟨?_, rfl⟩) (.inl rfl)
    exact fun hmem => hne (List.mem_singleton.mp hmem)
  · exact h.unchanged

theorem pressKey (h : Accounted events w) (session keyId keyIdLen now done : ℕ) :
    Accounted
      (events ++ [(parseKeyId w keyId keyIdLen).toOption.elim .quiet fun key =>
        .when (secureKeypadSessionPressKey target session keyId keyIdLen now done w).1
          (.edited session (.press key))])
      (secureKeypadSessionPressKey target session keyId keyIdLen now done w).2 := by
  have hrefused : ∀ status, status ≠ SecureKeypadError.ok → Accounted
      (events ++ [(parseKeyId w keyId keyIdLen).toOption.elim .quiet fun key =>
        .when status (.edited session (.press key))]) w := by
    intro status hstatus
    simp only [Event.when_of_ne hstatus]
    cases (parseKeyId w keyId keyIdLen).toOption with
    | none => exact h.unchanged
    | some key => exact h.unchanged
  rw [secureKeypadSessionPressKey]
  split
  · exact hrefused .invalidArgument (by decide)
  split
  · exact hrefused .invalidArgument (by decide)
  split
  · next error herror =>
    rw [herror]
    exact h.unchanged
  · next key hkey =>
    rw [hkey]
    exact h.editSession (rfl : (SessionOp.pressKey key).edit = _) session now done

theorem backspace (h : Accounted events w) (session now done : ℕ) :
    Accounted
      (events ++ [.when (secureKeypadSessionBackspace session now done w).1
        (.edited session .backspace)])
      (secureKeypadSessionBackspace session now done w).2 := by
  rw [secureKeypadSessionBackspace]
  split
  · exact h.unchanged
  · exact h.editSession (rfl : SessionOp.backspace.edit = _) session now done

theorem clear (h : Accounted events w) (session now done : ℕ) :
    Accounted
      (events ++ [.when (secureKeypadSessionClear session now done w).1 (.edited session .clear)])
      (secureKeypadSessionClear session now done w).2 := by
  rw [secureKeypadSessionClear]
  split
  · exact h.unchanged
  · exact h.editSession (rfl : SessionOp.clear.edit = _) session now done

/-- A call that asks for no edit leaves what was typed. -/
theorem sessionAccount_apply {session : ℕ} {core : SecureSession}
    (h : SessionAccount events session core) {op : SessionOp} (hop : op.edit = none)
    (now done : ℕ) :
    SessionAccount (events ++ [.quiet]) session (core.apply now done op).2 := by
  rcases h with hclosed | ⟨policy, edits, htyping, hfollows⟩
  · exact .inl ((core.apply_effect now done op).stays_closed hclosed)
  · refine .inr ⟨policy, edits, ?_, ?_⟩
    · have hsnoc : Typing (events ++ [.quiet]) session policy (edits ++ []) :=
        htyping.snoc List.not_mem_nil
      rwa [List.append_nil] at hsnoc
    · have happly := hfollows.apply now done op
      rwa [SessionOp.made, hop, Option.toList_none, ite_self, List.append_nil] at happly

theorem refresh (h : Accounted events w) (session output now : ℕ) :
    Accounted (events ++ [.quiet]) (secureKeypadSessionRefresh target session output now w).2 := by
  rw [secureKeypadSessionRefresh]
  split
  · exact h.unchanged
  split
  · exact h.unchanged
  split
  · next core hcore =>
    dsimp only
    have haccount := sessionAccount_apply (h.session session core hcore)
      (rfl : SessionOp.refresh.edit = none) now now
    split
    · exact h.put rfl (fun other _ => ⟨List.not_mem_nil, rfl⟩) haccount
    · exact h.put rfl (fun other _ => ⟨List.not_mem_nil, rfl⟩) haccount
  · exact h.unchanged

theorem submit (h : Accounted events w) (session output now fresh : ℕ) :
    Accounted
      (events ++ [.when (secureKeypadSessionSubmit target session output now fresh w).1
        (.sealed session fresh)])
      (secureKeypadSessionSubmit target session output now fresh w).2 := by
  rw [secureKeypadSessionSubmit]
  split
  · exact h.unchanged
  split
  · exact h.unchanged
  dsimp only
  split
  swap
  · exact h.quiet (.of_heap_eq rfl)
  next core hcore =>
  -- the slot was cleared, which touches no object
  rw [World.writePointer_heap] at hcore
  have hbefore := h.session session core hcore
  have heffect := core.apply_effect now now .submit
  have hleft := sessionAccount_apply hbefore (rfl : SessionOp.submit.edit = none) now now
  split
  · next submission hanswer =>
    have hsealed : (core.apply now now .submit).1 = .sealed (.ok submission) := hanswer
    obtain ⟨hopen, hclosed⟩ := heffect.submission (by rw [hsealed]; rfl)
    obtain ⟨policy, edits, htyping, hfollows⟩ := hbefore.resolve_left hopen
    -- two objects are put: the closed session in place of itself, and the submission
    refine h.snoc (fun other core' hother => ?_) fun other core' hother => ?_
    · rcases eq_or_of_update_some hother with ⟨-, hkind⟩ | ⟨hfreshNe, hother⟩
      · cases hkind
      rcases eq_or_of_update_some hother with ⟨-, hsame⟩ | ⟨hne, hother⟩
      · cases hsame
        exact .inr (.inl hclosed)
      · refine .inl ⟨?_, rfl, hother⟩
        simp only [Event.when_ok, Event.names, List.mem_cons, List.not_mem_nil, or_false, not_or]
        exact ⟨hne, hfreshNe⟩
    · rcases eq_or_of_update_some hother with ⟨rfl, hsame⟩ | ⟨hfreshNe, hother⟩
      · cases hsame
        exact .inr ⟨policy, edits, htyping.seal other, hfollows.sealed hanswer⟩
      rcases eq_or_of_update_some hother with ⟨-, hkind⟩ | ⟨hne, hother⟩
      · cases hkind
      · refine .inl ⟨?_, hother⟩
        simp only [Event.when_ok, Event.names, List.mem_cons, List.not_mem_nil, or_false, not_or]
        exact ⟨hne, hfreshNe⟩
  · next error _ =>
    rw [Event.when_of_ne (mapSessionError_ne_ok error)]
    exact h.put rfl (fun other _ => ⟨List.not_mem_nil, rfl⟩) hleft
  · exact h.put rfl (fun other _ => ⟨List.not_mem_nil, rfl⟩) hleft

/-! ## Calls on messages and flows -/

theorem messageNew (h : Accounted events w) (bytes length output fresh : ℕ) :
    Accounted (events ++ [.quiet])
      (secureKeypadAuthMessageNew target bytes length output fresh w).2 := by
  rw [secureKeypadAuthMessageNew]
  split
  · exact h.unchanged
  split
  · exact h.unchanged
  split
  · exact h.unchanged
  split
  · exact h.unchanged
  dsimp only
  split
  · exact h.quiet (.of_heap_eq rfl)
  · have hwithin : Within w (w.writePointer target output 0) := .of_heap_eq rfl
    exact h.quiet (hwithin.boxMessage.writePointer _ _)

theorem messageSize (h : Accounted events w) (message outputLength : ℕ) :
    Accounted (events ++ [.quiet])
      (secureKeypadAuthMessageSize target message outputLength w).2 := by
  rw [secureKeypadAuthMessageSize]
  split
  · exact h.unchanged
  split
  · exact h.unchanged
  split
  · exact h.quiet (.of_heap_eq rfl)
  · exact h.unchanged

theorem messageCopy (h : Accounted events w) (message output outputLength outputWritten : ℕ) :
    Accounted (events ++ [.quiet])
      (secureKeypadAuthMessageCopy target message output outputLength outputWritten w).2 := by
  rw [secureKeypadAuthMessageCopy]
  split
  · exact h.unchanged
  split
  · exact h.unchanged
  split
  swap
  · exact h.unchanged
  dsimp only
  split
  · exact h.quiet (.of_heap_eq rfl)
  split
  · exact h.quiet (.of_heap_eq rfl)
  split
  · exact h.quiet (.of_heap_eq rfl)
  split
  · exact h.quiet (.of_heap_eq rfl)
  · exact h.quiet (.of_heap_eq rfl)

/-- What a permitted start call that passes its checks finds in its slot. -/
theorem exists_submission (hledger : Ledgered target w live) {a : StartArguments}
    {freshState freshRequest : ℕ} (hpermitted : a.Permitted target w live freshState freshRequest)
    (hvalid : a.Valid target w) :
    ∃ submission, w.heap (w.readPointer target a.submission) = some (.submission submission) := by
  have hnonnull := (not_or.mp hvalid.nonnull).1
  have hlive := (hpermitted.input.resolve_left hnonnull).resolve_left hvalid.handle
  obtain ⟨object, hobject, hkind⟩ := hledger.object hlive
  cases object with
  | submission submission => exact ⟨submission, hobject⟩
  | _ => cases hkind

/-- What a permitted finish call that passes its checks finds in its input slot. -/
theorem exists_client (hledger : Ledgered target w live) {flow : Flow} {a : FinishArguments}
    {fresh : ℕ} (hpermitted : a.Permitted target w live flow fresh)
    (hvalid : a.Valid target w flow) :
    ∃ state : State flow, w.heap (w.readPointer target a.input) = some (.client flow state) := by
  have hnonnull := (not_or.mp hvalid.nonnull).1
  have hlive := (hpermitted.input.resolve_left hnonnull).resolve_left hvalid.handle
  obtain ⟨object, hobject, hkind⟩ := hledger.object hlive
  cases object with
  | client flow' state =>
    cases hkind
    exact ⟨state, hobject⟩
  | _ => cases hkind

theorem exists_response (hledger : Ledgered target w live) {flow : Flow} {a : FinishArguments}
    {fresh : ℕ} (hpermitted : a.Permitted target w live flow fresh)
    (hvalid : a.Valid target w flow) :
    ∃ response, w.heap a.response = some (.authMessage response) := by
  have hnonnull := (not_or.mp (not_or.mp hvalid.nonnull).2).1
  obtain ⟨slot, hlive⟩ := hpermitted.response.resolve_left hnonnull
  obtain ⟨object, hobject, hkind⟩ := hledger.object hlive
  cases object with
  | authMessage response => exact ⟨response, hobject⟩
  | _ => cases hkind

theorem clientStart (h : Accounted events w) (hledger : Ledgered target w live) {flow : Flow}
    {a : StartArguments} {engine : Engine State} {freshState freshRequest : ℕ}
    (hpermitted : a.Permitted target w live freshState freshRequest) :
    Accounted
      (events ++ [startEvent target flow a
        (clientStart target flow a engine freshState freshRequest w).1 w])
      (clientStart target flow a engine freshState freshRequest w).2 := by
  by_cases hvalid : a.Valid target w
  swap
  · rw [clientStart_of_not_valid hvalid, startEvent_of_refused]
    exact h.unchanged
  obtain ⟨submission, hsubmission⟩ := exists_submission hledger hpermitted hvalid
  rw [clientStart_of_valid hvalid hsubmission]
  have hwithin : Within (w.boxFromRaw (w.readPointer target a.submission)) (a.consumed target w) :=
    .of_heap_eq rfl
  split
  · next error _ =>
    rw [startEvent_of_used hsubmission (mapAuthError_ne_invalidArgument error)]
    exact h.gone hwithin rfl fun _ => rfl
  · rw [startEvent_of_used hsubmission (by decide : SecureKeypadError.ok ≠ _)]
    exact h.gone ((hwithin.boxClient.boxMessage.writePointer _ _).writePointer _ _) rfl fun _ => rfl

theorem clientFinish (h : Accounted events w) (hledger : Ledgered target w live) {flow : Flow}
    {a : FinishArguments} {engine : Engine State} {fresh : ℕ}
    (hpermitted : a.Permitted target w live flow fresh) :
    Accounted (events ++ [.quiet]) (clientFinish target flow a engine fresh w).2 := by
  by_cases hvalid : a.Valid target w flow
  swap
  · rw [clientFinish_of_not_valid hvalid]
    exact h.unchanged
  obtain ⟨state, hobject⟩ := exists_client hledger hpermitted hvalid
  obtain ⟨response, hresponse⟩ := exists_response hledger hpermitted hvalid
  have hwithin : Within w (a.consumed target w) :=
    ⟨(Within.boxFromRaw w _).session, (Within.boxFromRaw w _).submission⟩
  rw [clientFinish_of_valid hvalid hobject]
  rcases finishConsumed_cases (consumed_response hobject hresponse) with
    ⟨message, heq⟩ | ⟨status, -, heq⟩
  · rw [heq]
    exact h.quiet (hwithin.boxMessage.writePointer _ _)
  · rw [heq]
    exact h.quiet hwithin

/-- **What one call preserves**: what it leaves on the heap is accounted for by its event too. -/
theorem exec (h : Accounted events w) (hledger : Ledgered target w live) {call : Call State}
    (hpermitted : call.Permitted target w live) :
    Accounted (events ++ [call.event target w]) (call.exec target w).2 := by
  cases call with
  | sessionNewNumeric => exact h.sessionNew (fun n => ⟨n, .inl rfl⟩) _ _ _ _ _
  | sessionNewAscii => exact h.sessionNew (fun n => ⟨n, .inr (.inr rfl)⟩) _ _ _ _ _
  | sessionNewHangul => exact h.sessionNew (fun n => ⟨n, .inr (.inl rfl)⟩) _ _ _ _ _
  | free => exact h.freeOf _ _
  | sessionPressKey => exact h.pressKey _ _ _ _ _
  | sessionBackspace => exact h.backspace _ _ _
  | sessionClear => exact h.clear _ _ _
  | sessionCancel => exact h.cancel _
  | sessionRefresh => exact h.refresh _ _ _
  | sessionSubmit => exact h.submit _ _ _ _
  | authMessageNew => exact h.messageNew _ _ _ _
  | authMessageSize => exact h.messageSize _ _
  | authMessageCopy => exact h.messageCopy _ _ _ _
  | clientLoginStart => exact h.clientStart hledger hpermitted
  | clientRegistrationStart => exact h.clientStart hledger hpermitted
  | clientLoginFinish => exact h.clientFinish hledger hpermitted
  | clientRegistrationFinish => exact h.clientFinish hledger hpermitted

end Accounted

/-! ## Runs -/

variable (target) in
/-- The events of permitted calls, from no handles at all, with writes of the caller's own to what
    owns none in between. -/
inductive Observes : List Event → World State → Prop
  | start (memory : Memory) : Observes [] ⟨memory, fun _ => none, []⟩
  | call {events : List Event} {w : World State} {call : Call State} : Observes events w →
      call.Permitted target w w.owners →
      Observes (events ++ [call.event target w]) (call.exec target w).2
  | write {events : List Event} {w : World State} {start : ℕ} {bytes : Bytes} : Observes events w →
      Clear target w.owners ⟨start, bytes.length⟩ → Observes events (w.writeBytes start bytes)

theorem Observes.reaches (h : Observes target events w) : Reaches target w := by
  induction h with
  | start memory => exact .start memory
  | call _ hpermitted ih => exact .call ih hpermitted
  | write _ hclear ih => exact .write ih hclear

/-- **Everything live is accounted for at any time.** -/
theorem Observes.accounted (h : Observes target events w) : Accounted events w := by
  induction h with
  | start memory =>
    refine ⟨fun handle core hcore => ?_, fun handle core hcore => ?_⟩
    · cases hcore
    · cases hcore
  | call hobserves hpermitted ih => exact ih.exec hobserves.reaches.ledgered hpermitted
  | write _ _ ih => exact ⟨ih.session, ih.submission⟩

/-- A start function that uses a password finds it in the submission. -/
theorem startEvent_eq_used {flow flow' : Flow} {a : StartArguments} {status : SecureKeypadError}
    {submission : ℕ} {password : Bytes}
    (h : startEvent target flow a status w = .used submission flow' password) :
    ∃ core, w.heap submission = some (.submission core) ∧ core.buffer.bytes = password := by
  rw [startEvent] at h
  split at h
  · next core hcore =>
    split at h
    · cases h
    · cases h
      exact ⟨core, hcore, rfl⟩
  · cases h

theorem Event.eq_of_when {status : SecureKeypadError} {event event' : Event}
    (h : Event.when status event = event') (hne : event' ≠ .quiet) : event = event' := by
  rcases Event.when_cases status event with heq | heq
  · exact heq.symm.trans h
  · exact absurd (h.symm.trans heq) hne

theorem Call.event_eq_used {call : Call State} {submission : ℕ} {flow : Flow} {password : Bytes}
    (h : call.event target w = .used submission flow password) :
    ∃ core, w.heap submission = some (.submission core) ∧ core.buffer.bytes = password := by
  have hwhen : ∀ {status event}, Event.when status event = .used submission flow password →
      event = .used submission flow password :=
    fun hevent => Event.eq_of_when hevent Event.noConfusion
  -- Only the two starts use a submission.
  cases call with
  | sessionNewNumeric => cases hwhen h
  | sessionNewAscii => cases hwhen h
  | sessionNewHangul => cases hwhen h
  | free kind handle =>
    simp only [Call.event] at h
    split at h <;> cases h
  | sessionPressKey session keyId keyIdLen =>
    simp only [Call.event] at h
    cases hkey : (parseKeyId w keyId keyIdLen).toOption with
    | none =>
      rw [hkey] at h
      cases h
    | some key =>
      rw [hkey] at h
      cases hwhen h
  | sessionBackspace => cases hwhen h
  | sessionClear => cases hwhen h
  | sessionCancel => cases hwhen h
  | sessionSubmit => cases hwhen h
  | clientLoginStart => exact startEvent_eq_used h
  | clientRegistrationStart => exact startEvent_eq_used h
  | _ => cases h

/-- **A used password has an account**, at the event that uses it. -/
theorem Observes.used (h : Observes target events w) {before after : List Event} {submission : ℕ}
    {flow : Flow} {password : Bytes}
    (hevents : events = before ++ .used submission flow password :: after) :
    ∃ policy edits, Sealed before submission policy edits ∧ typed policy edits ≠ [] ∧
      password = passwordOf (typed policy edits) := by
  induction h generalizing after with
  | start memory => exact absurd hevents.symm (List.append_ne_nil_of_right_ne_nil _ (by simp))
  | @call events w call hobserves hpermitted ih =>
    -- the use is the event of this call, or of one before it
    rcases List.eq_nil_or_concat after with rfl | ⟨after', last, rfl⟩
    · obtain ⟨rfl, hlast⟩ := List.append_inj' hevents rfl
      obtain ⟨core, hcore, rfl⟩ := Call.event_eq_used (List.singleton_injective hlast)
      exact hobserves.accounted.submission submission core hcore
    · rw [List.concat_eq_append, ← List.cons_append, ← List.append_assoc] at hevents
      exact ih (List.append_inj' hevents rfl).1
  | write _ _ ih => exact ih hevents

/-! ## What the engine is given -/

/-- The start call of a flow. -/
def startCall : Flow → StartArguments → Engine State → ℕ → ℕ → Call State
  | .login => .clientLoginStart
  | .registration => .clientRegistrationStart

variable (target) in
/-- What is noted of a start call, and what comes of it. -/
inductive Starts (flow : Flow) (a : StartArguments) (engine : Engine State)
    (freshState freshRequest : ℕ) (w : World State) (event : Event) (result : Result State) : Prop
  /-- Its checks refuse it: there is nothing to note, and it changes nothing. -/
  | refused (hevent : event = .quiet) (hresult : result = (.invalidArgument, w))
  /-- The use of a password is noted, and what comes of the call is what the engine makes of the
      submission with this password. -/
  | used (submission : Submission)
      (hevent : event =
        .used (w.readPointer target a.submission) flow submission.buffer.bytes)
      (houtcome : StartOutcome target flow a engine freshState freshRequest submission w result)

/-- **What the engine is given is what is noted.** -/
theorem starts_startCall (hledger : Ledgered target w live) {flow : Flow} {a : StartArguments}
    {engine : Engine State} {freshState freshRequest : ℕ}
    (hpermitted : a.Permitted target w live freshState freshRequest) :
    Starts target flow a engine freshState freshRequest w
      ((startCall flow a engine freshState freshRequest).event target w)
      ((startCall flow a engine freshState freshRequest).exec target w) := by
  have hexec : (startCall flow a engine freshState freshRequest).exec target w =
      clientStart target flow a engine freshState freshRequest w := by
    cases flow <;> rfl
  have hevent : (startCall flow a engine freshState freshRequest).event target w =
      startEvent target flow a
        (clientStart target flow a engine freshState freshRequest w).1 w := by
    cases flow <;> rfl
  rw [hexec, hevent]
  by_cases hvalid : a.Valid target w
  swap
  · rw [clientStart_of_not_valid hvalid]
    exact .refused startEvent_of_refused rfl
  obtain ⟨submission, hobject⟩ := Accounted.exists_submission hledger hpermitted hvalid
  have hstatus : (clientStart target flow a engine freshState freshRequest w).1 ≠
      .invalidArgument := by
    rw [clientStart_of_valid hvalid hobject]
    split
    · exact mapAuthError_ne_invalidArgument _
    · exact (by decide : SecureKeypadError.ok ≠ .invalidArgument)
  exact .used submission (startEvent_of_used hobject hstatus)
    (startOutcome hvalid hobject hpermitted.fresh)

/-! ## Where a password comes from -/

/-- The events after one position and before another. -/
def between (events : List Event) (first last : ℕ) : List Event :=
  (events.take last).drop (first + 1)

theorem mem_between {first position last : ℕ} {event : Event} (hfirst : first < position)
    (hlast : position < last) (h : events[position]? = some event) :
    event ∈ between events first last := by
  refine List.mem_of_getElem? (i := position - (first + 1)) ?_
  rw [between, List.getElem?_drop, List.getElem?_take_of_lt (by omega),
    show first + 1 + (position - (first + 1)) = position by omega, h]

/-- A password is the text of the edits made in one session, between its creation and its sealing.
    Until then nothing else becomes of the session, nor of the submission until its use. -/
structure ComesFrom (events : List Event) (session : ℕ) (policy : InputPolicy)
    (creation sealing use submission : ℕ) (password : Bytes) : Prop where
  created : events[creation]? = some (.created session policy)
  sealed : events[sealing]? = some (.sealed session submission)
  creation_lt : creation < sealing
  sealing_lt : sealing < use
  session_alone : ∀ event ∈ between events creation sealing, session ∉ event.names
  submission_alone : ∀ event ∈ between events sealing use, submission ∉ event.names
  typed_ne_nil :
    typed policy ((between events creation sealing).filterMap (Event.editOf session)) ≠ []
  password_eq : password =
    passwordOf (typed policy ((between events creation sealing).filterMap (Event.editOf session)))

theorem comesFrom_of_sealed {use submission : ℕ} {policy : InputPolicy} {edits : List Edit}
    {password : Bytes} (h : Sealed (events.take use) submission policy edits)
    (hne : typed policy edits ≠ []) (hpassword : password = passwordOf (typed policy edits)) :
    ∃ session creation sealing,
      ComesFrom events session policy creation sealing use submission password := by
  obtain ⟨session, _, between', htake, ⟨before, after, rfl, rfl, hafter⟩, hbetween⟩ := h
  -- what is before the use, cut at the creation and at the sealing
  have hlength := congrArg List.length htake
  simp only [List.length_take, List.length_append, List.length_cons] at hlength
  have hlt : ∀ {position}, position < before.length + 1 + after.length + 1 + between'.length →
      events[position]? = (events.take use)[position]? :=
    fun hposition => (List.getElem?_take_of_lt (by omega)).symm
  have hsealing : events.take (before.length + 1 + after.length) =
      before ++ .created session policy :: after := by
    have hcut := congrArg (List.take (before.length + 1 + after.length)) htake
    rw [List.take_take, Nat.min_eq_left (by omega)] at hcut
    rw [hcut, List.take_left' (by rw [List.length_append, List.length_cons]; omega)]
  have htyped : between events before.length (before.length + 1 + after.length) = after := by
    rw [between, hsealing, List.append_cons, List.drop_left' (by simp)]
  refine ⟨session, before.length, before.length + 1 + after.length, ?_, ?_, by omega, by omega, ?_,
    ?_, ?_, ?_⟩
  · rw [hlt (by omega), htake, List.append_assoc, List.getElem?_append_right le_rfl, Nat.sub_self]
    rfl
  · rw [hlt (by omega), htake, List.getElem?_append_right (by simp; omega)]
    simp [show before.length + 1 + after.length - (before.length + (after.length + 1)) = 0 by omega]
  · rwa [htyped]
  · rw [between, htake, List.append_cons, List.drop_left' (by simp; omega)]
    exact hbetween
  · rwa [htyped]
  · rwa [htyped]

/-- A use at a position. -/
def UsedAt (events : List Event) (use : ℕ) : Prop :=
  ∃ submission flow password, events[use]? = some (.used submission flow password)

/-- Two uses of passwords from one creation are one use. -/
theorem ComesFrom.use_le
    {session session' sealing sealing' creation use use' submission submission' : ℕ}
    {policy policy' : InputPolicy} {password password' : Bytes} {flow : Flow}
    (h : ComesFrom events session policy creation sealing use submission password)
    (h' : ComesFrom events session' policy' creation sealing' use' submission' password')
    (huse : events[use]? = some (.used submission flow password)) : use' ≤ use := by
  obtain ⟨rfl, rfl⟩ : session = session' ∧ policy = policy' := by
    have hsame := h.created.symm.trans h'.created
    cases hsame
    exact ⟨rfl, rfl⟩
  -- neither sealing is in the life of the session that the other one ends
  have hsealing : sealing = sealing' := by
    rcases lt_trichotomy sealing sealing' with hlt | heq | hlt
    · exact absurd List.mem_cons_self
        (h'.session_alone _ (mem_between h.creation_lt hlt h.sealed))
    · exact heq
    · exact absurd List.mem_cons_self
        (h.session_alone _ (mem_between h'.creation_lt hlt h'.sealed))
  subst hsealing
  -- so both use one submission, which is not used between its sealing and its use
  obtain rfl : submission = submission' := by
    have hsame := h.sealed.symm.trans h'.sealed
    cases hsame
    rfl
  by_contra hlt
  exact h'.submission_alone _ (mem_between h.sealing_lt (not_le.mp hlt) huse) List.mem_cons_self

/-- **From keys to the engine.** In every run of permitted calls each start call that its checks do
    not refuse hands the engine the password that is noted with its use; each used password is the
    text of the edits made in one session between its creation and its sealing, and no session has
    its password used twice. -/
theorem password_flow (h : Observes target events w) :
    (∀ flow (a : StartArguments) (engine : Engine State) freshState freshRequest,
      let call := startCall flow a engine freshState freshRequest
      call.Permitted target w w.owners →
        Starts target flow a engine freshState freshRequest w (call.event target w)
          (call.exec target w)) ∧
    ∃ creation sealing : ℕ → ℕ,
      (∀ use submission flow password, events[use]? = some (.used submission flow password) →
        ∃ session policy, ComesFrom events session policy (creation use) (sealing use) use
          submission password) ∧
      ∀ use use', UsedAt events use → UsedAt events use' → creation use = creation use' →
        use = use' := by
  constructor
  · intro flow a engine freshState freshRequest call hpermitted
    cases flow with
    | login => exact starts_startCall h.reaches.ledgered hpermitted
    | registration => exact starts_startCall h.reaches.ledgered hpermitted
  -- Every use goes back to a sealing, and that to a creation.
  have hexists : ∀ use, ∃ creation sealing, ∀ submission flow password,
      events[use]? = some (.used submission flow password) → ∃ session policy,
        ComesFrom events session policy creation sealing use submission password := by
    intro use
    by_cases hused : UsedAt events use
    · obtain ⟨submission, flow, password, huse⟩ := hused
      obtain ⟨hlt, hget⟩ := List.getElem?_eq_some_iff.mp huse
      have hevents : events = events.take use ++ .used submission flow password ::
          events.drop (use + 1) := by
        rw [← hget, List.getElem_cons_drop, List.take_append_drop]
      obtain ⟨policy, edits, hsealed, hne, hpassword⟩ := h.used hevents
      obtain ⟨session, creation, sealing, horigin⟩ := comesFrom_of_sealed hsealed hne hpassword
      refine ⟨creation, sealing, fun submission' flow' password' huse' => ?_⟩
      cases huse.symm.trans huse'
      exact ⟨session, policy, horigin⟩
    · exact ⟨0, 0, fun submission flow password huse =>
        absurd ⟨submission, flow, password, huse⟩ hused⟩
  choose creation sealing horigin using hexists
  refine ⟨creation, sealing, horigin, ?_⟩
  rintro use use' ⟨submission, flow, password, huse⟩ ⟨submission', flow', password', huse'⟩ hsame
  obtain ⟨session, policy, hcomes⟩ := horigin use submission flow password huse
  obtain ⟨session', policy', hcomes'⟩ := horigin use' submission' flow' password' huse'
  -- Of two uses of one session neither comes before the other.
  rw [← hsame] at hcomes'
  exact le_antisymm (hcomes'.use_le hcomes huse') (hcomes.use_le hcomes' huse)

/-! ## A login with one key -/

section OneKey

/-- What a caller sees of a key, a submission and the start of a login. -/
def oneKeyEvents : List Event :=
  [.created 0x1000 (.numeric 6), .edited 0x1000 (.press ⟨"digit-7"⟩), .sealed 0x1000 0x2000,
    .used 0x2000 .login [0x37]]

/-- A key is pressed, and the session is submitted. -/
theorem observes_sealedWorld : Observes wideTarget (oneKeyEvents.take 3) sealedWorld := by
  have hcreate : createNumeric.event wideTarget keyWorld = .created 0x1000 (.numeric 6) := by
    with_unfolding_all rfl
  have hpress : pressSeven.event wideTarget createdWorld =
      .edited 0x1000 (.press ⟨"digit-7"⟩) := by
    with_unfolding_all rfl
  have hsubmit : submitSeven.event wideTarget pressedWorld = .sealed 0x1000 0x2000 := by
    with_unfolding_all rfl
  have hstart : Observes wideTarget [] keyWorld := .start _
  have hcreated : Observes wideTarget _ createdWorld := hstart.call createNumeric_permitted
  have hpressed : Observes wideTarget _ pressedWorld := hcreated.call pressSeven_permitted
  have hsealed : Observes wideTarget _ sealedWorld := hpressed.call submitSeven_permitted
  rw [hcreate, hpress, hsubmit] at hsealed
  exact hsealed

theorem event_startLogin :
    startLogin.event wideTarget sealedWorld = .used 0x2000 .login [0x37] := by
  with_unfolding_all rfl

/-- A login is started. -/
theorem observes_startedWorld : Observes wideTarget oneKeyEvents startedWorld := by
  have hused : Observes wideTarget _ startedWorld := observes_sealedWorld.call startLogin_permitted
  rw [event_startLogin] at hused
  exact hused

/-- The login is started with the key that was pressed, which the engine keeps as its state. -/
theorem password_flow_one_key :
    Starts wideTarget .login startArguments echoEngine 0x3000 0x4000 sealedWorld
      (.used 0x2000 .login [0x37]) (.ok, startedWorld) ∧
    startedWorld.heap 0x3000 = some (.client .login [0x37]) ∧
    ∃ creation sealing : ℕ → ℕ,
      (∀ use submission flow password,
        oneKeyEvents[use]? = some (.used submission flow password) →
        ∃ session policy, ComesFrom oneKeyEvents session policy (creation use) (sealing use) use
          submission password) ∧
      ∀ use use', UsedAt oneKeyEvents use → UsedAt oneKeyEvents use' →
        creation use = creation use' → use = use' := by
  refine ⟨?_, by with_unfolding_all rfl, (password_flow observes_startedWorld).2⟩
  have hstarts := (password_flow observes_sealedWorld).1 .login startArguments echoEngine 0x3000
    0x4000 startLogin_permitted
  have hresult : startLogin.exec wideTarget sealedWorld = (.ok, startedWorld) :=
    Prod.ext (by with_unfolding_all rfl) rfl
  rw [← event_startLogin, ← hresult]
  exact hstarts

end OneKey

end SecureKeypad.Ffi
