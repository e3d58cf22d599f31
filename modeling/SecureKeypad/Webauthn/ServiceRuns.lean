import SecureKeypad.Webauthn.ServiceSteps

/-!
# Runs of the WebAuthn Service

What is seen of a run is, for each step, whose call went on, by which operation, and what it
returned. The two ledgers of `ServiceSteps` are read off it and composed.

## Main results

- `burnt_until_issued`: a handle that was taken stays unusable
- `credited_once`: every credential operation goes back to a start of its own
- `webauthn_service_run`: one ceremony, one finish, of the account that started it
-/

namespace SecureKeypad.Webauthn

open Rust Server Machine Machine.Ledger
open InMemoryCeremonyStateStore (pendingCeremony)

namespace ServiceWorld

variable {w : WebauthnEngine} {C σ Outside : Type} [DecidableEq σ] {service : WebAuthnService σ}

/-! ## Reading a run -/

/-- The account of a finish that succeeded. -/
def finishedFor : ServiceOutcome w → Option Uuid
  | .started _ => none
  | .registered userId | .authenticated userId _ => some userId

/-- Step `s` is the call that started the ceremony which the call `request` of `client` finishes at
    step `n` for `userId`: it stored it for this account and answered its handle, under which the
    finishing call took it, before its expiry and with the principal, if it has one. -/
def StartedBy (service : WebAuthnService σ) (outputs : List (ServiceOutput w σ)) (s n client : ℕ)
    (request : ServiceRequest) (userId : Uuid) : Prop :=
  ∃ (m starter : ℕ) (startRequest : ServiceRequest) (startNow : ℕ) (handle : LoginStateHandle)
    (options : w.Value) (taken : CeremonyState) (now : ℕ) (principal : Option Uuid),
    s < m ∧ m < n ∧
      outputs[s]? = some (.acted starter startRequest
        (.stored (service.states request.kind) request.kind userId taken.state startNow
          service.ceremonyTtl (some (.ok handle)))
        (some (.ok (.started ⟨encodeHandle handle, options⟩)))) ∧
      startRequest.kind = request.kind ∧ startRequest.starts = some userId ∧
      outputs[m]? = some (.acted client request
        (.took (service.states request.kind) request.kind handle now (.ok (some taken))) none) ∧
      now < startNow + service.ceremonyTtl ∧
      request.finishes = some (encodeHandle handle, principal) ∧
      ∀ other, principal = some other → other = userId

section Runs

variable (instantMax : ℕ) (service : WebAuthnService σ) (backend : CredentialStore w C Outside)
  (start : ServiceWorld w C σ) (inputs : List (ServiceInput w Outside))

/-- The world after the first `n` steps of a run. -/
def worldAt (n : ℕ) : ServiceWorld w C σ :=
  run (step instantMax service backend) start (inputs.take n)

/-- What is seen of a run. -/
def outputs : List (ServiceOutput w σ) :=
  (trace (step instantMax service backend) start inputs).map Prod.snd

end Runs

variable {instantMax : ℕ} {backend : CredentialStore w C Outside} {start : ServiceWorld w C σ}
  {inputs : List (ServiceInput w Outside)}

omit [DecidableEq σ] in
theorem sound_of_clients (hstart : start.clients = ∅) : Sound service start := by
  intro client request code hlookup
  rw [hstart] at hlookup
  cases hlookup

theorem sound_worldAt (hstart : start.clients = ∅) (n : ℕ) :
    Sound service (worldAt instantMax service backend start inputs n) :=
  run_invariant _ (sound_step instantMax backend) (sound_of_clients hstart) _

/-- A step that is seen is one of the operations of its call. -/
theorem performs_of_output (hstart : start.clients = ∅) {n client : ℕ} {request : ServiceRequest}
    {op : StoreOperation w σ} {result : Option (ServiceResult w)}
    (h : (outputs instantMax service backend start inputs)[n]? =
      some (.acted client request op result)) :
    ∃ rest after, Performs service (worldAt instantMax service backend start inputs n) client request
        op rest after ∧ result = ended rest ∧
      (worldAt instantMax service backend start inputs (n + 1)).stores = after.stores ∧
      (worldAt instantMax service backend start inputs (n + 1)).credentials = after.credentials := by
  rw [outputs, List.getElem?_map] at h
  obtain ⟨⟨input, output⟩, hentry, hout⟩ := Option.map_eq_some_iff.mp h
  obtain ⟨hinput, houtput⟩ := trace_getElem?_eq_some _ hentry
  have hnext : worldAt instantMax service backend start inputs (n + 1) =
      (step instantMax service backend (worldAt instantMax service backend start inputs n) input).2 :=
    run_take_succ _ hinput
  rw [hnext]
  change output = (step instantMax service backend
    (worldAt instantMax service backend start inputs n) input).1 at houtput
  rcases step_effect instantMax backend (sound_worldAt hstart n) input with
    hstep | ⟨client', request', op', rest, after, hperforms, hstep⟩
  · rw [hstep] at houtput
    cases hout.symm.trans houtput
  · rw [hstep, proceed_fst] at houtput
    cases hout.symm.trans houtput
    rw [hstep, proceed_stores, proceed_credentials]
    exact ⟨rest, after, hperforms, rfl, rfl, rfl⟩

/-- What a call stores is its own, and answered under its handle. -/
theorem stored_of_output (hstart : start.clients = ∅) {n client : ℕ} {request : ServiceRequest}
    {store : σ} {kind : CeremonyKind} {userId : Uuid} {state : Bytes} {now ttl : ℕ}
    {handle : LoginStateHandle} {result : Option (ServiceResult w)}
    (h : (outputs instantMax service backend start inputs)[n]? = some (.acted client request
      (.stored store kind userId state now ttl (some (.ok handle))) result)) :
    store = service.states request.kind ∧ kind = request.kind ∧ ttl = service.ceremonyTtl ∧
      request.starts = some userId ∧
      ∃ options, result = some (.ok (.started ⟨encodeHandle handle, options⟩)) := by
  obtain ⟨rest, after, hperforms, rfl, -⟩ := performs_of_output hstart h
  cases hperforms with
  | quiet op rest hop => rcases hop with hop | ⟨_, hop⟩ <;> cases hop
  | stored instantMax checked now draws userId state next answer after hinsert hstarts herror hok =>
    obtain ⟨options, hok⟩ := hok
    refine ⟨rfl, rfl, rfl, hstarts, options, ?_⟩
    rw [Option.map_some, hok handle]
    rfl
  | credited op userId result credentials hholds hcredits => cases hcredits

/-- What a call takes is a ceremony of its kind under its handle. It goes on only with the
    principal, if it has one, that the ceremony was started for. -/
theorem took_of_output (hstart : start.clients = ∅) {n client : ℕ} {request : ServiceRequest}
    {store : σ} {kind : CeremonyKind} {handle : LoginStateHandle} {now : ℕ}
    {answer : Except CeremonyStoreError (Option CeremonyState)} {result : Option (ServiceResult w)}
    (h : (outputs instantMax service backend start inputs)[n]? = some (.acted client request
      (.took store kind handle now answer) result)) :
    store = service.states request.kind ∧ kind = request.kind ∧
      ((worldAt instantMax service backend start inputs n).stores store).take now kind handle =
        (answer, (worldAt instantMax service backend start inputs (n + 1)).stores store) ∧
      (∀ other, other ≠ store →
        (worldAt instantMax service backend start inputs (n + 1)).stores other =
          (worldAt instantMax service backend start inputs n).stores other) ∧
      (answer = .ok none → result = some (.error .replay)) ∧
      (∀ error, answer = .error error → result = some (.error (mapCeremonyError error))) ∧
      ∃ principal, request.finishes = some (encodeHandle handle, principal) ∧
        ∀ state, answer = .ok (some state) → ∀ other, principal = some other →
          other ≠ state.userId → result = some (.error .invalidRequest) := by
  obtain ⟨rest, after, hperforms, rfl, hstores, -⟩ := performs_of_output hstart h
  rw [hstores]
  cases hperforms with
  | quiet op rest hop => rcases hop with hop | ⟨_, hop⟩ <;> cases hop
  -- What follows the take is said by its answer: an error, a miss, or another principal.
  | took now handle principal next answer after htake hfinishes herror hmiss hother hown =>
    refine ⟨rfl, rfl, ?_, ?_, ?_, ?_, principal, hfinishes, ?_⟩
    · rw [setStore_stores, if_pos rfl]
      exact htake
    · intro other hne
      rw [setStore_stores, if_neg hne]
    · rintro rfl
      rw [hmiss]
      rfl
    · rintro error rfl
      rw [herror error]
      rfl
    · rintro state rfl other hprincipal hne
      rw [hother state ⟨other, hprincipal, hne⟩]
      rfl
  | credited op userId result credentials hholds hcredits => cases hcredits

/-- A credential operation ends its call with its own answer. -/
theorem credited_of_output (hstart : start.clients = ∅) {n client : ℕ} {request : ServiceRequest}
    {op : StoreOperation w σ} {result : Option (ServiceResult w)} {userId : Uuid}
    (h : (outputs instantMax service backend start inputs)[n]? =
      some (.acted client request op result)) (hcredits : op.credits = some userId) :
    result = creditResult op ∧ (creditResult op).isSome := by
  obtain ⟨rest, after, hperforms, rfl, -⟩ := performs_of_output hstart h
  cases hperforms with
  | quiet op rest hop => rcases hop with rfl | ⟨_, rfl⟩ <;> cases hcredits
  | stored => cases hcredits
  | took => cases hcredits
  | credited op userId result credentials hholds hcredits' hresult hkind =>
    rw [hresult]
    exact ⟨rfl, rfl⟩

/-- No other operation touches a credential. -/
theorem credentials_of_output (hstart : start.clients = ∅) {n client : ℕ}
    {request : ServiceRequest} {op : StoreOperation w σ} {result : Option (ServiceResult w)}
    (h : (outputs instantMax service backend start inputs)[n]? =
      some (.acted client request op result)) (hcredits : op.credits = none) :
    (worldAt instantMax service backend start inputs (n + 1)).credentials =
      (worldAt instantMax service backend start inputs n).credentials := by
  obtain ⟨rest, after, hperforms, rfl, -, hcredentials⟩ := performs_of_output hstart h
  rw [hcredentials]
  cases hperforms with
  | quiet => rfl
  | stored => rfl
  | took => rfl
  | credited op userId result credentials hholds hcredits' =>
    rw [hcredits] at hcredits'
    cases hcredits'

/-- A finish succeeds only by the credential operation of the account it answers. -/
theorem finished_of_output (hstart : start.clients = ∅) {n client : ℕ} {request : ServiceRequest}
    {op : StoreOperation w σ} {outcome : ServiceOutcome w} {userId : Uuid}
    (h : (outputs instantMax service backend start inputs)[n]? =
      some (.acted client request op (some (.ok outcome))))
    (hfinished : finishedFor outcome = some userId) :
    (∃ passkey, op = .enrolled userId passkey (.ok ()) ∧ request.kind = .registration) ∨
      ∃ update updated, op = .updated userId update (.ok updated) ∧
        request.kind = .authentication := by
  obtain ⟨rest, after, hperforms, hended, -⟩ := performs_of_output hstart h
  -- A call that goes on to another point of the service has not finished.
  have hnotPoint : ∀ code : ServiceCode w σ, Point service request code →
      ended (some code) ≠ some (.ok outcome) := by
    intro code hpoint hok
    cases hpoint <;> cases hok
  cases hperforms with
  -- The calls by the operation they have just performed; only an enrolment and an update finish
  -- one.
  | quiet op rest hop hrest => exact absurd hended.symm (hnotPoint _ hrest)
  | stored instantMax checked now draws userId' state next answer after hinsert hstarts herror hok =>
    obtain ⟨options, hok⟩ := hok
    match answer with
    | none => cases hended
    | some (.error error) =>
      rw [Option.map_some, herror error] at hended
      cases hended
    | some (.ok handle) =>
      rw [Option.map_some, hok handle] at hended
      cases hended
      cases hfinished
  | took now handle principal next answer after htake hfinishes herror hmiss hother hown =>
    match answer with
    | .error error =>
      rw [herror error] at hended
      cases hended
    | .ok none =>
      rw [hmiss] at hended
      cases hended
    | .ok (some state) =>
      have hcredits := hown state
      generalize next (.ok (some state)) = code at hcredits hended
      cases hcredits <;> cases hended
  | credited op userId' result credentials hholds hcredits hresult hkind =>
    cases hended
    rcases hkind with ⟨passkey, answer, rfl, hkind⟩ | ⟨update, answer, rfl, hkind⟩
    · match answer with
      | .error error => cases hresult
      | .ok () =>
        cases hresult
        cases hfinished
        exact .inl ⟨passkey, rfl, hkind⟩
    · match answer with
      | .error error => cases hresult
      | .ok updated =>
        cases hresult
        cases hfinished
        exact .inr ⟨update, updated, rfl, hkind⟩

/-- Step `n` stored a ceremony under a handle. -/
def IssuedAt (outputs : List (ServiceOutput w σ)) (store : σ) (handle : LoginStateHandle) (n : ℕ) :
    Prop :=
  ∃ client request kind userId state now ttl result, outputs[n]? = some (.acted client request
    (.stored store kind userId state now ttl (some (.ok handle))) result)

/-- Step `n` made a credential operation. -/
def CreditedAt (outputs : List (ServiceOutput w σ)) (n : ℕ) : Prop :=
  ∃ client request op result userId, outputs[n]? = some (.acted client request op result) ∧
    op.credits = some userId

/-- A handle that was taken stays unusable until a ceremony is stored under it. -/
theorem burnt_until_issued (hstart : start.clients = ∅) {m n client : ℕ} {request : ServiceRequest}
    {store : σ} {kind : CeremonyKind} {handle : LoginStateHandle} {now : ℕ} {state : CeremonyState}
    {result : Option (ServiceResult w)}
    (htook : (outputs instantMax service backend start inputs)[m]? = some (.acted client request
      (.took store kind handle now (.ok (some state))) result))
    (hmn : m < n) (hn : n ≤ inputs.length)
    (hfree : ∀ k, m < k → k < n →
      ¬ IssuedAt (outputs instantMax service backend start inputs) store handle k) :
    ((worldAt instantMax service backend start inputs n).stores store).map.lookup handle = none := by
  -- Being absent is kept by every step that does not issue the handle.
  have hgone : ceremonies (worldAt instantMax service backend start inputs n) (store, handle) =
      none := by
    refine run_take_window _ (P := fun world => ceremonies world (store, handle) = none) hmn hn ?_ ?_
    · obtain ⟨-, -, htake, -⟩ := took_of_output hstart htook
      have hanswer := congrArg Prod.fst htake
      obtain ⟨-, hgone, -⟩ := InMemoryCeremonyStateStore.redeems_of_take hanswer
      rw [htake] at hgone
      exact hgone
    · intro k input hmk hkn hinput habsent
      rw [Option.eq_none_iff_forall_ne_some]
      rintro ⟨v, e⟩ hpresent
      rcases (ceremonies_refinement instantMax service backend).appears _ input (store, handle) v e
        (sound_worldAt hstart k) hpresent with hold | hissue
      · cases habsent.symm.trans hold
      · refine hfree k hmk hkn ?_
        have hentry := trace_getElem?_of_getElem? (step instantMax service backend) (s := start)
          hinput
        have houtput : (outputs instantMax service backend start inputs)[k]? =
            some (step instantMax service backend
              (worldAt instantMax service backend start inputs k) input).1 := by
          rw [outputs, List.getElem?_map, hentry]
          rfl
        generalize (step instantMax service backend
          (worldAt instantMax service backend start inputs k) input).1 = output at houtput hissue
        unfold ceremonyEvent at hissue
        split at hissue <;> cases hissue
        exact ⟨_, _, _, _, _, _, _, _, houtput⟩
  rw [ceremonies, pendingCeremony, Option.map_eq_none_iff] at hgone
  exact hgone

/-- The events of a ledger are read off the outputs. -/
theorem event_of_output {H V : Type} {observe : ServiceOutput w σ → Event H V} {n : ℕ}
    {event : Event H V} :
    (events (fun _ => observe) (step instantMax service backend) start inputs)[n]? = some event ↔
      ∃ output, (outputs instantMax service backend start inputs)[n]? = some output ∧
        observe output = event := by
  simp only [events, outputs, List.getElem?_map, Option.map_eq_some_iff]
  constructor
  · rintro ⟨entry, hentry, rfl⟩
    exact ⟨entry.2, ⟨entry, hentry, rfl⟩, rfl⟩
  · rintro ⟨_, ⟨entry, hentry, rfl⟩, rfl⟩
    exact ⟨entry, hentry, rfl⟩

/-- A credential operation spends what its client holds. -/
theorem holdingEvent_of_output (hstart : start.clients = ∅) {n client : ℕ}
    {request : ServiceRequest} {op : StoreOperation w σ} {result : Option (ServiceResult w)}
    {userId : Uuid}
    (h : (outputs instantMax service backend start inputs)[n]? =
      some (.acted client request op result)) (hcredits : op.credits = some userId) :
    (events (fun _ => holdingEvent) (step instantMax service backend) start inputs)[n]? =
      some (.redeem client (request, userId) 0) := by
  refine event_of_output.mpr ⟨_, h, ?_⟩
  obtain ⟨rfl, hsome⟩ := credited_of_output hstart h hcredits
  obtain ⟨result, hresult⟩ := Option.isSome_iff_exists.mp hsome
  rw [hresult]
  cases op <;> cases hcredits <;> rfl

omit [DecidableEq σ] in
theorem output_of_issue {output : ServiceOutput w σ} {store : σ} {handle : LoginStateHandle}
    {v : CeremonyKind × Uuid × Bytes} {e : ℕ}
    (h : ceremonyEvent output = .issue (store, handle) v e) :
    ∃ client request now ttl result, output = .acted client request
      (.stored store v.1 v.2.1 v.2.2 now ttl (some (.ok handle))) result ∧ e = now + ttl := by
  unfold ceremonyEvent at h
  split at h <;> cases h
  exact ⟨_, _, _, _, _, rfl, rfl⟩

omit [DecidableEq σ] in
theorem output_of_holding {output : ServiceOutput w σ} {client : ℕ} {v : ServiceRequest × Uuid}
    {e : ℕ} (h : holdingEvent output = .issue client v e) :
    ∃ store kind handle now state, output = .acted client v.1
      (.took store kind handle now (.ok (some state))) none ∧ v.2 = state.userId := by
  unfold holdingEvent at h
  split at h
  · cases h
    exact ⟨_, _, _, _, _, rfl, rfl⟩
  · split at h <;> cases h
  · cases h

/-- Every credential operation goes back to the start that issued the handle it came by, no two to
    the same. -/
theorem credited_once (hstart : start.clients = ∅)
    (hempty : ∀ store, (start.stores store).map = ∅) :
    ∃ source : ℕ → ℕ,
      Set.InjOn source {n | CreditedAt (outputs instantMax service backend start inputs) n} ∧
      ∀ n client request op result userId,
        (outputs instantMax service backend start inputs)[n]? =
            some (.acted client request op result) → op.credits = some userId →
          StartedBy service (outputs instantMax service backend start inputs) (source n) n client
            request userId := by
  have hsound : Sound service start := sound_of_clients hstart
  have hnoCeremony : ∀ id, ceremonies start id = none := by
    intro id
    rw [ceremonies, pendingCeremony, hempty]
    rfl
  have hnoHolding : ∀ client, holdings start client = none := by
    intro client
    rw [holdings, hstart]
    rfl
  -- The two ledgers of the run, composed: credential operation to take, take to start.
  obtain ⟨paid, hpaid, hpaidOnce⟩ := redeemsOnce_of_refinement
    (ceremonies_refinement instantMax service backend) hsound hnoCeremony inputs
  obtain ⟨taken, htaken, htakenOnce⟩ := redeemsOnce_of_refinement
    (holdings_refinement instantMax service backend) hsound hnoHolding inputs
  -- Behind every credential operation stands the take of its client.
  have hchain : ∀ n client request op result userId,
      (outputs instantMax service backend start inputs)[n]? =
          some (.acted client request op result) → op.credits = some userId →
        taken n < n ∧ ∃ store kind handle now state,
          (outputs instantMax service backend start inputs)[taken n]? =
            some (.acted client request (.took store kind handle now (.ok (some state))) none) ∧
          userId = state.userId ∧
          (events (fun _ => ceremonyEvent) (step instantMax service backend) start
              inputs)[taken n]? =
            some (.redeem (store, handle) (state.kind, state.userId, state.state) now) := by
    intro n client request op result userId hout hcredits
    obtain ⟨hlt, e, hissue, -⟩ := htaken n _ _ _ (holdingEvent_of_output hstart hout hcredits)
    obtain ⟨output, houtput, hevent⟩ := event_of_output.mp hissue
    obtain ⟨store, kind, handle, now, state, rfl, huser⟩ := output_of_holding hevent
    exact ⟨hlt, store, kind, handle, now, state, houtput, huser,
      event_of_output.mpr ⟨_, houtput, rfl⟩⟩
  refine ⟨fun n => paid (taken n), ?_, ?_⟩
  · rintro n ⟨client, request, op, result, userId, hout, hcredits⟩ n'
      ⟨client', request', op', result', userId', hout', hcredits'⟩ hsame
    obtain ⟨-, _, _, _, _, _, -, -, hredeem⟩ := hchain n _ _ _ _ _ hout hcredits
    obtain ⟨-, _, _, _, _, _, -, -, hredeem'⟩ := hchain n' _ _ _ _ _ hout' hcredits'
    have htake : taken n = taken n' :=
      hpaidOnce ⟨_, _, _, hredeem⟩ ⟨_, _, _, hredeem'⟩ hsame
    exact htakenOnce ⟨_, _, _, holdingEvent_of_output hstart hout hcredits⟩
      ⟨_, _, _, holdingEvent_of_output hstart hout' hcredits'⟩ htake
  · intro n client request op result userId hout hcredits
    obtain ⟨hmn, store, kind, handle, now, state, htook, rfl, hredeem⟩ :=
      hchain n _ _ _ _ _ hout hcredits
    obtain ⟨hsm, e, hissue, hlive⟩ := hpaid (taken n) _ _ _ hredeem
    obtain ⟨output, hstored, hevent⟩ := event_of_output.mp hissue
    obtain ⟨starter, startRequest, startNow, ttl, startResult, rfl, rfl⟩ := output_of_issue hevent
    obtain ⟨hstore, hkind, rfl, hstarts, options, rfl⟩ := stored_of_output hstart hstored
    obtain ⟨rfl, rfl, htake, -, -, -, principal, hfinishes, hother⟩ := took_of_output hstart htook
    obtain ⟨hstate, -⟩ := InMemoryCeremonyStateStore.redeems_of_take (congrArg Prod.fst htake)
    dsimp only at hkind
    rw [hstate] at hkind hstored
    refine ⟨taken n, starter, startRequest, startNow, handle, options, state, now, principal, hsm,
      hmn, hstored, hkind.symm, hstarts, htook, hlive, hfinishes, ?_⟩
    intro other hprincipal
    by_contra hne
    cases hother state rfl other hprincipal hne

/-- **One ceremony, one finish.** In every run of any number of clients over stores that start
    empty, however the steps interleave and whatever the clocks show:

    - no store ever holds more than its capacity;
    - every credential operation, and with it every finish that succeeds, goes back to the call
      that started its ceremony for this account and whose handle it was given, took the ceremony
      before its expiry, and shares this start with no other;
    - no other step changes a credential;
    - a finish whose store has no ceremony of its kind under the handle is a miss that changes
      nothing, also when the handle is one of the other kind;
    - a finish for another principal is refused, and the ceremony is gone;
    - once a finish has taken a ceremony its handle stays unusable, until it is issued again. -/
theorem webauthn_service_run (instantMax : ℕ) (service : WebAuthnService σ)
    (backend : CredentialStore w C Outside) (capacity : σ → ℕ) (start : ServiceWorld w C σ)
    (hstores : ∀ store, InMemoryCeremonyStateStore.new (capacity store) = .ok (start.stores store))
    (hclients : start.clients = ∅) (inputs : List (ServiceInput w Outside)) :
    let world := worldAt instantMax service backend start inputs
    let seen := outputs instantMax service backend start inputs
    (∀ n store, ((world n).stores store).map.size ≤ capacity store) ∧
    (∃ source : ℕ → ℕ, Set.InjOn source {n | CreditedAt seen n} ∧
      ∀ n client request op result userId,
        seen[n]? = some (.acted client request op result) → op.credits = some userId →
          StartedBy service seen (source n) n client request userId) ∧
    (∀ (n : ℕ) client request op outcome userId,
      seen[n]? = some (.acted client request op (some (.ok outcome))) →
      finishedFor outcome = some userId →
        (∃ passkey, op = .enrolled userId passkey (.ok ()) ∧ request.kind = .registration) ∨
          ∃ update updated, op = .updated userId update (.ok updated) ∧
            request.kind = .authentication) ∧
    (∀ (n : ℕ) client request op result,
      seen[n]? = some (.acted client request op result) → op.credits = none →
        (world (n + 1)).credentials = (world n).credentials) ∧
    (∀ (n : ℕ) client request store kind handle now answer result,
      seen[n]? = some (.acted client request (.took store kind handle now answer) result) →
        store = service.states request.kind ∧ kind = request.kind ∧
        (∃ principal, request.finishes = some (encodeHandle handle, principal)) ∧
        ((∀ entry, ((world n).stores store).map.lookup handle = some entry → entry.kind ≠ kind) →
          result = some (.error
            (if ((world n).stores store).entries.poisoned then .storeUnavailable else .replay)) ∧
          (world (n + 1)).stores = (world n).stores)) ∧
    (∀ (n : ℕ) client request store kind handle now state result text principal,
      seen[n]? = some (.acted client request
        (.took store kind handle now (.ok (some state))) result) →
      request.finishes = some (text, some principal) → principal ≠ state.userId →
        result = some (.error .invalidRequest)) ∧
    ∀ (m n : ℕ) client request store kind handle now state result,
      seen[m]? = some (.acted client request
        (.took store kind handle now (.ok (some state))) result) →
      m < n → n ≤ inputs.length →
      (∀ k, m < k → k < n → ¬ IssuedAt seen store handle k) →
        ((world n).stores store).map.lookup handle = none := by
  have hnew : ∀ store, (start.stores store).map = ∅ ∧
      (start.stores store).maxEntries = capacity store :=
    fun store => InMemoryCeremonyStateStore.new_eq_ok (hstores store)
  refine ⟨?_, credited_once hclients fun store => (hnew store).1, ?_, ?_, ?_, ?_, ?_⟩
  · intro n store
    -- Capacity is an invariant of the runs, beside that of the waiting calls.
    have hinv := run_invariant (step instantMax service backend)
      (P := fun world => Sound service world ∧ WithinCapacity capacity world)
      (fun world input h => ⟨sound_step instantMax backend world input h.1,
        withinCapacity_step instantMax backend world input h⟩)
      (s := start) ⟨sound_of_clients hclients, fun store => ?_⟩ (inputs.take n)
    · exact (hinv.2 store).2
    · rw [(hnew store).1, (hnew store).2]
      exact ⟨rfl, Nat.zero_le _⟩
  · intro n client request op outcome userId hout hfinished
    exact finished_of_output hclients hout hfinished
  · intro n client request op result hout hcredits
    exact credentials_of_output hclients hout hcredits
  · intro n client request store kind handle now answer result hout
    -- What was taken is what the store answers at this step, and the other stores stay as they are.
    obtain ⟨hstore, hkind, htake, hothers, hnone, herror, principal, hfinishes, -⟩ :=
      took_of_output hclients hout
    refine ⟨hstore, hkind, ⟨principal, hfinishes⟩, fun hmiss => ?_⟩
    rw [InMemoryCeremonyStateStore.take_miss hmiss, Prod.mk.injEq] at htake
    obtain ⟨hanswer, hsame⟩ := htake
    constructor
    · cases hpoisoned : ((worldAt instantMax service backend start inputs n).stores
        store).entries.poisoned with
      | true =>
        rw [hpoisoned] at hanswer
        exact herror .unavailable hanswer.symm
      | false =>
        rw [hpoisoned] at hanswer
        exact hnone hanswer.symm
    · funext other
      by_cases heq : other = store
      · rw [heq, ← hsame]
      · exact hothers other heq
  · intro n client request store kind handle now state result text principal hout hfinishes hne
    -- The principal of the request is the one the ceremony is compared with.
    obtain ⟨-, -, -, -, -, -, principal', hfinishes', hother⟩ := took_of_output hclients hout
    rw [hfinishes] at hfinishes'
    cases hfinishes'
    exact hother state rfl principal rfl hne
  · intro m n client request store kind handle now state result htook hmn hn hfree
    exact burnt_until_issued hclients htook hmn hn hfree

/-! ### A run -/

/-- An engine whose values are the fields the stores look at. -/
def fieldsEngine : WebauthnEngine where
  Passkey := PasskeyFields
  AuthenticationResult := ResultFields
  CreationOptions := Unit
  RequestOptions := Unit
  PasskeyRegistration := Unit
  PasskeyAuthentication := Unit
  RegisterPublicKeyCredential := PasskeyFields
  PublicKeyCredential := ResultFields
  Value := Unit
  Randomness := Unit
  credId := PasskeyFields.credId
  startPasskeyRegistration _ _ _ _ _ := some ((), ())
  finishPasskeyRegistration response _ := some response
  startPasskeyAuthentication _ _ := some ((), ())
  finishPasskeyAuthentication response _ := some response
  creationToValue _ := some ()
  requestToValue _ := some ()
  registrationToVec version _ := some [UInt8.ofNat version]
  authenticationToVec version _ := some [UInt8.ofNat version]
  registrationFromSlice bytes := bytes.head?.map fun version => (version.toNat, ())
  authenticationFromSlice bytes := bytes.head?.map fun version => (version.toNat, ())
  attestationFromSlice body := some ⟨body, 0, ⟨false, false⟩⟩
  assertionFromSlice body := some ⟨body, 0, ⟨false, false⟩, false⟩

def sampleCeremonyHandle : LoginStateHandle := ⟨List.replicate 32 1, rfl⟩

/-- Both kinds share one store, with room for two ceremonies. -/
def sampleService : WebAuthnService Unit := ⟨(), (), durationFromSecs 60⟩

def sampleServiceWorld :
    ServiceWorld fieldsEngine (InMemoryCredentialStore fieldsEngine.Passkey) Unit where
  stores _ := ⟨.new ∅, 2⟩
  credentials := .new
  clients := ∅

def sampleSurroundings (now : ℕ) : Surroundings fieldsEngine Unit :=
  ⟨(), now, now, [sampleCeremonyHandle], ()⟩

def sampleFinish : ServiceRequest :=
  .finishRegistration (encodeHandle sampleCeremonyHandle) (some 7) [5]

/-- A registration, with an authentication in between that is given its handle. -/
def sampleServiceInputs : List (ServiceInput fieldsEngine Unit) :=
  [.call 1 (.startRegistration 7 "user" "User"), .resume 1 (sampleSurroundings 0),
    .resume 1 (sampleSurroundings 0),
    .call 2 (.finishAuthentication (encodeHandle sampleCeremonyHandle) none [5]),
    .resume 2 (sampleSurroundings 1), .call 1 sampleFinish, .resume 1 (sampleSurroundings 1),
    .resume 1 (sampleSurroundings 2)]

theorem webauthn_service_run_sample :
    let seen := outputs (10 ^ 20) sampleService (InMemoryCredentialStore.backend fieldsApi)
      sampleServiceWorld sampleServiceInputs
    seen[7]? = some (.acted 1 sampleFinish (.enrolled 7 ⟨[5], 0, ⟨false, false⟩⟩ (.ok ()))
        (some (.ok (.registered 7)))) ∧
      ∃ s, StartedBy sampleService seen s 7 1 sampleFinish 7 := by
  intro seen
  have hseen : seen[7]? = some (.acted 1 sampleFinish
      (.enrolled 7 ⟨[5], 0, ⟨false, false⟩⟩ (.ok ())) (some (.ok (.registered 7)))) := rfl
  obtain ⟨-, ⟨source, -, hstarted⟩, -⟩ := webauthn_service_run (10 ^ 20) sampleService
    (InMemoryCredentialStore.backend fieldsApi) (fun _ => 2) sampleServiceWorld (fun _ => rfl) rfl
    sampleServiceInputs
  exact ⟨hseen, source 7, hstarted 7 1 sampleFinish _ _ 7 hseen rfl⟩

end ServiceWorld

end SecureKeypad.Webauthn
