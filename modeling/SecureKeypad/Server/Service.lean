import SecureKeypad.Server.LoginStore

/-!
# The Server Authentication Service (`secure-auth-server::service`)

Embeds the login half of `ServerAuthService`: construction with key rotation, `begin_login`
and `finish_login` over a bound one-time store, with the `opaque_ke` operations abstract.

A service reads only immutable fields apart from the one store operation each call makes, so
a run of concurrent calls is the list of calls in the order of their store operations; a call
that never reaches the store may stand anywhere.

## Main results

- `beginLogin_cases`, `finishLogin_cases`: everything the two calls can do
- `serviceStep_refines_ledger`: the service refines the one-time ledger of identifiers
- `login_flow_run`: the guarantees of the login flow over every run
-/

namespace SecureKeypad.Server

open Rust Auth

/-- `MAX_SERVER_KEY_IDS`. -/
def maxServerKeyIds : ℕ := 4

/-- `ServerAuthError`. -/
inductive ServerAuthError where
  | auth (error : AuthError)
  | store (error : StoreError)
  | missingLoginState
  | invalidServerKeyId
  | invalidServerKeySet
deriving DecidableEq

/-- `BoundOneTimeLoginStateStore`: the backend contract of the service. `Context` is what a
    call takes from its environment; an insertion that panics answers `none`. -/
class BoundOneTimeLoginStateStore (S : Type) (Context : outParam Type) where
  /-- `insert_bound`. -/
  insertBound : S → Context → BoundLoginState → Option (Except StoreError LoginStateHandle) × S
  /-- `take_bound`. -/
  takeBound : S → Context → LoginStateHandle → Except StoreError (Option BoundLoginState) × S

/-- The environment of one call to the in-memory store: the end of the process clock, the
    reading the call works with and what `OsRng` yields to it. -/
structure CallContext where
  instantMax : ℕ
  now : ℕ
  draws : List LoginStateHandle

instance : BoundOneTimeLoginStateStore InMemoryOneTimeLoginStore CallContext where
  insertBound store context state :=
    store.insertStored context.instantMax context.now context.draws (.bound state)
  takeBound store context handle := store.takeBound context.now handle

/-- `insertStored_cases` through the contract. -/
theorem InMemoryOneTimeLoginStore.insertBound_cases (store : InMemoryOneTimeLoginStore)
    (context : CallContext) (state : BoundLoginState) :
    let inserted := BoundOneTimeLoginStateStore.insertBound store context state
    inserted.2.maxEntries = store.maxEntries ∧ inserted.2.ttl = store.ttl ∧
      ((∃ e, inserted.1 = some (.error e) ∧ inserted.2.map = store.map ∧
          e ∈ [.stateTooLarge, .invalidTtl, .unavailable]) ∨
        ((inserted.1 = none ∨ inserted.1 = some (.error .capacityReached) ∨
            inserted.1 = some (.error .handleCollision)) ∧
          inserted.2.map = purgeExpired store.map context.now) ∨
        ∃ handle, inserted.1 = some (.ok handle) ∧
          (purgeExpired store.map context.now).lookup handle = none ∧
          (purgeExpired store.map context.now).size < store.maxEntries ∧
          inserted.2.map = (purgeExpired store.map context.now).insert handle
            ⟨context.now + store.ttl, .bound state⟩) :=
  store.insertStored_cases context.instantMax context.now context.draws (.bound state)

/-- `takeWith_cases` through the contract. -/
theorem InMemoryOneTimeLoginStore.takeBound_cases (store : InMemoryOneTimeLoginStore)
    (context : CallContext) (handle : LoginStateHandle) :
    let took := BoundOneTimeLoginStateStore.takeBound store context handle
    took.2.maxEntries = store.maxEntries ∧ took.2.ttl = store.ttl ∧
      ((took.2.map = store.map ∧
          ((∃ e, took.1 = .error e) ∨ took.1 = .ok none ∧ store.map.lookup handle = none)) ∨
        (took.1 = .ok none ∧ took.2.map = store.map.erase handle ∧
          ∃ entry, store.map.lookup handle = some entry ∧ entry.expiresAt ≤ context.now) ∨
        ∃ entry state, took.1 = .ok (some state) ∧ store.map.lookup handle = some entry ∧
          context.now < entry.expiresAt ∧ entry.state.asBound = some state ∧
          took.2.map = store.map.erase handle) :=
  store.takeWith_cases StoredState.asBound context.now handle

/-! ## Construction -/

/-- `ServerAuthService`. -/
structure ServerAuthService (S : Type) where
  setup : ServerSetupBytes
  serverKeyId : String
  acceptedServerKeyIds : List String
  stateStore : S

/-- `validate_server_key_id`. -/
def validServerKeyId (serverKeyId : String) : Bool :=
  !(serverKeyId.utf8ByteSize = 0 || serverKeyId.utf8ByteSize > maxServerKeyIdBytes)

/-- The loop of `new_with_key_rotation` over the previous identifiers. -/
def acceptPrevious : List String → List String → Except ServerAuthError (List String)
  | accepted, [] => .ok accepted
  | accepted, previous :: rest =>
    if validServerKeyId previous = false then .error .invalidServerKeySet
    else if accepted.any (· == previous) then .error .invalidServerKeySet
    else acceptPrevious (accepted ++ [previous]) rest

/-- `ServerAuthService::new_with_key_rotation`. -/
def ServerAuthService.newWithKeyRotation {S : Type} (setup : ServerSetupBytes)
    (activeServerKeyId : String) (previousServerKeyIds : List String) (stateStore : S) :
    Except ServerAuthError (ServerAuthService S) :=
  if validServerKeyId activeServerKeyId = false then .error .invalidServerKeyId
  else if previousServerKeyIds.length + 1 > maxServerKeyIds then .error .invalidServerKeySet
  else do
    let acceptedServerKeyIds ← acceptPrevious [activeServerKeyId] previousServerKeyIds
    .ok { setup, serverKeyId := activeServerKeyId, acceptedServerKeyIds, stateStore }

/-- The loop appends every previous identifier, each new to the list so far. -/
theorem acceptPrevious_eq_ok {accepted previous result : List String}
    (h : acceptPrevious accepted previous = .ok result) (hnodup : accepted.Nodup) :
    result = accepted ++ previous ∧ result.Nodup := by
  fun_induction acceptPrevious accepted previous with
  | case1 accepted =>
    cases h
    exact ⟨(List.append_nil _).symm, hnodup⟩
  | case2 => cases h
  | case3 => cases h
  | case4 accepted previous rest hvalid hnew ih =>
    have hfresh : previous ∉ accepted := by simpa using hnew
    have hnodup' : (accepted ++ [previous]).Nodup := by
      rw [List.nodup_append]
      refine ⟨hnodup, List.nodup_singleton _, ?_⟩
      intro a ha b hb
      rw [List.mem_singleton] at hb
      rintro rfl
      exact hfresh (hb ▸ ha)
    obtain ⟨rfl, hres⟩ := ih h hnodup'
    exact ⟨by simp, hres⟩

/-- A constructed service accepts the active identifier and the previous ones, between one and
    four of them and pairwise distinct. -/
theorem ServerAuthService.newWithKeyRotation_eq_ok {S : Type} {setup : ServerSetupBytes}
    {active : String} {previous : List String} {stateStore : S} {service : ServerAuthService S}
    (h : newWithKeyRotation setup active previous stateStore = .ok service) :
    service = { setup, serverKeyId := active, acceptedServerKeyIds := active :: previous,
                stateStore } ∧
      (active :: previous).Nodup ∧ (active :: previous).length ≤ maxServerKeyIds := by
  unfold newWithKeyRotation at h
  split at h
  · cases h
  · split at h
    · cases h
    · next hlength =>
      obtain ⟨accepted, haccepted, hservice⟩ := tryOp_eq_ok.mp h
      obtain ⟨rfl, hnodup⟩ := acceptPrevious_eq_ok haccepted (List.nodup_singleton _)
      cases hservice
      exact ⟨rfl, hnodup, Nat.le_of_not_lt hlength⟩

/-! ## The two login calls -/

section Calls

variable (ke : OpaqueKe) {S Context : Type} [BoundOneTimeLoginStateStore S Context]

/-- `begin_login` up to its store operation: the response envelope and the state to store. -/
def ServerAuthService.prepareLogin (service : ServerAuthService S) (rng : ke.Rng)
    (request : AuthEnvelope) (credentialFile : Option CredentialFile)
    (credentialIdentifier clientIdentifier serverIdentifier : Bytes) :
    Except ServerAuthError (AuthEnvelope × BoundLoginState) := do
  let request ← (request.intoMessageForServerKeys .credentialRequest
    service.acceptedServerKeyIds).mapError .auth
  let (response, loginState) ← (serverLoginStart ke rng service.setup credentialFile request
    credentialIdentifier clientIdentifier serverIdentifier).mapError .auth
  let responseEnvelope ←
    (AuthEnvelope.new .credentialResponse service.serverKeyId response).mapError .auth
  let boundState ← (BoundLoginState.new (intoBytes ke loginState) clientIdentifier
    serverIdentifier).mapError .store
  .ok (responseEnvelope, boundState)

/-- `begin_login`; `none` means that the thread panicked. -/
def ServerAuthService.beginLogin (service : ServerAuthService S) (context : Context)
    (rng : ke.Rng) (request : AuthEnvelope) (credentialFile : Option CredentialFile)
    (credentialIdentifier clientIdentifier serverIdentifier : Bytes) :
    Option (Except ServerAuthError (AuthEnvelope × LoginStateHandle)) × ServerAuthService S :=
  match service.prepareLogin ke rng request credentialFile credentialIdentifier clientIdentifier
      serverIdentifier with
  | .error e => (some (.error e), service)
  | .ok (responseEnvelope, boundState) =>
    let (inserted, stateStore) :=
      BoundOneTimeLoginStateStore.insertBound service.stateStore context boundState
    let service := { service with stateStore }
    match inserted with
    | none => (none, service)
    | some (.error e) => (some (.error (.store e)), service)
    | some (.ok handle) => (some (.ok (responseEnvelope, handle)), service)

/-- The arguments `server_login_finish` is called with. -/
structure FinishCall where
  state : ke.ServerLogin
  finalization : Message
  clientIdentifier : Bytes
  serverIdentifier : Bytes

/-- What `finish_login` returns, with what it did on the way: the state `take_bound` handed
    over, and the call to `server_login_finish` if it got that far (`finishLogin_result` says that
    the answer is the one of this call). -/
structure FinishOutcome where
  result : Except ServerAuthError SecretOutput
  taken : Option BoundLoginState
  finishCall : Option (FinishCall ke)

/-- `finish_login`. -/
def ServerAuthService.finishLogin (service : ServerAuthService S) (context : Context)
    (finalization : AuthEnvelope) (handle : LoginStateHandle) :
    FinishOutcome ke × ServerAuthService S :=
  match finalization.intoMessage .credentialFinalization service.serverKeyId with
  | .error e => (⟨.error (.auth e), none, none⟩, service)
  | .ok finalization =>
    let (taken, stateStore) :=
      BoundOneTimeLoginStateStore.takeBound service.stateStore context handle
    let service := { service with stateStore }
    match taken with
    | .error e => (⟨.error (.store e), none, none⟩, service)
    | .ok none => (⟨.error .missingLoginState, none, none⟩, service)
    | .ok (some pending) =>
      match pending.state.intoState ke with
      | .error e => (⟨.error (.auth e), some pending, none⟩, service)
      | .ok state =>
        (⟨(serverLoginFinish ke state finalization pending.clientIdentifier
            pending.serverIdentifier).mapError .auth, some pending,
          some ⟨state, finalization, pending.clientIdentifier, pending.serverIdentifier⟩⟩, service)

/-- The answer of `finish_login` is that of its call to `server_login_finish`; without one it is
    an error. -/
theorem ServerAuthService.finishLogin_result (service : ServerAuthService S) (context : Context)
    (finalization : AuthEnvelope) (handle : LoginStateHandle) :
    let outcome := (service.finishLogin ke context finalization handle).1
    (∀ call, outcome.finishCall = some call →
      outcome.result = (serverLoginFinish ke call.state call.finalization call.clientIdentifier
        call.serverIdentifier).mapError .auth) ∧
      (outcome.finishCall = none → ∃ e, outcome.result = .error e) := by
  simp only [finishLogin]
  -- one case for each place where the call ends
  split
  · exact ⟨by simp, fun _ => ⟨_, rfl⟩⟩
  · split
    · exact ⟨by simp, fun _ => ⟨_, rfl⟩⟩
    · exact ⟨by simp, fun _ => ⟨_, rfl⟩⟩
    · split
      · exact ⟨by simp, fun _ => ⟨_, rfl⟩⟩
      · refine ⟨fun call hcall => ?_, by simp⟩
        cases hcall
        rfl

/-- What a prepared login was checked against and holds. -/
theorem ServerAuthService.prepareLogin_eq_ok {service : ServerAuthService S} {rng : ke.Rng}
    {request : AuthEnvelope} {credentialFile : Option CredentialFile}
    {credentialIdentifier clientIdentifier serverIdentifier : Bytes}
    {response : AuthEnvelope} {bound : BoundLoginState}
    (h : service.prepareLogin ke rng request credentialFile credentialIdentifier clientIdentifier
      serverIdentifier = .ok (response, bound)) :
    request.Accepted .credentialRequest service.acceptedServerKeyIds ∧
      response.serverKeyId = service.serverKeyId ∧
      bound.clientIdentifier = clientIdentifier ∧ bound.serverIdentifier = serverIdentifier := by
  unfold prepareLogin at h
  obtain ⟨message, hmessage, h⟩ := tryOp_eq_ok.mp h
  obtain ⟨⟨responseMessage, loginState⟩, _, h⟩ := tryOp_eq_ok.mp h
  obtain ⟨envelope, henvelope, h⟩ := tryOp_eq_ok.mp h
  obtain ⟨state, hstate, h⟩ := tryOp_eq_ok.mp h
  cases h
  obtain ⟨_, hclient, hserver⟩ := BoundLoginState.new_eq_ok (mapErr_eq_ok.mp hstate)
  exact ⟨(AuthEnvelope.intoMessageForServerKeys_eq_ok.mp (mapErr_eq_ok.mp hmessage)).1,
    AuthEnvelope.new_serverKeyId (mapErr_eq_ok.mp henvelope), hclient, hserver⟩

/-- Everything `begin_login` can do: fail before the store operation, or make it and answer
    as it went. -/
theorem ServerAuthService.beginLogin_cases (service : ServerAuthService S) (context : Context)
    (rng : ke.Rng) (request : AuthEnvelope) (credentialFile : Option CredentialFile)
    (credentialIdentifier clientIdentifier serverIdentifier : Bytes) :
    let out := service.beginLogin ke context rng request credentialFile credentialIdentifier
      clientIdentifier serverIdentifier
    (∃ e, out = (some (.error e), service)) ∨
      ∃ response bound,
        request.Accepted .credentialRequest service.acceptedServerKeyIds ∧
        response.serverKeyId = service.serverKeyId ∧
        bound.clientIdentifier = clientIdentifier ∧ bound.serverIdentifier = serverIdentifier ∧
        let inserted :=
          BoundOneTimeLoginStateStore.insertBound service.stateStore context bound
        out.2 = { service with stateStore := inserted.2 } ∧
          ((out.1 = none ∧ inserted.1 = none) ∨
            (∃ e, out.1 = some (.error (.store e)) ∧ inserted.1 = some (.error e)) ∨
            ∃ handle, out.1 = some (.ok (response, handle)) ∧ inserted.1 = some (.ok handle)) := by
  unfold beginLogin
  cases hprepare : service.prepareLogin ke rng request credentialFile credentialIdentifier
      clientIdentifier serverIdentifier with
  | error e => exact .inl ⟨e, rfl⟩
  -- A prepared login is inserted, and answered by what the store says.
  | ok prepared =>
    obtain ⟨response, bound⟩ := prepared
    obtain ⟨haccepted, hkey, hclient, hserver⟩ := prepareLogin_eq_ok ke hprepare
    refine .inr ⟨response, bound, haccepted, hkey, hclient, hserver, ?_⟩
    simp only
    cases hinsert : (BoundOneTimeLoginStateStore.insertBound service.stateStore context bound).1 with
    | none => exact ⟨rfl, .inl ⟨rfl, rfl⟩⟩
    | some result =>
      cases result with
      | error e => exact ⟨rfl, .inr (.inl ⟨e, rfl, rfl⟩)⟩
      | ok handle => exact ⟨rfl, .inr (.inr ⟨handle, rfl, rfl⟩)⟩

/-- Everything `finish_login` can do: refuse the envelope and leave the service alone, or make
    the store operation; only a state the store handed over is finished, with the identifiers
    stored beside it. -/
theorem ServerAuthService.finishLogin_cases (service : ServerAuthService S) (context : Context)
    (finalization : AuthEnvelope) (handle : LoginStateHandle) :
    let out := service.finishLogin ke context finalization handle
    let took := BoundOneTimeLoginStateStore.takeBound service.stateStore context handle
    (¬ finalization.Accepted .credentialFinalization [service.serverKeyId] ∧
        ∃ e, out = (⟨.error (.auth e), none, none⟩, service)) ∨
      (finalization.Accepted .credentialFinalization [service.serverKeyId] ∧
        out.2 = { service with stateStore := took.2 } ∧
        ((out.1.taken = none ∧ out.1.finishCall = none ∧ (∃ e, out.1.result = .error e) ∧
            ∀ pending, took.1 ≠ .ok (some pending)) ∨
          ∃ pending, took.1 = .ok (some pending) ∧ out.1.taken = some pending ∧
            ∀ call, out.1.finishCall = some call →
              call.clientIdentifier = pending.clientIdentifier ∧
                call.serverIdentifier = pending.serverIdentifier)) := by
  unfold finishLogin
  cases hopen : finalization.intoMessage .credentialFinalization service.serverKeyId with
  -- The envelope is refused, and the store is not asked.
  | error e =>
    refine .inl ⟨?_, e, rfl⟩
    intro haccepted
    have hok := AuthEnvelope.intoMessageForServerKeys_eq_ok.mpr
      ⟨haccepted, (rfl : (⟨finalization.payload⟩ : Message) = _)⟩
    rw [AuthEnvelope.intoMessage, hok] at hopen
    cases hopen
  -- It is accepted: the store is asked, whatever comes of what it gives out.
  | ok message =>
    refine .inr ⟨(AuthEnvelope.intoMessageForServerKeys_eq_ok.mp hopen).1, ?_⟩
    simp only
    cases htake : (BoundOneTimeLoginStateStore.takeBound service.stateStore context handle).1 with
    | error e => exact ⟨rfl, .inl ⟨rfl, rfl, ⟨_, rfl⟩, by intro _ h; cases h⟩⟩
    | ok result =>
      cases result with
      | none => exact ⟨rfl, .inl ⟨rfl, rfl, ⟨_, rfl⟩, by intro _ h; cases h⟩⟩
      | some pending =>
        simp only
        cases pending.state.intoState ke with
        | error e => exact ⟨rfl, .inr ⟨pending, rfl, rfl, by intro _ h; cases h⟩⟩
        | ok state =>
          refine ⟨rfl, .inr ⟨pending, rfl, rfl, ?_⟩⟩
          intro call hcall
          cases hcall
          exact ⟨rfl, rfl⟩

end Calls

/-! ## Runs of calls -/

/-- The service over the in-memory store. -/
abbrev LoginService := ServerAuthService InMemoryOneTimeLoginStore

/-- The pending states of a service. -/
def ServerAuthService.map (service : LoginService) : Entries := service.stateStore.map

/-- One login call with its environment and arguments. -/
inductive ServiceCall (ke : OpaqueKe) where
  | beginLogin (context : CallContext) (rng : ke.Rng) (request : AuthEnvelope)
      (credentialFile : Option CredentialFile)
      (credentialIdentifier clientIdentifier serverIdentifier : Bytes)
  | finishLogin (context : CallContext) (finalization : AuthEnvelope) (handle : LoginStateHandle)

/-- What a login call returns. -/
inductive ServiceAnswer (ke : OpaqueKe) where
  | begun (result : Option (Except ServerAuthError (AuthEnvelope × LoginStateHandle)))
  | finished (outcome : FinishOutcome ke)

variable {ke : OpaqueKe}

/-- One login call. -/
def serviceStep (service : LoginService) : ServiceCall ke → ServiceAnswer ke × LoginService
  | .beginLogin context rng request credentialFile credentialIdentifier clientIdentifier
      serverIdentifier =>
    let (result, service) := service.beginLogin ke context rng request credentialFile
      credentialIdentifier clientIdentifier serverIdentifier
    (.begun result, service)
  | .finishLogin context finalization handle =>
    let (outcome, service) := service.finishLogin ke context finalization handle
    (.finished outcome, service)

abbrev ServiceTrace (ke : OpaqueKe) := List (ServiceCall ke × ServiceAnswer ke)

/-- Call `j` of the run is a `begin_login` with these identifiers that returned `handle`. -/
def IssuedAt (answers : ServiceTrace ke) (j : ℕ) (handle : LoginStateHandle)
    (clientIdentifier serverIdentifier : Bytes) : Prop :=
  ∃ context rng request credentialFile credentialIdentifier response,
    answers[j]? = some (.beginLogin context rng request credentialFile credentialIdentifier
      clientIdentifier serverIdentifier, .begun (some (.ok (response, handle))))

/-- Call `j` of the run is a `finish_login` on `handle` with this outcome. -/
def FinishAt (answers : ServiceTrace ke) (j : ℕ) (handle : LoginStateHandle)
    (outcome : FinishOutcome ke) : Prop :=
  ∃ context finalization,
    answers[j]? = some (.finishLogin context finalization handle, .finished outcome)

/-- Call `j` of the run is a `finish_login` that took the state of `handle`. -/
def TookAt (answers : ServiceTrace ke) (j : ℕ) (handle : LoginStateHandle) : Prop :=
  ∃ outcome, FinishAt answers j handle outcome ∧ outcome.taken.isSome

/-- An entry present after a call was there before it, or the call is the `begin_login` that
    returned its handle and bound its identifiers. -/
theorem serviceStep_appears {service : LoginService} {call : ServiceCall ke}
    {handle : LoginStateHandle} {entry : Entry}
    (hafter : (serviceStep service call).2.map.lookup handle = some entry) :
    service.map.lookup handle = some entry ∨
      ∃ context rng request credentialFile credentialIdentifier clientIdentifier serverIdentifier
        response bound,
        call = .beginLogin context rng request credentialFile credentialIdentifier
          clientIdentifier serverIdentifier ∧
        (serviceStep service call).1 = .begun (some (.ok (response, handle))) ∧
        entry = ⟨context.now + service.stateStore.ttl, .bound bound⟩ ∧
        bound.clientIdentifier = clientIdentifier ∧ bound.serverIdentifier = serverIdentifier := by
  cases call with
  -- An entry can only come from a start whose insertion answered this handle.
  | beginLogin context rng request credentialFile credentialIdentifier clientIdentifier
      serverIdentifier =>
    rcases service.beginLogin_cases ke context rng request credentialFile credentialIdentifier
        clientIdentifier serverIdentifier with
      ⟨e, hout⟩ | ⟨response, bound, _, _, hclient, hserver, hservice, hanswer⟩
    · simp only [serviceStep, hout] at hafter
      exact .inl hafter
    · simp only [serviceStep, hservice, ServerAuthService.map] at hafter ⊢
      obtain ⟨_, _, heffect⟩ := service.stateStore.insertBound_cases context bound
      rcases heffect with ⟨e, _, hmap, _⟩ | ⟨_, hmap⟩ | ⟨handle', hinserted, _, _, hmap⟩
      · rw [hmap] at hafter
        exact .inl hafter
      · rw [hmap] at hafter
        exact .inl (lookup_purgeExpired.mp hafter).1
      · rw [hmap, KeyedMap.lookup_insert_ite] at hafter
        split at hafter
        · next heq =>
          subst heq
          cases hafter
          rw [hinserted] at hanswer
          rcases hanswer with ⟨_, hne⟩ | ⟨e, _, hne⟩ | ⟨_, hout, hsame⟩
          · cases hne
          · cases hne
          · cases hsame
            exact .inr ⟨context, rng, request, credentialFile, credentialIdentifier,
              clientIdentifier, serverIdentifier, response, bound, rfl, by rw [hout], rfl, hclient,
              hserver⟩
        · exact .inl (lookup_purgeExpired.mp hafter).1
  -- A finish only takes entries out.
  | finishLogin context finalization handle' =>
    rcases service.finishLogin_cases ke context finalization handle' with
      ⟨_, e, hout⟩ | ⟨_, hservice, _⟩
    · simp only [serviceStep, hout] at hafter
      exact .inl hafter
    · simp only [serviceStep, hservice, ServerAuthService.map] at hafter ⊢
      obtain ⟨_, _, heffect⟩ := service.stateStore.takeBound_cases context handle'
      rcases heffect with ⟨hmap, _⟩ | ⟨_, hmap, _⟩ | ⟨entry', state, _, _, _, _, hmap⟩
      · rw [hmap] at hafter
        exact .inl hafter
      · rw [hmap, KeyedMap.lookup_erase_ite] at hafter
        split at hafter
        · cases hafter
        · exact .inl hafter
      · rw [hmap, KeyedMap.lookup_erase_ite] at hafter
        split at hafter
        · cases hafter
        · exact .inl hafter

/-- A `finish_login` that takes a state takes the unexpired one pending under its handle,
    removes it, and finishes it with the identifiers stored beside it. -/
theorem serviceStep_takes {service : LoginService} {context : CallContext}
    {finalization : AuthEnvelope} {handle : LoginStateHandle} {pending : BoundLoginState}
    (htaken : (service.finishLogin ke context finalization handle).1.taken = some pending) :
    (∃ expiresAt, service.map.lookup handle = some ⟨expiresAt, .bound pending⟩ ∧
        context.now < expiresAt) ∧
      (service.finishLogin ke context finalization handle).2.map.lookup handle = none ∧
      ∀ call, (service.finishLogin ke context finalization handle).1.finishCall = some call →
        call.clientIdentifier = pending.clientIdentifier ∧
          call.serverIdentifier = pending.serverIdentifier := by
  rcases service.finishLogin_cases ke context finalization handle with
    ⟨_, e, hout⟩ | ⟨_, hservice, ⟨hnone, _⟩ | ⟨pending', htook, htaken', hcall⟩⟩
  · rw [hout] at htaken
    cases htaken
  · rw [hnone] at htaken
    cases htaken
  · rw [htaken', Option.some.injEq] at htaken
    subst htaken
    obtain ⟨_, _, heffect⟩ := service.stateStore.takeBound_cases context handle
    -- A taken state was a live entry of the bound kind; it is gone behind the call.
    rcases heffect with ⟨_, ⟨e, hres⟩ | ⟨hres, _⟩⟩ | ⟨hres, _⟩ |
      ⟨entry, state, hres, hentry, hlive, hselect, hmap⟩
    · rw [hres] at htook
      cases htook
    · rw [hres] at htook
      cases htook
    · rw [hres] at htook
      cases htook
    · rw [hres] at htook
      cases htook
      obtain ⟨expiresAt, stored⟩ := entry
      cases stored with
      | unbound state => cases hselect
      | bound state =>
        cases hselect
        refine ⟨⟨expiresAt, hentry, hlive⟩, ?_, hcall⟩
        simp only [hservice, ServerAuthService.map]
        rw [hmap, AList.lookup_erase]

/-! ## The service as a one-time ledger of identifiers -/

open Machine.Ledger in
/-- The ledger event of an answered call: `begin_login` issues its identifiers under the
    returned handle, a `finish_login` that takes a state redeems the identifiers it took. -/
def serviceEvent (ttl : ℕ) :
    ServiceCall ke → ServiceAnswer ke → Event LoginStateHandle (Bytes × Bytes)
  | .beginLogin context _ _ _ _ clientIdentifier serverIdentifier,
      .begun (some (.ok (_, handle))) =>
    .issue handle (clientIdentifier, serverIdentifier) (context.now + ttl)
  | .finishLogin context _ handle, .finished outcome =>
    match outcome.taken with
    | some pending =>
      .redeem handle (pending.clientIdentifier, pending.serverIdentifier) context.now
    | none => .quiet
  | _, _ => .quiet

/-- The identifiers pending under a handle, with their expiry. -/
def pendingIdentifiers (service : LoginService) (handle : LoginStateHandle) :
    Option ((Bytes × Bytes) × ℕ) :=
  (service.map.lookup handle).bind fun entry =>
    entry.state.asBound.map fun bound =>
      ((bound.clientIdentifier, bound.serverIdentifier), entry.expiresAt)

theorem pendingIdentifiers_eq_some {service : LoginService} {handle : LoginStateHandle}
    {ids : Bytes × Bytes} {expiresAt : ℕ} :
    pendingIdentifiers service handle = some (ids, expiresAt) ↔
      ∃ bound : BoundLoginState, service.map.lookup handle = some ⟨expiresAt, .bound bound⟩ ∧
        ids = (bound.clientIdentifier, bound.serverIdentifier) := by
  unfold pendingIdentifiers
  cases service.map.lookup handle with
  | none => simp
  | some entry =>
    obtain ⟨e, stored⟩ := entry
    cases stored <;> simp [StoredState.asBound, eq_comm, and_comm]

/-- What no call changes: the configuration of the service and of its store. -/
structure SameConfig (service₀ service : LoginService) : Prop where
  serverKeyId_eq : service.serverKeyId = service₀.serverKeyId
  acceptedServerKeyIds_eq : service.acceptedServerKeyIds = service₀.acceptedServerKeyIds
  ttl_eq : service.stateStore.ttl = service₀.stateStore.ttl

theorem SameConfig.refl (service : LoginService) : SameConfig service service := ⟨rfl, rfl, rfl⟩

theorem SameConfig.step {service₀ service : LoginService} (h : SameConfig service₀ service)
    (call : ServiceCall ke) : SameConfig service₀ (serviceStep service call).2 := by
  cases call with
  | beginLogin context rng request credentialFile credentialIdentifier clientIdentifier
      serverIdentifier =>
    rcases service.beginLogin_cases ke context rng request credentialFile credentialIdentifier
        clientIdentifier serverIdentifier with
      ⟨e, hout⟩ | ⟨response, bound, _, _, _, _, hservice, _⟩
    · simp only [serviceStep, hout]
      exact h
    · simp only [serviceStep, hservice]
      obtain ⟨_, httl, _⟩ := service.stateStore.insertBound_cases context bound
      exact ⟨h.serverKeyId_eq, h.acceptedServerKeyIds_eq, httl.trans h.ttl_eq⟩
  | finishLogin context finalization handle =>
    rcases service.finishLogin_cases ke context finalization handle with
      ⟨_, e, hout⟩ | ⟨_, hservice, _⟩
    · simp only [serviceStep, hout]
      exact h
    · simp only [serviceStep, hservice]
      obtain ⟨_, httl, _⟩ := service.stateStore.takeBound_cases context handle
      exact ⟨h.serverKeyId_eq, h.acceptedServerKeyIds_eq, httl.trans h.ttl_eq⟩

/-- A redemption is a `finish_login` that took a state. -/
theorem serviceEvent_eq_redeem {ttl : ℕ} {call : ServiceCall ke} {answer : ServiceAnswer ke}
    {handle : LoginStateHandle} {ids : Bytes × Bytes} {now : ℕ}
    (h : serviceEvent ttl call answer = .redeem handle ids now) :
    ∃ context finalization outcome pending,
      call = .finishLogin context finalization handle ∧ answer = .finished outcome ∧
        outcome.taken = some pending ∧ now = context.now ∧
        ids = (pending.clientIdentifier, pending.serverIdentifier) := by
  unfold serviceEvent at h
  split at h
  · cases h
  · next context finalization handle' outcome =>
    split at h
    · next pending htaken =>
      cases h
      exact ⟨context, finalization, outcome, pending, rfl, rfl, htaken, rfl, rfl⟩
    · cases h
  · cases h

/-- An issue is a `begin_login` that returned the handle. -/
theorem serviceEvent_eq_issue {ttl : ℕ} {call : ServiceCall ke} {answer : ServiceAnswer ke}
    {handle : LoginStateHandle} {ids : Bytes × Bytes} {expiresAt : ℕ}
    (h : serviceEvent ttl call answer = .issue handle ids expiresAt) :
    ∃ context rng request credentialFile credentialIdentifier response,
      call = .beginLogin context rng request credentialFile credentialIdentifier ids.1 ids.2 ∧
        answer = .begun (some (.ok (response, handle))) := by
  unfold serviceEvent at h
  split at h
  · next context rng request file identifier client server response handle' =>
    cases h
    exact ⟨context, rng, request, file, identifier, response, rfl, rfl⟩
  · split at h <;> cases h
  · cases h

/-- **The login flow refines the one-time ledger of identifiers.** -/
theorem serviceStep_refines_ledger (service₀ : LoginService) :
    Machine.Ledger.Refinement (@serviceStep ke)
      (serviceEvent service₀.stateStore.ttl) pendingIdentifiers (SameConfig service₀) where
  inv service call h := h.step call
  -- An entry appears by the start that answers its handle.
  appears := by
    intro service call handle ids expiresAt hconfig hafter
    obtain ⟨bound, hlookup, rfl⟩ := pendingIdentifiers_eq_some.mp hafter
    rcases serviceStep_appears hlookup with hold | ⟨context, rng, request, file, identifier, client,
      server, response, bound', rfl, hanswer, hentry, rfl, rfl⟩
    · exact .inl (pendingIdentifiers_eq_some.mpr ⟨bound, hold, rfl⟩)
    · cases hentry
      rw [hanswer, ← hconfig.ttl_eq]
      exact .inr rfl
  -- A finish that takes a state takes a live entry.
  redeems := by
    intro service call handle ids now hconfig hevent
    obtain ⟨context, finalization, outcome, pending, rfl, hanswer, htaken, rfl, rfl⟩ :=
      serviceEvent_eq_redeem hevent
    cases hanswer
    obtain ⟨⟨expiresAt, hlookup, hlive⟩, _, _⟩ := serviceStep_takes htaken
    exact ⟨expiresAt, pendingIdentifiers_eq_some.mpr ⟨pending, hlookup, rfl⟩, hlive⟩
  removes := by
    intro service call handle ids now hconfig hevent
    obtain ⟨context, finalization, outcome, pending, rfl, hanswer, htaken, rfl, rfl⟩ :=
      serviceEvent_eq_redeem hevent
    cases hanswer
    obtain ⟨_, hgone, _⟩ := serviceStep_takes htaken
    unfold pendingIdentifiers
    simp only [serviceStep, hgone, Option.bind_none]

/-! ## The login flow over every run -/

/-- The answered calls of a run. -/
def serviceTrace (service : LoginService) (calls : List (ServiceCall ke)) : ServiceTrace ke :=
  Machine.trace serviceStep service calls

/-- The service after the first `j` calls of a run. -/
def serviceAfter (service : LoginService) (calls : List (ServiceCall ke)) (j : ℕ) :
    LoginService :=
  Machine.run serviceStep service (calls.take j)

theorem serviceAfter_config (service : LoginService) (calls : List (ServiceCall ke)) (j : ℕ) :
    SameConfig service (serviceAfter service calls j) :=
  Machine.run_invariant serviceStep (P := SameConfig service) (fun _ call h => h.step call)
    (SameConfig.refl service) (calls.take j)

/-- Call `j` of a run is the step taken in the state after the first `j` calls. -/
theorem serviceTrace_getElem? {service : LoginService} {calls : List (ServiceCall ke)} {j : ℕ}
    {call : ServiceCall ke} {answer : ServiceAnswer ke}
    (h : (serviceTrace service calls)[j]? = some (call, answer)) :
    serviceStep (serviceAfter service calls j) call =
      (answer, serviceAfter service calls (j + 1)) := by
  obtain ⟨hcall, hanswer⟩ := Machine.trace_getElem?_eq_some _ h
  exact Prod.ext hanswer.symm (Machine.run_take_succ _ hcall).symm

/-- `finish_login` at position `j`, as a step. -/
theorem finishLogin_of_trace {service : LoginService} {calls : List (ServiceCall ke)} {j : ℕ}
    {context : CallContext} {finalization : AuthEnvelope} {handle : LoginStateHandle}
    {outcome : FinishOutcome ke}
    (h : (serviceTrace service calls)[j]? =
      some (.finishLogin context finalization handle, .finished outcome)) :
    (serviceAfter service calls j).finishLogin ke context finalization handle =
      (outcome, serviceAfter service calls (j + 1)) := by
  have hstep := serviceTrace_getElem? h
  simp only [serviceStep, Prod.mk.injEq, ServiceAnswer.finished.injEq] at hstep
  exact Prod.ext hstep.1 hstep.2

/-- The event list of a run, position by position. -/
private theorem serviceEvents_getElem? (service : LoginService) (calls : List (ServiceCall ke))
    (ttl j : ℕ) :
    (Machine.Ledger.events (serviceEvent ttl) serviceStep service calls)[j]? =
      (serviceTrace service calls)[j]?.map fun p => serviceEvent ttl p.1 p.2 := by
  unfold Machine.Ledger.events serviceTrace
  rw [List.getElem?_map]

/-- A `finish_login` that took a state shows as a redemption. -/
private theorem redeem_of_tookAt {service : LoginService} {calls : List (ServiceCall ke)}
    {ttl j : ℕ} {handle : LoginStateHandle} {outcome : FinishOutcome ke}
    {pending : BoundLoginState} (h : FinishAt (serviceTrace service calls) j handle outcome)
    (htaken : outcome.taken = some pending) :
    ∃ now, (Machine.Ledger.events (serviceEvent ttl) serviceStep service calls)[j]? =
      some (.redeem handle (pending.clientIdentifier, pending.serverIdentifier) now) := by
  obtain ⟨context, finalization, hget⟩ := h
  refine ⟨context.now, ?_⟩
  rw [serviceEvents_getElem?, hget]
  simp only [Option.map_some, serviceEvent, htaken]

/-- Every `finish_login` that takes a state is charged to its own `begin_login`, which returned
    the handle and was given the identifiers the state is finished with. -/
theorem finishes_charged_once {service : LoginService}
    (hempty : ∀ handle, service.map.lookup handle = none) (calls : List (ServiceCall ke)) :
    ∃ source : ℕ → ℕ,
      (∀ j handle outcome pending, FinishAt (serviceTrace service calls) j handle outcome →
        outcome.taken = some pending →
        source j < j ∧ IssuedAt (serviceTrace service calls) (source j) handle
          pending.clientIdentifier pending.serverIdentifier) ∧
      Set.InjOn source {j | ∃ handle, TookAt (serviceTrace service calls) j handle} := by
  have hpending : ∀ handle, pendingIdentifiers service handle = none := by
    intro handle
    unfold pendingIdentifiers
    rw [hempty, Option.bind_none]
  -- The service refines a ledger, which pays each redemption by one issue.
  obtain ⟨source, hpaid, hinj⟩ := Machine.Ledger.redeemsOnce_of_refinement
    (serviceStep_refines_ledger service) (SameConfig.refl service) hpending calls
  refine ⟨source, ?_, ?_⟩
  · intro j handle outcome pending hfinish htaken
    obtain ⟨now, hredeem⟩ := redeem_of_tookAt hfinish htaken
    obtain ⟨hlt, expiresAt, hissue, _⟩ := hpaid j _ _ _ hredeem
    refine ⟨hlt, ?_⟩
    rw [serviceEvents_getElem?, Option.map_eq_some_iff] at hissue
    obtain ⟨⟨call, answer⟩, hget, hevent⟩ := hissue
    obtain ⟨context, rng, request, file, identifier, response, rfl, rfl⟩ :=
      serviceEvent_eq_issue hevent
    exact ⟨context, rng, request, file, identifier, response, hget⟩
  · apply hinj.mono
    rintro j ⟨handle, outcome, hfinish, htaken⟩
    obtain ⟨pending, hpending⟩ := Option.isSome_iff_exists.mp htaken
    obtain ⟨now, hredeem⟩ := redeem_of_tookAt hfinish hpending
    exact ⟨handle, _, now, hredeem⟩

/-- A handle whose state was taken finishes nothing until a `begin_login` returns it again. -/
theorem finish_fails_after_take {service : LoginService} {calls : List (ServiceCall ke)}
    {j k : ℕ} {handle : LoginStateHandle} {outcome : FinishOutcome ke} (hjk : j < k)
    (htook : TookAt (serviceTrace service calls) j handle)
    (hreissue : ∀ i client server, j < i → i < k →
      ¬ IssuedAt (serviceTrace service calls) i handle client server)
    (hfinish : FinishAt (serviceTrace service calls) k handle outcome) :
    outcome.taken = none ∧ outcome.finishCall = none ∧ ∃ e, outcome.result = .error e := by
  obtain ⟨outcomeⱼ, ⟨contextⱼ, finalizationⱼ, hgetⱼ⟩, htaken⟩ := htook
  obtain ⟨context, finalization, hget⟩ := hfinish
  have hstepⱼ := finishLogin_of_trace hgetⱼ
  have hstep := finishLogin_of_trace hget
  -- Right after the take the handle is vacant; no call before `k` fills it again.
  have hvacant : (serviceAfter service calls k).map.lookup handle = none := by
    have hk : k ≤ calls.length := by
      have := (List.getElem?_eq_some_iff.mp hget).1
      rw [serviceTrace, Machine.length_trace] at this
      exact Nat.le_of_lt this
    refine Machine.run_take_window serviceStep
      (P := fun service : LoginService => service.map.lookup handle = none) hjk hk ?_ ?_
    · obtain ⟨pending, hpending⟩ := Option.isSome_iff_exists.mp htaken
      have hgone := (serviceStep_takes (by rw [hstepⱼ]; exact hpending)).2.1
      rw [hstepⱼ] at hgone
      exact hgone
    · intro n call hjn hnk hcall hnone
      cases hafter : (serviceStep (Machine.run serviceStep service (calls.take n)) call).2.map.lookup
          handle with
      | none => rfl
      | some entry =>
        rcases serviceStep_appears hafter with hold | ⟨context', rng, request, file, identifier,
          client, server, response, bound, rfl, hanswer, _⟩
        · rw [hnone] at hold
          cases hold
        · have hgetₙ := Machine.trace_getElem?_of_getElem? serviceStep (s := service) hcall
          rw [hanswer] at hgetₙ
          exact absurd ⟨context', rng, request, file, identifier, response, hgetₙ⟩
            (hreissue n client server hjn hnk)
  cases htakenₖ : outcome.taken with
  | some pending =>
    obtain ⟨⟨_, hlookup, _⟩, _⟩ := serviceStep_takes (by rw [hstep]; exact htakenₖ)
    rw [hvacant] at hlookup
    cases hlookup
  | none =>
    rcases (serviceAfter service calls k).finishLogin_cases ke context finalization handle with
      ⟨_, e, hout⟩ | ⟨_, _, ⟨_, hcall, hresult, _⟩ | ⟨pending, _, hsome, _⟩⟩
    · rw [hstep, Prod.mk.injEq] at hout
      rw [hout.1]
      exact ⟨rfl, rfl, _, rfl⟩
    · rw [hstep] at hcall hresult
      exact ⟨rfl, hcall, hresult⟩
    · rw [hstep, htakenₖ] at hsome
      cases hsome

/-- A `finish_login` whose envelope is not for this endpoint and the active key changes nothing. -/
theorem refused_finish_keeps_service {service : LoginService} {calls : List (ServiceCall ke)}
    {j : ℕ} {context : CallContext} {finalization : AuthEnvelope} {handle : LoginStateHandle}
    {outcome : FinishOutcome ke}
    (hget : (serviceTrace service calls)[j]? =
      some (.finishLogin context finalization handle, .finished outcome))
    (hrefused : ¬ finalization.Accepted .credentialFinalization [service.serverKeyId]) :
    serviceAfter service calls (j + 1) = serviceAfter service calls j ∧
      ∃ e, outcome.result = .error (.auth e) := by
  have hstep := finishLogin_of_trace hget
  rw [← (serviceAfter_config service calls j).serverKeyId_eq] at hrefused
  rcases (serviceAfter service calls j).finishLogin_cases ke context finalization handle with
    ⟨_, e, hout⟩ | ⟨haccepted, _⟩
  · rw [hstep, Prod.mk.injEq] at hout
    exact ⟨hout.2, e, by rw [hout.1]⟩
  · exact absurd haccepted hrefused

/-- A successful `begin_login` carried an accepted key identifier and answers with the active
    one. -/
theorem begin_accepts_and_answers {service : LoginService} {calls : List (ServiceCall ke)}
    {j : ℕ} {context : CallContext} {rng : ke.Rng} {request response : AuthEnvelope}
    {credentialFile : Option CredentialFile}
    {credentialIdentifier clientIdentifier serverIdentifier : Bytes} {handle : LoginStateHandle}
    (hget : (serviceTrace service calls)[j]? =
      some (.beginLogin context rng request credentialFile credentialIdentifier clientIdentifier
        serverIdentifier, .begun (some (.ok (response, handle))))) :
    request.serverKeyId ∈ service.acceptedServerKeyIds ∧
      response.serverKeyId = service.serverKeyId := by
  have hconfig := serviceAfter_config service calls j
  have hstep := serviceTrace_getElem? hget
  simp only [serviceStep, Prod.mk.injEq, ServiceAnswer.begun.injEq] at hstep
  rcases (serviceAfter service calls j).beginLogin_cases ke context rng request credentialFile
      credentialIdentifier clientIdentifier serverIdentifier with
    ⟨e, hout⟩ | ⟨response', bound, haccepted, hkey, _, _, _, hanswer⟩
  · rw [hout] at hstep
    exact absurd hstep.1 (by simp)
  · rw [hstep.1] at hanswer
    rcases hanswer with ⟨hne, _⟩ | ⟨e, hne, _⟩ | ⟨handle', hsome, _⟩
    · cases hne
    · cases hne
    · cases hsome
      exact ⟨hconfig.acceptedServerKeyIds_eq ▸ haccepted.2.2.2,
        hkey.trans hconfig.serverKeyId_eq⟩

/-- A `begin_login` that does not succeed leaves no entry that was not there before. -/
theorem failed_begin_adds_nothing {service : LoginService} {calls : List (ServiceCall ke)}
    {j : ℕ} {call : ServiceCall ke}
    {result : Option (Except ServerAuthError (AuthEnvelope × LoginStateHandle))}
    (hget : (serviceTrace service calls)[j]? = some (call, .begun result))
    (hfailed : ∀ response, result ≠ some (.ok response)) {handle : LoginStateHandle}
    {entry : Entry} (hafter : (serviceAfter service calls (j + 1)).map.lookup handle = some entry) :
    (serviceAfter service calls j).map.lookup handle = some entry := by
  have hstep := serviceTrace_getElem? hget
  have happears := @serviceStep_appears ke (serviceAfter service calls j) call handle entry
  rw [hstep] at happears
  rcases happears hafter with hold | ⟨_, _, _, _, _, _, _, response, _, _, hanswer, _⟩
  · exact hold
  · rw [ServiceAnswer.begun.injEq] at hanswer
    exact absurd hanswer (hfailed _)

/-- **The login flow over every run**, for a service built by `new_with_key_rotation` over a
    fresh in-memory store, with arbitrary envelopes, handles, clock readings and draws.

    (a, c) Every `finish_login` that takes a state is charged to its own earlier `begin_login`,
    which returned that handle; if it reaches `server_login_finish`, it passes the client and
    server identifiers given to that `begin_login` and answers as that call does, and without the
    call it fails. As no two are charged to one `begin_login`, one that fails after the take
    leaves what was issued unusable for good: until the handle is drawn again, every
    `finish_login` on it fails.
    (b) A `finish_login` whose envelope has another version, suite or kind, or a key identifier
    other than the active one, leaves the service as it is.
    (d) `begin_login` succeeds only on one of the one to four distinct accepted identifiers and
    answers with the active one.
    (e) A `begin_login` that fails leaves no new entry. -/
theorem login_flow_run (instantMax start maxEntries ttl : ℕ) (store : InMemoryOneTimeLoginStore)
    (hstore : InMemoryOneTimeLoginStore.new instantMax start maxEntries ttl = .ok store)
    (setup : ServerSetupBytes) (active : String) (previous : List String)
    (service : LoginService)
    (hservice : ServerAuthService.newWithKeyRotation setup active previous store = .ok service)
    (calls : List (ServiceCall ke)) :
    (∃ source : ℕ → ℕ,
      (∀ j handle, TookAt (serviceTrace service calls) j handle →
        source j < j ∧
          ∃ client server, IssuedAt (serviceTrace service calls) (source j) handle client server) ∧
      (∀ j handle outcome call, FinishAt (serviceTrace service calls) j handle outcome →
        outcome.finishCall = some call →
        TookAt (serviceTrace service calls) j handle ∧
          IssuedAt (serviceTrace service calls) (source j) handle call.clientIdentifier
            call.serverIdentifier ∧
          outcome.result = (serverLoginFinish ke call.state call.finalization
            call.clientIdentifier call.serverIdentifier).mapError .auth) ∧
      (∀ j handle outcome, FinishAt (serviceTrace service calls) j handle outcome →
        outcome.finishCall = none → ∃ e, outcome.result = .error e) ∧
      Set.InjOn source {j | ∃ handle, TookAt (serviceTrace service calls) j handle}) ∧
    (∀ j k handle outcome, j < k → TookAt (serviceTrace service calls) j handle →
      (∀ i client server, j < i → i < k →
        ¬ IssuedAt (serviceTrace service calls) i handle client server) →
      FinishAt (serviceTrace service calls) k handle outcome →
      outcome.taken = none ∧ outcome.finishCall = none ∧ ∃ e, outcome.result = .error e) ∧
    (∀ (j : ℕ) context finalization handle outcome,
      (serviceTrace service calls)[j]? =
        some (.finishLogin context finalization handle, .finished outcome) →
      finalization.protocolVersion ≠ protocolVersion ∨ finalization.suiteId ≠ cipherSuiteId ∨
        finalization.messageKind ≠ .credentialFinalization ∨ finalization.serverKeyId ≠ active →
      serviceAfter service calls (j + 1) = serviceAfter service calls j ∧
        ∃ e, outcome.result = .error (.auth e)) ∧
    ((active :: previous).Nodup ∧ (active :: previous).length ≤ 4 ∧
      ∀ (j : ℕ) context rng request credentialFile credentialIdentifier client server response
        handle,
        (serviceTrace service calls)[j]? =
          some (.beginLogin context rng request credentialFile credentialIdentifier client server,
            .begun (some (.ok (response, handle)))) →
        request.serverKeyId ∈ active :: previous ∧ response.serverKeyId = active) ∧
    (∀ (j : ℕ) call result, (serviceTrace service calls)[j]? = some (call, .begun result) →
      (∀ response, result ≠ some (.ok response)) →
      ∀ handle entry, (serviceAfter service calls (j + 1)).map.lookup handle = some entry →
        (serviceAfter service calls j).map.lookup handle = some entry) := by
  obtain ⟨rfl, hnodup, hlength⟩ := ServerAuthService.newWithKeyRotation_eq_ok hservice
  obtain rfl := InMemoryOneTimeLoginStore.new_eq_ok hstore
  set service : LoginService := ⟨setup, active, active :: previous, Mutex.new ∅, maxEntries, ttl⟩
  have hempty : ∀ handle, service.map.lookup handle = none := fun _ => rfl
  obtain ⟨source, hcharged, hinj⟩ := finishes_charged_once hempty calls
  refine ⟨⟨source, ?_, ?_, ?_, hinj⟩, ?_, ?_, ⟨hnodup, hlength, ?_⟩, ?_⟩
  · rintro j handle ⟨outcome, hfinish, htaken⟩
    obtain ⟨pending, hpending⟩ := Option.isSome_iff_exists.mp htaken
    obtain ⟨hlt, hissued⟩ := hcharged j handle outcome pending hfinish hpending
    exact ⟨hlt, _, _, hissued⟩
  · intro j handle outcome call hfinish hcall
    have hfinish' := hfinish
    obtain ⟨context, finalization, hget⟩ := hfinish
    have hstep := finishLogin_of_trace hget
    have hresult := (ServerAuthService.finishLogin_result ke (serviceAfter _ calls j) context
      finalization handle).1 call (by rw [hstep]; exact hcall)
    rw [hstep] at hresult
    cases htaken : outcome.taken with
    | none =>
      -- Without a state in hand `server_login_finish` is out of reach.
      rcases ServerAuthService.finishLogin_cases ke (serviceAfter _ calls j) context finalization
          handle with ⟨_, e, hout⟩ | ⟨_, _, ⟨_, hnone, _⟩ | ⟨pending, _, hsome, _⟩⟩
      · rw [hstep, Prod.mk.injEq] at hout
        rw [hout.1] at hcall
        cases hcall
      · rw [hstep, hcall] at hnone
        cases hnone
      · rw [hstep, htaken] at hsome
        cases hsome
    | some pending =>
      obtain ⟨_, _, hids⟩ := serviceStep_takes (by rw [hstep]; exact htaken)
      obtain ⟨hclient, hserver⟩ := hids call (by rw [hstep]; exact hcall)
      refine ⟨⟨outcome, hfinish', Option.isSome_iff_exists.mpr ⟨pending, htaken⟩⟩, ?_, hresult⟩
      rw [hclient, hserver]
      exact (hcharged j handle outcome pending hfinish' htaken).2
  · rintro j handle outcome ⟨context, finalization, hget⟩ hnone
    have hstep := finishLogin_of_trace hget
    have hresult := (ServerAuthService.finishLogin_result ke (serviceAfter _ calls j) context
      finalization handle).2 (by rw [hstep]; exact hnone)
    rwa [hstep] at hresult
  · intro j k handle outcome hjk htook hreissue hfinish
    exact finish_fails_after_take hjk htook hreissue hfinish
  · intro j context finalization handle outcome hget hwrong
    refine refused_finish_keeps_service hget ?_
    rintro ⟨hversion, hsuite, hkind, hkey⟩
    rw [List.mem_singleton] at hkey
    rcases hwrong with h | h | h | h
    · exact h hversion
    · exact h hsuite
    · exact h hkind
    · exact h hkey
  · intro j context rng request credentialFile credentialIdentifier client server response handle
      hget
    exact begin_accepts_and_answers hget
  · intro j call result hget hfailed handle entry hafter
    exact failed_begin_adds_nothing hget hfailed hafter

/-- OPAQUE operations that accept every message and hand the request back. -/
def echoKe : OpaqueKe where
  Rng := Unit
  Setup := Bytes
  Registration := Bytes
  CredentialRequest := Bytes
  CredentialFinalization := Bytes
  ServerLogin := Bytes
  deserializeSetup := some
  deserializeRegistration := some
  deserializeCredentialRequest := some
  deserializeCredentialFinalization := some
  start _ _ _ request _ _ _ := some (request, request)
  finish state finalization _ _ := if state = finalization then some state else none
  serializeLogin := id
  deserializeLogin := some

/-- A service in rotation from `k1` to `k2`: a login begun with the previous identifier, a
    finish downgraded to it, a finish that fails after the take, and a retry; and a login that is
    finished at once. -/
theorem login_flow_run_rotated_key :
    let handle : LoginStateHandle := ⟨List.replicate 32 7, rfl⟩
    let context : CallContext := ⟨1000, 5, [handle]⟩
    let request : AuthEnvelope := ⟨1, cipherSuiteId, .credentialRequest, "k1", [1, 2], by decide,
      by decide, by decide⟩
    let downgraded : AuthEnvelope := ⟨1, cipherSuiteId, .credentialFinalization, "k1", [1, 2],
      by decide, by decide, by decide⟩
    let wrongProof : AuthEnvelope := ⟨1, cipherSuiteId, .credentialFinalization, "k2", [3],
      by decide, by decide, by decide⟩
    let finalization : AuthEnvelope := ⟨1, cipherSuiteId, .credentialFinalization, "k2", [1, 2],
      by decide, by decide, by decide⟩
    let store : InMemoryOneTimeLoginStore := { entries := Mutex.new ∅, maxEntries := 2, ttl := 10 }
    let service : LoginService := ⟨⟨[9]⟩, "k2", ["k2", "k1"], store⟩
    let calls : List (ServiceCall echoKe) :=
      [.beginLogin context () request none [1] [2] [3], .finishLogin context downgraded handle,
        .finishLogin context wrongProof handle, .finishLogin context finalization handle]
    let finished : List (ServiceCall echoKe) :=
      [.beginLogin context () request none [1] [2] [3], .finishLogin context finalization handle]
    InMemoryOneTimeLoginStore.new 1000 0 2 10 = .ok store ∧
      ServerAuthService.newWithKeyRotation ⟨[9]⟩ "k2" ["k1"] store = .ok service ∧
      serviceAfter service calls 2 = serviceAfter service calls 1 ∧
      TookAt (serviceTrace service calls) 2 handle ∧
      (∀ outcome, FinishAt (serviceTrace service calls) 3 handle outcome →
        ∃ e, outcome.result = .error e) ∧
      ∃ outcome call, FinishAt (serviceTrace service finished) 1 handle outcome ∧
        outcome.finishCall = some call ∧ outcome.result = .ok ⟨[1, 2]⟩ ∧
        (∃ j, IssuedAt (serviceTrace service finished) j handle call.clientIdentifier
          call.serverIdentifier) ∧
        outcome.result = (serverLoginFinish echoKe call.state call.finalization
          call.clientIdentifier call.serverIdentifier).mapError .auth := by
  intro handle context request downgraded wrongProof finalization store service calls finished
  have hstore : InMemoryOneTimeLoginStore.new 1000 0 2 10 = .ok store := rfl
  have hservice :
      ServerAuthService.newWithKeyRotation ⟨[9]⟩ "k2" ["k1"] store = .ok service := rfl
  -- The run in which the proof is refused spends the handle.
  obtain ⟨_, hspent, hrefused, _⟩ :=
    login_flow_run 1000 0 2 10 store hstore ⟨[9]⟩ "k2" ["k1"] service hservice calls
  -- The run that goes well hands the engine what was issued.
  obtain ⟨⟨_, -, hcalled, -⟩, -⟩ :=
    login_flow_run 1000 0 2 10 store hstore ⟨[9]⟩ "k2" ["k1"] service hservice finished
  have htook : TookAt (serviceTrace service calls) 2 handle := ⟨_, ⟨_, _, rfl⟩, rfl⟩
  have hfinish : FinishAt (serviceTrace service finished) 1 handle
      ⟨.ok ⟨[1, 2]⟩, some ⟨intoBytes echoKe [1, 2], [2], [3], by decide, by decide⟩,
        some ⟨[1, 2], ⟨[1, 2]⟩, [2], [3]⟩⟩ := ⟨_, _, rfl⟩
  obtain ⟨-, hissued, hresult⟩ := hcalled 1 handle _ _ hfinish rfl
  refine ⟨hstore, hservice, ?_, htook, ?_, _, _, hfinish, rfl, rfl, ⟨_, hissued⟩, hresult⟩
  · exact (hrefused 1 context downgraded handle _ rfl (.inr (.inr (.inr (by decide))))).1
  · intro outcome hfinished
    refine (hspent 2 3 handle outcome (by decide) htook ?_ hfinished).2.2
    intro i client server h2 h3
    omega

end SecureKeypad.Server
