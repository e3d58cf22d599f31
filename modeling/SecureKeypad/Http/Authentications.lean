import SecureKeypad.Http.RequestSteps

/-!
# Authentication over Every Run of Requests

What the OPAQUE routes come to together, for any number of requests that go on in any order: a
registration, the `login_start` that loads what it stored and the `login_finish` that completes it
are requests of different clients, tied by the two stores alone.

## Main results

- `records_grow`, `records_from`: the repository over a run
- `authentications_charged`: every success, charged to the step that began the login
- `authentication_run`: every authentication, traced back to its registration
-/

namespace SecureKeypad.Http

open Rust Auth Server Machine

namespace RequestWorld

variable {ke : OpaqueKe} {R : Type}

/-! ## Runs -/

/-- A login that was begun: the request and the step that loaded its credential file, what
    `begin_login` made of them and the handle it returned. -/
structure BegunLogin (ke : OpaqueKe) where
  starter : ℕ
  loadedAt : ℕ
  request : LoginStartRequest AuthEnvelope
  credential : Option CredentialFile
  environment : RequestEnvironment ke CallContext
  response : AuthEnvelope
  bound : BoundLoginState
  handle : LoginStateHandle

section Runs

variable [CredentialRepository R] (registration : OpaqueRegistration ke) (serde : SerdeJson)
  (arrivals : ℕ → Arrival) (start : LoginWorld R)
  (inputs : List (ℕ × RequestEnvironment ke CallContext))

/-- What the requests share, and where they stand, after the first `k` steps of a run. -/
def worldAt (k : ℕ) : LoginWorld R := run (resume registration serde arrivals) start (inputs.take k)

/-- Step `k` of the run answers request `n`, resumed in `environment`. -/
def AnsweredAt (k n : ℕ) (environment : RequestEnvironment ke CallContext)
    (response : HttpResponse) : Prop :=
  (trace (resume registration serde arrivals) start inputs)[k]? =
    some ((n, environment), some (some response))

/-- Step `k` answers the `registration_finish` that created the record `file` of `identifier`. -/
def RegisteredAt (k : ℕ) (identifier : Bytes) (file : CredentialFile) : Prop :=
  ∃ n environment request,
    AnsweredAt registration serde arrivals start inputs k n environment
      (staticResponse 200 registrationStoredResponse) ∧
    (arrivals n).request.path = registrationFinishPath ∧
    serde.readEnvelopeRequest (arrivals n).request.body = some request ∧
    asBytes request.identifier = identifier ∧
    finishRegistration registration start.router.service request.envelope = .ok file

/-- Step `k` answers the `login_start` that began this login, with its handle. -/
structure BegunAt (k : ℕ) (login : BegunLogin ke) : Prop where
  path : (arrivals login.starter).request.path = loginStartPath
  read : serde.readLoginStart (arrivals login.starter).request.body = some login.request
  loadedAt_lt : login.loadedAt < k
  loaded : CredentialRepository.load
    (worldAt registration serde arrivals start inputs login.loadedAt).router.repository
    (asBytes login.request.credentialIdentifier) = .ok login.credential
  prepared : (worldAt registration serde arrivals start inputs k).router.service.prepareLogin ke
    login.environment.rng login.request.envelope login.credential
    (asBytes login.request.credentialIdentifier) (asBytes login.request.clientIdentifier)
    (asBytes login.request.serverIdentifier) = .ok (login.response, login.bound)
  answered : AnsweredAt registration serde arrivals start inputs k login.starter login.environment
    ⟨200, jsonContentType, responseSecurityHeaders,
      toVec (loginStartJson login.response (encodeHandle login.handle))⟩

/-- Request `n`, resumed in `environment`, presents the handle of this login before it expires, and
    `server_login_finish` accepts its message on the state and the identifiers of the login. -/
structure Completes (n : ℕ) (environment : RequestEnvironment ke CallContext)
    (login : BegunLogin ke) : Prop where
  presented : ∃ request, serde.readLoginFinish (arrivals n).request.body = some request ∧
    decodeHandle request.handle = some login.handle ∧
    ∃ state key, login.bound.state.intoState ke = .ok state ∧
      serverLoginFinish ke state ⟨request.envelope.payload⟩ (asBytes login.request.clientIdentifier)
        (asBytes login.request.serverIdentifier) = .ok key
  unexpired : environment.context.now <
    login.environment.context.now + start.router.service.stateStore.ttl

variable {registration serde arrivals start inputs}

theorem step_of_answeredAt {k n : ℕ} {environment : RequestEnvironment ke CallContext}
    {response : HttpResponse}
    (h : AnsweredAt registration serde arrivals start inputs k n environment response) :
    (resume registration serde arrivals (worldAt registration serde arrivals start inputs k)
      (n, environment)).1 = some (some response) :=
  (trace_getElem?_eq_some _ h).2.symm

theorem worldAt_succ {k : ℕ} {input : ℕ × RequestEnvironment ke CallContext}
    (h : inputs[k]? = some input) :
    worldAt registration serde arrivals start inputs (k + 1) =
      (resume registration serde arrivals (worldAt registration serde arrivals start inputs k)
        input).2 :=
  run_take_succ _ h

/-- Past the end of a run nothing happens. -/
theorem worldAt_succ_of_none {k : ℕ} (h : inputs[k]? = none) :
    worldAt registration serde arrivals start inputs (k + 1) =
      worldAt registration serde arrivals start inputs k := by
  rw [worldAt, worldAt, List.take_add_one, h, Option.toList_none, List.append_nil]

theorem sameConfig_worldAt (k : ℕ) :
    SameConfig start.router.service
      (worldAt registration serde arrivals start inputs k).router.service :=
  run_invariant (resume registration serde arrivals)
    (P := fun world : LoginWorld R => SameConfig start.router.service world.router.service)
    (fun _ input h => sameConfig_resume input h) (SameConfig.refl _) _

theorem sound_worldAt (hnew : ∀ n, start.progress n = .arrived) (k : ℕ) :
    Sound serde arrivals (worldAt registration serde arrivals start inputs k) := by
  refine run_invariant (resume registration serde arrivals) (P := Sound (R := R) serde arrivals)
    (fun _ input h => sound_resume input h) ?_ _
  intro n request credential h
  rw [hnew n] at h
  cases h

/-- A request between its halves was loaded by an earlier step. -/
theorem loaded_before (hnew : ∀ n, start.progress n = .arrived) {k n : ℕ}
    {request : LoginStartRequest AuthEnvelope} {credential : Option CredentialFile}
    (h : (worldAt registration serde arrivals start inputs k).progress n =
      .loaded request credential) :
    ∃ j < k, CredentialRepository.load
      (worldAt registration serde arrivals start inputs j).router.repository
      (asBytes request.credentialIdentifier) = .ok credential := by
  induction k with
  | zero =>
    rw [worldAt, List.take_zero, run_nil, hnew n] at h
    cases h
  | succ k ih =>
    cases hinput : inputs[k]? with
    | none =>
      rw [worldAt_succ_of_none hinput] at h
      obtain ⟨j, hj, hload⟩ := ih h
      exact ⟨j, hj.trans (Nat.lt_succ_self k), hload⟩
    | some input =>
      obtain ⟨m, environment⟩ := input
      rw [worldAt_succ hinput] at h
      rcases loaded_of_resume h with hold | ⟨-, -, -, hload⟩
      · obtain ⟨j, hj, hload⟩ := ih hold
        exact ⟨j, hj.trans (Nat.lt_succ_self k), hload⟩
      · exact ⟨k, Nat.lt_succ_self k, hload⟩

/-! ## The repository over a run -/

section Records

variable {records : R → Bytes → Option CredentialFile} (hkeeps : KeepsRecords records)
  (hnew : ∀ n, start.progress n = .arrived)

include hkeeps hnew

/-- **Records are never replaced or removed.** -/
theorem records_grow {j k : ℕ} (hjk : j ≤ k) {identifier : Bytes} {file : CredentialFile}
    (h : records (worldAt registration serde arrivals start inputs j).router.repository identifier =
      some file) :
    records (worldAt registration serde arrivals start inputs k).router.repository identifier =
      some file := by
  induction k, hjk using Nat.le_induction with
  | base => exact h
  | succ k _ ih =>
    cases hinput : inputs[k]? with
    | none => rwa [worldAt_succ_of_none hinput]
    | some input =>
      obtain ⟨n, environment⟩ := input
      rw [worldAt_succ hinput]
      rcases resume_records hkeeps (sound_worldAt hnew k) n environment with
        ⟨hsame, -⟩ | ⟨request, created, -, -, -, -, hnone, hupdate⟩
      · rwa [hsame]
      · -- The identifier that gets a record had none, so it is another one.
        have hne : identifier ≠ asBytes request.identifier := by
          rintro rfl
          rw [ih] at hnone
          cases hnone
        rw [hupdate, Function.update_of_ne hne]
        exact ih

/-- **Every record** was there from the start or comes from a registration of the run. -/
theorem records_from {k : ℕ} {identifier : Bytes} {file : CredentialFile}
    (h : records (worldAt registration serde arrivals start inputs k).router.repository identifier =
      some file) :
    records start.router.repository identifier = some file ∨
      ∃ r < k, RegisteredAt registration serde arrivals start inputs r identifier file := by
  induction k with
  | zero => exact .inl h
  | succ k ih =>
    -- A registration that lies further back is still one.
    have hlater : (records start.router.repository identifier = some file ∨
        ∃ r < k, RegisteredAt registration serde arrivals start inputs r identifier file) →
        records start.router.repository identifier = some file ∨
          ∃ r < k + 1, RegisteredAt registration serde arrivals start inputs r identifier file := by
      rintro (hstart | ⟨r, hr, hregistered⟩)
      · exact .inl hstart
      · exact .inr ⟨r, hr.trans (Nat.lt_succ_self k), hregistered⟩
    cases hinput : inputs[k]? with
    | none =>
      rw [worldAt_succ_of_none hinput] at h
      exact hlater (ih h)
    | some input =>
      obtain ⟨n, environment⟩ := input
      rw [worldAt_succ hinput] at h
      rcases resume_records hkeeps (sound_worldAt hnew k) n environment with
        ⟨hsame, -⟩ | ⟨request, created, hpath, hread, hfinish, hanswer, -, hupdate⟩
      · rw [hsame] at h
        exact hlater (ih h)
      · rw [hupdate, Function.update_apply] at h
        split_ifs at h with hidentifier
        · cases h
          refine .inr ⟨k, Nat.lt_succ_self k, n, environment, request, ?_, hpath, hread,
            hidentifier.symm, ?_⟩
          · rw [AnsweredAt, trace_getElem?_of_getElem? _ hinput]
            exact congrArg (fun answer => some ((n, environment), answer)) hanswer
          · -- Only the key identifier of the service matters, and no step changes it.
            have hconfig : SameConfig start.router.service
                (worldAt registration serde arrivals start inputs k).router.service :=
              sameConfig_worldAt k
            rw [finishRegistration, ← hconfig.serverKeyId_eq]
            exact hfinish
        · exact hlater (ih h)

/-- A registration finds no record and leaves one. -/
theorem records_of_registeredAt {k : ℕ} {identifier : Bytes} {file : CredentialFile}
    (h : RegisteredAt registration serde arrivals start inputs k identifier file) :
    records (worldAt registration serde arrivals start inputs k).router.repository identifier =
        none ∧
      records (worldAt registration serde arrivals start inputs (k + 1)).router.repository
        identifier = some file := by
  obtain ⟨n, environment, request, hanswered, hpath, hread, rfl, hfinish⟩ := h
  have hinput := (trace_getElem?_eq_some _ hanswered).1
  rw [worldAt_succ hinput]
  rcases resume_records hkeeps (sound_worldAt hnew k) n environment with
    ⟨-, hrefused⟩ | ⟨request', file', -, hread', hfinish', -, hnone, hupdate⟩
  · exact absurd rfl (hrefused hpath _ (step_of_answeredAt hanswered))
  · cases hread.symm.trans hread'
    rw [finishRegistration, (sameConfig_worldAt k).serverKeyId_eq] at hfinish'
    rw [finishRegistration, hfinish'] at hfinish
    cases hfinish
    exact ⟨hnone, by rw [hupdate, Function.update_self]⟩

end Records

/-! ## Logins without a record -/

/-- What `opaque_ke` is relied on for where the account is unknown: a login state that is read back
    is the one that was written, and one that began without a record finishes no login. -/
structure EndsDummies (ke : OpaqueKe) : Prop where
  deserialize_serialize : ∀ state state',
    ke.deserializeLogin (ke.serializeLogin state) = some state' → state' = state
  dummy : ∀ rng setup request credentialIdentifier clientIdentifier serverIdentifier message state,
    ke.start rng setup none request credentialIdentifier clientIdentifier serverIdentifier =
      some (message, state) →
    ∀ finalization client server, ke.finish state finalization client server = none

theorem decodeServerLoginState_package {serialized bytes : Bytes}
    (h : decodeServerLoginState (packageServerLoginState serialized).bytes = .ok bytes) :
    bytes = serialized := by
  have hdrop : (packageServerLoginState serialized).bytes.drop (6 + cipherSuiteId.utf8ByteSize) =
      serialized := by
    have hheader : (serverLoginStateMagic ++
        [UInt8.ofNat (serverLoginStateVersion % 256),
          UInt8.ofNat (serverLoginStateVersion / 256)] ++
        asBytes cipherSuiteId).length = 6 + cipherSuiteId.utf8ByteSize := by
      rw [List.length_append]
      rfl
    rw [packageServerLoginState, ← hheader]
    exact List.drop_left
  unfold decodeServerLoginState at h
  simp only [hdrop] at h
  split_ifs at h
  cases h
  rfl

/-- The engine began what `server_login_start` answers. -/
theorem serverLoginStart_none {rng : ke.Rng} {setup : ServerSetupBytes} {request message : Message}
    {credentialIdentifier clientIdentifier serverIdentifier : Bytes} {state : ke.ServerLogin}
    (h : serverLoginStart ke rng setup none request credentialIdentifier clientIdentifier
      serverIdentifier = .ok (message, state)) :
    ∃ decoded credentialRequest started,
      ke.start rng decoded none credentialRequest credentialIdentifier clientIdentifier
        serverIdentifier = some (started, state) := by
  unfold serverLoginStart at h
  obtain ⟨-, -, h⟩ := tryOp_eq_ok.mp h
  obtain ⟨decoded, -, h⟩ := tryOp_eq_ok.mp h
  obtain ⟨file, hfile, h⟩ := tryOp_eq_ok.mp h
  cases hfile
  obtain ⟨credentialRequest, -, h⟩ := tryOp_eq_ok.mp h
  refine ⟨decoded, credentialRequest, ?_⟩
  cases hengine : ke.start rng decoded none credentialRequest credentialIdentifier
      clientIdentifier serverIdentifier with
  | none =>
    rw [hengine] at h
    cases h
  | some result =>
    rw [hengine] at h
    obtain ⟨result, hresult, h⟩ := tryOp_eq_ok.mp h
    cases hresult
    obtain ⟨sent, -, h⟩ := tryOp_eq_ok.mp h
    cases h
    exact ⟨result.1, rfl⟩

/-- A prepared login holds the state that `server_login_start` made, serialized. -/
theorem prepareLogin_state {S : Type} {service : ServerAuthService S} {rng : ke.Rng}
    {request response : AuthEnvelope} {credential : Option CredentialFile}
    {credentialIdentifier clientIdentifier serverIdentifier : Bytes} {bound : BoundLoginState}
    (h : service.prepareLogin ke rng request credential credentialIdentifier clientIdentifier
      serverIdentifier = .ok (response, bound)) :
    ∃ requestMessage responseMessage state,
      serverLoginStart ke rng service.setup credential requestMessage credentialIdentifier
        clientIdentifier serverIdentifier = .ok (responseMessage, state) ∧
      bound.state = intoBytes ke state := by
  unfold ServerAuthService.prepareLogin at h
  obtain ⟨requestMessage, -, h⟩ := tryOp_eq_ok.mp h
  obtain ⟨⟨responseMessage, state⟩, hstart, h⟩ := tryOp_eq_ok.mp h
  obtain ⟨envelope, -, h⟩ := tryOp_eq_ok.mp h
  obtain ⟨bound', hbound, h⟩ := tryOp_eq_ok.mp h
  cases h
  exact ⟨requestMessage, responseMessage, state, mapErr_eq_ok.mp hstart,
    (BoundLoginState.new_eq_ok (mapErr_eq_ok.mp hbound)).1⟩

/-- The engine finished what `server_login_finish` answers. -/
theorem serverLoginFinish_eq_ok {state : ke.ServerLogin} {message : Message}
    {client server : Bytes} {key : SecretOutput}
    (h : serverLoginFinish ke state message client server = .ok key) :
    ∃ finalization, ke.finish state finalization client server = some key.bytes := by
  unfold serverLoginFinish at h
  obtain ⟨-, -, h⟩ := tryOp_eq_ok.mp h
  obtain ⟨finalization, -, h⟩ := tryOp_eq_ok.mp h
  refine ⟨finalization, ?_⟩
  cases hengine : ke.finish state finalization client server with
  | none =>
    rw [hengine] at h
    cases h
  | some sessionKey =>
    rw [hengine] at h
    cases h
    rfl

/-- A login that is finished was begun on a record. -/
theorem credential_of_finish (hke : EndsDummies ke) {S : Type} {service : ServerAuthService S}
    {rng : ke.Rng} {request response : AuthEnvelope} {credential : Option CredentialFile}
    {credentialIdentifier clientIdentifier serverIdentifier client server : Bytes}
    {bound : BoundLoginState} {state : ke.ServerLogin} {message : Message} {key : SecretOutput}
    (hprepare : service.prepareLogin ke rng request credential credentialIdentifier clientIdentifier
      serverIdentifier = .ok (response, bound))
    (hstate : bound.state.intoState ke = .ok state)
    (hfinish : serverLoginFinish ke state message client server = .ok key) :
    credential ≠ none := by
  rintro rfl
  obtain ⟨requestMessage, responseMessage, begun, hstart, hbound⟩ := prepareLogin_state hprepare
  obtain ⟨decoded, credentialRequest, started, hengine⟩ := serverLoginStart_none hstart
  obtain ⟨finalization, hdone⟩ := serverLoginFinish_eq_ok hfinish
  -- The state that is finished is the one that `server_login_start` made.
  have hsame : state = begun := by
    rw [hbound, ServerLoginStateBytes.intoState, intoBytes] at hstate
    obtain ⟨bytes, hbytes, hstate⟩ := tryOp_eq_ok.mp hstate
    rw [decodeServerLoginState_package hbytes] at hstate
    cases hread : ke.deserializeLogin (ke.serializeLogin begun) with
    | none =>
      rw [hread] at hstate
      cases hstate
    | some read =>
      rw [hread] at hstate
      cases hstate
      exact hke.deserialize_serialize _ _ hread
  rw [hsame, hke.dummy _ _ _ _ _ _ _ _ hengine] at hdone
  cases hdone

end Runs

/-! ## Every authentication -/

/-- Step `k` answers a request on the route of `login_finish` with a success. -/
def AuthenticatedAt [CredentialRepository R] (registration : OpaqueRegistration ke)
    (serde : SerdeJson) (arrivals : ℕ → Arrival) (start : LoginWorld R)
    (inputs : List (ℕ × RequestEnvironment ke CallContext)) (k n : ℕ)
    (environment : RequestEnvironment ke CallContext) (response : HttpResponse) : Prop :=
  AnsweredAt registration serde arrivals start inputs k n environment response ∧
    (arrivals n).request.path = loginFinishPath ∧ response.status = 200

/-- The logins of a run, charged to the steps that began them. -/
theorem authentications_charged [CredentialRepository R] (registration : OpaqueRegistration ke)
    (serde : SerdeJson) (arrivals : ℕ → Arrival) {start : LoginWorld R}
    (hnew : ∀ n, start.progress n = .arrived)
    (hempty : ∀ handle, start.router.service.map.lookup handle = none)
    (inputs : List (ℕ × RequestEnvironment ke CallContext)) :
    ∃ source : ℕ → ℕ,
      (∀ k n environment response,
        AuthenticatedAt registration serde arrivals start inputs k n environment response →
        response = staticResponse 200 authenticatedResponse ∧ source k < k ∧
          ∃ login : BegunLogin ke,
            BegunAt registration serde arrivals start inputs (source k) login ∧
            Completes serde arrivals start n environment login) ∧
      Set.InjOn source {k | ∃ n environment response,
        AuthenticatedAt registration serde arrivals start inputs k n environment response} := by
  have hpending : ∀ handle, pendingState start handle = none := by
    intro handle
    rw [pendingState, hempty, Option.bind_none]
  obtain ⟨source, hpaid, hinj⟩ := Machine.Ledger.redeemsOnce_of_refinement
    (resume_refines_ledger registration serde arrivals start.router.service) (SameConfig.refl start.router.service)
      hpending inputs
  -- The event at a position of the run is that of the step taken there.
  have hevents : ∀ k input, inputs[k]? = some input →
      (Machine.Ledger.events (fun _ event => event)
        (fun world input => (eventOf serde arrivals world input,
          (resume registration serde arrivals world input).2)) start inputs)[k]? =
      some (eventOf serde arrivals (worldAt registration serde arrivals start inputs k) input) := by
    intro k input hinput
    rw [Machine.Ledger.events, List.getElem?_map, trace_getElem?_of_getElem? _ hinput]
    rfl
  have hredeemed : ∀ k n environment response,
      AuthenticatedAt registration serde arrivals start inputs k n environment response →
      response = staticResponse 200 authenticatedResponse ∧
      ∃ request handle pending state key,
        serde.readLoginFinish (arrivals n).request.body = some request ∧
        decodeHandle request.handle = some handle ∧
        (Machine.Ledger.events (fun _ event => event)
          (fun world input => (eventOf serde arrivals world input,
            (resume registration serde arrivals world input).2)) start inputs)[k]? =
          some (.redeem handle pending environment.context.now) ∧
        pending.state.intoState ke = .ok state ∧
        serverLoginFinish ke state ⟨request.envelope.payload⟩ pending.clientIdentifier
          pending.serverIdentifier = .ok key := by
    rintro k n environment response ⟨hanswered, hpath, hstatus⟩
    obtain ⟨hresponse, request, handle, pending, state, key, hread, hhandle, hevent, hstate, -,
      hfinish⟩ := authenticated_of_answer (sound_worldAt hnew k) (step_of_answeredAt hanswered)
        hpath hstatus
    refine ⟨hresponse, request, handle, pending, state, key, hread, hhandle, ?_, hstate, hfinish⟩
    rw [hevents k _ (trace_getElem?_eq_some _ hanswered).1, hevent]
  refine ⟨source, ?_, hinj.mono ?_⟩
  · intro k n environment response hauthenticated
    obtain ⟨hresponse, request, handle, pending, state, key, hread, hhandle, hredeem, hstate,
      hfinish⟩ := hredeemed k n environment response hauthenticated
    obtain ⟨hlt, expiresAt, hissue, hlive⟩ := hpaid k _ _ _ hredeem
    refine ⟨hresponse, hlt, ?_⟩
    have hbefore : source k < inputs.length := by
      have hk := (List.getElem?_eq_some_iff.mp (trace_getElem?_eq_some _ hauthenticated.1).1).1
      exact hlt.trans hk
    obtain ⟨⟨starter, begun⟩, hinput⟩ : ∃ input, inputs[source k]? = some input :=
      ⟨_, List.getElem?_eq_getElem hbefore⟩
    rw [hevents _ _ hinput, Option.some.injEq] at hissue
    obtain ⟨startRequest, credential, begunResponse, hprogress, hprepare, hexpires, hanswer⟩ :=
      begun_of_event registration hissue
    obtain ⟨hstartPath, hstartRead⟩ := sound_worldAt hnew _ _ _ _ hprogress
    obtain ⟨loadedAt, hloadedAt, hload⟩ := loaded_before hnew hprogress
    obtain ⟨-, -, hclient, hserver⟩ := ServerAuthService.prepareLogin_eq_ok ke hprepare
    refine ⟨⟨starter, loadedAt, startRequest, credential, begun, begunResponse, pending, handle⟩,
      ⟨hstartPath, hstartRead, hloadedAt, hload, hprepare, ?_⟩, ⟨?_, ?_⟩⟩
    · rw [AnsweredAt, trace_getElem?_of_getElem? _ hinput]
      exact congrArg (fun answer => some ((starter, begun), answer)) hanswer
    · refine ⟨request, hread, hhandle, state, key, hstate, ?_⟩
      rwa [← hclient, ← hserver]
    · rw [hexpires, (sameConfig_worldAt _).ttl_eq] at hlive
      exact hlive
  · rintro k ⟨n, environment, response, hauthenticated⟩
    obtain ⟨-, -, handle, pending, -, -, -, -, hredeem, -, -⟩ :=
      hredeemed k n environment response hauthenticated
    exact ⟨handle, pending, _, hredeem⟩

/-- **Authentication over every run** of requests, resumed in any order, to a router that was just
    built over the in-memory store and a repository that keeps its contract.

    Every success of a `login_finish` is charged to an earlier step, in which a `login_start` was
    answered with the handle that it presents, in time, and no two successes are charged to one.
    That `login_start` had loaded a credential file for its identifier, and `server_login_finish`
    accepted the message on the state and the identifiers it was begun with. The file was there from
    the start or was created before by a registration of the run, the only one for this identifier;
    and where the engine ends the logins of unknown accounts, there is one. -/
theorem authentication_run [CredentialRepository R] (registration : OpaqueRegistration ke)
    (serde : SerdeJson) {records : R → Bytes → Option CredentialFile}
    (hkeeps : KeepsRecords records) (instantMax now maxEntries ttl : ℕ)
    (store : InMemoryOneTimeLoginStore)
    (hstore : InMemoryOneTimeLoginStore.new instantMax now maxEntries ttl = .ok store)
    (setup : ServerSetupBytes) (active : String) (previous : List String) (service : LoginService)
    (hservice : ServerAuthService.newWithKeyRotation setup active previous store = .ok service)
    (repository : R) (arrivals : ℕ → Arrival)
    (inputs : List (ℕ × RequestEnvironment ke CallContext)) :
    let start : LoginWorld R := ⟨⟨service, repository⟩, fun _ => .arrived⟩
    (∃ source : ℕ → ℕ,
      (∀ k n environment response,
        AuthenticatedAt registration serde arrivals start inputs k n environment response →
        response = staticResponse 200 authenticatedResponse ∧ source k < k ∧
          ∃ login : BegunLogin ke,
            BegunAt registration serde arrivals start inputs (source k) login ∧
            Completes serde arrivals start n environment login ∧
            (∀ file, login.credential = some file →
              records repository (asBytes login.request.credentialIdentifier) = some file ∨
                ∃ r < login.loadedAt, RegisteredAt registration serde arrivals start inputs r
                  (asBytes login.request.credentialIdentifier) file) ∧
            (EndsDummies ke → login.credential ≠ none)) ∧
      Set.InjOn source {k | ∃ n environment response,
        AuthenticatedAt registration serde arrivals start inputs k n environment response}) ∧
    (∀ j k identifier file, j ≤ k →
      records (worldAt registration serde arrivals start inputs j).router.repository identifier =
        some file →
      records (worldAt registration serde arrivals start inputs k).router.repository identifier =
        some file) ∧
    ∀ j k identifier file file',
      RegisteredAt registration serde arrivals start inputs j identifier file →
      RegisteredAt registration serde arrivals start inputs k identifier file' →
        j = k ∧ file = file' ∧ records repository identifier = none := by
  intro start
  obtain ⟨rfl, -, -⟩ := ServerAuthService.newWithKeyRotation_eq_ok hservice
  obtain rfl := InMemoryOneTimeLoginStore.new_eq_ok hstore
  have hnew : ∀ n, start.progress n = .arrived := fun _ => rfl
  obtain ⟨source, hcharged, hinj⟩ := authentications_charged registration serde arrivals hnew
    (fun _ => rfl) inputs
  have hgrow : ∀ j k identifier file, j ≤ k →
      records (worldAt registration serde arrivals start inputs j).router.repository identifier =
        some file →
      records (worldAt registration serde arrivals start inputs k).router.repository identifier =
        some file :=
    fun j k identifier file hjk h => records_grow hkeeps hnew hjk h
  have horder : ∀ j k identifier file file',
      RegisteredAt registration serde arrivals start inputs j identifier file →
      RegisteredAt registration serde arrivals start inputs k identifier file' → ¬ j < k := by
    intro j k identifier file file' hj hk hlt
    -- The record of the first is still there when the second finds none.
    have hkept := hgrow (j + 1) k identifier file hlt (records_of_registeredAt hkeeps hnew hj).2
    rw [(records_of_registeredAt hkeeps hnew hk).1] at hkept
    cases hkept
  refine ⟨⟨source, ?_, hinj⟩, hgrow, ?_⟩
  · intro k n environment response hauthenticated
    obtain ⟨hresponse, hlt, login, hbegun, hcompletes⟩ :=
      hcharged k n environment response hauthenticated
    refine ⟨hresponse, hlt, login, hbegun, hcompletes, fun file hfile => ?_, fun hke => ?_⟩
    · have hload := hkeeps.load _ _ _ hbegun.loaded
      exact records_from hkeeps hnew (hload.symm.trans hfile)
    · obtain ⟨request, -, -, state, key, hstate, hfinish⟩ := hcompletes.presented
      exact credential_of_finish hke hbegun.prepared hstate hfinish
  · intro j k identifier file file' hj hk
    have hsame : j = k := by
      rcases Nat.lt_trichotomy j k with hlt | heq | hlt
      · exact absurd hlt (horder j k identifier file file' hj hk)
      · exact heq
      · exact absurd hlt (horder k j identifier file' file hk hj)
    subst hsame
    refine ⟨rfl, ?_, ?_⟩
    · have hfile := (records_of_registeredAt hkeeps hnew hj).2
      rw [(records_of_registeredAt hkeeps hnew hk).2] at hfile
      exact (Option.some.inj hfile).symm
    · cases hstart : records repository identifier with
      | none => rfl
      | some old =>
        have hkept := hgrow 0 j identifier old (Nat.zero_le j) hstart
        rw [(records_of_registeredAt hkeeps hnew hj).1] at hkept
        cases hkept

/-! ### A run -/

/-- The records of a repository in memory. -/
theorem inMemory_keepsRecords :
    KeepsRecords fun (repository : InMemoryRepository) identifier =>
      repository.records.lookup identifier where
  load repository identifier credential h := by
    cases h
    rfl
  created repository identifier file h := by
    simp only [CredentialRepository.create] at h ⊢
    split at h
    · cases h
    · next hnone =>
      rw [if_neg hnone]
      refine ⟨Option.not_isSome_iff_eq_none.mp hnone, ?_⟩
      funext other
      by_cases hsame : other = identifier
      · rw [hsame, Function.update_self, List.lookup_cons_self]
      · rw [Function.update_of_ne hsame, List.lookup_cons, beq_false_of_ne hsame]
  refused repository identifier file error h := by
    rw [inMemory_createFailsClean repository identifier file error h]

/-- OPAQUE operations that remember whether there was a record. -/
def recordKe : OpaqueKe where
  Rng := Unit
  Setup := Bytes
  Registration := Bytes
  CredentialRequest := Bytes
  CredentialFinalization := Bytes
  ServerLogin := Bytes
  deserializeSetup := some
  deserializeRegistration := some
  deserializeCredentialRequest := some
  deserializeCredentialFinalization := some
  start _ _ file request _ _ _ := some (request, (if file.isSome then 1 else 0) :: request)
  finish state finalization _ _ := if state = 1 :: finalization then some finalization else none
  serializeLogin := id
  deserializeLogin := some

theorem recordKe_endsDummies : EndsDummies recordKe where
  deserialize_serialize state state' h := by
    cases h
    rfl
  dummy rng setup request credentialIdentifier clientIdentifier serverIdentifier message state h
      finalization client server := by
    cases h
    have hother : (0 : UInt8) :: request ≠ 1 :: finalization := by
      intro hsame
      exact absurd (List.cons.inj hsame).1 (by decide)
    have hfinish :
        (if (0 : UInt8) :: request = 1 :: finalization then some finalization else none) = none :=
      if_neg hother
    exact hfinish

def sampleLoginHandle : LoginStateHandle := ⟨List.replicate 32 4, rfl⟩

/-- A reader of the three bodies of a run. -/
def sampleSerde : SerdeJson where
  envelopeRequest body :=
    if body = [0] then
      some ⟨"account", ⟨1, cipherSuiteId, .registrationUpload, "k1", [3, 4]⟩⟩
    else none
  loginStartRequest body :=
    if body = [1] then
      some ⟨"account", "client", "server", ⟨1, cipherSuiteId, .credentialRequest, "k1", [1, 2]⟩⟩
    else none
  loginFinishRequest body :=
    if body = [2] then
      some ⟨encodeHandle sampleLoginHandle,
        ⟨1, cipherSuiteId, .credentialFinalization, "k1", [1, 2]⟩⟩
    else none

/-- Registration operations that keep the upload. -/
def sampleRegistration : OpaqueRegistration recordKe where
  Request := Bytes
  Upload := Bytes
  deserializeRequest := some
  start _ request _ := some request
  deserializeUpload := some
  finish := id

/-- A registration, the beginning of a login and its end. -/
def sampleArrivals (n : ℕ) : Arrival where
  request :=
    { method := "POST"
      path := [registrationFinishPath, loginStartPath, loginFinishPath].getD n registrationStartPath
      contentType := some "application/json"
      csrfValidated := true
      admission := .allowed
      body := [UInt8.ofNat n] }
  context := ⟨.directTls, maxHttpBodyBytes, true⟩

/-- The login loads its file behind the registration, and ends on the handle it was given. -/
def sampleInputs : List (ℕ × RequestEnvironment recordKe CallContext) :=
  [(0, ⟨⟨1000, 5, []⟩, ()⟩), (1, ⟨⟨1000, 5, []⟩, ()⟩), (1, ⟨⟨1000, 6, [sampleLoginHandle]⟩, ()⟩),
    (2, ⟨⟨1000, 7, []⟩, ()⟩)]

/-- The login of the sample run rests on the registration of the same run. -/
theorem authentication_run_sample :
    let store : InMemoryOneTimeLoginStore := { entries := Mutex.new ∅, maxEntries := 2, ttl := 10 }
    let service : LoginService := ⟨⟨[9]⟩, "k1", ["k1"], store⟩
    let start : LoginWorld InMemoryRepository := ⟨⟨service, ⟨[]⟩⟩, fun _ => .arrived⟩
    AuthenticatedAt sampleRegistration sampleSerde sampleArrivals start sampleInputs 3 2
        ⟨⟨1000, 7, []⟩, ()⟩ (staticResponse 200 authenticatedResponse) ∧
      ∃ identifier file r, r < 3 ∧
        RegisteredAt sampleRegistration sampleSerde sampleArrivals start sampleInputs r identifier
          file := by
  intro store service start
  have hauthenticated : AuthenticatedAt sampleRegistration sampleSerde sampleArrivals start
      sampleInputs 3 2 ⟨⟨1000, 7, []⟩, ()⟩ (staticResponse 200 authenticatedResponse) :=
    ⟨rfl, rfl, rfl⟩
  obtain ⟨⟨source, hcharged, -⟩, -, -⟩ := authentication_run sampleRegistration sampleSerde
    inMemory_keepsRecords 1000 0 2 10 store rfl ⟨[9]⟩ "k1" [] service rfl ⟨[]⟩ sampleArrivals
    sampleInputs
  obtain ⟨-, hlt, login, hbegun, -, hfile, hknown⟩ := hcharged 3 2 _ _ hauthenticated
  obtain ⟨file, hcredential⟩ := Option.ne_none_iff_exists'.mp (hknown recordKe_endsDummies)
  rcases hfile file hcredential with hstart | ⟨r, hr, hregistered⟩
  · cases hstart
  · exact ⟨hauthenticated, _, file, r, hr.trans (hbegun.loadedAt_lt.trans hlt), hregistered⟩

end RequestWorld

end SecureKeypad.Http
