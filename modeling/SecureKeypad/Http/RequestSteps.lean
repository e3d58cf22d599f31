import SecureKeypad.Http.Requests

/-!
# The Stores behind the Requests

What one step of a request does to the two stores, and what its answer shows of them. The state
store tracks a one-time ledger of the states that `begin_login` bound; the credential repository
only grows.

## Main results

- `resume_refines_ledger`: requests in flight refine the one-time ledger
- `authenticated_of_answer`, `begun_of_event`: what the answers of a login show
- `resume_records`: the repository over a step
-/

namespace SecureKeypad.Http

open Rust Auth Server Machine
open Machine.Ledger (Event)

/-! ## The credential repository -/

/-- A repository keeps its contract on its `records`: a lookup that is answered answers the record,
    and a creation that succeeds adds one where there was none. -/
structure KeepsRecords {R : Type} [CredentialRepository R]
    (records : R → Bytes → Option CredentialFile) : Prop where
  load : ∀ repository identifier credential,
    CredentialRepository.load repository identifier = .ok credential →
      credential = records repository identifier
  created : ∀ repository identifier file,
    (CredentialRepository.create repository identifier file).1 = .ok () →
      records repository identifier = none ∧
        records (CredentialRepository.create repository identifier file).2 =
          Function.update (records repository) identifier (some file)
  refused : ∀ repository identifier file error,
    (CredentialRepository.create repository identifier file).1 = .error error →
      records (CredentialRepository.create repository identifier file).2 = records repository

/-! ## What `begin_login` stores -/

/-- An entry behind a `begin_login` was there before it, or is the state it prepared, under the
    handle it returned. -/
theorem beginLogin_appears {ke : OpaqueKe} {service : LoginService} {context : CallContext}
    {rng : ke.Rng} {request : AuthEnvelope} {credentialFile : Option CredentialFile}
    {credentialIdentifier clientIdentifier serverIdentifier : Bytes} {handle : LoginStateHandle}
    {entry : Entry}
    (hafter : (service.beginLogin ke context rng request credentialFile credentialIdentifier
      clientIdentifier serverIdentifier).2.map.lookup handle = some entry) :
    service.map.lookup handle = some entry ∨
      ∃ response bound,
        service.prepareLogin ke rng request credentialFile credentialIdentifier clientIdentifier
          serverIdentifier = .ok (response, bound) ∧
        (service.beginLogin ke context rng request credentialFile credentialIdentifier
          clientIdentifier serverIdentifier).1 = some (.ok (response, handle)) ∧
        entry = ⟨context.now + service.stateStore.ttl, .bound bound⟩ := by
  unfold ServerAuthService.beginLogin at hafter ⊢
  cases hprepare : service.prepareLogin ke rng request credentialFile credentialIdentifier
      clientIdentifier serverIdentifier with
  | error e =>
    rw [hprepare] at hafter
    exact .inl hafter
  | ok prepared =>
    obtain ⟨response, bound⟩ := prepared
    simp only [hprepare] at hafter ⊢
    obtain ⟨-, -, heffect⟩ := service.stateStore.insertBound_cases context bound
    -- The store refuses at once, refuses behind its purge, or inserts under a vacant handle.
    rcases heffect with ⟨e, hanswer, hmap, -⟩ | ⟨hanswer, hmap⟩ | ⟨handle', hanswer, -, -, hmap⟩
    · rw [hanswer] at hafter
      simp only [ServerAuthService.map, hmap] at hafter
      exact .inl hafter
    · have hkept : (purgeExpired service.map context.now).lookup handle = some entry := by
        rw [ServerAuthService.map, ← hmap]
        rcases hanswer with hanswer | hanswer | hanswer <;> rw [hanswer] at hafter <;> exact hafter
      exact .inl (lookup_purgeExpired.mp hkept).1
    · rw [hanswer] at hafter ⊢
      simp only [ServerAuthService.map, hmap] at hafter
      rw [KeyedMap.lookup_insert_ite] at hafter
      split at hafter
      · next heq =>
        cases hafter
        exact .inr ⟨response, bound, rfl, by rw [heq], rfl⟩
      · exact .inl (lookup_purgeExpired.mp hafter).1

/-- A handle `begin_login` returns is that of the state it prepared. -/
theorem beginLogin_eq_ok {ke : OpaqueKe} {S Context : Type} [BoundOneTimeLoginStateStore S Context]
    {service : ServerAuthService S} {context : Context} {rng : ke.Rng} {request : AuthEnvelope}
    {credentialFile : Option CredentialFile}
    {credentialIdentifier clientIdentifier serverIdentifier : Bytes} {response : AuthEnvelope}
    {handle : LoginStateHandle}
    (h : (service.beginLogin ke context rng request credentialFile credentialIdentifier
      clientIdentifier serverIdentifier).1 = some (.ok (response, handle))) :
    ∃ bound, service.prepareLogin ke rng request credentialFile credentialIdentifier
      clientIdentifier serverIdentifier = .ok (response, bound) := by
  unfold ServerAuthService.beginLogin at h
  cases hprepare : service.prepareLogin ke rng request credentialFile credentialIdentifier
      clientIdentifier serverIdentifier with
  | error e =>
    rw [hprepare] at h
    cases h
  | ok prepared =>
    obtain ⟨prepared, bound⟩ := prepared
    simp only [hprepare] at h
    cases hinsert :
        (BoundOneTimeLoginStateStore.insertBound service.stateStore context bound).1 with
    | none =>
      rw [hinsert] at h
      cases h
    | some inserted =>
      cases inserted with
      | error e =>
        rw [hinsert] at h
        cases h
      | ok returned =>
        rw [hinsert] at h
        cases h
        exact ⟨bound, rfl⟩

namespace RequestWorld

variable {ke : OpaqueKe} {R : Type}

/-! ## The ledger of login states -/

section Ledger

variable (serde : SerdeJson) (arrivals : ℕ → Arrival)

/-- The router over the in-memory store. -/
abbrev LoginWorld (R : Type) := RequestWorld InMemoryOneTimeLoginStore R

/-- The state pending under a handle, with its expiry. -/
def pendingState (world : LoginWorld R) (handle : LoginStateHandle) :
    Option (BoundLoginState × ℕ) :=
  (world.router.service.map.lookup handle).bind fun entry =>
    entry.state.asBound.map fun bound => (bound, entry.expiresAt)

/-- What `begin_login` issues: the state it bound, under the handle it returned. -/
def begunEvent (world : LoginWorld R) (environment : RequestEnvironment ke CallContext)
    (request : LoginStartRequest AuthEnvelope) (credential : Option CredentialFile) :
    Event LoginStateHandle BoundLoginState :=
  match world.router.service.prepareLogin ke environment.rng request.envelope credential
      (asBytes request.credentialIdentifier) (asBytes request.clientIdentifier)
      (asBytes request.serverIdentifier),
    (world.router.beginLoaded ke environment request credential).1 with
  | .ok (_, bound), some (.ok (_, handle)) =>
    .issue handle bound (environment.context.now + world.router.service.stateStore.ttl)
  | _, _ => .quiet

/-- What `login_finish` redeems: the state it took. -/
def finishedEvent (world : LoginWorld R) (environment : RequestEnvironment ke CallContext)
    (body : Bytes) : Event LoginStateHandle BoundLoginState :=
  match serde.readLoginFinish body with
  | none => .quiet
  | some request =>
    match decodeHandle request.handle with
    | none => .quiet
    | some handle =>
      match (world.router.service.finishLogin ke environment.context request.envelope
          handle).1.taken with
      | none => .quiet
      | some pending => .redeem handle pending environment.context.now

/-- The ledger event of a step. -/
def eventOf (world : LoginWorld R) (input : ℕ × RequestEnvironment ke CallContext) :
    Event LoginStateHandle BoundLoginState :=
  match world.progress input.1 with
  | .answered _ => .quiet
  | .loaded request credential => begunEvent world input.2 request credential
  | .arrived =>
    if (arrivals input.1).reaches loginFinishPath then
      finishedEvent serde world input.2 (arrivals input.1).request.body
    else .quiet

variable {serde arrivals}

theorem pendingState_eq_some {world : LoginWorld R} {handle : LoginStateHandle}
    {bound : BoundLoginState} {expiresAt : ℕ} :
    pendingState world handle = some (bound, expiresAt) ↔
      world.router.service.map.lookup handle = some ⟨expiresAt, .bound bound⟩ := by
  unfold pendingState
  cases world.router.service.map.lookup handle with
  | none => simp
  | some entry =>
    obtain ⟨e, stored⟩ := entry
    cases stored <;> simp [StoredState.asBound, and_comm]

theorem eventOf_loaded {world : LoginWorld R} {n : ℕ} {request : LoginStartRequest AuthEnvelope}
    {credential : Option CredentialFile} (h : world.progress n = .loaded request credential)
    (environment : RequestEnvironment ke CallContext) {response : AuthEnvelope}
    {bound : BoundLoginState} {handle : LoginStateHandle}
    (hprepare : world.router.service.prepareLogin ke environment.rng request.envelope credential
      (asBytes request.credentialIdentifier) (asBytes request.clientIdentifier)
      (asBytes request.serverIdentifier) = .ok (response, bound))
    (hbegun : (world.router.beginLoaded ke environment request credential).1 =
      some (.ok (response, handle))) :
    eventOf serde arrivals world (n, environment) =
      .issue handle bound (environment.context.now + world.router.service.stateStore.ttl) := by
  simp only [eventOf, h, begunEvent, hprepare, hbegun]

theorem eventOf_arrived {world : LoginWorld R} {n : ℕ} (h : world.progress n = .arrived)
    (hreaches : (arrivals n).reaches loginFinishPath = true)
    (environment : RequestEnvironment ke CallContext)
    {request : LoginFinishRequest AuthEnvelope} {handle : LoginStateHandle}
    {pending : BoundLoginState}
    (hread : serde.readLoginFinish (arrivals n).request.body = some request)
    (hhandle : decodeHandle request.handle = some handle)
    (htaken : (world.router.service.finishLogin ke environment.context request.envelope
      handle).1.taken = some pending) :
    eventOf serde arrivals world (n, environment) =
      .redeem handle pending environment.context.now := by
  simp only [eventOf, h, hreaches, if_true, finishedEvent, hread, hhandle, htaken]

variable {registration : OpaqueRegistration ke} [CredentialRepository R]

/-- What an entry behind a step shows: it was there, or the step issued it. -/
theorem resume_appears {world : LoginWorld R} {n : ℕ}
    {environment : RequestEnvironment ke CallContext} {handle : LoginStateHandle}
    {bound : BoundLoginState} {expiresAt : ℕ}
    (hafter : pendingState (resume registration serde arrivals world (n, environment)).2 handle =
      some (bound, expiresAt)) :
    pendingState world handle = some (bound, expiresAt) ∨
      eventOf serde arrivals world (n, environment) = .issue handle bound expiresAt := by
  rw [pendingState_eq_some] at hafter ⊢
  have hmoved := resume_moved registration serde arrivals world n environment
  generalize resume registration serde arrivals world (n, environment) = result at hafter hmoved
  cases hmoved with
  | idle => exact .inl hafter
  | kept response _ => exact .inl hafter
  | loaded request credential _ _ _ => exact .inl hafter
  | created request file _ _ _ _ => exact .inl hafter
  | begun request credential hprogress =>
    rcases beginLogin_appears hafter with hold | ⟨response, bound', hprepare, hbegun, hentry⟩
    · exact .inl hold
    · cases hentry
      exact .inr (eventOf_loaded hprogress environment hprepare hbegun)
  | finished request handle' _ _ _ _ =>
    have hstep := @serviceStep_appears ke world.router.service
      (.finishLogin environment.context request.envelope handle') _ _ hafter
    rcases hstep with hold | ⟨_, _, _, _, _, _, _, _, _, hcall, _⟩
    · exact .inl hold
    · cases hcall

/-- What a step that redeems did. -/
theorem resume_redeems (registration : OpaqueRegistration ke) {world : LoginWorld R} {n : ℕ}
    {environment : RequestEnvironment ke CallContext} {handle : LoginStateHandle}
    {bound : BoundLoginState} {now : ℕ}
    (hevent : eventOf serde arrivals world (n, environment) = .redeem handle bound now) :
    now = environment.context.now ∧
      (∃ expiresAt, pendingState world handle = some (bound, expiresAt) ∧ now < expiresAt) ∧
      pendingState (resume registration serde arrivals world (n, environment)).2 handle = none := by
  unfold eventOf at hevent
  cases hprogress : world.progress n with
  -- Only a request that has just arrived at the route of the finish redeems a handle.
  | answered response =>
    simp only [hprogress] at hevent
    cases hevent
  | loaded request credential =>
    simp only [hprogress, begunEvent] at hevent
    split at hevent <;> cases hevent
  | arrived =>
    simp only [hprogress] at hevent
    split_ifs at hevent with hreaches
    obtain ⟨hpasses, hpath⟩ := Arrival.reaches_loginFinish.mp hreaches
    have hresume : resume registration serde arrivals world (n, environment) =
        world.answer n (world.router.loginFinish ke serde environment
          (arrivals n).request.body).response (world.router.loginFinish ke serde environment
          (arrivals n).request.body).router := by
      -- The two routes differ, so this request does not start a login.
      have hother : (arrivals n).reaches loginStartPath = false := by
        rw [Bool.eq_false_iff]
        intro hstarts
        have hboth := (Arrival.reaches_loginStart.mp hstarts).2
        rw [hpath] at hboth
        exact absurd hboth (by decide)
      simp only [resume, hprogress, hother, Bool.false_eq_true, if_false,
        handle_of_passes hpasses, hpath]
      rfl
    rw [hresume]
    -- A handle is redeemed only if the body is read, the handle decodes and the store gives it out.
    unfold finishedEvent at hevent
    cases hread : serde.readLoginFinish (arrivals n).request.body with
    | none =>
      simp only [hread] at hevent
      cases hevent
    | some request =>
      cases hhandle : decodeHandle request.handle with
      | none =>
        simp only [hread, hhandle] at hevent
        cases hevent
      | some handle' =>
        cases htaken : (world.router.service.finishLogin ke environment.context request.envelope
            handle').1.taken with
        | none =>
          simp only [hread, hhandle, htaken] at hevent
          cases hevent
        | some pending =>
          simp only [hread, hhandle, htaken] at hevent
          cases hevent
          -- Such a handle was live, and is gone behind the call.
          obtain ⟨⟨expiresAt, hlookup, hlive⟩, hgone, -⟩ := serviceStep_takes htaken
          refine ⟨rfl, ⟨expiresAt, pendingState_eq_some.mpr hlookup, hlive⟩, ?_⟩
          have hservice : (world.answer n (world.router.loginFinish ke serde environment
              (arrivals n).request.body).response (world.router.loginFinish ke serde environment
              (arrivals n).request.body).router).2.router.service =
              (world.router.service.finishLogin ke environment.context request.envelope
                handle).2 := by
            simp only [answer, HttpAuthRouter.loginFinish, hread, parseJson, Option.elim_some,
              hhandle]
            cases (world.router.service.finishLogin ke environment.context request.envelope
              handle).1.result <;> rfl
          rw [pendingState, hservice, hgone]
          rfl

/-- The state store keeps its configuration. -/
theorem sameConfig_resume {service₀ : LoginService} {world : LoginWorld R}
    (input : ℕ × RequestEnvironment ke CallContext)
    (h : SameConfig service₀ world.router.service) :
    SameConfig service₀ (resume registration serde arrivals world input).2.router.service := by
  obtain ⟨n, environment⟩ := input
  have hmoved := resume_moved registration serde arrivals world n environment
  generalize resume registration serde arrivals world (n, environment) = result at hmoved
  cases hmoved with
  | idle => exact h
  | kept response _ => exact h
  | loaded request credential _ _ _ => exact h
  | created request file _ _ _ _ => exact h
  | begun request credential _ =>
    exact h.step (.beginLogin environment.context environment.rng request.envelope credential _ _ _)
  | finished request handle _ _ _ _ =>
    exact @SameConfig.step ke _ _ h (.finishLogin environment.context request.envelope handle)

/-- **Requests in flight refine the one-time ledger** of bound login states. -/
theorem resume_refines_ledger (registration : OpaqueRegistration ke) (serde : SerdeJson)
    (arrivals : ℕ → Arrival) (service₀ : LoginService) :
    Machine.Ledger.Refinement
      (fun world input => (eventOf serde arrivals world input,
        (resume registration serde arrivals world input).2))
      (fun _ event => event) (pendingState (R := R))
      (fun world => SameConfig service₀ world.router.service) where
  inv _ input h := sameConfig_resume input h
  appears _ _ _ _ _ _ hafter := resume_appears hafter
  redeems _ _ _ _ _ _ hevent := (resume_redeems registration hevent).2.1
  removes _ _ _ _ _ _ hevent := (resume_redeems registration hevent).2.2

end Ledger

/-! ## What an answer shows -/

section Answers

/-- Where another request stands, or this one, after an answer. -/
theorem progress_of_answer {world : LoginWorld R} {n m : ℕ} {response : Option HttpResponse}
    {router : HttpAuthRouter InMemoryOneTimeLoginStore R}
    {request : LoginStartRequest AuthEnvelope} {credential : Option CredentialFile}
    (h : (world.answer n response router).2.progress m = .loaded request credential) :
    world.progress m = .loaded request credential := by
  by_cases hsame : m = n
  · subst hsame
    simp only [answer, Function.update_self] at h
    cases h
  · simpa only [answer, Function.update_of_ne hsame] using h

variable [CredentialRepository R] {registration : OpaqueRegistration ke} {serde : SerdeJson}
  {arrivals : ℕ → Arrival}

variable (serde arrivals) in
/-- A request between its two halves is a `login_start`, and stands where its body was read. -/
def Sound (world : LoginWorld R) : Prop :=
  ∀ n request credential, world.progress n = .loaded request credential →
    (arrivals n).request.path = loginStartPath ∧
      serde.readLoginStart (arrivals n).request.body = some request

/-- A request stands between its halves because it did before the step, or the step loaded its
    credential file. -/
theorem loaded_of_resume {world : LoginWorld R} {n m : ℕ}
    {environment : RequestEnvironment ke CallContext} {request : LoginStartRequest AuthEnvelope}
    {credential : Option CredentialFile}
    (h : (resume registration serde arrivals world (n, environment)).2.progress m =
      .loaded request credential) :
    world.progress m = .loaded request credential ∨
      m = n ∧ (arrivals n).request.path = loginStartPath ∧
        serde.readLoginStart (arrivals n).request.body = some request ∧
        CredentialRepository.load world.router.repository (asBytes request.credentialIdentifier) =
          .ok credential := by
  have hmoved := resume_moved registration serde arrivals world n environment
  generalize resume registration serde arrivals world (n, environment) = result at h hmoved
  cases hmoved with
  | idle => exact .inl h
  | kept response _ => exact .inl (progress_of_answer h)
  | created request file _ _ _ _ => exact .inl (progress_of_answer h)
  | begun request credential _ => exact .inl (progress_of_answer h)
  | finished request handle _ _ _ _ => exact .inl (progress_of_answer h)
  | loaded request' credential' hpath hread hload =>
    by_cases hsame : m = n
    · subst hsame
      simp only [Function.update_self, Progress.loaded.injEq] at h
      obtain ⟨rfl, rfl⟩ := h
      exact .inr ⟨rfl, hpath, hread, hload⟩
    · simp only [Function.update_of_ne hsame] at h
      exact .inl h

theorem sound_resume {world : LoginWorld R} (input : ℕ × RequestEnvironment ke CallContext)
    (h : Sound serde arrivals world) :
    Sound serde arrivals (resume registration serde arrivals world input).2 := by
  intro m request credential hloaded
  rcases loaded_of_resume hloaded with hold | ⟨rfl, hpath, hread, -⟩
  · exact h m request credential hold
  · exact ⟨hpath, hread⟩

/-- **A successful `login_finish`** took a state and finished it. -/
theorem finishLogin_eq_ok {S Context : Type} [BoundOneTimeLoginStateStore S Context]
    {service : ServerAuthService S} {context : Context} {finalization : AuthEnvelope}
    {handle : LoginStateHandle} {key : SecretOutput}
    (h : (service.finishLogin ke context finalization handle).1.result = .ok key) :
    ∃ pending state, (service.finishLogin ke context finalization handle).1.taken = some pending ∧
      pending.state.intoState ke = .ok state ∧
      finalization.Accepted .credentialFinalization [service.serverKeyId] ∧
      serverLoginFinish ke state ⟨finalization.payload⟩ pending.clientIdentifier
        pending.serverIdentifier = .ok key := by
  unfold ServerAuthService.finishLogin at h ⊢
  cases hopen : finalization.intoMessage .credentialFinalization service.serverKeyId with
  | error e =>
    rw [hopen] at h
    cases h
  | ok message =>
    obtain ⟨haccepted, rfl⟩ := AuthEnvelope.intoMessageForServerKeys_eq_ok.mp hopen
    rw [hopen] at h
    simp only at h ⊢
    cases htake : (BoundOneTimeLoginStateStore.takeBound service.stateStore context handle).1 with
    | error e =>
      rw [htake] at h
      cases h
    | ok taken =>
      cases taken with
      | none =>
        rw [htake] at h
        cases h
      | some pending =>
        rw [htake] at h
        simp only at h ⊢
        cases hstate : pending.state.intoState ke with
        | error e =>
          rw [hstate] at h
          cases h
        | ok state =>
          rw [hstate] at h
          exact ⟨pending, state, rfl, hstate, haccepted, mapErr_eq_ok.mp h⟩

/-- A 200 on the route of `login_finish` is the answer of a `login_finish` that took a state and
    finished it. -/
theorem authenticated_of_answer {world : LoginWorld R} (hsound : Sound serde arrivals world) {n : ℕ}
    {environment : RequestEnvironment ke CallContext} {response : HttpResponse}
    (hanswer : (resume registration serde arrivals world (n, environment)).1 = some (some response))
    (hpath : (arrivals n).request.path = loginFinishPath) (hstatus : response.status = 200) :
    response = staticResponse 200 authenticatedResponse ∧
      ∃ request handle pending state key,
        serde.readLoginFinish (arrivals n).request.body = some request ∧
        decodeHandle request.handle = some handle ∧
        eventOf serde arrivals world (n, environment) =
          .redeem handle pending environment.context.now ∧
        pending.state.intoState ke = .ok state ∧
        request.envelope.Accepted .credentialFinalization [world.router.service.serverKeyId] ∧
        serverLoginFinish ke state ⟨request.envelope.payload⟩ pending.clientIdentifier
          pending.serverIdentifier = .ok key := by
  have hmoved := resume_moved registration serde arrivals world n environment
  generalize resume registration serde arrivals world (n, environment) = result at hanswer hmoved
  -- At the route of the finish only a finished login is answered 200.
  cases hmoved with
  | idle => cases hanswer
  | kept response' hrefused =>
    cases hanswer
    exact absurd hstatus (hrefused (hpath ▸ .tail _ (.head _)))
  | loaded request credential _ _ _ => cases hanswer
  | begun request credential hprogress =>
    have hlogin := (hsound n request credential hprogress).1
    rw [hpath] at hlogin
    exact absurd hlogin (by decide)
  | created request file _ hcreates _ _ =>
    rw [hpath] at hcreates
    exact absurd hcreates (by decide)
  | finished request handle hnew hreaches hread hhandle =>
    cases hresult : (world.router.service.finishLogin ke environment.context request.envelope
        handle).1.result with
    | error e =>
      rw [hresult] at hanswer
      have hsame := Option.some.inj (Option.some.inj hanswer)
      rw [← hsame] at hstatus
      exact absurd hstatus (authErrorResponse_status_ne e)
    | ok key =>
      rw [hresult] at hanswer
      cases hanswer
      obtain ⟨pending, state, htaken, hstate, haccepted, hfinish⟩ := finishLogin_eq_ok hresult
      exact ⟨rfl, request, handle, pending, state, key, hread, hhandle,
        eventOf_arrived hnew hreaches environment hread hhandle htaken, hstate, haccepted, hfinish⟩

/-- What a step that issues did, and what it answers. -/
theorem begun_of_event (registration : OpaqueRegistration ke) {world : LoginWorld R} {n : ℕ}
    {environment : RequestEnvironment ke CallContext} {handle : LoginStateHandle}
    {bound : BoundLoginState} {expiresAt : ℕ}
    (hevent : eventOf serde arrivals world (n, environment) = .issue handle bound expiresAt) :
    ∃ request credential response, world.progress n = .loaded request credential ∧
      world.router.service.prepareLogin ke environment.rng request.envelope credential
        (asBytes request.credentialIdentifier) (asBytes request.clientIdentifier)
        (asBytes request.serverIdentifier) = .ok (response, bound) ∧
      expiresAt = environment.context.now + world.router.service.stateStore.ttl ∧
      (resume registration serde arrivals world (n, environment)).1 =
        some (some ⟨200, jsonContentType, responseSecurityHeaders,
          toVec (loginStartJson response (encodeHandle handle))⟩) := by
  unfold eventOf at hevent
  cases hprogress : world.progress n with
  | answered response =>
    simp only [hprogress] at hevent
    cases hevent
  | arrived =>
    simp only [hprogress, finishedEvent] at hevent
    split_ifs at hevent
    split at hevent
    · cases hevent
    · split at hevent
      · cases hevent
      · split at hevent <;> cases hevent
  -- A handle is issued only where a loaded request starts its login.
  | loaded request credential =>
    simp only [hprogress, begunEvent] at hevent
    split at hevent
    · next response bound' response' handle' hprepare hbegun =>
      cases hevent
      obtain ⟨bound', hsame⟩ := beginLogin_eq_ok hbegun
      cases hsame.symm.trans hprepare
      refine ⟨request, credential, response, rfl, hprepare, rfl, ?_⟩
      have hresume : (resume registration serde arrivals world (n, environment)).1 =
          some (begunResponse (world.router.beginLoaded ke environment request credential).1) := by
        simp only [resume, hprogress]
        rfl
      rw [hresume, hbegun, begunResponse,
        jsonResponse_loginStart (prepareLogin_protocolVersion hprepare)]
    · cases hevent

/-- **The repository over a step**: it is as it was, or a `registration_finish` created the record
    of an identifier that had none. -/
theorem resume_records {records : R → Bytes → Option CredentialFile}
    (hkeeps : KeepsRecords records) {world : LoginWorld R} (hsound : Sound serde arrivals world)
    (n : ℕ) (environment : RequestEnvironment ke CallContext) :
    let result := resume registration serde arrivals world (n, environment)
    (records result.2.router.repository = records world.router.repository ∧
        ((arrivals n).request.path = registrationFinishPath →
          ∀ response, result.1 = some (some response) → response.status ≠ 200)) ∨
      ∃ request file, (arrivals n).request.path = registrationFinishPath ∧
        serde.readEnvelopeRequest (arrivals n).request.body = some request ∧
        finishRegistration registration world.router.service request.envelope = .ok file ∧
        result.1 = some (some (staticResponse 200 registrationStoredResponse)) ∧
        records world.router.repository (asBytes request.identifier) = none ∧
        records result.2.router.repository =
          Function.update (records world.router.repository) (asBytes request.identifier)
            (some file) := by
  intro result
  have hmoved : Moved registration serde arrivals world n environment result :=
    resume_moved registration serde arrivals world n environment
  clear_value result
  -- Of all steps only the one of a registration that is finished writes a record.
  cases hmoved with
  | idle => exact .inl ⟨rfl, fun _ response h => by cases h⟩
  | kept response hrefused =>
    refine .inl ⟨rfl, fun hpath response' h => ?_⟩
    cases h
    exact hrefused (hpath ▸ .head _)
  | loaded request credential _ _ _ => exact .inl ⟨rfl, fun _ response h => by cases h⟩
  | begun request credential hprogress =>
    refine .inl ⟨rfl, fun hpath => ?_⟩
    have hlogin := (hsound n request credential hprogress).1
    rw [hpath] at hlogin
    exact absurd hlogin (by decide)
  | finished request handle _ hreaches _ _ =>
    refine .inl ⟨rfl, fun hpath => ?_⟩
    have hlogin := (Arrival.reaches_loginFinish.mp hreaches).2
    rw [hpath] at hlogin
    exact absurd hlogin (by decide)
  | created request file _ hpath hread hfile =>
    cases hcreate : (CredentialRepository.create world.router.repository
        (asBytes request.identifier) file).1 with
    -- A create that is refused leaves the records as they were, and is not answered 200.
    | error error =>
      have hsame := hkeeps.refused _ _ _ error hcreate
      refine .inl ⟨hsame, fun _ response h => ?_⟩
      have hresponse := Option.some.inj (Option.some.inj h)
      rw [← hresponse]
      exact repositoryErrorResponse_status_ne error
    | ok created =>
      obtain ⟨hnone, hupdate⟩ := hkeeps.created _ _ _ hcreate
      exact .inr ⟨request, file, hpath, hread, hfile, rfl, hnone, hupdate⟩

end Answers

end RequestWorld

end SecureKeypad.Http
