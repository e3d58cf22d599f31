import SecureKeypad.Http.EnvelopeText
import SecureKeypad.Library.TwoRuns

/-!
# What the OPAQUE Routes Give Away

Two runs of `login_start` on routers that differ in whether the account exists: the step lemmas
relate them from the protocol up to the text of the response, whose size stays below the limit
whatever its bytes are. Beside them, what a request can change that is refused or fails.

## Main results

- `handle_cases`, `handle_repository`: what refused and failing requests leave alone
- `loginStart_alike`: the two runs
- `auth_routes_hide_accounts`: enumeration and effects, for every request
-/

namespace SecureKeypad.Http

open Rust Auth Server

/-! ## Statuses -/

theorem errorResponse_status_ne {status : ℕ} (h : status ≠ 200) (code : PublicAuthCode) :
    (errorResponse status code).status ≠ 200 := by
  rw [errorResponse, jsonResponseWithStatus]
  split
  · exact (by decide : (503 : ℕ) ≠ 200)
  · exact h

/-! ## The gates -/

/-- The request passes the gates of `handle`. -/
structure PassesGates (request : HttpRequest) (context : HttpDeploymentContext) : Prop where
  transport : context.transport.isEncrypted = true
  limits : context.hasValidLimits = true
  csrf : request.csrfValidated = true
  admission : request.admission = .allowed
  size : request.body.length ≤ context.upstreamBodyLimitBytes
  method : request.method = "POST"
  contentType : isJsonContentType request.contentType = true
  path : request.path ∈ [registrationStartPath, registrationFinishPath, loginStartPath,
    loginFinishPath]

section Router

variable {ke : OpaqueKe} {registration : OpaqueRegistration ke} {serde : SerdeJson}
  {S Context R : Type} [BoundOneTimeLoginStateStore S Context] [CredentialRepository R]

/-- **Behind the gates** `handle` is the route of the path; before them it answers without the
    router. -/
theorem handle_cases (request : HttpRequest) (context : HttpDeploymentContext) :
    PassesGates request context ∨ ∃ response : HttpResponse, response.status ≠ 200 ∧
      ∀ (router : HttpAuthRouter S R) (environment : RequestEnvironment ke Context),
        router.handle registration serde environment request context = router.refuse response := by
  have hrefused := fun status (h : status ≠ 200) => errorResponse_status_ne h
  -- The gates in the order of the router; none of them answers 200 to what it refuses.
  by_cases htransport : context.transport.isEncrypted = true
  swap
  · exact .inr ⟨_, hrefused 400 (by decide) .invalidRequest, fun router environment => by
      rw [HttpAuthRouter.handle, if_pos (by simpa using htransport)]⟩
  by_cases hlimits : context.hasValidLimits = true
  swap
  · exact .inr ⟨_, hrefused 503 (by decide) .temporarilyUnavailable, fun router environment => by
      rw [HttpAuthRouter.handle, if_neg (by simpa using htransport),
        if_pos (by simpa using hlimits)]⟩
  by_cases hcsrf : request.csrfValidated = true
  swap
  · exact .inr ⟨_, hrefused 403 (by decide) .invalidRequest, fun router environment => by
      rw [HttpAuthRouter.handle, if_neg (by simpa using htransport),
        if_neg (by simpa using hlimits), if_pos (by simpa using hcsrf)]⟩
  cases hadmission : requestAdmissionResponse request.admission with
  | some response =>
    have hstatus : response.status ≠ 200 := by
      unfold requestAdmissionResponse at hadmission
      split at hadmission
      · cases hadmission
      · cases hadmission
        exact (by decide : (429 : ℕ) ≠ 200)
      · cases hadmission
        exact hrefused 503 (by decide) .temporarilyUnavailable
    exact .inr ⟨response, hstatus, fun router environment => by
      simp [HttpAuthRouter.handle, htransport, hlimits, hcsrf, hadmission]⟩
  | none =>
    have hallowed : request.admission = .allowed := by
      unfold requestAdmissionResponse at hadmission
      split at hadmission
      · next h => exact h
      · cases hadmission
      · cases hadmission
    by_cases hsize : request.body.length > context.upstreamBodyLimitBytes
    · exact .inr ⟨_, hrefused 413 (by decide) .invalidRequest, fun router environment => by
        simp [HttpAuthRouter.handle, htransport, hlimits, hcsrf, hadmission, hsize]⟩
    by_cases hmethod : request.method = "POST"
    swap
    · exact .inr ⟨_, hrefused 405 (by decide) .invalidRequest, fun router environment => by
        simp [HttpAuthRouter.handle, htransport, hlimits, hcsrf, hadmission, hsize, hmethod]⟩
    by_cases hcontent : isJsonContentType request.contentType = true
    swap
    · exact .inr ⟨_, hrefused 415 (by decide) .invalidRequest, fun router environment => by
        simp [HttpAuthRouter.handle, htransport, hlimits, hcsrf, hadmission, hsize, hmethod,
          hcontent]⟩
    -- A path that is no route is the last thing refused.
    by_cases hpath : request.path ∈ [registrationStartPath, registrationFinishPath, loginStartPath,
        loginFinishPath]
    · exact .inl ⟨htransport, hlimits, hcsrf, hallowed, Nat.le_of_not_lt hsize, hmethod, hcontent,
        hpath⟩
    · simp only [List.mem_cons, List.not_mem_nil, or_false, not_or] at hpath
      obtain ⟨hstart, hfinish, hlogin, hloginFinish⟩ := hpath
      exact .inr ⟨_, hrefused 404 (by decide) .invalidRequest, fun router environment => by
        simp [HttpAuthRouter.handle, htransport, hlimits, hcsrf, hadmission, hsize, hmethod,
          hcontent, hstart, hfinish, hlogin, hloginFinish]⟩

/-- What a request behind the gates comes to. -/
theorem handle_of_passes {request : HttpRequest} {context : HttpDeploymentContext}
    (h : PassesGates request context) (router : HttpAuthRouter S R)
    (environment : RequestEnvironment ke Context) :
    router.handle registration serde environment request context =
      if request.path = registrationStartPath then
        router.registrationStart registration serde request.body
      else if request.path = registrationFinishPath then
        router.registrationFinish registration serde request.body
      else if request.path = loginStartPath then router.loginStart ke serde environment request.body
      else if request.path = loginFinishPath then
        router.loginFinish ke serde environment request.body
      else router.refuse (errorResponse 404 .invalidRequest) := by
  have hadmission : requestAdmissionResponse request.admission = none := by
    rw [h.admission]
    rfl
  simp [HttpAuthRouter.handle, h.transport, h.limits, h.csrf, hadmission,
    Nat.not_lt.mpr h.size, h.method, h.contentType]

/-! ## The credential repository -/

/-- A creation that fails leaves the repository as it was. -/
def CreateFailsClean (R : Type) [CredentialRepository R] : Prop :=
  ∀ (repository : R) identifier credential error,
    (CredentialRepository.create repository identifier credential).1 = .error error →
      (CredentialRepository.create repository identifier credential).2 = repository

/-- **The repository is written** by `registration_finish` alone, and then the response is 200. -/
theorem handle_repository (hcreate : CreateFailsClean R) (router : HttpAuthRouter S R)
    (environment : RequestEnvironment ke Context) (request : HttpRequest)
    (context : HttpDeploymentContext) :
    (∃ response, (router.handle registration serde environment request context).response =
        some response ∧ response.status = 200) ∨
      (router.handle registration serde environment request context).router.repository =
        router.repository := by
  rcases @handle_cases ke registration serde S Context R _ _ request context with
    hpasses | ⟨response, -, hrefused⟩
  · rw [handle_of_passes hpasses]
    -- By route. The finish of a registration is the only one that calls the repository to write.
    split_ifs
    · unfold HttpAuthRouter.registrationStart
      split
      · exact .inr rfl
      · split_ifs
        · exact .inr rfl
        · split <;> exact .inr rfl
    · unfold HttpAuthRouter.registrationFinish
      split
      · exact .inr rfl
      · next envelopeRequest _ =>
        split_ifs
        · exact .inr rfl
        · split
          · exact .inr rfl
          · next credential _ =>
            have hclean := hcreate router.repository (asBytes envelopeRequest.identifier) credential
            generalize CredentialRepository.create router.repository
              (asBytes envelopeRequest.identifier) credential = created at hclean ⊢
            obtain ⟨_ | ⟨⟩, repository⟩ := created
            -- A create that fails leaves the repository as it was.
            · exact .inr (hclean _ rfl)
            · exact .inl ⟨_, rfl, rfl⟩
    · unfold HttpAuthRouter.loginStart
      split
      · exact .inr rfl
      · dsimp only
        split_ifs
        · exact .inr rfl
        · split
          · exact .inr rfl
          · right
            split <;> rfl
    · unfold HttpAuthRouter.loginFinish
      split
      · exact .inr rfl
      · split
        · exact .inr rfl
        · right
          dsimp only
          split <;> rfl
    · exact .inr rfl
  · rw [hrefused]
    exact .inr rfl

end Router

/-! ## Two logins -/

/-- `ServerLogin::start` succeeds or fails alike without a file and with one, and what it makes is
    of the same size. The runs draw what they draw. -/
def StartsAlike (ke : OpaqueKe) (rng rng' : ke.Rng) : Prop :=
  ∀ setup file request credentialIdentifier clientIdentifier serverIdentifier,
    Option.Rel
      (fun absent present => absent.1.length = present.1.length ∧
        (ke.serializeLogin absent.2).length = (ke.serializeLogin present.2).length)
      (ke.start rng setup none request credentialIdentifier clientIdentifier serverIdentifier)
      (ke.start rng' setup (some file) request credentialIdentifier clientIdentifier
        serverIdentifier)

/-- `insert_bound` does the same whatever the bytes of the state are; `entries` counts what the
    store holds. -/
def InsertsAlike {S Context : Type} [BoundOneTimeLoginStateStore S Context] (entries : S → ℕ) :
    Prop :=
  ∀ (store : S) (context : Context) (state state' : BoundLoginState),
    state.clientIdentifier = state'.clientIdentifier →
      state.serverIdentifier = state'.serverIdentifier →
      state.state.bytes.length = state'.state.bytes.length →
      (BoundOneTimeLoginStateStore.insertBound store context state).1 =
          (BoundOneTimeLoginStateStore.insertBound store context state').1 ∧
        entries (BoundOneTimeLoginStateStore.insertBound store context state).2 =
          entries (BoundOneTimeLoginStateStore.insertBound store context state').2

/-- The in-memory store does: it looks at the length of a state only. -/
theorem inMemory_insertsAlike :
    InsertsAlike (S := InMemoryOneTimeLoginStore) fun store => store.map.size := by
  intro store context state state' _ _ hlength
  show (store.insertStored context.instantMax context.now context.draws (.bound state)).1 =
      (store.insertStored context.instantMax context.now context.draws (.bound state')).1 ∧
    (store.insertStored context.instantMax context.now context.draws (.bound state)).2.map.size =
      (store.insertStored context.instantMax context.now context.draws (.bound state')).2.map.size
  have hsize : (StoredState.bound state).length = (StoredState.bound state').length := hlength
  unfold InMemoryOneTimeLoginStore.insertStored
  rw [hsize]
  split
  · exact ⟨rfl, rfl⟩
  · split
    · exact ⟨rfl, rfl⟩
    · split
      · exact ⟨rfl, rfl⟩
      · next entries hlock =>
        dsimp only
        split
        · exact ⟨rfl, rfl⟩
        · split
          · next handle hvacant =>
            -- the handle is new to the entries, so each insertion adds one
            have hnone := InMemoryOneTimeLoginStore.lookup_of_drawVacant hvacant
            refine ⟨rfl, ?_⟩
            rw [InMemoryOneTimeLoginStore.map_write, InMemoryOneTimeLoginStore.map_write,
              KeyedMap.size_insert_of_lookup_none _ hnone,
              KeyedMap.size_insert_of_lookup_none _ hnone]
          · exact ⟨rfl, rfl⟩
          · exact ⟨rfl, rfl⟩

/-- Envelopes with the same metadata, and payloads of one length. -/
structure SameShape (envelope envelope' : AuthEnvelope) : Prop where
  protocolVersion : envelope.protocolVersion = envelope'.protocolVersion
  suiteId : envelope.suiteId = envelope'.suiteId
  messageKind : envelope.messageKind = envelope'.messageKind
  serverKeyId : envelope.serverKeyId = envelope'.serverKeyId
  payload : envelope.payload.length = envelope'.payload.length

theorem messageFromSerialized_alike {serialized serialized' : Bytes}
    (h : serialized.length = serialized'.length) :
    ExceptRel (fun message message' => message.bytes.length = message'.bytes.length)
      (messageFromSerialized serialized) (messageFromSerialized serialized') := by
  have hempty : serialized.isEmpty = serialized'.isEmpty := by
    rw [Bool.eq_iff_iff, List.isEmpty_iff_length_eq_zero, List.isEmpty_iff_length_eq_zero, h]
  unfold messageFromSerialized
  rw [hempty, h]
  split_ifs
  · exact .error _
  · exact .error _
  · exact .ok h

/-- Envelopes around messages of one length. -/
theorem envelope_new_alike {messageKind : AuthMessageKind} {serverKeyId : String}
    {message message' : Message} (h : message.bytes.length = message'.bytes.length) :
    ExceptRel (fun envelope envelope' => SameShape envelope envelope' ∧
        envelope.protocolVersion = protocolVersion)
      (AuthEnvelope.new messageKind serverKeyId message)
      (AuthEnvelope.new messageKind serverKeyId message') := by
  have hempty : message.bytes.isEmpty = message'.bytes.isEmpty := by
    rw [Bool.eq_iff_iff, List.isEmpty_iff_length_eq_zero, List.isEmpty_iff_length_eq_zero, h]
  unfold AuthEnvelope.new AuthEnvelope.fromParts
  -- Every check looks at the length of the payload or at what both have in common.
  by_cases hsuite : cipherSuiteId.utf8ByteSize = 0 ∨ cipherSuiteId.utf8ByteSize > maxSuiteIdBytes
  · rw [dif_pos hsuite, dif_pos hsuite]
    exact .error _
  rw [dif_neg hsuite, dif_neg hsuite]
  by_cases hkey : serverKeyId.utf8ByteSize = 0 ∨ serverKeyId.utf8ByteSize > maxServerKeyIdBytes
  · rw [dif_pos hkey, dif_pos hkey]
    exact .error _
  rw [dif_neg hkey, dif_neg hkey]
  by_cases hnone : message.bytes.isEmpty = true
  · have hnone' : message'.bytes.isEmpty = true := hempty ▸ hnone
    rw [dif_pos hnone, dif_pos hnone']
    exact .error _
  have hnone' : ¬ message'.bytes.isEmpty = true := hempty ▸ hnone
  rw [dif_neg hnone, dif_neg hnone']
  by_cases hlarge : message.bytes.length > maxMessageBytes
  · have hlarge' : message'.bytes.length > maxMessageBytes := h ▸ hlarge
    rw [dif_pos hlarge, dif_pos hlarge']
    exact .error _
  have hlarge' : ¬ message'.bytes.length > maxMessageBytes := h ▸ hlarge
  rw [dif_neg hlarge, dif_neg hlarge']
  exact .ok ⟨⟨rfl, rfl, rfl, rfl, h⟩, rfl⟩

section Login

variable {ke : OpaqueKe} {rng rng' : ke.Rng} (hstart : StartsAlike ke rng rng')

include hstart

/-- **The protocol** starts a login alike without a file and with one that can be decoded. -/
theorem serverLoginStart_alike {setup : ServerSetupBytes} {file : CredentialFile}
    (hfile : (ke.deserializeRegistration file.bytes).isSome = true) (request : Message)
    (credentialIdentifier clientIdentifier serverIdentifier : Bytes) :
    ExceptRel (fun started started' => started.1.bytes.length = started'.1.bytes.length ∧
        (ke.serializeLogin started.2).length = (ke.serializeLogin started'.2).length)
      (serverLoginStart ke rng setup none request credentialIdentifier clientIdentifier
        serverIdentifier)
      (serverLoginStart ke rng' setup (some file) request credentialIdentifier clientIdentifier
        serverIdentifier) := by
  obtain ⟨decoded, hdecoded⟩ := Option.isSome_iff_exists.mp hfile
  have hdecode : file.decode ke = .ok decoded := by
    rw [CredentialFile.decode, hdecoded]
    rfl
  unfold serverLoginStart
  refine .bind_same fun _ => .bind_same fun decodedSetup => ?_
  have hfiles : ExceptRel (fun absent present => absent = none ∧ present = some decoded)
      (.ok none : Except AuthError (Option ke.Registration)) ((file.decode ke).map some) := by
    rw [hdecode]
    exact .ok ⟨rfl, rfl⟩
  refine .bind hfiles ?_
  rintro _ _ ⟨rfl, rfl⟩
  refine .bind_same fun decodedRequest => ?_
  refine .bind (.elim (hstart decodedSetup decoded decodedRequest _ _ _) _) fun started started' h =>
    .bind (messageFromSerialized_alike h.1) fun message message' hmessage => ?_
  exact .ok ⟨hmessage, h.2⟩

/-- What is prepared for the store, and for the response. -/
theorem prepareLogin_alike {S : Type} (service : ServerAuthService S) (request : AuthEnvelope)
    {file : CredentialFile} (hfile : (ke.deserializeRegistration file.bytes).isSome = true)
    (credentialIdentifier clientIdentifier serverIdentifier : Bytes) :
    ExceptRel (fun prepared prepared' => SameShape prepared.1 prepared'.1 ∧
        prepared.1.protocolVersion = protocolVersion ∧
        prepared.2.clientIdentifier = prepared'.2.clientIdentifier ∧
        prepared.2.serverIdentifier = prepared'.2.serverIdentifier ∧
        prepared.2.state.bytes.length = prepared'.2.state.bytes.length)
      (service.prepareLogin ke rng request none credentialIdentifier clientIdentifier
        serverIdentifier)
      (service.prepareLogin ke rng' request (some file) credentialIdentifier clientIdentifier
        serverIdentifier) := by
  unfold ServerAuthService.prepareLogin
  refine .bind_same fun message => .bind
    ((serverLoginStart_alike hstart hfile message _ _ _).mapError _) fun started started' h => ?_
  refine .bind ((envelope_new_alike h.1).mapError _) fun envelope envelope' henvelope => ?_
  -- The states are of equal length, so one fits if and only if the other does.
  have hstate : (intoBytes ke started.2).bytes.length = (intoBytes ke started'.2).bytes.length := by
    simp only [intoBytes, packageServerLoginState, List.length_append, h.2]
  have hbound : ExceptRel (fun bound bound' => bound.clientIdentifier = bound'.clientIdentifier ∧
      bound.serverIdentifier = bound'.serverIdentifier ∧
      bound.state.bytes.length = bound'.state.bytes.length)
      (BoundLoginState.new (intoBytes ke started.2) clientIdentifier serverIdentifier)
      (BoundLoginState.new (intoBytes ke started'.2) clientIdentifier serverIdentifier) := by
    unfold BoundLoginState.new
    split_ifs
    · exact .ok ⟨rfl, rfl, hstate⟩
    · exact .error _
    · exact .error _
  refine .bind (hbound.mapError _) fun bound bound' hsame => ?_
  exact .ok ⟨henvelope.1, henvelope.2, hsame⟩

/-- **Logins begin alike**: the same failure, or envelopes of one shape and the same handle; and
    the stores hold the same number of entries behind them. -/
theorem beginLogin_alike {S Context : Type} [BoundOneTimeLoginStateStore S Context]
    {entries : S → ℕ} (hinsert : InsertsAlike entries) (service : ServerAuthService S)
    (context : Context) (request : AuthEnvelope) {file : CredentialFile}
    (hfile : (ke.deserializeRegistration file.bytes).isSome = true)
    (credentialIdentifier clientIdentifier serverIdentifier : Bytes) :
    let absent := service.beginLogin ke context rng request none credentialIdentifier
      clientIdentifier serverIdentifier
    let present := service.beginLogin ke context rng' request (some file) credentialIdentifier
      clientIdentifier serverIdentifier
    entries absent.2.stateStore = entries present.2.stateStore ∧
      Option.Rel (ExceptRel fun begun begun' => SameShape begun.1 begun'.1 ∧
        begun.1.protocolVersion = protocolVersion ∧ begun.2 = begun'.2) absent.1 present.1 := by
  have hprepare := prepareLogin_alike hstart service request hfile credentialIdentifier
    clientIdentifier serverIdentifier
  unfold ServerAuthService.beginLogin
  generalize service.prepareLogin ke rng request none credentialIdentifier clientIdentifier
    serverIdentifier = prepared at hprepare ⊢
  generalize service.prepareLogin ke rng' request (some file) credentialIdentifier clientIdentifier
    serverIdentifier = prepared' at hprepare ⊢
  cases hprepare with
  | error failure => exact ⟨rfl, .some (.error failure)⟩
  | @ok prepared prepared' h =>
    obtain ⟨envelope, bound⟩ := prepared
    obtain ⟨envelope', bound'⟩ := prepared'
    obtain ⟨hshape, hversion, hclient, hserver, hlength⟩ := h
    obtain ⟨hsame, hentries⟩ := hinsert service.stateStore context bound bound' hclient hserver
      hlength
    dsimp only
    generalize BoundOneTimeLoginStateStore.insertBound service.stateStore context bound = inserted
      at hsame hentries ⊢
    generalize BoundOneTimeLoginStateStore.insertBound service.stateStore context bound' = inserted'
      at hsame hentries ⊢
    obtain ⟨result, store⟩ := inserted
    obtain ⟨result', store'⟩ := inserted'
    obtain rfl : result = result' := hsame
    match result with
    | none => exact ⟨hentries, .none⟩
    | some (.error failure) => exact ⟨hentries, .some (.error _)⟩
    | some (.ok handle) => exact ⟨hentries, .some (.ok ⟨hshape, hversion, rfl⟩)⟩

end Login

/-- Two responses a caller cannot tell an account from: the same one, or those of two logins that
    began with envelopes of one shape. -/
inductive SameAnswer : Option HttpResponse → Option HttpResponse → Prop
  | same (response : Option HttpResponse) : SameAnswer response response
  | began {envelope envelope' : AuthEnvelope} (handle : LoginStateHandle) :
      SameShape envelope envelope' → envelope.protocolVersion = protocolVersion →
      SameAnswer (some (jsonResponse (loginStartJson envelope (encodeHandle handle))))
        (some (jsonResponse (loginStartJson envelope' (encodeHandle handle))))

section TwoRouters

variable {ke : OpaqueKe} {serde : SerdeJson} {S Context R : Type}
  [BoundOneTimeLoginStateStore S Context] [CredentialRepository R]

/-- The requested credential identifier is absent in one repository, and holds a file that can be
    decoded in the other. Nothing is said of other identifiers. -/
def DifferAtRequested (ke : OpaqueKe) (serde : SerdeJson) (absent present : R) (body : Bytes) :
    Prop :=
  ∀ request, serde.readLoginStart body = some request →
    CredentialRepository.load absent (asBytes request.credentialIdentifier) = .ok none ∧
      ∃ file : CredentialFile,
        CredentialRepository.load present (asBytes request.credentialIdentifier) = .ok (some file) ∧
        (ke.deserializeRegistration file.bytes).isSome = true

/-- **The two runs** of `login_start`. -/
theorem loginStart_alike {entries : S → ℕ} (hinsert : InsertsAlike entries) {rng rng' : ke.Rng}
    (hstart : StartsAlike ke rng rng') (service : ServerAuthService S) {absent present : R}
    (context : Context) (body : Bytes) (hdiffer : DifferAtRequested ke serde absent present body) :
    let run : Handled S R :=
      HttpAuthRouter.loginStart ke serde ⟨service, absent⟩ ⟨context, rng⟩ body
    let run' : Handled S R :=
      HttpAuthRouter.loginStart ke serde ⟨service, present⟩ ⟨context, rng'⟩ body
    SameAnswer run.response run'.response ∧ run.calls = run'.calls ∧
      entries run.router.service.stateStore = entries run'.router.service.stateStore := by
  unfold HttpAuthRouter.loginStart
  cases hread : serde.readLoginStart body with
  | none => exact ⟨.same _, rfl, rfl⟩
  | some request =>
    -- The two repositories differ only at the requested record.
    obtain ⟨habsent, file, hpresent, hfile⟩ := hdiffer request hread
    simp only [parseJson, Option.elim_some]
    split_ifs
    · exact ⟨.same _, rfl, rfl⟩
    · rw [habsent, hpresent]
      obtain ⟨hentries, hbegun⟩ := beginLogin_alike hstart hinsert service context request.envelope
        hfile (asBytes request.credentialIdentifier) (asBytes request.clientIdentifier)
        (asBytes request.serverIdentifier)
      dsimp only
      generalize service.beginLogin ke context rng request.envelope none
        (asBytes request.credentialIdentifier) (asBytes request.clientIdentifier)
        (asBytes request.serverIdentifier) = begun at hentries hbegun ⊢
      generalize service.beginLogin ke context rng' request.envelope (some file)
        (asBytes request.credentialIdentifier) (asBytes request.clientIdentifier)
        (asBytes request.serverIdentifier) = begun' at hentries hbegun ⊢
      obtain ⟨result, after⟩ := begun
      obtain ⟨result', after'⟩ := begun'
      -- The results of the two starts are related, and so are the answers made of them.
      cases hbegun with
      | none => exact ⟨.same _, rfl, hentries⟩
      | some hresult =>
        cases hresult with
        | error failure => exact ⟨.same _, rfl, hentries⟩
        | @ok begun begun' h =>
          obtain ⟨envelope, handle⟩ := begun
          obtain ⟨envelope', handle'⟩ := begun'
          obtain ⟨hshape, hversion, rfl⟩ := h
          exact ⟨.began handle hshape hversion, rfl, hentries⟩

/-- What a caller sees of answers that are the same to it. -/
theorem SameAnswer.visible {answer answer' : Option HttpResponse} (h : SameAnswer answer answer') :
    answer.map HttpResponse.status = answer'.map HttpResponse.status ∧
      (answer = answer' ∨ ∃ envelope envelope' handle, SameShape envelope envelope' ∧
        answer.map HttpResponse.body = some (toVec (loginStartJson envelope handle)) ∧
        answer'.map HttpResponse.body = some (toVec (loginStartJson envelope' handle))) := by
  cases h with
  | same => exact ⟨rfl, .inl rfl⟩
  | @began envelope envelope' handle hshape hversion =>
    have hversion' : envelope'.protocolVersion = protocolVersion :=
      hshape.protocolVersion.symm.trans hversion
    rw [jsonResponse_loginStart hversion handle, jsonResponse_loginStart hversion' handle]
    simp only [Option.map_some, true_and]
    exact .inr ⟨envelope, envelope', encodeHandle handle, hshape, rfl, rfl⟩

/-- **Account enumeration and effects**, for every request.

    (a) Of two repositories that differ at the requested identifier, `login_start` answers with the
    same status, and with the same response or with envelopes of the same metadata and payload
    length; it makes the same calls and leaves as many entries in the state store.
    (b) A response other than 200 leaves the credential repository as it was.
    (c) A request that fails a gate makes no call, to the repository or to the service with the
    state store, and changes nothing. -/
theorem auth_routes_hide_accounts (ke : OpaqueKe) (registration : OpaqueRegistration ke)
    (serde : SerdeJson) {entries : S → ℕ} (hinsert : InsertsAlike entries)
    (hcreate : CreateFailsClean R) :
    (∀ rng rng', StartsAlike ke rng rng' → ∀ (service : ServerAuthService S) (absent present : R)
      (context : Context) (body : Bytes), DifferAtRequested ke serde absent present body →
      let run : Handled S R :=
        HttpAuthRouter.loginStart ke serde ⟨service, absent⟩ ⟨context, rng⟩ body
      let run' : Handled S R :=
        HttpAuthRouter.loginStart ke serde ⟨service, present⟩ ⟨context, rng'⟩ body
      run.response.map HttpResponse.status = run'.response.map HttpResponse.status ∧
        (run.response = run'.response ∨ ∃ envelope envelope' handle, SameShape envelope envelope' ∧
          run.response.map HttpResponse.body = some (toVec (loginStartJson envelope handle)) ∧
          run'.response.map HttpResponse.body = some (toVec (loginStartJson envelope' handle))) ∧
        run.calls = run'.calls ∧
        entries run.router.service.stateStore = entries run'.router.service.stateStore) ∧
    (∀ (router : HttpAuthRouter S R) (environment : RequestEnvironment ke Context)
      (request : HttpRequest) (deployment : HttpDeploymentContext) (response : HttpResponse),
      (router.handle registration serde environment request deployment).response = some response →
      response.status ≠ 200 →
      (router.handle registration serde environment request deployment).router.repository =
        router.repository) ∧
    ∀ (router : HttpAuthRouter S R) (environment : RequestEnvironment ke Context)
      (request : HttpRequest) (deployment : HttpDeploymentContext),
      ¬ PassesGates request deployment →
      (router.handle registration serde environment request deployment).calls = [] ∧
        (router.handle registration serde environment request deployment).router = router := by
  refine ⟨?_, ?_, ?_⟩
  · intro rng rng' hstart service absent present context body hdiffer
    -- The dummy and the record go the same way through the login start.
    obtain ⟨hanswer, hcalls, hentries⟩ :=
      loginStart_alike hinsert hstart service context body hdiffer
    exact ⟨hanswer.visible.1, hanswer.visible.2, hcalls, hentries⟩
  · intro router environment request deployment response hresponse hstatus
    -- Only an answer 200 goes with a changed repository.
    rcases @handle_repository ke registration serde S Context R _ _ hcreate router environment
      request deployment with ⟨other, hother, hok⟩ | hsame
    · rw [hresponse] at hother
      cases hother
      exact absurd hok hstatus
    · exact hsame
  · intro router environment request deployment hfails
    rcases @handle_cases ke registration serde S Context R _ _ request deployment with
      hpasses | ⟨response, -, hrefused⟩
    · exact absurd hpasses hfails
    · rw [hrefused]
      exact ⟨rfl, rfl⟩

end TwoRouters

/-- A repository in memory. -/
structure InMemoryRepository where
  records : List (Bytes × CredentialFile)

instance : CredentialRepository InMemoryRepository where
  load repository identifier := .ok (repository.records.lookup identifier)
  create repository identifier credential :=
    if (repository.records.lookup identifier).isSome then (.error .alreadyExists, repository)
    else (.ok (), ⟨(identifier, credential) :: repository.records⟩)

theorem inMemory_createFailsClean : CreateFailsClean InMemoryRepository := by
  intro repository identifier credential error h
  simp only [CredentialRepository.create] at h ⊢
  split
  · rfl
  · next hnew =>
    rw [if_neg hnew] at h
    cases h

/-- A login for an account that is unknown to one of two repositories. -/
theorem unknown_account_answered_alike :
    let handle : LoginStateHandle := ⟨List.replicate 32 7, rfl⟩
    let wire : LoginStartRequest AuthEnvelopeWire :=
      ⟨"account", "client", "server", ⟨1, cipherSuiteId, .credentialRequest, "k1", [1, 2]⟩⟩
    let serde : SerdeJson := ⟨fun _ => none, fun _ => some wire, fun _ => none⟩
    let service : LoginService :=
      ⟨⟨[9]⟩, "k1", ["k1"], { entries := Mutex.new ∅, maxEntries := 2, ttl := 10 }⟩
    let environment : RequestEnvironment echoKe CallContext := ⟨⟨1000, 5, [handle]⟩, ()⟩
    let absent : InMemoryRepository := ⟨[]⟩
    let present : InMemoryRepository := ⟨[(asBytes "account", ⟨[3]⟩)]⟩
    let run := HttpAuthRouter.loginStart echoKe serde ⟨service, absent⟩ environment []
    let run' := HttpAuthRouter.loginStart echoKe serde ⟨service, present⟩ environment []
    run.response.map HttpResponse.status = some 200 ∧
      run.response.map HttpResponse.status = run'.response.map HttpResponse.status ∧
      run.router.service.stateStore.map.size = run'.router.service.stateStore.map.size := by
  intro handle wire serde service environment absent present run run'
  have hdiffer : DifferAtRequested echoKe serde absent present [] := by
    intro request hrequest
    cases hrequest
    exact ⟨rfl, ⟨[3]⟩, rfl, rfl⟩
  have hstart : StartsAlike echoKe () () := fun _ _ _ _ _ _ => .some ⟨rfl, rfl⟩
  obtain ⟨halike, -, -⟩ := auth_routes_hide_accounts (R := InMemoryRepository) echoKe
    ⟨Unit, Unit, fun _ => none, fun _ _ _ => none, fun _ => none, fun _ => []⟩ serde
    inMemory_insertsAlike inMemory_createFailsClean
  obtain ⟨hstatus, -, -, hentries⟩ :=
    halike () () hstart service absent present environment.context [] hdiffer
  exact ⟨by decide +kernel, hstatus, hentries⟩

end SecureKeypad.Http
