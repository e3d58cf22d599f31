import SecureKeypad.Library.Driven
import SecureKeypad.Webauthn.Router
import SecureKeypad.Webauthn.ServiceRuns

/-!
# Passkey Requests in Flight

A host runs any number of requests over one service at once. A request that reaches the service
makes one call there, whose steps interleave with those of all other calls; the request is answered
in the step its call returns.

The service inside takes part in every step, so its runs of `ServiceRuns` are what the requests
drive, with the request number as the client.

## Main results

- `resume_advanced`: everything a resumed request can do
- `resume_drives`: the requests drive the service
- `webauthn_router_run`: one started ceremony, one credential operation, both of one principal
-/

namespace SecureKeypad.Webauthn

open Rust Server Machine
open ServiceWorld (ended proceed Performs finishedFor StartedBy)

/-- A request with the deployment it arrived through. -/
structure WebAuthnArrival where
  request : WebAuthnHttpRequest
  context : WebAuthnDeploymentContext

/-- Where a request stands. -/
inductive Stage (w : WebauthnEngine) where
  | arrived
  /-- Its call to the service is in progress. -/
  | calling (respond : ServiceResult w → WebAuthnHttpResponse)
  | answered

/-- The service that all requests share, and where each of them stands. -/
structure RouterWorld (w : WebauthnEngine) (C σ : Type) where
  service : ServiceWorld w C σ
  stage : ℕ → Stage w

/-- What is seen of a step: what the service shows, and the response when the request is done. There
    is none when its thread panicked. -/
abbrev RouterOutput (w : WebauthnEngine) (σ : Type) :=
  ServiceOutput w σ × Option (Option WebAuthnHttpResponse)

namespace RouterWorld

variable {w : WebauthnEngine} {C σ Outside : Type}

/-- Request `n` comes to stand elsewhere. -/
def move (world : RouterWorld w C σ) (n : ℕ) (stage : Stage w) (service : ServiceWorld w C σ) :
    RouterWorld w C σ := ⟨service, Function.update world.stage n stage⟩

/-- Request `n` after a step of its call. -/
def settle (world : RouterWorld w C σ) (n : ℕ) (respond : ServiceResult w → WebAuthnHttpResponse)
    (stepped : ServiceOutput w σ × ServiceWorld w C σ) : RouterOutput w σ × RouterWorld w C σ :=
  match stepped.1 with
  | .acted _ _ _ (some result) =>
    ((stepped.1, some (some (respond result))), world.move n .answered stepped.2)
  | _ =>
    if (stepped.2.clients.lookup n).isSome then
      ((stepped.1, none), world.move n (.calling respond) stepped.2)
    else ((stepped.1, some none), world.move n .answered stepped.2)

section Steps

variable [DecidableEq σ] (serde : WebauthnJson w) (arrivals : ℕ → WebAuthnArrival)

/-- What request `n` comes to. -/
def route (n : ℕ) : Route w := (arrivals n).request.handle serde (arrivals n).context

variable (instantMax : ℕ) (service : WebAuthnService σ) (backend : CredentialStore w C Outside)

/-- Request `n` goes on: through the gates to its call, or by one step of its call. -/
def resume (world : RouterWorld w C σ) (input : ℕ × Surroundings w Outside) :
    RouterOutput w σ × RouterWorld w C σ :=
  match world.stage input.1 with
  | .answered => ((.ignored, none), world)
  | .calling respond =>
    world.settle input.1 respond
      (world.service.step instantMax service backend (.resume input.1 input.2))
  | .arrived =>
    match route serde arrivals input.1 with
    | .answer response =>
      ((.ignored, some (some response)), world.move input.1 .answered world.service)
    | .call request respond =>
      world.settle input.1 respond
        (world.service.step instantMax service backend (.call input.1 request))

/-- What the service gets of a step. A request that makes no call leaves the service where it is. -/
def give (world : RouterWorld w C σ) (input : ℕ × Surroundings w Outside) :
    ServiceInput w Outside :=
  match world.stage input.1, route serde arrivals input.1 with
  | .arrived, .call request _ => .call input.1 request
  | _, _ => .resume input.1 input.2

/-- A request and its call in the service stand at the same place. -/
def Fits (route : Route w) (call : Option (ServiceRequest × ServiceCode w σ)) : Stage w → Prop
  | .calling respond => ∃ request code, route = .call request respond ∧ call = some (request, code)
  | .arrived | .answered => call = none

/-- Every call of the service is that of a request. -/
def Aligned (world : RouterWorld w C σ) : Prop :=
  ∀ n, Fits (route serde arrivals n) (world.service.clients.lookup n) (world.stage n)

/-- Everything a resumed request can do, with what the service does of it. -/
inductive Advanced (world : RouterWorld w C σ) (n : ℕ) :
    ServiceOutput w σ × ServiceWorld w C σ → RouterOutput w σ × RouterWorld w C σ → Prop where
  /-- It was done before. -/
  | idle : world.stage n = .answered →
      Advanced world n (.ignored, world.service) ((.ignored, none), world)
  /-- It is answered without the service. -/
  | refused (response : WebAuthnHttpResponse) :
      world.service.clients.lookup n = none →
      route serde arrivals n = .answer response →
      Advanced world n (.ignored, world.service)
        ((.ignored, some (some response)), world.move n .answered world.service)
  /-- Its call makes a step. -/
  | called (request : ServiceRequest) (respond : ServiceResult w → WebAuthnHttpResponse)
      (op : StoreOperation w σ) (rest : Option (ServiceCode w σ)) (after : ServiceWorld w C σ) :
      route serde arrivals n = .call request respond →
      after.clients = world.service.clients →
      Advanced world n (after.proceed n request op rest)
        (world.settle n respond (after.proceed n request op rest))

end Steps

/-! ## What a step can do -/

theorem settle_fst_fst (world : RouterWorld w C σ) (n : ℕ)
    (respond : ServiceResult w → WebAuthnHttpResponse)
    (stepped : ServiceOutput w σ × ServiceWorld w C σ) :
    (world.settle n respond stepped).1.1 = stepped.1 := by
  unfold settle
  split
  · rfl
  · split_ifs <;> rfl

theorem settle_service (world : RouterWorld w C σ) (n : ℕ)
    (respond : ServiceResult w → WebAuthnHttpResponse)
    (stepped : ServiceOutput w σ × ServiceWorld w C σ) :
    (world.settle n respond stepped).2.service = stepped.2 := by
  unfold settle
  split
  · rfl
  · split_ifs <;> rfl

/-- A response is that to the result of the call. -/
theorem settle_response {world : RouterWorld w C σ} {n : ℕ}
    {respond : ServiceResult w → WebAuthnHttpResponse}
    {stepped : ServiceOutput w σ × ServiceWorld w C σ} {client : ℕ} {request : ServiceRequest}
    {op : StoreOperation w σ} {result : Option (ServiceResult w)}
    (h : stepped.1 = .acted client request op result) :
    (∀ answer, result = some answer →
        (world.settle n respond stepped).1.2 = some (some (respond answer))) ∧
      ∀ response, (world.settle n respond stepped).1.2 = some (some response) →
        ∃ answer, result = some answer ∧ response = respond answer := by
  unfold settle
  cases result with
  | some answer =>
    rw [h]
    refine ⟨?_, ?_⟩
    · intro other hother
      cases hother
      rfl
    · intro response hresponse
      cases hresponse
      exact ⟨answer, rfl, rfl⟩
  | none =>
    rw [h]
    refine ⟨fun _ hnone => (by cases hnone), fun response hresponse => ?_⟩
    dsimp only at hresponse
    split_ifs at hresponse
    all_goals cases hresponse

/-- After a step the request stands where its call does. -/
theorem settle_fits {serde : WebauthnJson w} {arrivals : ℕ → WebAuthnArrival}
    (world : RouterWorld w C σ) {n : ℕ} {request : ServiceRequest}
    {respond : ServiceResult w → WebAuthnHttpResponse}
    (hroute : route serde arrivals n = .call request respond)
    (op : StoreOperation w σ) (rest : Option (ServiceCode w σ)) (after : ServiceWorld w C σ) :
    Fits (route serde arrivals n)
      ((world.settle n respond (after.proceed n request op rest)).2.service.clients.lookup n)
      ((world.settle n respond (after.proceed n request op rest)).2.stage n) := by
  have hgone : (after.clients.erase n).lookup n = none := by
    rw [KeyedMap.lookup_erase_ite, if_pos rfl]
  have hthere : ∀ code,
      (after.clients.insert n (request, code)).lookup n = some (request, code) := by
    intro code
    rw [KeyedMap.lookup_insert_ite, if_pos rfl]
  -- A call that is over has left the service; one that goes on is the call of the route.
  cases rest with
  | none => simp [settle, proceed, move, Fits, hgone]
  | some code => cases code <;> simp [settle, proceed, move, Fits, hgone, hthere, hroute]

theorem settle_stage_of_ne (world : RouterWorld w C σ) {n m : ℕ} (hne : m ≠ n)
    (respond : ServiceResult w → WebAuthnHttpResponse)
    (stepped : ServiceOutput w σ × ServiceWorld w C σ) :
    (world.settle n respond stepped).2.stage m = world.stage m := by
  unfold settle move
  split
  · exact Function.update_of_ne hne _ _
  · split_ifs <;> exact Function.update_of_ne hne _ _

theorem lookup_proceed_of_ne (world : ServiceWorld w C σ) {client other : ℕ}
    (hne : other ≠ client) (request : ServiceRequest) (op : StoreOperation w σ)
    (rest : Option (ServiceCode w σ)) :
    (world.proceed client request op rest).2.clients.lookup other = world.clients.lookup other := by
  cases rest with
  | none => simp [proceed, hne]
  | some code => cases code <;> simp [proceed, hne]

section Advances

variable [DecidableEq σ] {serde : WebauthnJson w} {arrivals : ℕ → WebAuthnArrival}
  (instantMax : ℕ) (service : WebAuthnService σ) (backend : CredentialStore w C Outside)

theorem perform_clients (env : Surroundings w Outside) (world : ServiceWorld w C σ)
    (code : ServiceCode w σ) :
    (world.perform instantMax backend env code).2.2.clients = world.clients := by
  cases code <;> rfl

/-- **One step of a request** is one step of the service, or leaves it where it is. -/
theorem resume_advanced {world : RouterWorld w C σ} (haligned : Aligned serde arrivals world)
    (n : ℕ) (env : Surroundings w Outside) :
    Advanced serde arrivals world n
      (world.service.step instantMax service backend (give serde arrivals world (n, env)))
      (resume serde arrivals instantMax service backend world (n, env)) := by
  have hfits := haligned n
  unfold resume give
  -- The cases of `resume`: where the request stands and, when it has just arrived, its route.
  cases hstage : world.stage n with
  | answered =>
    rw [hstage] at hfits
    have hidle : world.service.clients.lookup n = none := hfits
    have hquiet : world.service.step instantMax service backend (.resume n env) =
        (.ignored, world.service) := by
      simp only [ServiceWorld.step, hidle]
    dsimp only
    rw [hquiet]
    exact .idle hstage
  | arrived =>
    rw [hstage] at hfits
    have hidle : world.service.clients.lookup n = none := hfits
    cases hroute : route serde arrivals n with
    | answer response =>
      have hquiet : world.service.step instantMax service backend (.resume n env) =
          (.ignored, world.service) := by
        simp only [ServiceWorld.step, hidle]
      dsimp only
      rw [hquiet]
      exact .refused response hidle hroute
    | call request respond =>
      have hcalls : world.service.step instantMax service backend (.call n request) =
          world.service.proceed n request .none (some (request.code w service)) := by
        simp only [ServiceWorld.step, hidle, Option.isSome_none, Bool.false_eq_true, if_false]
      dsimp only
      rw [hcalls]
      exact .called request respond _ _ _ hroute rfl
  | calling respond =>
    rw [hstage] at hfits
    obtain ⟨request, code, hroute, hcall⟩ := hfits
    have hresumes : world.service.step instantMax service backend (.resume n env) =
        (world.service.perform instantMax backend env code).2.2.proceed n request
          (world.service.perform instantMax backend env code).1
          (world.service.perform instantMax backend env code).2.1 := by
      simp only [ServiceWorld.step, hcall]
    dsimp only
    rw [hresumes]
    exact .called request respond _ _ _ hroute (perform_clients _ backend env _ code)

end Advances

namespace Advanced

variable {serde : WebauthnJson w} {arrivals : ℕ → WebAuthnArrival} {world : RouterWorld w C σ}
  {n : ℕ} {stepped : ServiceOutput w σ × ServiceWorld w C σ}
  {output : RouterOutput w σ × RouterWorld w C σ}

theorem aligned (h : Advanced serde arrivals world n stepped output)
    (haligned : Aligned serde arrivals world) : Aligned serde arrivals output.2 := by
  intro m
  cases h with
  | idle _ => exact haligned m
  | refused response hidle hroute =>
    by_cases hm : m = n
    · subst hm
      simp only [move, Function.update_self]
      exact hidle
    · simp only [move, Function.update_of_ne hm]
      exact haligned m
  | called request respond op rest after hroute hclients =>
    by_cases hm : m = n
    · subst hm
      exact settle_fits world hroute op rest after
    · rw [settle_service, settle_stage_of_ne world hm, lookup_proceed_of_ne after hm, hclients]
      exact haligned m

/-- What is seen of the service, and where it is, are those of the service's own step. -/
theorem service_eq (h : Advanced serde arrivals world n stepped output) :
    stepped.1 = output.1.1 ∧ stepped.2 = output.2.service := by
  cases h with
  | idle _ => exact ⟨rfl, rfl⟩
  | refused response _ _ => exact ⟨rfl, rfl⟩
  | called request respond op rest after _ _ =>
    exact ⟨(settle_fst_fst ..).symm, (settle_service ..).symm⟩

/-- Whose call a step belongs to, and how the request is answered. -/
theorem acted (h : Advanced serde arrivals world n stepped output) {client : ℕ}
    {request : ServiceRequest} {op : StoreOperation w σ} {result : Option (ServiceResult w)}
    (hseen : output.1.1 = .acted client request op result) :
    client = n ∧ ∃ respond, route serde arrivals n = .call request respond ∧
      ∀ answer, result = some answer → output.1.2 = some (some (respond answer)) := by
  cases h with
  | idle _ => cases hseen
  | refused response _ _ => cases hseen
  | called request' respond op' rest after hroute _ =>
    rw [settle_fst_fst, ServiceWorld.proceed_fst] at hseen
    cases hseen
    exact ⟨rfl, respond, hroute, (settle_response (after.proceed_fst n request op rest)).1⟩

/-- What a response shows: the request was refused before the service, or its call returned. -/
theorem answered (h : Advanced serde arrivals world n stepped output)
    {response : WebAuthnHttpResponse} (hseen : output.1.2 = some (some response)) :
    route serde arrivals n = .answer response ∨
      ∃ request respond op answer, route serde arrivals n = .call request respond ∧
        output.1.1 = .acted n request op (some answer) ∧ response = respond answer := by
  cases h with
  | idle _ => cases hseen
  | refused response' _ hroute =>
    cases hseen
    exact .inl hroute
  | called request respond op rest after hroute _ =>
    obtain ⟨answer, hanswer, rfl⟩ :=
      (settle_response (after.proceed_fst n request op rest)).2 response hseen
    refine .inr ⟨request, respond, op, answer, hroute, ?_, rfl⟩
    rw [settle_fst_fst, ServiceWorld.proceed_fst, hanswer]

/-- A step that shows nothing leaves the service where it is. -/
theorem ignored (h : Advanced serde arrivals world n stepped output)
    (hseen : output.1.1 = .ignored) : output.2.service = world.service := by
  cases h with
  | idle _ => rfl
  | refused response _ _ => rfl
  | called request respond op rest after _ _ =>
    rw [settle_fst_fst, ServiceWorld.proceed_fst] at hseen
    cases hseen

/-- A request that makes no call leaves the service where it is. -/
theorem unmoved (h : Advanced serde arrivals world n stepped output)
    (hroute : ∀ request respond, route serde arrivals n ≠ .call request respond) :
    output.2.service = world.service := by
  cases h with
  | idle _ => rfl
  | refused response _ _ => rfl
  | called request respond op rest after hcall _ => exact absurd hcall (hroute request respond)

end Advanced

/-! ## Runs -/

section Runs

variable [DecidableEq σ] (serde : WebauthnJson w) (arrivals : ℕ → WebAuthnArrival)
  (instantMax : ℕ) (service : WebAuthnService σ) (backend : CredentialStore w C Outside)

/-- The world after the first `k` steps of a run. -/
def worldAt (start : RouterWorld w C σ) (inputs : List (ℕ × Surroundings w Outside)) (k : ℕ) :
    RouterWorld w C σ :=
  run (resume serde arrivals instantMax service backend) start (inputs.take k)

/-- What is seen of a run. -/
def outputs (start : RouterWorld w C σ) (inputs : List (ℕ × Surroundings w Outside)) :
    List (RouterOutput w σ) :=
  (trace (resume serde arrivals instantMax service backend) start inputs).map Prod.snd

/-- The request passes the gates, on `path`, for the principal `userId`. -/
def Reaches (arrival : WebAuthnArrival) (path : String) (userId : Uuid) : Prop :=
  arrival.request.Passes arrival.context ∧ arrival.request.path = path ∧
    arrival.request.principal = some userId

/-- Step `k` makes a credential operation for `userId` in request `n`. -/
def CreditsAt (seen : List (RouterOutput w σ)) (k n : ℕ) (op : StoreOperation w σ)
    (userId : Uuid) : Prop :=
  ∃ request result response, seen[k]? = some (.acted n request op result, response) ∧
    op.credits = some userId

/-- Step `s` starts a ceremony: request `starter` of `userId` stores it, and its response gives out
    the handle, unless the start cannot be written within the limit of a response: then it is an
    error without it. -/
structure BegunAt (seen : List (RouterOutput w σ)) (s starter : ℕ) (kind : CeremonyKind)
    (userId : Uuid) (handle : LoginStateHandle) (expiresAt : ℕ) : Prop where
  reaches : Reaches (arrivals starter) (startPath kind) userId
  answered : ∃ request state now options response, expiresAt = now + service.ceremonyTtl ∧
    seen[s]? = some (.acted starter request
        (.stored (service.states kind) kind userId state now service.ceremonyTtl
          (some (.ok handle))) (some (.ok (.started ⟨encodeHandle handle, options⟩))),
      some (some response)) ∧
    (GivesOut serde ⟨encodeHandle handle, options⟩ response ∨
      Withholds serde ⟨encodeHandle handle, options⟩ response)

/-- Step `m` takes a ceremony: request `n` of `userId` has its handle in the body. -/
structure TakenAt (seen : List (RouterOutput w σ)) (m n : ℕ) (kind : CeremonyKind) (userId : Uuid)
    (handle : LoginStateHandle) (now : ℕ) : Prop where
  reaches : Reaches (arrivals n) (finishPath kind) userId
  body : ∃ body, serde.ceremonyFinishBody (arrivals n).request.body = some body ∧
    body.handle = encodeHandle handle
  taken : ∃ request taken response, seen[m]? = some (.acted n request
    (.took (service.states kind) kind handle now (.ok (some taken))) none, response)

variable {serde arrivals instantMax service backend} {start : RouterWorld w C σ}
  {inputs : List (ℕ × Surroundings w Outside)}

/-- **The requests drive the service**, each as a client of its own. -/
theorem resume_drives :
    Drives (resume serde arrivals instantMax service backend)
      (ServiceWorld.step instantMax service backend) (give serde arrivals)
      (fun world => world.service) (fun output => output.1) (Aligned serde arrivals) where
  inv _ input haligned :=
    (resume_advanced instantMax service backend haligned input.1 input.2).aligned haligned
  answer _ input haligned :=
    (resume_advanced instantMax service backend haligned input.1 input.2).service_eq.1
  state _ input haligned :=
    (resume_advanced instantMax service backend haligned input.1 input.2).service_eq.2

omit [DecidableEq σ] in
theorem aligned_start (hclients : start.service.clients = ∅)
    (hstage : ∀ n, start.stage n = .arrived) : Aligned serde arrivals start := by
  intro n
  rw [hstage, hclients]
  rfl

theorem aligned_worldAt (hstart : Aligned serde arrivals start) (k : ℕ) :
    Aligned serde arrivals (worldAt serde arrivals instantMax service backend start inputs k) :=
  run_invariant (resume serde arrivals instantMax service backend) (resume_drives.inv) hstart _

/-- An entry of a run is what a request did there. -/
theorem advanced_of_output (hstart : Aligned serde arrivals start) {k : ℕ}
    {output : RouterOutput w σ}
    (h : (outputs serde arrivals instantMax service backend start inputs)[k]? = some output) :
    ∃ n env stepped, inputs[k]? = some (n, env) ∧
      Advanced serde arrivals (worldAt serde arrivals instantMax service backend start inputs k) n
        stepped
        (output, worldAt serde arrivals instantMax service backend start inputs (k + 1)) := by
  rw [outputs, List.getElem?_map] at h
  obtain ⟨⟨⟨n, env⟩, answer⟩, hentry, rfl⟩ := Option.map_eq_some_iff.mp h
  obtain ⟨hinput, hanswer⟩ := trace_getElem?_eq_some _ hentry
  have haligned : Aligned serde arrivals
      (worldAt serde arrivals instantMax service backend start inputs k) := aligned_worldAt hstart k
  have hstep : resume serde arrivals instantMax service backend
      (worldAt serde arrivals instantMax service backend start inputs k) (n, env) =
      (answer, worldAt serde arrivals instantMax service backend start inputs (k + 1)) :=
    Prod.ext hanswer.symm (run_take_succ _ hinput).symm
  have hadvanced := resume_advanced instantMax service backend haligned n env
  rw [hstep] at hadvanced
  exact ⟨n, env, _, hinput, hadvanced⟩

/-- What the service shows of a run. -/
theorem service_outputs (hstart : Aligned serde arrivals start) :
    ServiceWorld.outputs instantMax service backend start.service
        (driven (resume serde arrivals instantMax service backend) (give serde arrivals) start
          inputs) =
      (outputs serde arrivals instantMax service backend start inputs).map Prod.fst := by
  rw [ServiceWorld.outputs, resume_drives.outputs hstart, outputs, List.map_map]
  rfl

theorem service_output (hstart : Aligned serde arrivals start) {k : ℕ} {output : ServiceOutput w σ}
    {response : Option (Option WebAuthnHttpResponse)}
    (h : (outputs serde arrivals instantMax service backend start inputs)[k]? =
      some (output, response)) :
    (ServiceWorld.outputs instantMax service backend start.service
      (driven (resume serde arrivals instantMax service backend) (give serde arrivals) start
        inputs))[k]? = some output := by
  rw [service_outputs hstart, List.getElem?_map, h]
  rfl

theorem service_worldAt (hstart : Aligned serde arrivals start) (k : ℕ) :
    ServiceWorld.worldAt instantMax service backend start.service
        (driven (resume serde arrivals instantMax service backend) (give serde arrivals) start
          inputs) k =
      (worldAt serde arrivals instantMax service backend start inputs k).service :=
  resume_drives.run_take hstart inputs k

omit [DecidableEq σ] in
/-- A request that starts a ceremony is one of the account it starts it for. -/
theorem starting_of_route {n : ℕ} {request : ServiceRequest}
    {respond : ServiceResult w → WebAuthnHttpResponse}
    (hroute : route serde arrivals n = .call request respond) {userId : Uuid}
    (hstarts : request.starts = some userId) :
    Reaches (arrivals n) (startPath request.kind) userId ∧ respond = respondStart serde := by
  have hmeets : (route serde arrivals n).Meets _ :=
    meets_handle (arrivals n).request (arrivals n).context
  rw [hroute] at hmeets
  obtain ⟨hpasses, principal, hprincipal, hcalls⟩ := hmeets
  cases hcalls with
  | starting hpath hstarts' _ =>
    rw [hstarts] at hstarts'
    cases hstarts'
    exact ⟨⟨hpasses, hpath, hprincipal⟩, rfl⟩
  | finishing body _ _ hstarts' _ =>
    rw [hstarts] at hstarts'
    cases hstarts'

omit [DecidableEq σ] in
/-- A request that finishes a ceremony has the handle in its body, and the principal with it. -/
theorem finishing_of_route {n : ℕ} {request : ServiceRequest}
    {respond : ServiceResult w → WebAuthnHttpResponse}
    (hroute : route serde arrivals n = .call request respond) {text : String}
    {principal : Option Uuid} (hfinishes : request.finishes = some (text, principal)) :
    ∃ userId body, principal = some userId ∧
      Reaches (arrivals n) (finishPath request.kind) userId ∧
      serde.ceremonyFinishBody (arrivals n).request.body = some body ∧ body.handle = text ∧
      respond = respondFinish request.kind := by
  have hmeets : (route serde arrivals n).Meets _ :=
    meets_handle (arrivals n).request (arrivals n).context
  rw [hroute] at hmeets
  obtain ⟨hpasses, userId, hprincipal, hcalls⟩ := hmeets
  cases hcalls with
  | starting _ _ hfinishes' =>
    rw [hfinishes] at hfinishes'
    cases hfinishes'
  | finishing body hpath hbody _ hfinishes' =>
    rw [hfinishes] at hfinishes'
    cases hfinishes'
    exact ⟨userId, body, rfl, ⟨hpasses, hpath, hprincipal⟩, hbody, rfl, rfl⟩

/-- An entry of a call shows its route, and the response when the call returned. -/
theorem acted_of_output (hstart : Aligned serde arrivals start) {k client : ℕ}
    {request : ServiceRequest} {op : StoreOperation w σ} {result : Option (ServiceResult w)}
    (h : ((outputs serde arrivals instantMax service backend start inputs).map Prod.fst)[k]? =
      some (.acted client request op result)) :
    ∃ respond response,
      (outputs serde arrivals instantMax service backend start inputs)[k]? =
        some (.acted client request op result, response) ∧
      route serde arrivals client = .call request respond ∧
      ∀ answer, result = some answer → response = some (some (respond answer)) := by
  rw [List.getElem?_map] at h
  obtain ⟨⟨output, response⟩, hentry, rfl⟩ := Option.map_eq_some_iff.mp h
  obtain ⟨n, env, stepped, -, hadvanced⟩ := advanced_of_output hstart hentry
  obtain ⟨rfl, respond, hroute, hresponse⟩ := hadvanced.acted rfl
  exact ⟨respond, response, hentry, hroute, hresponse⟩

/-- Every credential operation goes back to the request that stored the ceremony it came by, no two
    to the same. -/
theorem credited_by_requests (hstart : Aligned serde arrivals start)
    (hclients : start.service.clients = ∅)
    (hempty : ∀ store, (start.service.stores store).map = ∅) :
    let seen := outputs serde arrivals instantMax service backend start inputs
    ∃ source : ℕ → ℕ,
      Set.InjOn source {k | ∃ n op userId, CreditsAt seen k n op userId} ∧
      ∀ k n op userId, CreditsAt seen k n op userId →
        ∃ m starter kind handle expiresAt now, source k < m ∧ m < k ∧
          BegunAt serde arrivals service seen (source k) starter kind userId handle expiresAt ∧
          TakenAt serde arrivals service seen m n kind userId handle now ∧ now < expiresAt := by
  intro seen
  obtain ⟨source, hinj, hstarted⟩ :=
    @ServiceWorld.credited_once w C σ Outside _ service instantMax backend start.service
      (driven (resume serde arrivals instantMax service backend) (give serde arrivals) start inputs)
      hclients hempty
  rw [service_outputs hstart] at hinj hstarted
  have hmapped : ∀ k n op userId, CreditsAt seen k n op userId → ∃ request result,
      (seen.map Prod.fst)[k]? = some (.acted n request op result) ∧ op.credits = some userId := by
    rintro k n op userId ⟨request, result, response, hentry, hcredits⟩
    refine ⟨request, result, ?_, hcredits⟩
    rw [List.getElem?_map, hentry]
    rfl
  refine ⟨source, hinj.mono ?_, ?_⟩
  -- The service's own source, read back through the entries of the run.
  · rintro k ⟨n, op, userId, hcredits⟩
    obtain ⟨request, result, hentry, hcredits⟩ := hmapped k n op userId hcredits
    exact ⟨n, request, op, result, userId, hentry, hcredits⟩
  · intro k n op userId hcredits
    obtain ⟨request, result, hentry, hcredits⟩ := hmapped k n op userId hcredits
    obtain ⟨m, starter, startRequest, startNow, handle, options, taken, now, principal, hsm, hmk,
      hissued, hkind, hstarts, htook, hlive, hfinishes, hown⟩ :=
      hstarted k n request op result userId hentry hcredits
    obtain ⟨respond, response, hissued, hroute, hresponse⟩ := acted_of_output hstart hissued
    obtain ⟨hstartReaches, rfl⟩ := starting_of_route hroute hstarts
    obtain rfl := hresponse _ rfl
    obtain ⟨respond', takenResponse, htook, hroute', -⟩ := acted_of_output hstart htook
    obtain ⟨other, body, rfl, hfinishReaches, hbody, hhandle, -⟩ :=
      finishing_of_route hroute' hfinishes
    obtain rfl := hown other rfl
    rw [hkind] at hstartReaches
    exact ⟨m, starter, request.kind, handle, startNow + service.ceremonyTtl, now, hsm, hmk,
      ⟨hstartReaches, startRequest, taken.state, startNow, options, _, rfl, hissued,
        respondStart_started serde _⟩,
      ⟨hfinishReaches, ⟨body, hbody, hhandle⟩, request, taken, takenResponse, htook⟩, hlive⟩

/-- A finishing call that succeeds returns the outcome of an account. -/
theorem finished_of_finishing {start : ServiceWorld w C σ} {inputs : List (ServiceInput w Outside)}
    (hstart : start.clients = ∅) {k client : ℕ} {request : ServiceRequest}
    {op : StoreOperation w σ} {outcome : ServiceOutcome w}
    (h : (ServiceWorld.outputs instantMax service backend start inputs)[k]? =
      some (.acted client request op (some (.ok outcome))))
    (hstarts : request.starts = none) : ∃ userId, finishedFor outcome = some userId := by
  obtain ⟨rest, after, hperforms, hended, -⟩ := ServiceWorld.performs_of_output hstart h
  cases hperforms with
  | quiet op rest hop hrest => cases hrest <;> cases hended
  | stored _ _ _ _ userId _ _ _ _ _ hstarts' _ _ =>
    rw [hstarts] at hstarts'
    cases hstarts'
  -- Behind a take there is more to do, unless the call has failed.
  | took now handle principal next answer after htake hfinishes herror hmiss hother hown =>
    cases answer with
    | error error =>
      rw [herror error] at hended
      cases hended
    | ok taken =>
      cases taken with
      | none =>
        rw [hmiss] at hended
        cases hended
      | some state =>
        have hcredits := hown state
        generalize next (.ok (some state)) = code at hcredits hended
        cases hcredits <;> cases hended
  | credited op userId result credentials hholds hcredits hresult hkind =>
    cases hended
    rcases hkind with ⟨passkey, answer, rfl, -⟩ | ⟨update, answer, rfl, -⟩
    all_goals
      cases answer with
      | error error => cases hresult
      | ok updated =>
        cases hresult
        exact ⟨_, rfl⟩

theorem finishes_of_starts {request : ServiceRequest} (h : request.starts = none) :
    ∃ text principal, request.finishes = some (text, principal) := by
  cases request with
  | startRegistration | startAuthentication => cases h
  | finishRegistration handle principal _ => exact ⟨handle, principal, rfl⟩
  | finishAuthentication handle principal _ => exact ⟨handle, principal, rfl⟩

theorem finishPath_ne_startPath (kind other : CeremonyKind) :
    finishPath kind ≠ startPath other := by
  cases kind <;> cases other <;> decide

theorem finishPath_injective : Function.Injective finishPath := by
  intro kind other h
  cases kind <;> cases other <;> first | rfl | exact absurd h (by decide)

omit [DecidableEq σ] in
/-- What reaches the service on the path of a finish finishes a ceremony of this kind. -/
theorem finishing_of_path {n : ℕ} {request : ServiceRequest}
    {respond : ServiceResult w → WebAuthnHttpResponse} {kind : CeremonyKind}
    (hroute : route serde arrivals n = .call request respond)
    (hpath : (arrivals n).request.path = finishPath kind) :
    request.kind = kind ∧ request.starts = none ∧ respond = respondFinish kind := by
  have hmeets : (route serde arrivals n).Meets _ :=
    meets_handle (arrivals n).request (arrivals n).context
  rw [hroute] at hmeets
  obtain ⟨-, userId, -, hcalls⟩ := hmeets
  cases hcalls with
  | starting hpath' _ _ => exact absurd (hpath.symm.trans hpath') (finishPath_ne_startPath _ _)
  | finishing body hpath' _ hstarts _ =>
    obtain rfl := finishPath_injective (hpath.symm.trans hpath')
    exact ⟨rfl, hstarts, rfl⟩

/-- The one response of a finish that is a success. -/
theorem respondFinish_of_status {kind : CeremonyKind} {result : ServiceResult w}
    (h : (respondFinish kind result).status = 200) :
    ∃ outcome, result = .ok outcome ∧
      respondFinish kind result = webauthnResponse 200 (finishedBody kind) := by
  cases result with
  | error error => exact absurd h (webauthnServiceError_status_ne error)
  | ok outcome =>
    obtain ⟨body, hbody, hresponse⟩ := webauthnJsonResponse_of_status (by decide) h
    cases hbody
    exact ⟨outcome, rfl, hresponse⟩

/-- The credential operation of a finish that succeeds. -/
def Succeeds (op : StoreOperation w σ) (userId : Uuid) : CeremonyKind → Prop
  | .registration => ∃ passkey, op = .enrolled userId passkey (.ok ())
  | .authentication => ∃ update updated, op = .updated userId update (.ok updated)

omit [DecidableEq σ] in
theorem Succeeds.credits {op : StoreOperation w σ} {userId : Uuid} {kind : CeremonyKind}
    (h : Succeeds op userId kind) : op.credits = some userId := by
  cases kind with
  | registration =>
    obtain ⟨passkey, rfl⟩ := h
    rfl
  | authentication =>
    obtain ⟨update, updated, rfl⟩ := h
    rfl

/-- A success on the path of a finish is the credential operation made in the same step. -/
theorem succeeds_of_response (hstart : Aligned serde arrivals start)
    (hclients : start.service.clients = ∅) {k n : ℕ} {env : Surroundings w Outside}
    {kind : CeremonyKind} {output : ServiceOutput w σ} {response : WebAuthnHttpResponse}
    (hentry : (outputs serde arrivals instantMax service backend start inputs)[k]? =
      some (output, some (some response)))
    (hinput : inputs[k]? = some (n, env)) (hpath : (arrivals n).request.path = finishPath kind)
    (hstatus : response.status = 200) :
    response = webauthnResponse 200 (finishedBody kind) ∧
      ∃ op userId, Succeeds op userId kind ∧
        CreditsAt (outputs serde arrivals instantMax service backend start inputs) k n op
          userId := by
  obtain ⟨n', env', stepped, hinput', hadvanced⟩ := advanced_of_output hstart hentry
  rw [hinput] at hinput'
  cases hinput'
  rcases hadvanced.answered rfl with hroute |
    ⟨request, respond, op, result, hroute, hseen, rfl⟩
  -- What is refused before the service is no success.
  · have hmeets : (route serde arrivals n).Meets _ :=
      meets_handle (arrivals n).request (arrivals n).context
    rw [hroute] at hmeets
    exact absurd hstatus hmeets
  · obtain ⟨rfl, hstarts, rfl⟩ := finishing_of_path hroute hpath
    obtain ⟨outcome, rfl, hresponse⟩ := respondFinish_of_status hstatus
    dsimp only at hseen
    subst hseen
    have hservice := service_output hstart hentry
    obtain ⟨userId, hfinished⟩ := finished_of_finishing hclients hservice hstarts
    have hsucceeds : Succeeds op userId request.kind := by
      rcases ServiceWorld.finished_of_output hclients hservice hfinished with
        ⟨passkey, rfl, hkind⟩ | ⟨update, updated, rfl, hkind⟩
      · rw [hkind]
        exact ⟨passkey, rfl⟩
      · rw [hkind]
        exact ⟨update, updated, rfl⟩
    exact ⟨hresponse, op, userId, hsucceeds, request, _, _, hentry, hsucceeds.credits⟩

/-- No other step changes a credential. -/
theorem credentials_of_quiet (hstart : Aligned serde arrivals start)
    (hclients : start.service.clients = ∅) {k : ℕ}
    (hquiet : ∀ n op userId,
      ¬ CreditsAt (outputs serde arrivals instantMax service backend start inputs) k n op userId) :
    (worldAt serde arrivals instantMax service backend start inputs (k + 1)).service.credentials =
      (worldAt serde arrivals instantMax service backend start inputs k).service.credentials := by
  cases hentry : (outputs serde arrivals instantMax service backend start inputs)[k]? with
  | none =>
    have hend : inputs.length ≤ k := by
      simpa only [outputs, List.getElem?_eq_none_iff, List.length_map, length_trace] using hentry
    rw [worldAt, worldAt, List.take_of_length_le hend,
      List.take_of_length_le (hend.trans (Nat.le_succ k))]
  | some entry =>
    obtain ⟨output, response⟩ := entry
    cases output with
    | ignored =>
      obtain ⟨n, env, stepped, -, hadvanced⟩ := advanced_of_output hstart hentry
      exact congrArg _ (hadvanced.ignored rfl)
    | acted client request op result =>
      have hcredits : op.credits = none := by
        by_contra hsome
        obtain ⟨userId, hsome⟩ := Option.ne_none_iff_exists'.mp hsome
        exact hquiet client op userId ⟨request, result, response, hentry, hsome⟩
      rw [← service_worldAt hstart, ← service_worldAt hstart]
      exact ServiceWorld.credentials_of_output hclients (service_output hstart hentry) hcredits

/-- **One passkey ceremony, one finish.** In every run of any number of requests, however their
    steps interleave and whatever the clocks show:

    - every credential operation goes back to a request that passed the gates for the same
      principal, on the start path of its kind, and stored the ceremony; its response gave out the
      handle, or was an error where it does not fit into a response; the finishing
      request passed the gates for the principal with this handle in its body and took the ceremony
      before its expiry; and no two operations share their start;
    - a success on a finish path is answered in the step of a successful credential operation of its
      principal, with the one body of its kind;
    - no other step changes a credential;
    - a request that does not pass the gates on one of the four paths, or has no principal, never
      touches the service, and its response is no success. -/
theorem webauthn_router_run (serde : WebauthnJson w) (arrivals : ℕ → WebAuthnArrival)
    (instantMax : ℕ) (service : WebAuthnService σ) (backend : CredentialStore w C Outside)
    (capacity : σ → ℕ) (start : RouterWorld w C σ)
    (hstores : ∀ store,
      InMemoryCeremonyStateStore.new (capacity store) = .ok (start.service.stores store))
    (hclients : start.service.clients = ∅) (hstage : ∀ n, start.stage n = .arrived)
    (inputs : List (ℕ × Surroundings w Outside)) :
    let seen := outputs serde arrivals instantMax service backend start inputs
    let world := worldAt serde arrivals instantMax service backend start inputs
    (∃ source : ℕ → ℕ, Set.InjOn source {k | ∃ n op userId, CreditsAt seen k n op userId} ∧
      ∀ k n op userId, CreditsAt seen k n op userId →
        ∃ m starter kind handle expiresAt now, source k < m ∧ m < k ∧
          BegunAt serde arrivals service seen (source k) starter kind userId handle expiresAt ∧
          TakenAt serde arrivals service seen m n kind userId handle now ∧ now < expiresAt) ∧
    (∀ (k n : ℕ) env kind output response, inputs[k]? = some (n, env) →
      seen[k]? = some (output, some (some response)) →
      (arrivals n).request.path = finishPath kind → response.status = 200 →
        response = webauthnResponse 200 (finishedBody kind) ∧
        ∃ op userId, Reaches (arrivals n) (finishPath kind) userId ∧ Succeeds op userId kind ∧
          CreditsAt seen k n op userId) ∧
    (∀ k, (∀ n op userId, ¬ CreditsAt seen k n op userId) →
      (world (k + 1)).service.credentials = (world k).service.credentials) ∧
    ∀ (k n : ℕ) env output response, inputs[k]? = some (n, env) →
      seen[k]? = some (output, response) →
      (∀ kind userId, ¬ Reaches (arrivals n) (startPath kind) userId ∧
        ¬ Reaches (arrivals n) (finishPath kind) userId) →
        (world (k + 1)).service = (world k).service ∧
        ∀ answer, response = some (some answer) → answer.status ≠ 200 := by
  intro seen world
  have hstart : Aligned serde arrivals start := aligned_start hclients hstage
  have hempty : ∀ store, (start.service.stores store).map = ∅ :=
    fun store => (InMemoryCeremonyStateStore.new_eq_ok (hstores store)).1
  obtain ⟨source, hinj, hcharged⟩ := credited_by_requests hstart hclients hempty
  refine ⟨⟨source, hinj, hcharged⟩, ?_, ?_, ?_⟩
  · intro k n env kind output response hinput hentry hpath hstatus
    obtain ⟨hresponse, op, userId, hsucceeds, hcredits⟩ :=
      succeeds_of_response hstart hclients hentry hinput hpath hstatus
    refine ⟨hresponse, op, userId, ?_, hsucceeds, hcredits⟩
    -- The operation is that of the request which took the ceremony, on the same path.
    obtain ⟨_, _, kind', _, _, _, _, _, _, htaken, _⟩ := hcharged k n op userId hcredits
    obtain rfl := finishPath_injective (htaken.reaches.2.1.symm.trans hpath)
    exact htaken.reaches
  · intro k hquiet
    exact credentials_of_quiet hstart hclients hquiet
  · intro k n env output response hinput hentry hrefused
    obtain ⟨n', env', stepped, hinput', hadvanced⟩ := advanced_of_output hstart hentry
    rw [hinput] at hinput'
    cases hinput'
    have hroute : ∀ request respond, route serde arrivals n ≠ .call request respond := by
      intro request respond hroute
      cases hstarts : request.starts with
      | some userId => exact (hrefused _ _).1 (starting_of_route hroute hstarts).1
      | none =>
        obtain ⟨text, principal, hfinishes⟩ := finishes_of_starts hstarts
        obtain ⟨userId, _, _, hreaches, _⟩ := finishing_of_route hroute hfinishes
        exact (hrefused _ _).2 hreaches
    refine ⟨hadvanced.unmoved hroute, ?_⟩
    rintro answer rfl
    rcases hadvanced.answered rfl with hanswer | ⟨request, respond, _, _, hcall, _⟩
    · have hmeets : (route serde arrivals n).Meets _ :=
        meets_handle (arrivals n).request (arrivals n).context
      rw [hanswer] at hmeets
      exact hmeets
    · exact absurd hcall (hroute request respond)

end Runs

/-! ### A run -/

/-- Bodies that are read the same whatever they are, and handles written as they are. -/
def sampleWebauthnJson : WebauthnJson ServiceWorld.fieldsEngine where
  registrationStartBody _ := some ⟨"user", "User"⟩
  ceremonyFinishBody _ := some ⟨encodeHandle ServiceWorld.sampleCeremonyHandle, ()⟩
  emptyBody _ := some ()
  valueToVec _ := some [5]
  startToVec start := some (asBytes start.handle)

/-- A registration of account 7 in two requests. -/
def sampleWebauthnArrivals (n : ℕ) : WebAuthnArrival where
  request :=
    { method := "POST"
      path := if n = 0 then startPath .registration else finishPath .registration
      contentType := some "application/json"
      principal := some 7
      csrfValidated := true
      body := [] }
  context := ⟨.directTls, maxClientResponseBytes, true⟩

def sampleWebauthnInputs : List (ℕ × Surroundings ServiceWorld.fieldsEngine Unit) :=
  [(0, ServiceWorld.sampleSurroundings 0), (0, ServiceWorld.sampleSurroundings 0),
    (0, ServiceWorld.sampleSurroundings 0), (1, ServiceWorld.sampleSurroundings 1),
    (1, ServiceWorld.sampleSurroundings 1), (1, ServiceWorld.sampleSurroundings 2)]

/-- The second request of the sample run is answered with success, on the registration that the
    first one started. -/
theorem webauthn_router_run_sample :
    let start : RouterWorld ServiceWorld.fieldsEngine
      (InMemoryCredentialStore ServiceWorld.fieldsEngine.Passkey) Unit :=
      ⟨ServiceWorld.sampleServiceWorld, fun _ => .arrived⟩
    let seen := outputs sampleWebauthnJson sampleWebauthnArrivals (10 ^ 20)
      ServiceWorld.sampleService (InMemoryCredentialStore.backend fieldsApi) start
      sampleWebauthnInputs
    (seen[5]?.map Prod.snd = some (some (some (webauthnResponse 200 credentialRegisteredBody)))) ∧
      ∃ s starter kind handle expiresAt, s < 5 ∧ BegunAt sampleWebauthnJson sampleWebauthnArrivals
        ServiceWorld.sampleService seen s starter kind 7 handle expiresAt := by
  intro start seen
  have hanswered : seen[5]?.map Prod.snd =
      some (some (some (webauthnResponse 200 credentialRegisteredBody))) := by decide +kernel
  obtain ⟨⟨source, -, hcharged⟩, hsucceeds, -, -⟩ := webauthn_router_run sampleWebauthnJson
    sampleWebauthnArrivals (10 ^ 20) ServiceWorld.sampleService
    (InMemoryCredentialStore.backend fieldsApi) (fun _ => 2) start (fun _ => rfl) rfl (fun _ => rfl)
    sampleWebauthnInputs
  obtain ⟨⟨output, response⟩, hentry, hresponse⟩ := Option.map_eq_some_iff.mp hanswered
  dsimp only at hresponse
  subst hresponse
  obtain ⟨-, op, userId, ⟨-, -, hprincipal⟩, -, hcredits⟩ :=
    hsucceeds 5 1 _ .registration output _ rfl hentry rfl rfl
  obtain rfl := Option.some.inj hprincipal
  obtain ⟨m, starter, kind, handle, expiresAt, now, hsm, hm5, hbegun, -, -⟩ :=
    hcharged 5 1 op 7 hcredits
  exact ⟨hanswered, source 5, starter, kind, handle, expiresAt, hsm.trans hm5, hbegun⟩

end RouterWorld

end SecureKeypad.Webauthn
