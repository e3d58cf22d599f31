import SecureKeypad.Library.Machine
import SecureKeypad.Webauthn.Service

/-!
# Steps of the WebAuthn Service

Any number of clients call one service over in-memory ceremony stores. Each call to a store is one
step, atomic under the mutex of the store, at clock readings nothing is assumed about; between two
of them every other client may take any number of steps.

Two one-time ledgers share a run: a ceremony is issued by the call that stores it and redeemed by
the call that takes it, and what a client takes is redeemed by its one credential operation.

## Main results

- `ServiceWorld.step_effect`: everything one step can do
- `ServiceWorld.ceremonies_refinement`, `ServiceWorld.holdings_refinement`: the two ledgers
-/

namespace SecureKeypad.Webauthn

open Rust Server Machine Machine.Ledger
open InMemoryCeremonyStateStore (pendingCeremony)

/-! ## Steps -/

/-- The stores of a service and the calls in progress. -/
structure ServiceWorld (w : WebauthnEngine) (C σ : Type) where
  stores : σ → InMemoryCeremonyStateStore
  credentials : C
  clients : KeyedMap ℕ (ServiceRequest × ServiceCode w σ)

/-- What one step takes from outside: what a call draws and reads, the clock readings of an
    insertion's check and of the operation itself, and the state of the credential backend. -/
structure Surroundings (w : WebauthnEngine) (Outside : Type) where
  randomness : w.Randomness
  checked : ℕ
  now : ℕ
  draws : List LoginStateHandle
  outside : Outside

/-- The call to a store that a step made, with its answer. -/
inductive StoreOperation (w : WebauthnEngine) (σ : Type) where
  | none
  | loaded (userId : Uuid)
  | stored (store : σ) (kind : CeremonyKind) (userId : Uuid) (state : Bytes) (now ttl : ℕ)
      (answer : Option (Except CeremonyStoreError LoginStateHandle))
  | took (store : σ) (kind : CeremonyKind) (handle : LoginStateHandle) (now : ℕ)
      (answer : Except CeremonyStoreError (Option CeremonyState))
  | enrolled (userId : Uuid) (passkey : w.Passkey) (answer : Except CredentialStoreError Unit)
  | updated (userId : Uuid) (result : w.AuthenticationResult)
      (answer : Except CredentialStoreError Bool)

/-- The account of a credential operation. -/
def StoreOperation.credits {w : WebauthnEngine} {σ : Type} : StoreOperation w σ → Option Uuid
  | .enrolled userId _ _ | .updated userId _ _ => some userId
  | .none | .loaded _ | .stored .. | .took .. => Option.none

/-- What is seen of a step: whose call went on, by which operation, and what it returned. -/
inductive ServiceOutput (w : WebauthnEngine) (σ : Type) where
  | ignored
  | acted (client : ℕ) (request : ServiceRequest) (op : StoreOperation w σ)
      (result : Option (ServiceResult w))

/-- A client makes a call, or its call goes on. -/
inductive ServiceInput (w : WebauthnEngine) (Outside : Type) where
  | call (client : ℕ) (request : ServiceRequest)
  | resume (client : ℕ) (env : Surroundings w Outside)

namespace ServiceWorld

variable {w : WebauthnEngine} {C σ Outside : Type}

/-- One ceremony store changes. -/
def setStore [DecidableEq σ] (world : ServiceWorld w C σ) (store : σ)
    (after : InMemoryCeremonyStateStore) : ServiceWorld w C σ := { world with stores := Function.update world.stores store after }

theorem setStore_stores [DecidableEq σ] (world : ServiceWorld w C σ) (store : σ)
    (after : InMemoryCeremonyStateStore) (other : σ) :
    (world.setStore store after).stores other =
      if other = store then after else world.stores other := Function.update_apply ..

/-- One call to a store. A call whose thread panics has no rest. -/
def perform [DecidableEq σ] (instantMax : ℕ) (backend : CredentialStore w C Outside)
    (env : Surroundings w Outside) (world : ServiceWorld w C σ) :
    ServiceCode w σ → StoreOperation w σ × Option (ServiceCode w σ) × ServiceWorld w C σ
  | .done result => (.none, some (.done result), world)
  | .load userId next =>
    let answer := backend.load env.outside world.credentials userId
    (.loaded userId, some (next env.randomness answer), world)
  | .insertState store kind userId state ttl next =>
    let (answer, after) :=
      (world.stores store).insert instantMax env.checked env.now env.draws kind userId state ttl
    (.stored store kind userId state env.now ttl answer, answer.map next,
      world.setStore store after)
  | .takeState store kind handle next =>
    let (answer, after) := (world.stores store).take env.now kind handle
    (.took store kind handle env.now answer, some (next answer), world.setStore store after)
  | .insertCredential userId passkey next =>
    let (answer, credentials) := backend.insert env.outside world.credentials userId passkey
    (.enrolled userId passkey answer, some (next answer), { world with credentials })
  | .updateCredential userId result next =>
    let (answer, credentials) := backend.updateAfterAuth env.outside world.credentials userId result
    (.updated userId result answer, some (next answer), { world with credentials })

/-- A call stands where its rest begins, or is over. -/
def proceed (world : ServiceWorld w C σ) (client : ℕ) (request : ServiceRequest)
    (op : StoreOperation w σ) : Option (ServiceCode w σ) → ServiceOutput w σ × ServiceWorld w C σ
  | none => (.acted client request op none, { world with clients := world.clients.erase client })
  | some (.done result) =>
    (.acted client request op (some result),
      { world with clients := world.clients.erase client })
  | some code =>
    (.acted client request op none,
      { world with clients := world.clients.insert client (request, code) })

/-- One step. A client makes its next call when the last one is over. -/
def step [DecidableEq σ] (instantMax : ℕ) (service : WebAuthnService σ)
    (backend : CredentialStore w C Outside) (world : ServiceWorld w C σ) :
    ServiceInput w Outside → ServiceOutput w σ × ServiceWorld w C σ
  | .call client request =>
    if (world.clients.lookup client).isSome then (.ignored, world)
    else world.proceed client request .none (some (request.code w service))
  | .resume client env =>
    match world.clients.lookup client with
    | none => (.ignored, world)
    | some (request, code) =>
      let (op, rest, after) := world.perform instantMax backend env code
      after.proceed client request op rest

/-- What a call that stands at its rest returns. -/
def ended : Option (ServiceCode w σ) → Option (ServiceResult w)
  | some (.done result) => some result
  | _ => none

theorem proceed_fst (world : ServiceWorld w C σ) (client : ℕ) (request : ServiceRequest)
    (op : StoreOperation w σ) (rest : Option (ServiceCode w σ)) :
    (world.proceed client request op rest).1 = .acted client request op (ended rest) := by
  unfold proceed ended
  split <;> simp_all

@[simp] theorem proceed_stores (world : ServiceWorld w C σ) (client : ℕ) (request : ServiceRequest)
    (op : StoreOperation w σ) (rest : Option (ServiceCode w σ)) :
    (world.proceed client request op rest).2.stores = world.stores := by
  unfold proceed
  split <;> rfl

@[simp] theorem proceed_credentials (world : ServiceWorld w C σ) (client : ℕ)
    (request : ServiceRequest) (op : StoreOperation w σ) (rest : Option (ServiceCode w σ)) :
    (world.proceed client request op rest).2.credentials = world.credentials := by
  unfold proceed
  split <;> rfl

/-- The calls in progress after a step: the others stay where they are, and this one is at its rest
    unless that returns. -/
theorem lookup_proceed {world : ServiceWorld w C σ} {client other : ℕ} {request : ServiceRequest}
    {op : StoreOperation w σ} {rest : Option (ServiceCode w σ)}
    {call : ServiceRequest × ServiceCode w σ}
    (h : (world.proceed client request op rest).2.clients.lookup other = some call) :
    world.clients.lookup other = some call ∧ other ≠ client ∨
      other = client ∧ call.1 = request ∧ rest = some call.2 ∧ ended rest = none := by
  unfold proceed at h
  split at h
  · rw [KeyedMap.lookup_erase_ite] at h
    split at h
    · cases h
    · next hne => exact .inl ⟨h, hne⟩
  · rw [KeyedMap.lookup_erase_ite] at h
    split at h
    · cases h
    · next hne => exact .inl ⟨h, hne⟩
  · next code hnotDone =>
    rw [KeyedMap.lookup_insert_ite] at h
    split at h
    · next heq =>
      cases h
      refine .inr ⟨heq, rfl, rfl, ?_⟩
      unfold ended
      split
      · next heq' => exact absurd (Option.some.inj heq') (hnotDone _)
      · rfl
    · next hne => exact .inl ⟨h, hne⟩

variable [DecidableEq σ] {service : WebAuthnService σ}

/-! ## What one step can do -/

/-- Every call in progress is at a point before its take or has taken a ceremony. -/
def Sound (service : WebAuthnService σ) (world : ServiceWorld w C σ) : Prop :=
  ∀ client request code, world.clients.lookup client = some (request, code) →
    Point service request code ∨ ∃ userId, Credits request userId code

/-- The credential operation a client is about to make. -/
def holding : Option (ServiceRequest × ServiceCode w σ) → Option (ServiceRequest × Uuid)
  | some (request, .insertCredential userId _ _) => some (request, userId)
  | some (request, .updateCredential userId _ _) => some (request, userId)
  | _ => none

/-- What a credential operation makes its call return. -/
def creditResult : StoreOperation w σ → Option (ServiceResult w)
  | .enrolled userId _ answer =>
    some ((answer.map fun _ => .registered userId).mapError mapCredentialError)
  | .updated userId _ answer =>
    some ((answer.map fun updated => .authenticated userId updated).mapError mapCredentialError)
  | .none | .loaded _ | .stored .. | .took .. => none

/-- The operations of a step in the call `request`, with the rest of the call and the world behind
    them. -/
inductive Performs (service : WebAuthnService σ) (world : ServiceWorld w C σ) (client : ℕ)
    (request : ServiceRequest) :
    StoreOperation w σ → Option (ServiceCode w σ) → ServiceWorld w C σ → Prop where
  | quiet (op : StoreOperation w σ) (rest : ServiceCode w σ)
      (hop : op = .none ∨ ∃ userId, op = .loaded userId) (hrest : Point service request rest) :
      Performs service world client request op (some rest) world
  | stored (instantMax checked now : ℕ) (draws : List LoginStateHandle) (userId : Uuid)
      (state : Bytes) (next : Except CeremonyStoreError LoginStateHandle → ServiceCode w σ)
      (answer : Option (Except CeremonyStoreError LoginStateHandle))
      (after : InMemoryCeremonyStateStore)
      (hinsert : (world.stores (service.states request.kind)).insert instantMax checked now draws
        request.kind userId state service.ceremonyTtl = (answer, after))
      (hstarts : request.starts = some userId)
      (herror : ∀ error, next (.error error) = .done (.error (mapCeremonyError error)))
      (hok : ∃ options, ∀ handle,
        next (.ok handle) = .done (.ok (.started ⟨encodeHandle handle, options⟩))) :
      Performs service world client request
        (.stored (service.states request.kind) request.kind userId state now service.ceremonyTtl
          answer)
        (answer.map next) (world.setStore (service.states request.kind) after)
  | took (now : ℕ) (handle : LoginStateHandle) (principal : Option Uuid)
      (next : Except CeremonyStoreError (Option CeremonyState) → ServiceCode w σ)
      (answer : Except CeremonyStoreError (Option CeremonyState))
      (after : InMemoryCeremonyStateStore)
      (htake : (world.stores (service.states request.kind)).take now request.kind handle =
        (answer, after))
      (hfinishes : request.finishes = some (encodeHandle handle, principal))
      (herror : ∀ error, next (.error error) = .done (.error (mapCeremonyError error)))
      (hmiss : next (.ok none) = .done (.error .replay))
      (hother : ∀ state : CeremonyState, (∃ other, principal = some other ∧ other ≠ state.userId) →
        next (.ok (some state)) = .done (.error .invalidRequest))
      (hown : ∀ state : CeremonyState, Credits request state.userId (next (.ok (some state)))) :
      Performs service world client request
        (.took (service.states request.kind) request.kind handle now answer) (some (next answer))
        (world.setStore (service.states request.kind) after)
  | credited (op : StoreOperation w σ) (userId : Uuid) (result : ServiceResult w) (credentials : C)
      (hholds : holding (world.clients.lookup client) = some (request, userId))
      (hcredits : op.credits = some userId) (hresult : creditResult op = some result)
      (hkind : (∃ passkey answer, op = .enrolled userId passkey answer ∧
          request.kind = .registration) ∨
        ∃ update answer, op = .updated userId update answer ∧ request.kind = .authentication) :
      Performs service world client request op (some (.done result)) { world with credentials }

omit [DecidableEq σ] in
theorem holding_of_point {request : ServiceRequest} {code : ServiceCode w σ}
    (h : Point service request code) : holding (some (request, code)) = none := by
  cases h <;> rfl

omit [DecidableEq σ] in
theorem holding_of_credits {request : ServiceRequest} {code : ServiceCode w σ} {userId : Uuid}
    (h : Credits request userId code) :
    holding (some (request, code)) = none ∨
      holding (some (request, code)) = some (request, userId) := by
  cases h with
  | rejected error => exact .inl rfl
  | enrolling passkey next => exact .inr rfl
  | updating result next => exact .inr rfl

/-- One operation of a call before its take. -/
theorem performs_of_point {world : ServiceWorld w C σ} {client : ℕ} {request : ServiceRequest}
    {code : ServiceCode w σ} (instantMax : ℕ) (backend : CredentialStore w C Outside)
    (env : Surroundings w Outside) (h : Point service request code) :
    Performs service world client request (world.perform instantMax backend env code).1
      (world.perform instantMax backend env code).2.1
      (world.perform instantMax backend env code).2.2 := by
  cases h with
  | rejected error => exact .quiet _ _ (.inl rfl) (.rejected error)
  | loading userId next hstarts hnext => exact .quiet _ _ (.inr ⟨userId, rfl⟩) (hnext _ _)
  | storing userId state next hstarts herror hok =>
    exact .stored instantMax env.checked env.now env.draws userId state next _ _ rfl hstarts herror
      hok
  | taking handle principal next hfinishes herror hmiss hother hown =>
    exact .took env.now handle principal next _ _ rfl hfinishes herror hmiss hother hown

/-- The one operation of a call behind its take. -/
theorem performs_of_credits {world : ServiceWorld w C σ} {client : ℕ} {request : ServiceRequest}
    {code : ServiceCode w σ} {userId : Uuid} (instantMax : ℕ)
    (backend : CredentialStore w C Outside) (env : Surroundings w Outside)
    (hclient : world.clients.lookup client = some (request, code))
    (h : Credits request userId code) :
    Performs service world client request (world.perform instantMax backend env code).1
      (world.perform instantMax backend env code).2.1
      (world.perform instantMax backend env code).2.2 := by
  cases h with
  | rejected error => exact .quiet _ _ (.inl rfl) (.rejected error)
  -- Whatever the store answers, the call ends with it.
  | enrolling passkey next hkind herror hok =>
    have hdone : ∀ answer, next answer = .done ((answer.map fun _ =>
        (.registered userId : ServiceOutcome w)).mapError mapCredentialError) := by
      intro answer
      cases answer with
      | error error => exact herror error
      | ok _ => exact hok
    simp only [perform, hdone]
    exact .credited _ userId _ _ (by rw [hclient]; rfl) rfl rfl (.inl ⟨passkey, _, rfl, hkind⟩)
  | updating result next hkind herror hok =>
    have hdone : ∀ answer, next answer = .done ((answer.map fun updated =>
        (.authenticated userId updated : ServiceOutcome w)).mapError mapCredentialError) := by
      intro answer
      cases answer with
      | error error => exact herror error
      | ok updated => exact hok updated
    simp only [perform, hdone]
    exact .credited _ userId _ _ (by rw [hclient]; rfl) rfl rfl (.inr ⟨result, _, rfl, hkind⟩)

/-- Everything one step can do. -/
theorem step_effect (instantMax : ℕ) (backend : CredentialStore w C Outside)
    {world : ServiceWorld w C σ} (hsound : Sound service world) (input : ServiceInput w Outside) :
    step instantMax service backend world input = (.ignored, world) ∨
      ∃ client request op rest after, Performs service world client request op rest after ∧
        step instantMax service backend world input = after.proceed client request op rest := by
  cases input with
  | call client request =>
    simp only [step]
    split
    · exact .inl rfl
    · exact .inr ⟨client, request, .none, _, world, .quiet _ _ (.inl rfl) (.code request), rfl⟩
  | resume client env =>
    cases hclient : world.clients.lookup client with
    | none => exact .inl (by simp only [step, hclient])
    | some call =>
      obtain ⟨request, code⟩ := call
      have hperforms : Performs service world client request
          (world.perform instantMax backend env code).1
          (world.perform instantMax backend env code).2.1
          (world.perform instantMax backend env code).2.2 := by
        rcases hsound client request code hclient with hpoint | ⟨userId, hcredits⟩
        · exact performs_of_point instantMax backend env hpoint
        · exact performs_of_credits instantMax backend env hclient hcredits
      exact .inr ⟨client, request, _, _, _, hperforms, by simp only [step, hclient]⟩

namespace Performs

variable {world after : ServiceWorld w C σ} {client : ℕ} {request : ServiceRequest}
  {op : StoreOperation w σ} {rest : Option (ServiceCode w σ)}

/-- The calls in progress change only by what the call goes on with. -/
theorem clients_eq (h : Performs service world client request op rest after) :
    after.clients = world.clients := by
  cases h <;> rfl

/-- A call that goes on is at a point before its take, or holds what this step took. -/
theorem rest_cases (h : Performs service world client request op rest after)
    {code : ServiceCode w σ} (hrest : rest = some code) (hended : ended rest = none) :
    Point service request code ∨
      ∃ store now handle state, op = .took store request.kind handle now (.ok (some state)) ∧
        Credits request state.userId code := by
  -- A call goes on behind a quiet operation, or behind the take of a state it may use.
  cases h with
  | quiet op rest hop hpoint =>
    cases hrest
    exact .inl hpoint
  | stored instantMax checked now draws userId state next answer after hinsert hstarts herror hok =>
    obtain ⟨options, hok⟩ := hok
    match answer with
    | none => cases hrest
    | some (.error error) =>
      cases hrest
      rw [herror error]
      exact .inl (.rejected _)
    | some (.ok handle) =>
      rw [Option.map_some, hok handle] at hended
      cases hended
  | took now handle principal next answer after htake hfinishes herror hmiss hother hown =>
    cases hrest
    match answer with
    | .error error =>
      rw [herror error]
      exact .inl (.rejected _)
    | .ok none =>
      rw [hmiss]
      exact .inl (.rejected _)
    | .ok (some state) => exact .inr ⟨_, now, handle, state, rfl, hown state⟩
  | credited op userId result credentials hholds hcredits hresult hkind => cases hended

end Performs

theorem sound_step (instantMax : ℕ) (backend : CredentialStore w C Outside)
    (world : ServiceWorld w C σ) (input : ServiceInput w Outside) (hsound : Sound service world) :
    Sound service (step instantMax service backend world input).2 := by
  rcases step_effect instantMax backend hsound input with
    hstep | ⟨client, request, op, rest, after, hperforms, hstep⟩
  · rw [hstep]
    exact hsound
  · intro other request' code hlookup
    rw [hstep] at hlookup
    rcases lookup_proceed hlookup with ⟨hother, -⟩ | ⟨-, hrequest, hrest, hended⟩
    · rw [hperforms.clients_eq] at hother
      exact hsound other request' code hother
    · cases hrequest
      rcases hperforms.rest_cases hrest hended with hpoint | ⟨_, _, _, state, -, hcredits⟩
      · exact .inl hpoint
      · exact .inr ⟨state.userId, hcredits⟩

/-! ## The capacity -/

/-- Every store keeps to the capacity it was built with. -/
def WithinCapacity (capacity : σ → ℕ) (world : ServiceWorld w C σ) : Prop :=
  ∀ store, (world.stores store).maxEntries = capacity store ∧
    (world.stores store).map.size ≤ capacity store

theorem WithinCapacity.setStore {capacity : σ → ℕ} {world : ServiceWorld w C σ}
    (h : WithinCapacity capacity world) {store : σ} {after : InMemoryCeremonyStateStore}
    (hmax : after.maxEntries = (world.stores store).maxEntries)
    (hsize : after.map.size ≤ after.maxEntries) :
    WithinCapacity capacity (world.setStore store after) := by
  intro other
  by_cases heq : other = store
  · subst heq
    have hcapacity := hmax.trans (h other).1
    rw [setStore_stores, if_pos rfl]
    exact ⟨hcapacity, hcapacity ▸ hsize⟩
  · rw [setStore_stores, if_neg heq]
    exact h other

theorem withinCapacity_step {capacity : σ → ℕ} (instantMax : ℕ)
    (backend : CredentialStore w C Outside) (world : ServiceWorld w C σ)
    (input : ServiceInput w Outside)
    (h : Sound service world ∧ WithinCapacity capacity world) :
    WithinCapacity capacity (step instantMax service backend world input).2 := by
  obtain ⟨hsound, hcapacity⟩ := h
  have hfits : ∀ store, (world.stores store).map.size ≤ (world.stores store).maxEntries :=
    fun store => (hcapacity store).1 ▸ (hcapacity store).2
  rcases step_effect instantMax backend hsound input with
    hstep | ⟨client, request, op, rest, after, hperforms, hstep⟩
  · rw [hstep]
    exact hcapacity
  -- No operation changes the bound of a store, and none grows a store beyond it.
  · have hafter : WithinCapacity capacity after := by
      cases hperforms with
      | quiet => exact hcapacity
      | stored instantMax checked now draws userId state next answer after hinsert =>
        obtain ⟨hmax, -⟩ := InMemoryCeremonyStateStore.insert_cases instantMax
          (world.stores (service.states request.kind)) checked now draws request.kind userId state
          service.ceremonyTtl
        have hsize := InMemoryCeremonyStateStore.size_insert_le instantMax
          (world.stores (service.states request.kind)) checked now draws request.kind userId state
          service.ceremonyTtl (hfits _)
        rw [hinsert] at hmax hsize
        exact hcapacity.setStore hmax hsize
      | took now handle principal next answer after htake =>
        obtain ⟨hmax, -⟩ := InMemoryCeremonyStateStore.take_cases
          (world.stores (service.states request.kind)) now request.kind handle
        have hsize := InMemoryCeremonyStateStore.size_take_le
          (world.stores (service.states request.kind)) now request.kind handle (hfits _)
        rw [htake] at hmax hsize
        exact hcapacity.setStore hmax hsize
      | credited => exact hcapacity
    intro store
    rw [hstep, proceed_stores]
    exact hafter store

/-! ## The two ledgers -/

/-- A run seen as the ledger of the stored ceremonies. -/
def ceremonyEvent : ServiceOutput w σ → Event (σ × LoginStateHandle) (CeremonyKind × Uuid × Bytes)
  | .acted _ _ (.stored store kind userId state now ttl (some (.ok handle))) _ =>
    .issue (store, handle) (kind, userId, state) (now + ttl)
  | .acted _ _ (.took store _ handle now (.ok (some state))) _ =>
    .redeem (store, handle) (state.kind, state.userId, state.state) now
  | _ => .quiet

/-- A run seen as the ledger of what the clients hold between a take and its credential
    operation. It knows no expiry. -/
def holdingEvent : ServiceOutput w σ → Event ℕ (ServiceRequest × Uuid)
  | .acted client request (.took _ _ _ _ (.ok (some state))) none =>
    .issue client (request, state.userId) 1
  | .acted client request op (some _) =>
    match op.credits with
    | some userId => .redeem client (request, userId) 0
    | none => .quiet
  | _ => .quiet

/-- The ceremonies in the stores. -/
def ceremonies (world : ServiceWorld w C σ) (id : σ × LoginStateHandle) :
    Option ((CeremonyKind × Uuid × Bytes) × ℕ) :=
  pendingCeremony (world.stores id.1) id.2

/-- What the clients hold. -/
def holdings (world : ServiceWorld w C σ) (client : ℕ) : Option ((ServiceRequest × Uuid) × ℕ) :=
  (holding (world.clients.lookup client)).map fun held => (held, 1)

theorem ceremonies_setStore (world : ServiceWorld w C σ) (store : σ)
    (after : InMemoryCeremonyStateStore) (id : σ × LoginStateHandle) :
    ceremonies (world.setStore store after) id =
      if id.1 = store then pendingCeremony after id.2 else ceremonies world id := by
  unfold ceremonies
  rw [setStore_stores]
  split <;> rfl

omit [DecidableEq σ] in
theorem ceremonies_proceed (world : ServiceWorld w C σ) (client : ℕ) (request : ServiceRequest)
    (op : StoreOperation w σ) (rest : Option (ServiceCode w σ)) :
    ceremonies (world.proceed client request op rest).2 = ceremonies world := by
  funext id
  unfold ceremonies
  rw [proceed_stores]

/-- What it takes for a step to redeem a ceremony. -/
theorem redeem_of_ceremonyEvent (instantMax : ℕ) (backend : CredentialStore w C Outside)
    {world : ServiceWorld w C σ} (hsound : Sound service world) {input : ServiceInput w Outside}
    {id : σ × LoginStateHandle} {v : CeremonyKind × Uuid × Bytes} {t : ℕ}
    (hevent : ceremonyEvent (step instantMax service backend world input).1 = .redeem id v t) :
    ∃ e, ceremonies (step instantMax service backend world input).2 id = none ∧
      ceremonies world id = some (v, e) ∧ t < e := by
  rcases step_effect instantMax backend hsound input with
    hstep | ⟨client, request, op, rest, after, hperforms, hstep⟩
  · rw [hstep] at hevent
    cases hevent
  · rw [hstep, proceed_fst] at hevent
    rw [hstep, ceremonies_proceed]
    cases hperforms with
    | quiet op rest hop => rcases hop with rfl | ⟨_, rfl⟩ <;> cases hevent
    | stored instantMax checked now draws userId state next answer after =>
      unfold ceremonyEvent at hevent
      split at hevent <;> cases hevent
      simp_all
    -- Of the operations only a take that finds its state redeems a ceremony.
    | took now handle principal next answer after htake =>
      match answer with
      | .error error => cases hevent
      | .ok none => cases hevent
      | .ok (some state) =>
        have hanswer : ((world.stores (service.states request.kind)).take now request.kind
            handle).1 = .ok (some state) := by rw [htake]
        obtain ⟨-, hgone, e, hpending, hlive⟩ :=
          InMemoryCeremonyStateStore.redeems_of_take hanswer
        rw [htake] at hgone
        cases hevent
        refine ⟨e, ?_, hpending, hlive⟩
        rw [ceremonies_setStore, if_pos rfl]
        exact hgone
    | credited op userId result credentials hholds hcredits hresult hkind =>
      rcases hkind with ⟨passkey, answer, rfl, -⟩ | ⟨update, answer, rfl, -⟩ <;> cases hevent

/-- What it takes for a client to spend what it holds. -/
theorem redeem_of_holdingEvent (instantMax : ℕ) (backend : CredentialStore w C Outside)
    {world : ServiceWorld w C σ} (hsound : Sound service world) {input : ServiceInput w Outside}
    {client : ℕ} {v : ServiceRequest × Uuid} {t : ℕ}
    (hevent : holdingEvent (step instantMax service backend world input).1 =
      .redeem client v t) :
    t = 0 ∧ holding (world.clients.lookup client) = some v ∧
      (step instantMax service backend world input).2.clients.lookup client = none := by
  rcases step_effect instantMax backend hsound input with
    hstep | ⟨client', request, op, rest, after, hperforms, hstep⟩
  · rw [hstep] at hevent
    cases hevent
  · rw [hstep, proceed_fst] at hevent
    rw [hstep]
    cases hperforms with
    | quiet op rest hop =>
      rcases hop with rfl | ⟨_, rfl⟩
      · cases hended : ended (some rest) <;> rw [hended] at hevent <;> cases hevent
      · cases hended : ended (some rest) <;> rw [hended] at hevent <;> cases hevent
    | stored instantMax checked now draws userId state next answer after =>
      cases hended : ended (answer.map next) <;> rw [hended] at hevent <;> cases hevent
    | took now handle principal next answer after htake =>
      match answer with
      | .error error | .ok none | .ok (some state) =>
        cases hended : ended (some (next _)) <;> rw [hended] at hevent <;> cases hevent
    -- Only the credential operations redeem what a call holds, and they end it.
    | credited op userId result credentials hholds hcredits hresult hkind =>
      have hredeem : holdingEvent (.acted client' request op (some result)) =
          .redeem client' (request, userId) 0 := by
        rcases hkind with ⟨passkey, answer, rfl, -⟩ | ⟨update, answer, rfl, -⟩ <;>
          · cases hcredits
            rfl
      change holdingEvent (.acted client' request op (some result)) = _ at hevent
      rw [hredeem] at hevent
      have hgone : (world.clients.erase client').lookup client' = none := by
        rw [KeyedMap.lookup_erase_ite, if_pos rfl]
      cases hevent
      exact ⟨rfl, hholds, hgone⟩

/-- A ceremony appears when a call stores it, and is redeemed by the take that removes it. -/
theorem ceremonies_refinement (instantMax : ℕ) (service : WebAuthnService σ)
    (backend : CredentialStore w C Outside) :
    Refinement (step instantMax service backend) (fun _ => ceremonyEvent) ceremonies
      (Sound service) where
  inv := sound_step instantMax backend
  appears world input id v e hsound hpending := by
    rcases step_effect instantMax backend hsound input with
      hstep | ⟨client, request, op, rest, after, hperforms, hstep⟩
    · rw [hstep] at hpending
      exact .inl hpending
    · rw [hstep, ceremonies_proceed] at hpending
      rw [hstep, proceed_fst]
      -- A state can only appear in the store of the kind the call belongs to.
      cases hperforms with
      | quiet => exact .inl hpending
      | stored instantMax checked now draws userId state next answer after hinsert =>
        rw [ceremonies_setStore] at hpending
        split at hpending
        · next hstore =>
          have happears := @InMemoryCeremonyStateStore.appears_of_insert instantMax
            (world.stores (service.states request.kind)) checked now draws request.kind userId state
            service.ceremonyTtl id.2 v e
          rw [hinsert] at happears
          -- It was there before, or is the one that has been inserted.
          rcases happears hpending with hold | ⟨rfl, rfl, rfl⟩
          · refine .inl ?_
            rw [ceremonies, hstore]
            exact hold
          · refine .inr ?_
            rw [← hstore]
            rfl
        · exact .inl hpending
      -- Taking a state makes none appear.
      | took now handle principal next answer after htake =>
        rw [ceremonies_setStore] at hpending
        split at hpending
        · next hstore =>
          refine .inl ?_
          rw [ceremonies, hstore]
          apply InMemoryCeremonyStateStore.appears_of_take _ now request.kind handle
          rw [htake]
          exact hpending
        · exact .inl hpending
      | credited => exact .inl hpending
  redeems world input id v t hsound hevent := by
    obtain ⟨e, -, hpending⟩ := redeem_of_ceremonyEvent instantMax backend hsound hevent
    exact ⟨e, hpending⟩
  removes world input id v t hsound hevent := by
    obtain ⟨-, hgone, -⟩ := redeem_of_ceremonyEvent instantMax backend hsound hevent
    exact hgone

/-- A client holds what it has just taken, until its credential operation. -/
theorem holdings_refinement (instantMax : ℕ) (service : WebAuthnService σ)
    (backend : CredentialStore w C Outside) :
    Refinement (step instantMax service backend) (fun _ => holdingEvent) holdings
      (Sound service) where
  inv := sound_step instantMax backend
  appears world input client v e hsound hholds := by
    obtain ⟨held, hheld, hpair⟩ := Option.map_eq_some_iff.mp hholds
    cases hpair
    rcases step_effect instantMax backend hsound input with
      hstep | ⟨client', request, op, rest, after, hperforms, hstep⟩
    · rw [hstep] at hholds
      exact .inl hholds
    · rw [hstep] at hheld
      -- A call holds a credit only behind the take of a state that grants one.
      cases hcall : (after.proceed client' request op rest).2.clients.lookup client with
      | none =>
        rw [hcall] at hheld
        cases hheld
      | some call =>
        rw [hcall] at hheld
        -- Another client, or this one at its next point.
        rcases lookup_proceed hcall with ⟨hother, -⟩ | ⟨rfl, rfl, hrest, hended⟩
        · rw [hperforms.clients_eq] at hother
          refine .inl ?_
          rw [holdings, hother, hheld]
          rfl
        · obtain ⟨request, code⟩ := call
          rcases hperforms.rest_cases hrest hended with hpoint | ⟨store, now, handle, state, rfl,
            hcredits⟩
          · rw [holding_of_point hpoint] at hheld
            cases hheld
          · rcases holding_of_credits hcredits with hnone | hsome
            · rw [hnone] at hheld
              cases hheld
            · rw [hsome] at hheld
              cases hheld
              refine .inr ?_
              rw [hstep, proceed_fst, hended]
              rfl
  redeems world input client v t hsound hevent := by
    obtain ⟨rfl, hheld, -⟩ := redeem_of_holdingEvent instantMax backend hsound hevent
    refine ⟨1, ?_, Nat.one_pos⟩
    rw [holdings, hheld]
    rfl
  removes world input client v t hsound hevent := by
    obtain ⟨-, -, hgone⟩ := redeem_of_holdingEvent instantMax backend hsound hevent
    rw [holdings, hgone]
    rfl

end ServiceWorld

end SecureKeypad.Webauthn
