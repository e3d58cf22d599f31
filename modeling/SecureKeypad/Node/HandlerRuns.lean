import SecureKeypad.Library.History
import SecureKeypad.Node.Handler

/-!
# Node Requests in Flight

One handler serves any number of requests at once: the host settles what one of them waits for, and
that request runs to its next wait. All of them share the clock and the map of consumed evidence.

## Main results

- `Stands.advance`: where a request stands, by what it was told
- `opaque_handler_run`: what the handler of a run delegates and answers
-/

namespace SecureKeypad.Node

open ByteViews Machine Rust

/-- The handler, and where each of its requests stands. -/
structure HandlerWorld where
  handler : OpaqueHandler
  phase : ℕ → Phase

/-- What is seen of a step: what the stretch ended with, and the outcome of the financial gate. -/
structure HandlerOutput where
  effect : Option Effect
  gate : Option GateAnswer

variable {ε : Type}

namespace HandlerWorld

def new (clockMs : ℤ) : HandlerWorld := ⟨.new clockMs, fun _ => .arrived⟩

/-- Request `n` is told of an event. -/
def step (otherCategory : Char → Bool) (roundUp : ℕ → Bool) (arrivals : ℕ → Arrival)
    (world : HandlerWorld) (input : ℕ × HostEvent ε) : HandlerOutput × HandlerWorld :=
  match advance otherCategory roundUp (arrivals input.1) world.handler (world.phase input.1)
      input.2 with
  | none => (⟨none, none⟩, world)
  | some move =>
    (⟨some move.effect, move.gate⟩, ⟨move.handler, Function.update world.phase input.1 move.phase⟩)

end HandlerWorld

/-- A run, as the host sees it. -/
abbrev Answers (ε : Type) := List ((ℕ × HostEvent ε) × HandlerOutput)

/-- The events request `n` waited for, in their order. -/
def heard (n : ℕ) (answers : Answers ε) : List (HostEvent ε) :=
  (answers.filter fun entry => entry.1.1 == n && entry.2.effect.isSome).map fun entry => entry.1.2

/-- Position `j` of a run calls the delegate for request `n`. -/
def DelegatesAt (answers : Answers ε) (j n : ℕ) (request : NodeHttpRequest) : Prop :=
  ∃ event gate, answers[j]? = some ((n, event), ⟨some (.delegate request), gate⟩)

/-- Position `j` of a run answers request `n`. -/
def RespondsAt (answers : Answers ε) (j n : ℕ) (response : FetchResponse) : Prop :=
  ∃ event gate, answers[j]? = some ((n, event), ⟨some (.respond response), gate⟩)

/-- At position `j` of a run request `n` consumes evidence. -/
def ConsumesAt (answers : Answers ε) (j n : ℕ) (presented : Presented) : Prop :=
  ∃ event effect, answers[j]? = some ((n, event), ⟨effect, some (.decided presented .consumed)⟩)

/-! ## What a request was told -/

section Told

variable (otherCategory : Char → Bool) (answers : Answers ε) (n : ℕ)

/-- The events that lead past the gates, up to the body. -/
inductive Passage (call : Admission) : List (HostEvent ε) → Prop where
  | standard : call.profile = .standard →
      Passage call [.called, .csrfValidated true, .rateLimitDecision (some .allowed)]
  | financial {context : NodeFinancialAuthContext} {candidate : NodeDeviceIntegrityEvidence}
      {beforeFreshMs beforeConsumeMs : ℕ} {presented : Presented} (j : ℕ) :
      call.profile = .financial →
      isValidFinancialContext otherCategory (some context) call.path = true →
      presented.context = context →
      isFreshBoundEvidence candidate context presented.freshMs = some presented.expiresAtMs →
      ConsumesAt answers j n presented →
      Passage call [.called, .csrfValidated true, .rateLimitDecision (some .allowed),
        .financialContext (some context),
        .deviceIntegrity (.evidence candidate) beforeFreshMs beforeConsumeMs]

/-- A `read()` that settles with a chunk of bytes. -/
def ReadsChunk (event : HostEvent ε) (view : View) : Prop :=
  ∃ memory value cancel, event = .read memory (.chunk value) cancel ∧ byteView value = some view

/-- The reads of a body that ends in time, and its bytes when it ends. -/
inductive ReadsBody (request : FetchRequest) (limit : BodyLimit) :
    List (HostEvent ε) → Bytes → Prop where
  | absent : request.hasBody = false → ReadsBody request limit [] []
  | whole {reads : List (HostEvent ε)} {chunks : List View} (memory : Memory)
      (cancel : Except ε Unit) :
      request.hasBody = true → List.Forall₂ ReadsChunk reads chunks →
      (chunks.map View.byteLength).sum ≤ limit.bytes →
      ReadsBody request limit (reads ++ [.read memory .done cancel])
        (chunks.flatMap (ByteViews.read memory))

variable (roundUp : ℕ → Bool) (arrival : Arrival)

/-- A delegated request: an accepted call, a passage through the gates and a whole body, in this
    order and with nothing else. -/
def Delegation (events : List (HostEvent ε)) (request : NodeHttpRequest) : Prop :=
  ∃ call passage reads body, Accepted roundUp arrival call ∧
    Passage otherCategory answers n call passage ∧
    ReadsBody arrival.request call.limit reads body ∧ events = passage ++ reads ∧
    request = ⟨call.path, call.contentType, body, call.deploymentContext⟩

/-- Where a request stands that was told these events. -/
inductive Stands : List (HostEvent ε) → Phase → Prop where
  | arrived : Stands [] .arrived
  | csrf {call : Admission} : Accepted roundUp arrival call →
      Stands [.called] (.awaitsCsrf call)
  | rateLimit {call : Admission} : Accepted roundUp arrival call →
      Stands [.called, .csrfValidated true] (.awaitsRateLimit call)
  | context {call : Admission} : Accepted roundUp arrival call → call.profile = .financial →
      Stands [.called, .csrfValidated true, .rateLimitDecision (some .allowed)]
        (.awaitsContext call)
  | integrity {call : Admission} {context : NodeFinancialAuthContext} :
      Accepted roundUp arrival call → call.profile = .financial →
      isValidFinancialContext otherCategory (some context) call.path = true →
      Stands [.called, .csrfValidated true, .rateLimitDecision (some .allowed),
        .financialContext (some context)] (.awaitsIntegrity call context)
  | body {call : Admission} {passage reads : List (HostEvent ε)} {chunks : List View} :
      Accepted roundUp arrival call → Passage otherCategory answers n call passage →
      arrival.request.hasBody = true → List.Forall₂ ReadsChunk reads chunks →
      (chunks.map View.byteLength).sum ≤ call.limit.bytes →
      Stands (passage ++ reads) (.awaitsBody call chunks (chunks.map View.byteLength).sum)
  | delegate {call : Admission} (events : List (HostEvent ε)) : Stands events (.awaitsDelegate call)
  | answered (events : List (HostEvent ε)) : Stands events .answered

end Told

section Steps

variable {otherCategory : Char → Bool} {roundUp : ℕ → Bool} {answers later : Answers ε} {n : ℕ}
  {arrival : Arrival} {events : List (HostEvent ε)} {phase : Phase}

theorem ConsumesAt.append {j : ℕ} {presented : Presented} (h : ConsumesAt answers j n presented)
    (later : Answers ε) : ConsumesAt (answers ++ later) j n presented := by
  obtain ⟨event, effect, hget⟩ := h
  refine ⟨event, effect, ?_⟩
  rw [List.getElem?_append_left (List.getElem?_eq_some_iff.mp hget).1, hget]

theorem consumesAt_length {event : HostEvent ε} {effect : Option Effect} {gate : Option GateAnswer}
    {presented : Presented} (h : gate = some (.decided presented .consumed)) :
    ConsumesAt (answers ++ [((n, event), ⟨effect, gate⟩)]) answers.length n presented := by
  subst h
  exact ⟨event, effect, List.getElem?_concat_length⟩

theorem Passage.append {call : Admission} (h : Passage otherCategory answers n call events)
    (later : Answers ε) : Passage otherCategory (answers ++ later) n call events := by
  cases h with
  | standard hprofile => exact .standard hprofile
  | financial j hprofile hvalid hcontext hfresh hconsumes =>
    exact .financial j hprofile hvalid hcontext hfresh (hconsumes.append later)

theorem Stands.append (h : Stands otherCategory answers n roundUp arrival events phase)
    (later : Answers ε) :
    Stands otherCategory (answers ++ later) n roundUp arrival events phase := by
  cases h with
  | arrived => exact .arrived
  | csrf haccepted => exact .csrf haccepted
  | rateLimit haccepted => exact .rateLimit haccepted
  | context haccepted hprofile => exact .context haccepted hprofile
  | integrity haccepted hprofile hvalid => exact .integrity haccepted hprofile hvalid
  | body haccepted hpassage hbody hreads hlimit =>
    exact .body haccepted (hpassage.append later) hbody hreads hlimit
  | delegate events => exact .delegate events
  | answered events => exact .answered events

/-- A request whose move leads there stands there, and what it delegates is a delegation. -/
def Arrives (otherCategory : Char → Bool) (answers : Answers ε) (n : ℕ) (roundUp : ℕ → Bool)
    (arrival : Arrival) (events : List (HostEvent ε)) (move : Move) : Prop :=
  Stands otherCategory answers n roundUp arrival events move.phase ∧
    ∀ request, move.effect = .delegate request →
      Delegation otherCategory answers n roundUp arrival events request

theorem Arrives.of_waits {move : Move}
    (h : Stands otherCategory answers n roundUp arrival events move.phase)
    (heffect : ∀ request, move.effect ≠ .delegate request) :
    Arrives otherCategory answers n roundUp arrival events move :=
  ⟨h, fun request hdelegate => absurd hdelegate (heffect request)⟩

theorem arrives_delegate {call : Admission} {passage reads : List (HostEvent ε)} {body : Bytes}
    (handler : OpaqueHandler) (gate : Option GateAnswer) (haccepted : Accepted roundUp arrival call)
    (hpassage : Passage otherCategory answers n call passage)
    (hreads : ReadsBody arrival.request call.limit reads body) :
    Arrives otherCategory answers n roundUp arrival (passage ++ reads)
      (.delegate handler call body gate) := by
  refine ⟨.delegate _, ?_⟩
  intro request hdelegate
  exact ⟨call, passage, reads, body, haccepted, hpassage, hreads, rfl,
    (Effect.delegate.inj hdelegate).symm⟩

theorem Move.readBody_gate (handler : OpaqueHandler) (request : FetchRequest) (call : Admission)
    (gate : Option GateAnswer) : (Move.readBody handler request call gate).gate = gate := by
  unfold Move.readBody
  split <;> rfl

theorem arrives_readBody {call : Admission} {passage : List (HostEvent ε)}
    (handler : OpaqueHandler) (gate : Option GateAnswer) (haccepted : Accepted roundUp arrival call)
    (hpassage : Passage otherCategory answers n call passage) :
    Arrives otherCategory answers n roundUp arrival passage
      (.readBody handler arrival.request call gate) := by
  rw [← List.append_nil passage, Move.readBody]
  cases hbody : arrival.request.hasBody with
  | true =>
    rw [if_pos rfl]
    refine .of_waits ?_ nofun
    exact Stands.body haccepted hpassage hbody .nil (Nat.zero_le _)
  | false =>
    rw [if_neg Bool.false_ne_true]
    exact arrives_delegate handler gate haccepted hpassage (.absent hbody)

/-- **A request that moves stands where its events say.** -/
theorem Stands.advance {handler : OpaqueHandler} {event : HostEvent ε} {move : Move}
    (h : Stands otherCategory answers n roundUp arrival events phase)
    (hmove : Advanced otherCategory roundUp arrival handler phase event move) :
    Arrives otherCategory (answers ++ [((n, event), ⟨some move.effect, move.gate⟩)]) n roundUp
      arrival (events ++ [event]) move := by
  cases hmove with
  | refused _ _ => exact .of_waits (.answered _) nofun
  | started hgate =>
    cases h
    exact .of_waits (.csrf (accepted_of_gate hgate)) nofun
  | passed =>
    cases h with
    | csrf haccepted => exact .of_waits (.rateLimit haccepted) nofun
  | allowed hprofile =>
    cases h with
    | rateLimit haccepted => exact arrives_readBody handler none haccepted (.standard hprofile)
  | asked hprofile =>
    cases h with
    | rateLimit haccepted => exact .of_waits (.context haccepted hprofile) nofun
  | bound hvalid =>
    cases h with
    | context haccepted hprofile => exact .of_waits (.integrity haccepted hprofile hvalid) nofun
  | denied _ _ _ => exact .of_waits (.answered _) nofun
  | @consumed call context verification beforeFreshMs beforeConsumeMs presented next hstep =>
    cases h with
    | integrity haccepted hprofile hvalid =>
      obtain ⟨hcontext, candidate, hverification, hfresh⟩ :=
        OpaqueHandler.bound_of_decided (congrArg Prod.fst hstep)
      simp only at hverification
      rw [Option.some.injEq] at hcontext
      subst hverification hcontext
      -- The evidence is consumed at the position this step takes in the run.
      exact arrives_readBody next _ haccepted (.financial answers.length hprofile hvalid rfl hfresh
        (consumesAt_length (Move.readBody_gate _ _ _ _)))
  | @chunk call chunks total memory value view cancel hview hfits =>
    cases h with
    | @body _ passage reads _ haccepted hpassage hbody hreads hlimit =>
      refine .of_waits ?_ nofun
      have hsum : (chunks.map View.byteLength).sum + view.byteLength =
          ((chunks ++ [view]).map View.byteLength).sum := by
        rw [List.map_append, List.sum_append, List.map_singleton, List.sum_singleton]
      rw [hsum] at hfits ⊢
      rw [List.append_assoc]
      refine .body haccepted (hpassage.append _) hbody ?_ hfits
      exact List.rel_append hreads (.cons ⟨memory, value, cancel, rfl, hview⟩ .nil)
  | @done call chunks total memory cancel =>
    cases h with
    | @body _ passage reads _ haccepted hpassage hbody hreads hlimit =>
      have hcopy := copyChunks_eq memory chunks []
      rw [List.length_nil, List.nil_append, List.nil_append] at hcopy
      rw [hcopy, List.append_assoc]
      exact arrives_delegate handler none haccepted (hpassage.append _)
        (.whole memory cancel hbody hreads hlimit)
  | delegated => exact .of_waits (.answered _) nofun

end Steps

/-! ## Steps of the world -/

section World

variable {otherCategory : Char → Bool} {roundUp : ℕ → Bool} {arrivals : ℕ → Arrival}

/-- A step moves a request, or nothing. -/
theorem HandlerWorld.step_cases (world : HandlerWorld) (n : ℕ) (event : HostEvent ε) :
    world.step otherCategory roundUp arrivals (n, event) = (⟨none, none⟩, world) ∨
    ∃ move, Advanced otherCategory roundUp (arrivals n) world.handler (world.phase n) event move ∧
      world.step otherCategory roundUp arrivals (n, event) = (⟨some move.effect, move.gate⟩,
        ⟨move.handler, Function.update world.phase n move.phase⟩) := by
  cases hmove : advance otherCategory roundUp (arrivals n) world.handler (world.phase n) event with
  | none => exact .inl (by simp only [step, hmove])
  | some move => exact .inr ⟨move, advanced_of_advance hmove, by simp only [step, hmove]⟩

theorem heard_snoc (n : ℕ) (answers : Answers ε) (m : ℕ) (event : HostEvent ε)
    (output : HandlerOutput) :
    heard n (answers ++ [((m, event), output)]) =
      heard n answers ++ if m = n ∧ output.effect.isSome = true then [event] else [] := by
  rw [heard, List.filter_append, List.map_append]
  congr 1
  cases heffect : output.effect.isSome with
  | false => simp [heffect]
  | true => by_cases hm : m = n <;> simp [hm, heffect]

/-- Where all requests stand, and the delegate calls behind those that wait for the delegate. -/
def AllStand (otherCategory : Char → Bool) (roundUp : ℕ → Bool) (arrivals : ℕ → Arrival)
    (answers : Answers ε) (world : HandlerWorld) : Prop :=
  ∀ n, Stands otherCategory answers n roundUp (arrivals n) (heard n answers) (world.phase n) ∧
    ∀ call, world.phase n = .awaitsDelegate call → ∃ j request, DelegatesAt answers j n request

theorem AllStand.start (otherCategory : Char → Bool) (roundUp : ℕ → Bool)
    (arrivals : ℕ → Arrival) (clockMs : ℤ) :
    AllStand (ε := ε) otherCategory roundUp arrivals [] (.new clockMs) :=
  fun _ => ⟨.arrived, fun _ hphase => nomatch hphase⟩

theorem DelegatesAt.append {answers : Answers ε} {j n : ℕ} {request : NodeHttpRequest}
    (h : DelegatesAt answers j n request) (later : Answers ε) :
    DelegatesAt (answers ++ later) j n request := by
  obtain ⟨event, gate, hget⟩ := h
  refine ⟨event, gate, ?_⟩
  rw [List.getElem?_append_left (List.getElem?_eq_some_iff.mp hget).1, hget]

/-- A request comes to wait for the delegate by calling it. -/
theorem Advanced.exists_delegate {arrival : Arrival} {handler : OpaqueHandler} {phase : Phase}
    {event : HostEvent ε} {move : Move}
    (h : Advanced otherCategory roundUp arrival handler phase event move) {call : Admission}
    (hphase : move.phase = .awaitsDelegate call) : ∃ request, move.effect = .delegate request := by
  have hreadBody : ∀ handler call' gate,
      (Move.readBody handler arrival.request call' gate).phase = .awaitsDelegate call →
      ∃ request, (Move.readBody handler arrival.request call' gate).effect = .delegate request := by
    intro handler call' gate hbody
    unfold Move.readBody at hbody ⊢
    split at hbody
    · cases hbody
    · next hnone =>
      rw [if_neg hnone]
      exact ⟨_, rfl⟩
  cases h with
  | allowed _ => exact hreadBody _ _ _ hphase
  | consumed _ => exact hreadBody _ _ _ hphase
  | done => exact ⟨_, rfl⟩
  | _ => cases hphase

theorem AllStand.step (answers : Answers ε) (world : HandlerWorld) (input : ℕ × HostEvent ε)
    (h : AllStand otherCategory roundUp arrivals answers world) :
    AllStand otherCategory roundUp arrivals
      (answers ++ [(input, (world.step otherCategory roundUp arrivals input).1)])
      (world.step otherCategory roundUp arrivals input).2 := by
  obtain ⟨m, event⟩ := input
  intro n
  obtain ⟨hstands, hdelegates⟩ := h n
  rcases world.step_cases m event with hstep | ⟨move, hmove, hstep⟩
  · rw [hstep, heard_snoc, if_neg (by simp), List.append_nil]
    refine ⟨hstands.append _, ?_⟩
    intro call hphase
    obtain ⟨j, request, hj⟩ := hdelegates call hphase
    exact ⟨j, request, hj.append _⟩
  · rw [hstep, heard_snoc]
    -- The request that has moved stands where its move says; the others have heard nothing.
    by_cases hm : m = n
    · subst hm
      rw [if_pos ⟨rfl, rfl⟩]
      simp only [Function.update_self]
      refine ⟨(hstands.advance hmove).1, ?_⟩
      intro call hphase
      obtain ⟨request, heffect⟩ := hmove.exists_delegate hphase
      refine ⟨answers.length, request, event, move.gate, ?_⟩
      rw [List.getElem?_concat_length, heffect]
    · rw [if_neg (by simp [hm]), List.append_nil]
      simp only [Function.update_of_ne (Ne.symm hm)]
      refine ⟨hstands.append _, ?_⟩
      intro call hphase
      obtain ⟨j, request, hj⟩ := hdelegates call hphase
      exact ⟨j, request, hj.append _⟩

end World

/-! ## Each request once -/

/-- How far a request has come. -/
def Phase.rank : Phase → ℕ
  | .arrived => 0
  | .awaitsCsrf _ => 1
  | .awaitsRateLimit _ => 2
  | .awaitsContext _ => 3
  | .awaitsIntegrity _ _ => 4
  | .awaitsBody _ _ _ => 5
  | .awaitsDelegate _ => 6
  | .answered => 7

section Once

variable {otherCategory : Char → Bool} {roundUp : ℕ → Bool} {arrivals : ℕ → Arrival}
  {arrival : Arrival} {handler : OpaqueHandler} {phase : Phase} {event : HostEvent ε} {move : Move}

theorem Move.rank_readBody (handler : OpaqueHandler) (request : FetchRequest) (call : Admission)
    (gate : Option GateAnswer) : 5 ≤ (Move.readBody handler request call gate).phase.rank := by
  unfold Move.readBody
  split
  · exact Nat.le_refl 5
  · exact Nat.le_succ 5

theorem Move.readBody_ne_respond (handler : OpaqueHandler) (request : FetchRequest)
    (call : Admission) (gate : Option GateAnswer) (response : FetchResponse) :
    (Move.readBody handler request call gate).effect ≠ .respond response := by
  unfold Move.readBody
  split <;> exact Effect.noConfusion

theorem Phase.rank_lt_of_ne_answered (h : phase ≠ .answered) : phase.rank < 7 := by
  cases phase with
  | answered => exact absurd rfl h
  | _ => simp [Phase.rank]

/-- **No request goes back**, and only the answer of one that is over leaves its rank. -/
theorem Advanced.rank_le (h : Advanced otherCategory roundUp arrival handler phase event move) :
    phase.rank ≤ move.phase.rank := by
  cases h with
  | refused hphase _ => exact (Phase.rank_lt_of_ne_answered hphase).le
  | allowed _ => exact le_trans (by decide : 2 ≤ 5) (Move.rank_readBody _ _ _ _)
  | consumed _ => exact le_trans (by decide : 4 ≤ 5) (Move.rank_readBody _ _ _ _)
  | _ => simp [Phase.rank, Move.answer, Move.delegate]

theorem Advanced.rank_of_delegate
    (h : Advanced otherCategory roundUp arrival handler phase event move)
    {request : NodeHttpRequest} (heffect : move.effect = .delegate request) :
    phase.rank < 6 ∧ move.phase.rank = 6 := by
  have hreadBody : ∀ handler call gate,
      (Move.readBody handler arrival.request call gate).effect = .delegate request →
      (Move.readBody handler arrival.request call gate).phase.rank = 6 := by
    intro handler call gate hbody
    unfold Move.readBody at hbody ⊢
    split at hbody
    · cases hbody
    · next hnone =>
      rw [if_neg hnone]
      rfl
  cases h with
  | allowed _ => exact ⟨(by decide : 2 < 6), hreadBody _ _ _ heffect⟩
  | consumed _ => exact ⟨(by decide : 4 < 6), hreadBody _ _ _ heffect⟩
  | done => exact ⟨(by decide : 5 < 6), rfl⟩
  | _ => cases heffect

theorem Advanced.rank_of_respond
    (h : Advanced otherCategory roundUp arrival handler phase event move) {response : FetchResponse}
    (heffect : move.effect = .respond response) : phase.rank < 7 ∧ move.phase.rank = 7 := by
  cases h with
  | refused hphase _ => exact ⟨Phase.rank_lt_of_ne_answered hphase, rfl⟩
  | denied _ _ _ => exact ⟨(by decide : 4 < 7), rfl⟩
  | delegated => exact ⟨(by decide : 6 < 7), rfl⟩
  | allowed _ => exact absurd heffect (Move.readBody_ne_respond _ _ _ _ _)
  | consumed _ => exact absurd heffect (Move.readBody_ne_respond _ _ _ _ _)
  | _ => cases heffect

/-- A response is a refusal, or what the delegate returned. -/
theorem Advanced.response
    (h : Advanced otherCategory roundUp arrival handler phase event move) {response : FetchResponse}
    (heffect : move.effect = .respond response) :
    IsRefusal response ∨ ∃ call returned, phase = .awaitsDelegate call ∧
      event = .delegated returned ∧ response = responseFromDelegate returned := by
  cases h with
  | refused _ hrefusal =>
    rw [← Effect.respond.inj heffect]
    exact .inl hrefusal
  | denied _ _ hrefusal =>
    rw [← Effect.respond.inj heffect]
    exact .inl hrefusal
  | delegated => exact .inr ⟨_, _, rfl, rfl, (Effect.respond.inj heffect).symm⟩
  | allowed _ => exact absurd heffect (Move.readBody_ne_respond _ _ _ _ _)
  | consumed _ => exact absurd heffect (Move.readBody_ne_respond _ _ _ _ _)
  | _ => cases heffect

/-- An entry that shows something is a move. -/
theorem exists_move {clockMs : ℤ} {inputs : List (ℕ × HostEvent ε)} {j n : ℕ} {event : HostEvent ε}
    {output : HandlerOutput}
    (h : (trace (HandlerWorld.step otherCategory roundUp arrivals) (.new clockMs) inputs)[j]? =
      some ((n, event), output)) :
    output = ⟨none, none⟩ ∨ ∃ move,
      Advanced otherCategory roundUp (arrivals n)
        (run (HandlerWorld.step otherCategory roundUp arrivals) (.new clockMs)
          (inputs.take j)).handler
        ((run (HandlerWorld.step otherCategory roundUp arrivals) (.new clockMs)
          (inputs.take j)).phase n) event move ∧
      output = ⟨some move.effect, move.gate⟩ ∧
      run (HandlerWorld.step otherCategory roundUp arrivals) (.new clockMs) (inputs.take (j + 1)) =
        ⟨move.handler, Function.update
          (run (HandlerWorld.step otherCategory roundUp arrivals) (.new clockMs)
            (inputs.take j)).phase n move.phase⟩ := by
  obtain ⟨hinput, houtput⟩ := trace_getElem?_eq_some _ h
  rw [run_take_succ _ hinput]
  rcases HandlerWorld.step_cases (run (HandlerWorld.step otherCategory roundUp arrivals)
      (.new clockMs) (inputs.take j)) n event with hstep | ⟨move, hmove, hstep⟩
  · rw [hstep] at houtput
    exact .inl houtput
  · rw [hstep] at houtput ⊢
    exact .inr ⟨move, hmove, houtput, rfl⟩

theorem HandlerWorld.rank_le_step (n : ℕ) (world : HandlerWorld) (input : ℕ × HostEvent ε) :
    (world.phase n).rank ≤
      ((world.step otherCategory roundUp arrivals input).2.phase n).rank := by
  obtain ⟨m, event⟩ := input
  rcases world.step_cases m event with hstep | ⟨move, hmove, hstep⟩
  · rw [hstep]
  · rw [hstep]
    by_cases hm : n = m
    · subst hm
      simp only [Function.update_self]
      exact hmove.rank_le
    · simp only [Function.update_of_ne hm, le_refl]

/-- A rank is entered once: a step that leaves the request at a rank is not followed by another
    one that finds it below. -/
theorem rank_entered_once {clockMs : ℤ} {inputs : List (ℕ × HostEvent ε)} {i j n rank : ℕ}
    (hi : ((run (HandlerWorld.step otherCategory roundUp arrivals) (.new clockMs)
      (inputs.take (i + 1))).phase n).rank = rank)
    (hj : ((run (HandlerWorld.step otherCategory roundUp arrivals) (.new clockMs)
      (inputs.take j)).phase n).rank < rank) : j ≤ i := by
  by_contra hij
  have hmono := run_take_mono (HandlerWorld.step otherCategory roundUp arrivals)
    (HandlerWorld.rank_le_step n) (.new clockMs) inputs (Nat.lt_of_not_le hij)
  rw [hi] at hmono
  exact absurd hj (Nat.not_lt.mpr hmono)

variable {clockMs : ℤ} {inputs : List (ℕ × HostEvent ε)} {i j n : ℕ}

theorem rank_of_delegatesAt {request : NodeHttpRequest}
    (h : DelegatesAt
      (trace (HandlerWorld.step otherCategory roundUp arrivals) (.new clockMs) inputs)
      j n request) :
    ((run (HandlerWorld.step otherCategory roundUp arrivals) (.new clockMs)
        (inputs.take j)).phase n).rank < 6 ∧
      ((run (HandlerWorld.step otherCategory roundUp arrivals) (.new clockMs)
        (inputs.take (j + 1))).phase n).rank = 6 := by
  obtain ⟨event, gate, hget⟩ := h
  rcases exists_move hget with hnone | ⟨move, hmove, houtput, hafter⟩
  · cases hnone
  · have heffect := (HandlerOutput.mk.inj houtput).1
    obtain ⟨hbefore, hrank⟩ := hmove.rank_of_delegate (Option.some.inj heffect).symm
    rw [hafter]
    simp only [Function.update_self]
    exact ⟨hbefore, hrank⟩

theorem rank_of_respondsAt {response : FetchResponse}
    (h : RespondsAt (trace (HandlerWorld.step otherCategory roundUp arrivals) (.new clockMs) inputs)
      j n response) :
    ((run (HandlerWorld.step otherCategory roundUp arrivals) (.new clockMs)
        (inputs.take j)).phase n).rank < 7 ∧
      ((run (HandlerWorld.step otherCategory roundUp arrivals) (.new clockMs)
        (inputs.take (j + 1))).phase n).rank = 7 := by
  obtain ⟨event, gate, hget⟩ := h
  rcases exists_move hget with hnone | ⟨move, hmove, houtput, hafter⟩
  · cases hnone
  · have heffect := (HandlerOutput.mk.inj houtput).1
    obtain ⟨hbefore, hrank⟩ := hmove.rank_of_respond (Option.some.inj heffect).symm
    rw [hafter]
    simp only [Function.update_self]
    exact ⟨hbefore, hrank⟩

end Once

/-! ## The replay map under all of them -/

section Replay

variable {otherCategory : Char → Bool} {roundUp : ℕ → Bool} {arrivals : ℕ → Arrival}
  {arrival : Arrival} {handler : OpaqueHandler} {phase : Phase} {event : HostEvent ε} {move : Move}

theorem Move.readBody_handler (handler : OpaqueHandler) (request : FetchRequest) (call : Admission)
    (gate : Option GateAnswer) : (Move.readBody handler request call gate).handler = handler := by
  unfold Move.readBody
  split <;> rfl

/-- What the requests share changes in the financial gate only. -/
theorem Advanced.gate_cases
    (h : Advanced otherCategory roundUp arrival handler phase event move) :
    (move.gate = none ∧ move.handler = handler) ∨
    ∃ request, move.gate = some (handler.step otherCategory request).1 ∧
      move.handler = (handler.step otherCategory request).2 := by
  have hstepped : ∀ {move : Move} {request answer next},
      handler.step otherCategory request = (answer, next) → move.gate = some answer →
      move.handler = next → ∃ request, move.gate = some (handler.step otherCategory request).1 ∧
        move.handler = (handler.step otherCategory request).2 := by
    intro move request answer next hstep hgate hnext
    exact ⟨request, by rw [hstep, hgate], by rw [hstep, hnext]⟩
  cases h with
  | allowed _ => exact .inl ⟨Move.readBody_gate _ _ _ _, Move.readBody_handler _ _ _ _⟩
  | denied hstep _ _ => exact .inr (hstepped hstep rfl rfl)
  | consumed hstep =>
    exact .inr (hstepped hstep (Move.readBody_gate _ _ _ _) (Move.readBody_handler _ _ _ _))
  | _ => exact .inl ⟨rfl, rfl⟩

/-- The attempt on the replay map an output reports. -/
def HandlerOutput.attempt (output : HandlerOutput) : Option (ReplayGuard.Attempt String ℤ) :=
  output.gate.bind GateAnswer.attempt

/-- All requests together keep one replay map. -/
theorem world_keeps_replayMap :
    ReplayGuard.Keeps (HandlerWorld.step (ε := ε) otherCategory roundUp arrivals)
      (fun world => world.handler.consumedFinancialEvidence) HandlerOutput.attempt where
  quiet := by
    intro world input hquiet
    obtain ⟨n, event⟩ := input
    rcases world.step_cases n event with hstep | ⟨move, hmove, hstep⟩
    · rw [hstep]
    · rw [hstep] at hquiet ⊢
      rcases hmove.gate_cases with ⟨_, hhandler⟩ | ⟨request, hgate, hhandler⟩
      · simp only [hhandler]
      · simp only [HandlerOutput.attempt, hgate, Option.bind_some] at hquiet
        simp only [hhandler]
        exact handler_keeps_replayMap.quiet _ _ hquiet
  attempt := by
    intro world input a hattempt
    obtain ⟨n, event⟩ := input
    rcases world.step_cases n event with hstep | ⟨move, hmove, hstep⟩
    · rw [hstep] at hattempt
      cases hattempt
    · rw [hstep] at hattempt ⊢
      rcases hmove.gate_cases with ⟨hgate, _⟩ | ⟨request, hgate, hhandler⟩
      · simp only [HandlerOutput.attempt, hgate, Option.bind_none] at hattempt
        cases hattempt
      · simp only [HandlerOutput.attempt, hgate, Option.bind_some] at hattempt
        simp only [hhandler]
        exact handler_keeps_replayMap.attempt _ _ _ hattempt

/-- The clock of the financial gate: it does not run backwards, and the last reading is where it
    stands. -/
theorem OpaqueHandler.clockMs_step (handler : OpaqueHandler) (request : FinancialRequest) :
    handler.clockMs ≤ (handler.step otherCategory request).2.clockMs ∧
    ∀ presented decision, (handler.step otherCategory request).1 = .decided presented decision →
      (handler.step otherCategory request).2.clockMs = presented.consumeMs := by
  rcases handler.step_cases otherCategory request with
    ⟨status, hstep⟩ | ⟨presented, hfresh, hconsume, _, hstep⟩
  · rw [hstep]
    refine ⟨by simp only; omega, ?_⟩
    intro presented decision hdecided
    cases hdecided
  · rw [hstep]
    refine ⟨by simp only; omega, ?_⟩
    intro other decision hdecided
    rw [(GateAnswer.decided.inj hdecided).1]

theorem HandlerWorld.clockMs_le_step (world : HandlerWorld) (input : ℕ × HostEvent ε) :
    world.handler.clockMs ≤
      (world.step otherCategory roundUp arrivals input).2.handler.clockMs := by
  obtain ⟨n, event⟩ := input
  rcases world.step_cases n event with hstep | ⟨move, hmove, hstep⟩
  · rw [hstep]
  · rw [hstep]
    rcases hmove.gate_cases with ⟨_, hhandler⟩ | ⟨request, _, hhandler⟩
    · simp only [hhandler, le_refl]
    · simp only [hhandler]
      exact (OpaqueHandler.clockMs_step world.handler request).1

variable {clockMs : ℤ} {inputs : List (ℕ × HostEvent ε)} {i j n m : ℕ}

/-- The clock after a decision is its second reading. -/
theorem clockMs_of_decided {event : HostEvent ε} {effect : Option Effect} {presented : Presented}
    {decision : FinancialReplayDecision}
    (h : (trace (HandlerWorld.step otherCategory roundUp arrivals) (.new clockMs) inputs)[j]? =
      some ((n, event), ⟨effect, some (.decided presented decision)⟩)) :
    (run (HandlerWorld.step otherCategory roundUp arrivals) (.new clockMs)
      (inputs.take (j + 1))).handler.clockMs = presented.consumeMs := by
  rcases exists_move h with hnone | ⟨move, hmove, houtput, hafter⟩
  · cases hnone
  · have hgate := (HandlerOutput.mk.inj houtput).2
    rw [hafter]
    rcases hmove.gate_cases with ⟨hnone, _⟩ | ⟨request, hdecided, hhandler⟩
    · rw [hnone] at hgate
      cases hgate
    · rw [hdecided, Option.some.injEq] at hgate
      simp only [hhandler]
      exact (OpaqueHandler.clockMs_step _ request).2 _ _ hgate.symm

/-- A consumption is an attempt on the replay map. -/
theorem attemptAt_of_consumesAt {answers : Answers ε} {presented : Presented}
    (h : ConsumesAt answers j n presented) :
    ReplayGuard.AttemptAt HandlerOutput.attempt answers j
      ⟨replayKey presented.context, presented.expiresAtMs, presented.consumeMs, .consumed⟩ := by
  obtain ⟨event, effect, hget⟩ := h
  exact ⟨_, _, hget, rfl⟩

/-- **A binding is consumed again** only when the evidence it was consumed with has expired. -/
theorem expired_of_consumed_again {p q : Presented} (hij : i < j)
    (hi : ConsumesAt
      (trace (HandlerWorld.step otherCategory roundUp arrivals) (.new clockMs) inputs) i n p)
    (hj : ConsumesAt
      (trace (HandlerWorld.step otherCategory roundUp arrivals) (.new clockMs) inputs) j m q)
    (hcontext : p.context = q.context) : p.expiresAtMs ≤ q.consumeMs := by
  obtain ⟨k, c, _, hkj, ⟨input, output, hget, hattempt⟩, hlate⟩ :=
    ReplayGuard.readmission_needs_expired_reading world_keeps_replayMap hij
      (attemptAt_of_consumesAt hi) rfl (attemptAt_of_consumesAt hj) rfl (by simp only [hcontext])
  obtain ⟨effect, gate⟩ := output
  cases gate with
  | none => cases hattempt
  | some answer =>
    cases answer with
    | refused status => cases hattempt
    | decided r decision =>
      cases hattempt
      -- The late reading is where the clock stood then, and `j`'s own reading is where it stands.
      have hclock := clockMs_of_decided hget
      obtain ⟨event, effect', hgetj⟩ := hj
      have hclockj := clockMs_of_decided hgetj
      have hmono := run_take_mono (HandlerWorld.step (ε := ε) otherCategory roundUp arrivals)
        HandlerWorld.clockMs_le_step (.new clockMs) inputs (Nat.succ_le_succ hkj)
      rw [hclock, hclockj] at hmono
      exact hlate.trans hmono

end Replay

/-! ## The law of a run -/

/-- **The law of the handler.** A request reaches the delegate only past all of its gates, in their
    order and with nothing else in between, with the whole of its body and once. It is answered
    once, with a generic refusal or with what the delegate returned. A binding is in use for one
    request at a time, from its consumption to the expiry of its evidence. -/
structure HandlerLaw (otherCategory : Char → Bool) (roundUp : ℕ → Bool) (arrivals : ℕ → Arrival)
    (answers : Answers ε) : Prop where
  delegated : ∀ j n request, DelegatesAt answers j n request →
    Delegation otherCategory (answers.take (j + 1)) n roundUp (arrivals n)
      (heard n (answers.take (j + 1))) request ∧ request.body.length ≤ maxHttpBodyBytes
  delegatedOnce : ∀ i j n request request', DelegatesAt answers i n request →
    DelegatesAt answers j n request' → i = j
  responded : ∀ j n response, RespondsAt answers j n response →
    IsRefusal response ∨ ∃ i request returned, i < j ∧ DelegatesAt answers i n request ∧
      (∃ output, answers[j]? = some ((n, .delegated returned), output)) ∧
      response = responseFromDelegate returned
  respondedOnce : ∀ i j n response response', RespondsAt answers i n response →
    RespondsAt answers j n response' → i = j
  windows : ∀ i j n m p q, i ≠ j → ConsumesAt answers i n p → ConsumesAt answers j m q →
    p.context = q.context →
    Disjoint (Set.Ico p.consumeMs p.expiresAtMs) (Set.Ico q.consumeMs q.expiresAtMs)

theorem ReadsBody.length_le {request : FetchRequest} {limit : BodyLimit}
    {reads : List (HostEvent ε)} {body : Bytes} (h : ReadsBody request limit reads body) :
    body.length ≤ limit.bytes := by
  cases h with
  | absent _ => exact Nat.zero_le _
  | whole memory cancel _ _ hlimit => simpa [List.length_flatMap] using hlimit

theorem disjoint_windows {p q : Presented} (h : p.expiresAtMs ≤ q.consumeMs) :
    Disjoint (Set.Ico p.consumeMs p.expiresAtMs) (Set.Ico q.consumeMs q.expiresAtMs) := by
  rw [Set.disjoint_left]
  intro time hp hq
  exact absurd (hp.2.trans_le (h.trans hq.1)) (lt_irrefl time)

/-- What is delegated has come the whole way. -/
theorem delegation_of_delegatesAt {otherCategory : Char → Bool} {roundUp : ℕ → Bool}
    {arrivals : ℕ → Arrival} {clockMs : ℤ} {inputs : List (ℕ × HostEvent ε)} {j n : ℕ}
    {request : NodeHttpRequest}
    (h : DelegatesAt
      (trace (HandlerWorld.step otherCategory roundUp arrivals) (.new clockMs) inputs)
      j n request) :
    Delegation otherCategory
        ((trace (HandlerWorld.step otherCategory roundUp arrivals) (.new clockMs) inputs).take
          (j + 1)) n roundUp (arrivals n)
        (heard n ((trace (HandlerWorld.step otherCategory roundUp arrivals) (.new clockMs)
          inputs).take (j + 1))) request ∧
      request.body.length ≤ maxHttpBodyBytes := by
  obtain ⟨event, gate, hget⟩ := h
  obtain ⟨before, hstand, rfl, -, -, htake⟩ := history_at
    (AllStand.start otherCategory roundUp arrivals clockMs) AllStand.step hget
  rcases exists_move hget with hnone | ⟨move, hmove, houtput, _⟩
  · cases hnone
  · obtain ⟨heffect, rfl⟩ := HandlerOutput.mk.inj houtput
    -- What the request stands on, and the move that delegates it.
    have hsnoc := ((hstand n).1.advance hmove).2 request (Option.some.inj heffect).symm
    rw [← heffect, ← htake] at hsnoc
    have hheard : heard n (List.take (j + 1)
        (trace (HandlerWorld.step otherCategory roundUp arrivals) (.new clockMs) inputs)) =
        heard n (List.take j
          (trace (HandlerWorld.step otherCategory roundUp arrivals) (.new clockMs) inputs)) ++
          [event] := by
      rw [htake, heard_snoc, if_pos ⟨rfl, rfl⟩]
    rw [hheard]
    refine ⟨hsnoc, ?_⟩
    obtain ⟨call, passage, reads, body, _, _, hreads, _, rfl⟩ := hsnoc
    exact hreads.length_le.trans call.limit.le

/-- **What the handler of a run delegates and answers**, however its requests interleave. -/
theorem opaque_handler_run (otherCategory : Char → Bool) (roundUp : ℕ → Bool)
    (arrivals : ℕ → Arrival) (clockMs : ℤ) (inputs : List (ℕ × HostEvent ε)) :
    HandlerLaw otherCategory roundUp arrivals
      (trace (HandlerWorld.step otherCategory roundUp arrivals) (.new clockMs) inputs) where
  delegated := fun _ _ _ hdelegates => delegation_of_delegatesAt hdelegates
  delegatedOnce := by
    intro i j n request request' hi hj
    obtain ⟨hbeforei, hafteri⟩ := rank_of_delegatesAt hi
    obtain ⟨hbeforej, hafterj⟩ := rank_of_delegatesAt hj
    exact Nat.le_antisymm (rank_entered_once hafterj hbeforei) (rank_entered_once hafteri hbeforej)
  responded := by
    intro j n response hresponds
    obtain ⟨event, gate, hget⟩ := hresponds
    obtain ⟨before, hstand, rfl, -, -, -⟩ := history_at
      (AllStand.start otherCategory roundUp arrivals clockMs) AllStand.step hget
    rcases exists_move hget with hnone | ⟨move, hmove, houtput, _⟩
    · cases hnone
    · have heffect := (HandlerOutput.mk.inj houtput).1
      rcases hmove.response (Option.some.inj heffect).symm with
        hrefusal | ⟨call, returned, hphase, rfl, hreturned⟩
      · exact .inl hrefusal
      · -- The request waited for the delegate, which was called before.
        obtain ⟨i, request, event, gate', hi⟩ := (hstand n).2 call hphase
        have hlt : i < j := by
          have hlength := (List.getElem?_eq_some_iff.mp hi).1
          rw [List.length_take] at hlength
          omega
        rw [List.getElem?_take_of_lt hlt] at hi
        exact .inr ⟨i, request, returned, hlt, ⟨event, gate', hi⟩, ⟨_, hget⟩, hreturned⟩
  respondedOnce := by
    intro i j n response response' hi hj
    obtain ⟨hbeforei, hafteri⟩ := rank_of_respondsAt hi
    obtain ⟨hbeforej, hafterj⟩ := rank_of_respondsAt hj
    exact Nat.le_antisymm (rank_entered_once hafterj hbeforei) (rank_entered_once hafteri hbeforej)
  windows := by
    intro i j n m p q hne hi hj hcontext
    rcases Nat.lt_or_gt_of_ne hne with hij | hji
    · exact disjoint_windows (expired_of_consumed_again hij hi hj hcontext)
    · exact (disjoint_windows (expired_of_consumed_again hji hj hi hcontext.symm)).symm

/-- A login of Alice with a body, under one of the profiles. -/
def sampleArrival (profile : NodeSecurityProfile) : Arrival where
  options := some
    { deploymentContext := some ⟨some .directTls, .integer 1024, true⟩,
      securityProfile := some (some profile), financialContext := true,
      deviceIntegrityVerifier := true, rateLimitDecision := true }
  request :=
    { url := some ⟨"/v1/opaque/login/finish", "", ""⟩, method := some "POST",
      contentType := some [asBytes "Application/JSON; charset=utf-8"], contentLength := some [],
      hasBody := true }

/-- What a host settles up to the body: the sample evidence, for a request of the profile. -/
def sampleGates (profile : NodeSecurityProfile) : List (HostEvent Unit) :=
  [.called, .csrfValidated true, .rateLimitDecision (some .allowed)] ++
    if profile = .standard then []
    else [.financialContext (some sampleContext),
      .deviceIntegrity (sampleRequest 0 0).verification 0 0]

/-- Two requests with one binding: the first is delegated, the second refused as a replay. -/
example :
    let answers := trace (HandlerWorld.step Unicode.isControl (fun _ => false)
        fun _ => sampleArrival .financial) (.new 900)
      ((sampleGates .financial).flatMap (fun event => [(0, event), (1, event)]) ++
        [(0, .read (fun _ index => .ofNat index) (.chunk (.uint8Array ⟨0, 5, 2⟩)) (.ok ())),
          (0, .read (fun _ index => .ofNat index) .done (.ok ()))])
    RespondsAt answers 9 1 (genericResponse 403 .invalidRequest) ∧
      DelegatesAt answers 11 0 ⟨.loginFinish, "Application/JSON; charset=utf-8", [5, 6],
        ⟨some .directTls, .integer 1024, true⟩⟩ :=
  ⟨⟨_, _, rfl⟩, ⟨_, _, rfl⟩⟩

end SecureKeypad.Node
