import SecureKeypad.Node.HandlerRuns

/-!
# Node Requests Outside the Financial Profile

What the requests of one handler share is the clock and the map of its financial gate. A request
that does not go through this gate is not touched by the others.

## Main results

- `standard_request_alone`: such a request is told and answered what it would be alone
-/

namespace SecureKeypad.Node

open Machine

variable {ε : Type}

/-- Where a request can stand that is not under the financial profile. -/
def Phase.Standard : Phase → Prop
  | .arrived | .awaitsDelegate _ | .answered => True
  | .awaitsCsrf call | .awaitsRateLimit call | .awaitsBody call _ _ => call.profile = .standard
  | .awaitsContext _ | .awaitsIntegrity _ _ => False

section Alone

variable {otherCategory : Char → Bool} {roundUp : ℕ → Bool} {arrivals : ℕ → Arrival}
  {arrival : Arrival} {phase : Phase}

/-- What a move shows and where it leads. -/
def Move.seen (move : Move) : Effect × Option GateAnswer × Phase :=
  (move.effect, move.gate, move.phase)

theorem Move.seen_readBody (handler other : OpaqueHandler) (request : FetchRequest)
    (call : Admission) (gate : Option GateAnswer) :
    (Move.readBody handler request call gate).seen =
      (Move.readBody other request call gate).seen := by
  unfold Move.readBody
  split <;> rfl

/-- Outside the financial gate a request does not look at what the requests share. -/
theorem seen_advance (hphase : phase.Standard) (event : HostEvent ε)
    (handler other : OpaqueHandler) :
    (advance otherCategory roundUp arrival handler phase event).map Move.seen =
      (advance otherCategory roundUp arrival other phase event).map Move.seen := by
  unfold advance
  split
  · split <;> rfl
  · split
    · rfl
    · split <;> rfl
  · unfold afterRateLimit
    split
    · rfl
    · split
      · exact congrArg some (Move.seen_readBody _ _ _ _ _)
      · split <;> rfl
    · rfl
    · rfl
  · exact hphase.elim
  · exact hphase.elim
  · unfold afterRead
    split <;> rfl
  all_goals rfl

theorem Phase.Standard.advance {handler : OpaqueHandler} {event : HostEvent ε} {move : Move}
    (hphase : phase.Standard)
    (hgate : ∀ call, gate roundUp arrival = .ok call → call.profile = .standard)
    (h : Advanced otherCategory roundUp arrival handler phase event move) :
    move.phase.Standard := by
  have hreadBody : ∀ {call : Admission} handler gate, call.profile = .standard →
      (Move.readBody handler arrival.request call gate).phase.Standard := by
    intro call handler gate hcall
    unfold Move.readBody
    split
    · exact hcall
    · trivial
  cases h with
  | started hcall => exact hgate _ hcall
  | passed => exact hphase
  | allowed hcall => exact hreadBody _ _ hcall
  | asked hcall =>
    rw [Phase.Standard, hcall] at hphase
    cases hphase
  | bound _ => exact hphase.elim
  | consumed _ => exact hphase.elim
  | chunk _ _ => exact hphase
  | _ => trivial

/-- Two worlds in which request `n` stands at the same place, outside the financial profile. -/
def SameFor (n : ℕ) (world other : HandlerWorld) : Prop :=
  world.phase n = other.phase n ∧ (world.phase n).Standard

theorem SameFor.step {n : ℕ} {world other : HandlerWorld} (h : SameFor n world other)
    (hgate : ∀ call, gate roundUp (arrivals n) = .ok call → call.profile = .standard)
    (event : HostEvent ε) :
    (world.step otherCategory roundUp arrivals (n, event)).1 =
        (other.step otherCategory roundUp arrivals (n, event)).1 ∧
      SameFor n (world.step otherCategory roundUp arrivals (n, event)).2
        (other.step otherCategory roundUp arrivals (n, event)).2 := by
  obtain ⟨hsame, hstandard⟩ := h
  -- A standard request sees the same of both handlers, whatever evidence they have stored.
  have hseen := @seen_advance ε otherCategory roundUp (arrivals n) _ hstandard event world.handler
    other.handler
  simp only [HandlerWorld.step, ← hsame]
  generalize hother : advance otherCategory roundUp (arrivals n) other.handler (world.phase n)
    event = reached at hseen ⊢
  cases hmove : advance otherCategory roundUp (arrivals n) world.handler (world.phase n) event with
  | none =>
    rw [hmove] at hseen
    cases reached with
    | none => exact ⟨rfl, hsame, hstandard⟩
    | some move' => cases hseen
  | some move =>
    rw [hmove] at hseen
    cases reached with
    | none => cases hseen
    | some move' =>
      obtain ⟨heffect, hrest⟩ := Prod.mk.inj (Option.some.inj hseen)
      obtain ⟨hgates, hphases⟩ := Prod.mk.inj hrest
      refine ⟨?_, ?_, ?_⟩
      · simp only [heffect, hgates]
      · simp only [Function.update_self, hphases]
      · simp only [Function.update_self]
        exact hstandard.advance hgate (advanced_of_advance hmove)

/-- **Requests outside the financial profile are alone**: what such a request is told and answered
    in a run is what it would be told and answered without the others. -/
theorem standard_request_alone (otherCategory : Char → Bool) (roundUp : ℕ → Bool)
    (arrivals : ℕ → Arrival) (n : ℕ)
    (hstandard : ∀ call, gate roundUp (arrivals n) = .ok call → call.profile = .standard)
    (clockMs : ℤ) (inputs : List (ℕ × HostEvent ε)) :
    (trace (HandlerWorld.step otherCategory roundUp arrivals) (.new clockMs) inputs).filter
        (fun entry => entry.1.1 == n) =
      trace (HandlerWorld.step otherCategory roundUp arrivals) (.new clockMs)
        (inputs.filter fun input => input.1 == n) := by
  have hstart : SameFor n (.new clockMs) (.new clockMs) := ⟨rfl, trivial⟩
  refine trace_filter_eq_of_unwinding _ (fun input : ℕ × HostEvent ε => input.1 == n)
    (R := fun _ world other => SameFor n world other) ?_ ?_ hstart
  · intro input rest world other hsame hother
    obtain ⟨m, event⟩ := input
    have hm : n ≠ m := by
      rintro rfl
      simp at hother
    rcases world.step_cases m event with hstep | ⟨move, _, hstep⟩
    · rw [hstep]
      exact hsame
    · rw [hstep]
      unfold SameFor
      simp only [Function.update_of_ne hm]
      exact hsame
  · intro input rest world other hsame hmine
    obtain ⟨m, event⟩ := input
    obtain rfl : m = n := by simpa using hmine
    exact hsame.step hstandard event

end Alone

/-- Beside a request of the financial profile. -/
theorem standard_request_alone_sample :
    (trace (HandlerWorld.step Unicode.isControl (fun _ => false)
        fun n => sampleArrival (if n = 1 then .standard else .financial)) (.new 900)
      ((sampleGates .financial).map (fun event => (0, event)) ++
        (sampleGates .standard).map fun event => (1, event))).filter
          (fun entry => entry.1.1 == 1) =
      trace (HandlerWorld.step Unicode.isControl (fun _ => false)
        fun n => sampleArrival (if n = 1 then .standard else .financial)) (.new 900)
        ((sampleGates .standard).map fun event => (1, event)) := by
  have hstandard : ∀ call, gate (fun _ => false) (sampleArrival .standard) = .ok call →
      call.profile = .standard := by
    intro call hcall
    have haccepted := accepted_of_gate hcall
    have hprofile := haccepted.profile
    rw [← Option.some.inj haccepted.options] at hprofile
    exact (Option.some.inj hprofile).symm
  exact standard_request_alone Unicode.isControl (fun _ => false)
    (fun n => sampleArrival (if n = 1 then .standard else .financial)) 1 hstandard 900 _

end SecureKeypad.Node
