import SecureKeypad.Http.Financial
import SecureKeypad.Library.Separated
import SecureKeypad.Node.Financial

/-!
# What the Financial Replay Caches Answer

The Axum and Actix adapters and the Node handler each keep a replay cache: a map of at most
`MAX_FINANCIAL_REPLAY_ENTRIES` keys formatted from a validated context. This module says what a
sequence of consume calls with a clock that never runs backwards is answered, in terms of the
calls alone.

A key joins the four fields of a context with NUL. That the fields can be read off it again rests
on the context check, which admits no control character into a binding.

## Main results

- `Http.replayKey_eq_iff`, `Node.replayKey_eq_iff`: validated contexts share a key only if all
  four fields agree
- `financial_replay_cache`: the answers of both caches, by the history of the calls
-/

namespace SecureKeypad

open ReplayGuard (Decision)

/-! ## Consume calls -/

/-- The arguments of one consume: a host context, the expiry of its evidence and the reading the
    call is made with. -/
structure ConsumeCall (Context Time : Type) where
  context : Context
  expiresAtMs : Time
  nowMs : Time
deriving DecidableEq

/-- What a cache with room for `maxEntries` answers, by the earlier calls. -/
structure ReplayLaw {Context Time : Type} [LinearOrder Time] (maxEntries : ℕ)
    (answers : List (ConsumeCall Context Time × Decision)) : Prop where
  /-- `Replayed` says that the same context was consumed until later than now; an unexpired
      admission is thus never forgotten, whatever came in between. -/
  replayed_iff : ∀ (j : ℕ) (call : ConsumeCall Context Time) (decision : Decision),
    answers[j]? = some (call, decision) →
    (decision = .replayed ↔ ∃ i earlier, i < j ∧ answers[i]? = some (earlier, .consumed) ∧
      earlier.context = call.context ∧ call.nowMs < earlier.expiresAtMs)
  /-- A call is refused for capacity exactly when it is no replay and the unexpired consumed
      evidences are as many as the cache may hold. -/
  unavailable_iff : ∀ (j : ℕ) (call : ConsumeCall Context Time) (decision : Decision),
    answers[j]? = some (call, decision) →
    (decision = .unavailable ↔
      (¬ ∃ i earlier, i < j ∧ answers[i]? = some (earlier, .consumed) ∧
        earlier.context = call.context ∧ call.nowMs < earlier.expiresAtMs) ∧
      ((answers.take j).filter fun answered =>
        decide (answered.2 = .consumed ∧ call.nowMs < answered.1.expiresAtMs)).length = maxEntries)

section Law

variable {Context Time σ K : Type} [LinearOrder Time]
  {step : σ → ConsumeCall Context Time → Decision × σ} {wrap : KeyedMap K Time → σ}
  {maxEntries : ℕ} {key : Context → K}

/-- An earlier unexpired admission for the key, said with positions. -/
private theorem exists_unexpired_iff {answers : List (ConsumeCall Context Time × Decision)}
    {call : ConsumeCall Context Time} {j : ℕ}
    (hkeys : ∀ earlier ∈ answers, key earlier.1.context = key call.context →
      earlier.1.context = call.context) :
    (∃ answered ∈ ReplayGuard.unexpired ConsumeCall.expiresAtMs call.nowMs (answers.take j),
      key answered.1.context = key call.context) ↔
    ∃ i earlier, i < j ∧ answers[i]? = some (earlier, .consumed) ∧
      earlier.context = call.context ∧ call.nowMs < earlier.expiresAtMs := by
  constructor
  · intro ⟨⟨earlier, decision⟩, hmem, hkey⟩
    obtain ⟨hpast, hconsumed, hlive⟩ := ReplayGuard.mem_unexpired.mp hmem
    obtain ⟨i, hi⟩ := List.mem_iff_getElem?.mp hpast
    rw [List.getElem?_take] at hi
    obtain ⟨hij, hget⟩ := Option.ite_none_right_eq_some.mp hi
    subst hconsumed
    exact ⟨i, earlier, hij, hget, hkeys _ (List.mem_of_getElem? hget) hkey, hlive⟩
  · intro ⟨i, earlier, hij, hget, hcontext, hlive⟩
    refine ⟨(earlier, .consumed), ReplayGuard.mem_unexpired.mpr ⟨?_, rfl, hlive⟩,
      congrArg key hcontext⟩
    exact List.mem_of_getElem? ((List.getElem?_take_of_lt hij).trans hget)

/-- The law of a cache whose keys tell the contexts of its calls apart. -/
theorem ReplayLaw.of_guards [DecidableEq K]
    (guards : ReplayGuard.Guards step wrap maxEntries (fun call => key call.context)
      ConsumeCall.expiresAtMs ConsumeCall.nowMs)
    {calls : List (ConsumeCall Context Time)}
    (hkeys : ∀ a ∈ calls, ∀ b ∈ calls, key a.context = key b.context → a.context = b.context)
    (hclock : calls.Pairwise fun a b => a.nowMs ≤ b.nowMs) :
    ReplayLaw maxEntries (Machine.trace step (wrap ∅) calls) := by
  have hcalls : ∀ answered ∈ Machine.trace step (wrap ∅) calls, answered.1 ∈ calls := by
    intro answered hanswered
    obtain ⟨n, hn, _⟩ := Machine.exists_of_mem_trace step hanswered
    exact List.mem_of_getElem? hn
  have hearlier : ∀ {j : ℕ} {call : ConsumeCall Context Time} {decision : Decision},
      (Machine.trace step (wrap ∅) calls)[j]? = some (call, decision) → ∀ earlier ∈ Machine.trace step (wrap ∅) calls,
      key earlier.1.context = key call.context → earlier.1.context = call.context := by
    intro j call decision hj earlier hmem
    exact hkeys _ (hcalls _ hmem) _ (hcalls _ (List.mem_of_getElem? hj))
  constructor
  · intro j call decision hj
    rw [← exists_unexpired_iff (hearlier hj)]
    exact (guards.answer_iff hclock hj).1
  · intro j call decision hj
    rw [← exists_unexpired_iff (hearlier hj)]
    exact (guards.answer_iff hclock hj).2

end Law

/-! ## Keys -/

/-- Four texts without NUL, joined with NUL. -/
theorem join_nul_inj {a a' b b' c c' d d' : String}
    (h : ∀ part ∈ [a, b, c, d], '\x00' ∉ part.toList)
    (h' : ∀ part ∈ [a', b', c', d'], '\x00' ∉ part.toList)
    (heq : a ++ "\x00" ++ b ++ "\x00" ++ c ++ "\x00" ++ d =
      a' ++ "\x00" ++ b' ++ "\x00" ++ c' ++ "\x00" ++ d') :
    a = a' ∧ b = b' ∧ c = c' ∧ d = d' := by
  have hjoined : Separated.joined '\x00' [a, b, c, d] = Separated.joined '\x00' [a', b', c', d'] := by
    have hchars := congrArg String.toList heq
    simpa [Separated.joined, List.intercalate] using hchars
  simpa using Separated.joined_inj (List.cons_ne_nil _ _) (List.cons_ne_nil _ _) h h' hjoined

namespace Http

theorem nul_notMem_of_validFinancialBinding {value : String} {minimumBytes maximumBytes : ℕ}
    (h : validFinancialBinding value minimumBytes maximumBytes = true) :
    '\x00' ∉ value.toList := by
  intro hmem
  simp only [validFinancialBinding, Bool.and_eq_true, Bool.not_eq_true', List.any_eq_false] at h
  exact h.2 _ hmem (by decide)

theorem FinancialAuthOperation.nul_notMem_word (operation : FinancialAuthOperation) :
    '\x00' ∉ operation.word.toList := by
  cases operation <;> decide

theorem FinancialAuthOperation.word_injective :
    Function.Injective FinancialAuthOperation.word := by
  intro a b h
  cases a <;> cases b <;> first | rfl | exact absurd h (by decide)

/-- No part of the key of a validated context has the separator. -/
theorem nul_notMem_of_isValidFinancialContext {path : String} {context : FinancialAuthContext}
    (h : isValidFinancialContext path context = true) :
    ∀ part ∈ [context.deploymentId, context.subject, context.operation.word, context.nonce],
      '\x00' ∉ part.toList := by
  simp only [isValidFinancialContext, Bool.and_eq_true] at h
  obtain ⟨⟨⟨_, hsubject⟩, hnonce⟩, hdeployment⟩ := h
  simp only [List.forall_mem_cons]
  exact ⟨nul_notMem_of_validFinancialBinding hdeployment,
    nul_notMem_of_validFinancialBinding hsubject, context.operation.nul_notMem_word,
    nul_notMem_of_validFinancialBinding hnonce, nofun⟩

/-- Validated contexts share a replay key exactly when all four fields agree. -/
theorem replayKey_eq_iff {path path' : String} {a b : FinancialAuthContext}
    (ha : isValidFinancialContext path a = true) (hb : isValidFinancialContext path' b = true) :
    replayKey a = replayKey b ↔ a.deploymentId = b.deploymentId ∧ a.subject = b.subject ∧
      a.operation = b.operation ∧ a.nonce = b.nonce := by
  constructor
  · intro h
    obtain ⟨hdeployment, hsubject, hoperation, hnonce⟩ :=
      join_nul_inj (nul_notMem_of_isValidFinancialContext ha)
        (nul_notMem_of_isValidFinancialContext hb) h
    exact ⟨hdeployment, hsubject, FinancialAuthOperation.word_injective hoperation, hnonce⟩
  · intro ⟨hdeployment, hsubject, hoperation, hnonce⟩
    simp only [replayKey, hdeployment, hsubject, hoperation, hnonce]

/-- One consume call on the locked map. -/
def consumeStep (consumed : Rust.Mutex ReplayMap) (call : ConsumeCall FinancialAuthContext ℕ) :
    ReplayDecision × Rust.Mutex ReplayMap :=
  consume consumed call.context call.expiresAtMs call.nowMs

/-- Nothing in `consume` panics, so the lock is never poisoned. -/
theorem consumeStep_guards : ReplayGuard.Guards consumeStep Rust.Mutex.new
    maxFinancialReplayEntries (fun call => replayKey call.context) ConsumeCall.expiresAtMs
    ConsumeCall.nowMs where
  answer := fun _ _ => rfl
  next := fun _ _ => rfl

end Http

namespace Node

variable {otherCategory : Char → Bool}

theorem nul_notMem_of_isBoundedBinding
    (hcontrol : ∀ c, Unicode.isControl c = true → otherCategory c = true) {value : String}
    {minimumLength maximumLength : ℕ}
    (h : isBoundedBinding otherCategory value minimumLength maximumLength = true) :
    '\x00' ∉ value.toList := by
  intro hmem
  unfold isBoundedBinding at h
  split at h
  · cases h
  · next hclean =>
    apply hclean
    rw [List.any_eq_true]
    exact ⟨'\x00', hmem, by rw [hcontrol '\x00' (by decide), Bool.true_or]⟩

theorem NodeFinancialAuthOperation.nul_notMem_word (operation : NodeFinancialAuthOperation) :
    '\x00' ∉ operation.word.toList := by
  cases operation <;> decide

theorem NodeFinancialAuthOperation.word_injective :
    Function.Injective NodeFinancialAuthOperation.word := by
  intro a b h
  cases a <;> cases b <;> first | rfl | exact absurd h (by decide)

/-- No part of the key of a validated context has the separator. -/
theorem nul_notMem_of_isValidFinancialContext
    (hcontrol : ∀ c, Unicode.isControl c = true → otherCategory c = true)
    {path : OpaqueRoutePath} {context : NodeFinancialAuthContext}
    (h : isValidFinancialContext otherCategory (some context) path = true) :
    ∀ part ∈ [context.deploymentId, context.subject, context.operation.word, context.nonce],
      '\x00' ∉ part.toList := by
  simp only [isValidFinancialContext, Bool.and_eq_true] at h
  obtain ⟨⟨⟨_, hsubject⟩, hnonce⟩, hdeployment⟩ := h
  simp only [List.forall_mem_cons]
  exact ⟨nul_notMem_of_isBoundedBinding hcontrol hdeployment,
    nul_notMem_of_isBoundedBinding hcontrol hsubject, context.operation.nul_notMem_word,
    nul_notMem_of_isBoundedBinding hcontrol hnonce, nofun⟩

/-- Validated contexts share a replay key exactly when all four fields agree. -/
theorem replayKey_eq_iff
    (hcontrol : ∀ c, Unicode.isControl c = true → otherCategory c = true)
    {path path' : OpaqueRoutePath} {a b : NodeFinancialAuthContext}
    (ha : isValidFinancialContext otherCategory (some a) path = true)
    (hb : isValidFinancialContext otherCategory (some b) path' = true) :
    replayKey a = replayKey b ↔ a.deploymentId = b.deploymentId ∧ a.subject = b.subject ∧
      a.operation = b.operation ∧ a.nonce = b.nonce := by
  constructor
  · intro h
    obtain ⟨hdeployment, hsubject, hoperation, hnonce⟩ :=
      join_nul_inj (nul_notMem_of_isValidFinancialContext hcontrol ha)
        (nul_notMem_of_isValidFinancialContext hcontrol hb) h
    exact ⟨hdeployment, hsubject, NodeFinancialAuthOperation.word_injective hoperation, hnonce⟩
  · intro ⟨hdeployment, hsubject, hoperation, hnonce⟩
    simp only [replayKey, hdeployment, hsubject, hoperation, hnonce]

/-- One call of `consumeFinancialEvidence` on the handler's map. -/
def consumeStep (consumedEvidence : KeyedMap String ℤ)
    (call : ConsumeCall NodeFinancialAuthContext ℤ) :
    FinancialReplayDecision × KeyedMap String ℤ :=
  consumeFinancialEvidence consumedEvidence call.context call.expiresAtMs call.nowMs

theorem consumeStep_guards : ReplayGuard.Guards consumeStep id maxFinancialReplayEntries
    (fun call => replayKey call.context) ConsumeCall.expiresAtMs ConsumeCall.nowMs where
  answer := fun _ _ => rfl
  next := fun _ _ => rfl

end Node

/-! ## Both caches -/

/-- **Replay caches.** Over validated contexts, in the Rust adapters and in the Node handler: the
    cache stays within its bound, the keys of two contexts are equal exactly when the contexts
    agree in all four fields, and with readings that never run backwards the answers obey the
    replay law. -/
theorem financial_replay_cache (otherCategory : Char → Bool)
    (hcontrol : ∀ c, Unicode.isControl c = true → otherCategory c = true) :
    (∀ path path' a b, Http.isValidFinancialContext path a = true →
      Http.isValidFinancialContext path' b = true →
      (Http.replayKey a = Http.replayKey b ↔ a.deploymentId = b.deploymentId ∧
        a.subject = b.subject ∧ a.operation = b.operation ∧ a.nonce = b.nonce)) ∧
    (∀ path path' a b, Node.isValidFinancialContext otherCategory (some a) path = true →
      Node.isValidFinancialContext otherCategory (some b) path' = true →
      (Node.replayKey a = Node.replayKey b ↔ a.deploymentId = b.deploymentId ∧
        a.subject = b.subject ∧ a.operation = b.operation ∧ a.nonce = b.nonce)) ∧
    (∀ calls : List (ConsumeCall Http.FinancialAuthContext ℕ),
      (∀ call ∈ calls, ∃ path, Http.isValidFinancialContext path call.context = true) →
      (calls.Pairwise fun a b => a.nowMs ≤ b.nowMs) →
      KeyedMap.size (Machine.run Http.consumeStep (Rust.Mutex.new ∅) calls).value ≤
          Http.maxFinancialReplayEntries ∧
        ReplayLaw Http.maxFinancialReplayEntries
          (Machine.trace Http.consumeStep (Rust.Mutex.new ∅) calls)) ∧
    (∀ calls : List (ConsumeCall Node.NodeFinancialAuthContext ℤ),
      (∀ call ∈ calls, ∃ path,
        Node.isValidFinancialContext otherCategory (some call.context) path = true) →
      (calls.Pairwise fun a b => a.nowMs ≤ b.nowMs) →
      KeyedMap.size (Machine.run Node.consumeStep ∅ calls) ≤ Node.maxFinancialReplayEntries ∧
        ReplayLaw Node.maxFinancialReplayEntries (Machine.trace Node.consumeStep ∅ calls)) := by
  refine ⟨?keys, ?nodeKeys, ?rust, ?node⟩
  case keys =>
    intro path path' a b ha hb
    exact Http.replayKey_eq_iff ha hb
  case nodeKeys =>
    intro path path' a b ha hb
    exact Node.replayKey_eq_iff hcontrol ha hb
  -- Contexts of one key are equal, since the four fields are all they have.
  case rust =>
    intro calls hvalid hclock
    obtain ⟨m, hrun, hsize, _⟩ := Http.consumeStep_guards.run_tracks calls
    refine ⟨by rw [hrun]; exact hsize, ReplayLaw.of_guards Http.consumeStep_guards ?_ hclock⟩
    intro a ha b hb hkey
    obtain ⟨path, hpath⟩ := hvalid a ha
    obtain ⟨path', hpath'⟩ := hvalid b hb
    obtain ⟨hdeployment, hsubject, hoperation, hnonce⟩ :=
      (Http.replayKey_eq_iff hpath hpath').mp hkey
    cases ha' : a.context
    cases hb' : b.context
    simp_all
  -- The same table in the Node server, which takes no lock.
  case node =>
    intro calls hvalid hclock
    obtain ⟨m, hrun, hsize, _⟩ := Node.consumeStep_guards.run_tracks calls
    refine ⟨(congrArg KeyedMap.size hrun).trans_le hsize,
      ReplayLaw.of_guards Node.consumeStep_guards ?_ hclock⟩
    intro a ha b hb hkey
    obtain ⟨path, hpath⟩ := hvalid a ha
    obtain ⟨path', hpath'⟩ := hvalid b hb
    obtain ⟨hdeployment, hsubject, hoperation, hnonce⟩ :=
      (Node.replayKey_eq_iff hcontrol hpath hpath').mp hkey
    cases ha' : a.context
    cases hb' : b.context
    simp_all

/-- A login by Alice, consumed at 100 ms until 1000 ms. -/
def aliceCall (nowMs : ℕ) : ConsumeCall Http.FinancialAuthContext ℕ :=
  { context := Http.aliceContext, expiresAtMs := 1000, nowMs }

/-- The same login at the Node handler. -/
def aliceNodeCall (nowMs : ℤ) : ConsumeCall Node.NodeFinancialAuthContext ℤ :=
  { context := Node.sampleContext, expiresAtMs := 1000, nowMs }

/-- Presented again at 200 ms the login is a replay, as Rust and Node both see it; from 1000 ms on
    it is not. -/
theorem financial_replay_cache_sample :
    (Http.replayKey Http.aliceContext = Http.replayKey Http.bobContext ↔
      Http.aliceContext.deploymentId = Http.bobContext.deploymentId ∧
        Http.aliceContext.subject = Http.bobContext.subject ∧
        Http.aliceContext.operation = Http.bobContext.operation ∧
        Http.aliceContext.nonce = Http.bobContext.nonce) ∧
    ReplayLaw Http.maxFinancialReplayEntries
      [(aliceCall 100, .consumed), (aliceCall 200, .replayed), (aliceCall 1000, .consumed)] ∧
    ReplayLaw Node.maxFinancialReplayEntries
      [(aliceNodeCall 100, .consumed), (aliceNodeCall 200, .replayed),
        (aliceNodeCall 1000, .consumed)] := by
  have hvalid : Http.isValidFinancialContext Http.loginStartPath Http.aliceContext = true := by
    decide
  have hvalidNode : Node.isValidFinancialContext Unicode.isControl (some Node.sampleContext)
      .loginFinish = true := by
    decide
  obtain ⟨hkeys, _, hrust, hnode⟩ := financial_replay_cache Unicode.isControl fun _ h => h
  refine ⟨hkeys Http.loginStartPath Http.loginStartPath _ _ hvalid (by decide), ?_, ?_⟩
  · refine (hrust [aliceCall 100, aliceCall 200, aliceCall 1000] ?_ (by decide)).2
    intro call hcall
    refine ⟨Http.loginStartPath, ?_⟩
    simp only [List.mem_cons, List.not_mem_nil, or_false] at hcall
    rcases hcall with rfl | rfl | rfl <;> exact hvalid
  · refine (hnode [aliceNodeCall 100, aliceNodeCall 200, aliceNodeCall 1000] ?_ (by decide)).2
    intro call hcall
    refine ⟨.loginFinish, ?_⟩
    simp only [List.mem_cons, List.not_mem_nil, or_false] at hcall
    rcases hcall with rfl | rfl | rfl <;> exact hvalidNode

end SecureKeypad
