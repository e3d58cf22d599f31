import SecureKeypad.Http.Financial
import SecureKeypad.Node.Financial

/-!
# The Node and Rust Validators Side by Side

`server-node` and `secure-auth-http` each validate the financial context and evidence. This
module carries one input to both and compares what they accept. `server-node` tests its strings
against `\p{C}`, `secure-auth-http` against `char::is_control`, which is the category `Cc` alone.

## Main results

- `rustAdmits_iff`, `nodeAdmits_iff`: what each side accepts, in the same terms
- `validators_agree_iff`: the two sides part exactly on inputs that are admissible but for a
  character of `\p{C}` that is neither a control nor white space
-/

namespace SecureKeypad.Node

/-! ## One input for both sides -/

/-- The operation on the Rust side. -/
def NodeFinancialAuthOperation.toHttp :
    NodeFinancialAuthOperation → Http.FinancialAuthOperation
  | .registration => .registration
  | .login => .login

/-- The provider on the Rust side. -/
def NodeDeviceIntegrityProvider.toHttp :
    NodeDeviceIntegrityProvider → Http.DeviceIntegrityProvider
  | .androidPlayIntegrity => .androidPlayIntegrity
  | .iosAppAttest => .iosAppAttest
  | .iosDeviceCheck => .iosDeviceCheck
  | .custom => .custom

/-- The context on the Rust side. -/
def NodeFinancialAuthContext.toHttp (context : NodeFinancialAuthContext) :
    Http.FinancialAuthContext where
  subject := context.subject
  operation := context.operation.toHttp
  nonce := context.nonce
  deploymentId := context.deploymentId

/-- `OPAQUE_ROUTE_PATHS`. -/
def OpaqueRoutePath.path : OpaqueRoutePath → String
  | .registrationStart => "/v1/opaque/registration/start"
  | .registrationFinish => "/v1/opaque/registration/finish"
  | .loginStart => "/v1/opaque/login/start"
  | .loginFinish => "/v1/opaque/login/finish"

/-- Evidence both sides can hold: a provider of the shared list and integral times. -/
structure SharedEvidence where
  subject : String
  operation : NodeFinancialAuthOperation
  nonce : String
  deploymentId : String
  provider : NodeDeviceIntegrityProvider
  issuedAtMs : ℕ
  expiresAtMs : ℕ
deriving DecidableEq

/-- The evidence as a JavaScript object. -/
def SharedEvidence.toNode (evidence : SharedEvidence) : NodeDeviceIntegrityEvidence where
  subject := evidence.subject
  operation := evidence.operation
  nonce := evidence.nonce
  deploymentId := evidence.deploymentId
  provider := some evidence.provider
  issuedAtMs := .integer evidence.issuedAtMs
  expiresAtMs := .integer evidence.expiresAtMs

/-- The evidence as a Rust structure. -/
def SharedEvidence.toHttp (evidence : SharedEvidence) : Http.DeviceIntegrityEvidence where
  subject := evidence.subject
  operation := evidence.operation.toHttp
  nonce := evidence.nonce
  deploymentId := evidence.deploymentId
  provider := evidence.provider.toHttp
  issuedAtMs := evidence.issuedAtMs
  expiresAtMs := evidence.expiresAtMs

/-- `isValidFinancialContext` and `isFreshBoundEvidence` both accept. -/
def nodeAdmits (otherCategory : Char → Bool) (path : OpaqueRoutePath)
    (context : NodeFinancialAuthContext) (evidence : SharedEvidence) (nowMs : ℕ) : Bool :=
  isValidFinancialContext otherCategory (some context) path &&
    (isFreshBoundEvidence evidence.toNode context nowMs).isSome

/-- `is_valid_financial_evidence` accepts. -/
def rustAdmits (path : OpaqueRoutePath) (context : NodeFinancialAuthContext)
    (evidence : SharedEvidence) (nowMs : ℕ) : Bool :=
  Http.isValidFinancialEvidence path.path context.toHttp evidence.toHttp nowMs

@[simp] theorem NodeFinancialAuthOperation.toHttp_inj {a b : NodeFinancialAuthOperation} :
    a.toHttp = b.toHttp ↔ a = b := by
  cases a <;> cases b <;> simp [toHttp]

@[simp] theorem isAcceptedProvider_toHttp (provider : NodeDeviceIntegrityProvider) :
    Http.isAcceptedProvider provider.toHttp = true := by
  cases provider <;> rfl

/-- `path.includes("registration")`. -/
theorem OpaqueRoutePath.operation_eq_includes (path : OpaqueRoutePath) :
    path.operation =
      if "registration".toList <:+: path.path.toList then .registration else .login := by
  cases path <;> decide

/-- The `match` on the Rust side finds the operation `path.includes` finds. -/
theorem financialOperationForPath_path (path : OpaqueRoutePath) :
    Http.financialOperationForPath path.path = some path.operation.toHttp := by
  cases path <;> decide

/-! ## The two tests of a string -/

/-- The text holds a character of `\p{C}` that is neither a control nor white space. -/
def HasInvisible (otherCategory : Char → Bool) (text : String) : Prop :=
  ∃ c ∈ text.toList, otherCategory c = true ∧ Unicode.isControl c = false ∧
    Unicode.isWhiteSpace c = false

instance (otherCategory : Char → Bool) (text : String) :
    Decidable (HasInvisible otherCategory text) :=
  List.decidableBEx _ text.toList

variable {otherCategory : Char → Bool}

/-- `server-node` accepts what `secure-auth-http` accepts, less the invisible characters. -/
theorem isBoundedBinding_iff (hcontrol : ∀ c, Unicode.isControl c = true → otherCategory c = true)
    (text : String) (minimum maximum : ℕ) :
    isBoundedBinding otherCategory text minimum maximum = true ↔
      Http.validFinancialBinding text minimum maximum = true ∧
        ¬ HasInvisible otherCategory text := by
  -- Node refuses all of category C, and Rust only its controls; the rest is invisible.
  have hcharacters :
      (∀ c ∈ text.toList, otherCategory c = false ∧ Unicode.isWhiteSpace c = false) ↔
      (∀ c ∈ text.toList, Unicode.isControl c = false ∧ Unicode.isWhiteSpace c = false) ∧
        ¬ HasInvisible otherCategory text := by
    constructor
    · intro hnode
      refine ⟨?_, ?_⟩
      · intro c hc
        refine ⟨?_, (hnode c hc).2⟩
        by_contra hctl
        have hother := hcontrol c (by simpa using hctl)
        rw [(hnode c hc).1] at hother
        cases hother
      · intro ⟨c, hc, hother, _⟩
        rw [(hnode c hc).1] at hother
        cases hother
    · intro ⟨hrust, hvisible⟩ c hc
      refine ⟨?_, (hrust c hc).2⟩
      by_contra hother
      exact hvisible ⟨c, hc, by simpa using hother, (hrust c hc).1, (hrust c hc).2⟩
  -- What the Node check says of the characters and of the length.
  have hnode : isBoundedBinding otherCategory text minimum maximum = true ↔
      (∀ c ∈ text.toList, otherCategory c = false ∧ Unicode.isWhiteSpace c = false) ∧
        minimum ≤ text.utf8ByteSize ∧ text.utf8ByteSize ≤ maximum := by
    unfold isBoundedBinding
    split_ifs with hany
    · simp only [List.any_eq_true, Bool.or_eq_true] at hany
      obtain ⟨c, hc, hbad⟩ := hany
      simp only [false_iff, not_and_or]
      refine .inl fun hall => ?_
      rcases hbad with hbad | hbad
      · rw [(hall c hc).1] at hbad
        cases hbad
      · rw [(hall c hc).2] at hbad
        cases hbad
    · have hall : ∀ c ∈ text.toList, otherCategory c = false ∧ Unicode.isWhiteSpace c = false := by
        simpa using hany
      simp only [Bool.and_eq_true, decide_eq_true_eq]
      exact ⟨fun hlength => ⟨hall, hlength⟩, fun h => h.2⟩
  rw [hnode, hcharacters]
  simp only [Http.validFinancialBinding, Bool.and_eq_true, decide_eq_true_eq, Bool.not_eq_true',
    List.any_eq_false, Bool.or_eq_true, not_or, Bool.not_eq_true]
  tauto

/-! ## What each side accepts -/

/-- What both sides ask of an input, apart from invisible characters. -/
structure Admissible (path : OpaqueRoutePath) (context : NodeFinancialAuthContext)
    (evidence : SharedEvidence) (nowMs : ℕ) : Prop where
  operation : context.operation = path.operation
  subject : Http.validFinancialBinding context.subject 1 256 = true
  nonce : Http.validFinancialBinding context.nonce 16 512 = true
  deploymentId : Http.validFinancialBinding context.deploymentId 1 128 = true
  bound : evidence.subject = context.subject ∧ evidence.operation = context.operation ∧
    evidence.nonce = context.nonce ∧ evidence.deploymentId = context.deploymentId
  issued : evidence.issuedAtMs ≤ nowMs + 30000
  unexpired : nowMs < evidence.expiresAtMs
  window : evidence.issuedAtMs < evidence.expiresAtMs ∧
    evidence.expiresAtMs ≤ evidence.issuedAtMs + 300000

/-- One of the three strings of the context holds an invisible character. -/
def NodeFinancialAuthContext.Invisible (otherCategory : Char → Bool)
    (context : NodeFinancialAuthContext) : Prop :=
  HasInvisible otherCategory context.subject ∨ HasInvisible otherCategory context.nonce ∨
    HasInvisible otherCategory context.deploymentId

section Admits

variable {path : OpaqueRoutePath} {context : NodeFinancialAuthContext}
  {evidence : SharedEvidence} {nowMs : ℕ}

/-- `saturating_add` is addition on the clock's range. -/
theorem rustAdmits_iff (hnow : nowMs < 2 ^ 53 - 30000) :
    rustAdmits path context evidence nowMs = true ↔
      Admissible path context evidence nowMs := by
  -- So far below the end of the range the sum does not saturate.
  have hadd : Rust.saturatingAddU64 nowMs Http.maxFinancialFutureSkewMs = nowMs + 30000 := by
    simp only [Rust.saturatingAddU64, Http.maxFinancialFutureSkewMs, Rust.u64Max]
    omega
  simp only [rustAdmits, Http.isValidFinancialEvidence, Http.isValidFinancialContext,
    financialOperationForPath_path, hadd, Bool.and_eq_true, decide_eq_true_eq]
  constructor
  · intro ⟨⟨⟨⟨⟨⟨⟨⟨⟨⟨⟨⟨hop, hs⟩, hn⟩, hd⟩, hsub⟩, heop⟩, hnon⟩, hdep⟩, _⟩, hi⟩, hx⟩, hix⟩, hw⟩
    have hop' : path.operation.toHttp = context.operation.toHttp := Option.some.inj hop
    have heop' : evidence.operation.toHttp = context.operation.toHttp := heop
    simp only [SharedEvidence.toHttp, Http.maxFinancialEvidenceLifetimeMs] at hi hx hix hw
    exact {
      operation := (NodeFinancialAuthOperation.toHttp_inj.mp hop').symm
      subject := hs
      nonce := hn
      deploymentId := hd
      bound := ⟨hsub, NodeFinancialAuthOperation.toHttp_inj.mp heop', hnon, hdep⟩
      issued := hi
      unexpired := hx
      window := ⟨hix, by omega⟩ }
  · intro h
    have hwindow := h.window.2
    have hlife : evidence.toHttp.expiresAtMs - evidence.toHttp.issuedAtMs ≤
        Http.maxFinancialEvidenceLifetimeMs := by
      simp only [SharedEvidence.toHttp, Http.maxFinancialEvidenceLifetimeMs]
      omega
    have hop : path.operation.toHttp = context.operation.toHttp := by rw [h.operation]
    have heop : evidence.operation.toHttp = context.operation.toHttp := by rw [h.bound.2.1]
    exact ⟨⟨⟨⟨⟨⟨⟨⟨⟨⟨⟨⟨congrArg some hop, h.subject⟩, h.nonce⟩, h.deploymentId⟩, h.bound.1⟩,
      heop⟩, h.bound.2.2.1⟩, h.bound.2.2.2⟩, isAcceptedProvider_toHttp _⟩, h.issued⟩,
      h.unexpired⟩, h.window.1⟩, hlife⟩

/-- The times pass `Number.isSafeInteger`. -/
theorem safeInteger?_of_lt {n : ℕ} (h : n < 2 ^ 53) :
    (JsNumber.integer n).safeInteger? = some (n : ℤ) := by
  have hsafe : (n : ℤ).natAbs ≤ 2 ^ 53 - 1 := by
    rw [Int.natAbs_natCast]
    omega
  rw [JsNumber.safeInteger?, if_pos hsafe]

theorem isFreshBoundEvidence_isSome (hissued : evidence.issuedAtMs < 2 ^ 53)
    (hexpires : evidence.expiresAtMs < 2 ^ 53) :
    (isFreshBoundEvidence evidence.toNode context nowMs).isSome = true ↔
      (evidence.subject = context.subject ∧ evidence.operation = context.operation ∧
        evidence.nonce = context.nonce ∧ evidence.deploymentId = context.deploymentId) ∧
      evidence.issuedAtMs ≤ nowMs + 30000 ∧ nowMs < evidence.expiresAtMs ∧
      evidence.issuedAtMs < evidence.expiresAtMs ∧
      evidence.expiresAtMs ≤ evidence.issuedAtMs + 300000 := by
  simp only [isFreshBoundEvidence, SharedEvidence.toNode, Option.isNone_some, Bool.false_eq_true,
    if_false, safeInteger?_of_lt hissued, safeInteger?_of_lt hexpires]
  split_ifs with hunbound htimes
  · simp only [Option.isSome_none, Bool.false_eq_true, false_iff]
    tauto
  · simp only [Option.isSome_some, true_iff]
    refine ⟨by tauto, ?_⟩
    omega
  · simp only [Option.isSome_none, Bool.false_eq_true, false_iff]
    intro ⟨_, h⟩
    refine htimes ?_
    omega

theorem nodeAdmits_iff
    (hcontrol : ∀ c, Unicode.isControl c = true → otherCategory c = true)
    (hissued : evidence.issuedAtMs < 2 ^ 53) (hexpires : evidence.expiresAtMs < 2 ^ 53) :
    nodeAdmits otherCategory path context evidence nowMs = true ↔
      Admissible path context evidence nowMs ∧ ¬ context.Invisible otherCategory := by
  simp only [nodeAdmits, isValidFinancialContext, Bool.and_eq_true, decide_eq_true_eq,
    isBoundedBinding_iff hcontrol, isFreshBoundEvidence_isSome hissued hexpires,
    NodeFinancialAuthContext.Invisible, not_or]
  constructor
  · intro ⟨⟨⟨⟨hop, hs⟩, hn⟩, hd⟩, hbound, hi, hx, hw⟩
    exact ⟨⟨hop, hs.1, hn.1, hd.1, hbound, hi, hx, hw⟩, hs.2, hn.2, hd.2⟩
  · intro ⟨h, hs, hn, hd⟩
    exact ⟨⟨⟨⟨h.operation, h.subject, hs⟩, h.nonce, hn⟩, h.deploymentId, hd⟩, h.bound, h.issued,
      h.unexpired, h.window⟩

/-- **The two validators part exactly on admissible inputs with an invisible character.** -/
theorem validators_agree_iff
    (hcontrol : ∀ c, Unicode.isControl c = true → otherCategory c = true)
    (hissued : evidence.issuedAtMs < 2 ^ 53) (hexpires : evidence.expiresAtMs < 2 ^ 53)
    (hnow : nowMs < 2 ^ 53 - 30000) :
    nodeAdmits otherCategory path context evidence nowMs =
        rustAdmits path context evidence nowMs ↔
      ¬ (Admissible path context evidence nowMs ∧ context.Invisible otherCategory) := by
  rw [Bool.eq_iff_iff, nodeAdmits_iff hcontrol hissued hexpires, rustAdmits_iff hnow]
  tauto

end Admits

/-! ## A pair of contexts -/

/-- A login context for the subject, with evidence for it that expires at 60000. -/
def loginContext (subject : String) : NodeFinancialAuthContext where
  subject := subject
  operation := .login
  nonce := "nonce-0123456789"
  deploymentId := "deployment"

@[inherit_doc loginContext]
def loginEvidence (subject : String) : SharedEvidence where
  subject := subject
  operation := .login
  nonce := "nonce-0123456789"
  deploymentId := "deployment"
  provider := .iosAppAttest
  issuedAtMs := 0
  expiresAtMs := 60000

/-- Both sides admit a subject of plain letters. -/
theorem validators_agree_iff_at_letters :
    nodeAdmits (fun c => Unicode.isControl c || Unicode.isFormat c) .loginStart
        (loginContext "account") (loginEvidence "account") 1000 =
      rustAdmits .loginStart (loginContext "account") (loginEvidence "account") 1000 := by
  refine (validators_agree_iff (fun c hc => by simp [hc]) (by decide) (by decide)
    (by decide)).mpr ?_
  intro ⟨_, hinvisible⟩
  rcases hinvisible with h | h | h
  · exact absurd h (by decide +kernel)
  · exact absurd h (by decide +kernel)
  · exact absurd h (by decide +kernel)

/-- A zero width space in the subject is format, so `server-node` refuses it; it is neither a
    control nor white space, so `secure-auth-http` admits it. -/
theorem zero_width_space_parts_validators :
    nodeAdmits (fun c => Unicode.isControl c || Unicode.isFormat c) .loginStart
        (loginContext "acc\u200Bount") (loginEvidence "acc\u200Bount") 1000 = false ∧
      rustAdmits .loginStart (loginContext "acc\u200Bount") (loginEvidence "acc\u200Bount")
        1000 = true := by
  decide +kernel

end SecureKeypad.Node
