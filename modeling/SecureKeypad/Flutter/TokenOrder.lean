import SecureKeypad.Flutter.ChannelBinding

/-!
# Tokens of the Flutter Controllers

A controller numbers its key presses, and goes on with its numbers wherever it is attached. What is
sent to one view is in order as long as no controller with a low number is put in another's place
while the channel stays.

## Main results

- `step_tokens`: a step that rewinds no tokens keeps those sent to each view increasing
-/

namespace SecureKeypad.Flutter

/-- The tokens of the key presses sent to a view, oldest first. -/
def tokensTo (sent : List (ℕ × Message)) (viewId : ℕ) : List ℕ :=
  sent.filterMap fun
    | (id, .pressKey token _) => if id = viewId then some token else none
    | (_, .cancel) => none

theorem tokensTo_append (sent more : List (ℕ × Message)) (viewId : ℕ) :
    tokensTo (sent ++ more) viewId = tokensTo sent viewId ++ tokensTo more viewId :=
  List.filterMap_append

theorem tokensTo_cancel (id viewId : ℕ) : tokensTo [(id, .cancel)] viewId = [] := rfl

theorem tokensTo_pressKey (id token viewId : ℕ) (keyId : String) :
    tokensTo [(id, .pressKey token keyId)] viewId = if id = viewId then [token] else [] := by
  unfold tokensTo
  split_ifs with h <;> simp [h]

namespace World

variable (platform : TargetPlatform) (heap : ℕ → Configuration)

/-- The channel to the view has not been opened yet. -/
def Unopened (world : World) (viewId : ℕ) : Prop :=
  world.nextViewId ≤ viewId ∨
    ∃ view, world.view = some view ∧ view.created = false ∧ view.id = viewId

/-- The tokens sent to each view are increasing, and those of the widget's controller go on. -/
structure Tokens (world : World) : Prop where
  increasing : ∀ viewId, (tokensTo world.sent viewId).Pairwise (· < ·)
  next : ∀ c viewId, world.state.widget.controller = some c →
    world.state.controlChannel = some viewId → ∀ token ∈ tokensTo world.sent viewId,
      token < (world.controllers c).nextHeadlessKeyPressToken
  /-- Only the widget's controller sends over the channel of this state. -/
  held : ∀ c, (world.controllers c).headlessKeyPressAction = some .here →
    world.state.widget.controller = some c
  unopened : ∀ viewId, world.Unopened viewId →
    tokensTo world.sent viewId = [] ∧ world.state.controlChannel ≠ some viewId
  mountedId : ∀ view, world.view = some view → view.id < world.nextViewId

/-! ## Steps that send no key press -/

/-- Nothing changes but that controllers may be detached, may be taken by another state, and may
    lose tokens. -/
structure Quiet (world world' : World) : Prop where
  widget : world'.state.widget = world.state.widget
  controlChannel : world'.state.controlChannel = world.state.controlChannel
  view : world'.view = world.view
  nextViewId : world'.nextViewId = world.nextViewId
  sent : world.sent <+: world'.sent
  tokens : ∀ viewId, tokensTo world'.sent viewId = tokensTo world.sent viewId
  next : ∀ c, (world.controllers c).nextHeadlessKeyPressToken ≤
    (world'.controllers c).nextHeadlessKeyPressToken
  held : ∀ c, (world'.controllers c).headlessKeyPressAction = some .here →
    (world.controllers c).headlessKeyPressAction = some .here

theorem Quiet.of_controllers {world world' : World} (h : world' = { world with
      postFrame := world'.postFrame, reports := world'.reports, state := { world.state with
        eventSubscription := world'.state.eventSubscription
        reportedConfigurationError := world'.state.reportedConfigurationError } }) :
    Quiet world world' := by
  rw [h]
  exact ⟨rfl, rfl, rfl, rfl, List.prefix_rfl, fun _ => rfl, fun _ => le_rfl, fun _ h => h⟩

theorem Quiet.tokensKept {world world' : World} (h : Quiet world world') (ht : world.Tokens) :
    world'.Tokens := by
  constructor
  · intro viewId
    rw [h.tokens]
    exact ht.increasing viewId
  · intro c viewId hc hchannel token htoken
    rw [h.widget] at hc
    rw [h.controlChannel] at hchannel
    rw [h.tokens] at htoken
    exact (ht.next c viewId hc hchannel token htoken).trans_le (h.next c)
  · intro c hc
    rw [h.widget]
    exact ht.held c (h.held c hc)
  · intro viewId hunopened
    unfold Unopened at hunopened
    rw [h.nextViewId, h.view] at hunopened
    rw [h.tokens, h.controlChannel]
    exact ht.unopened viewId hunopened
  · intro view hview
    rw [h.view] at hview
    rw [h.nextViewId]
    exact ht.mountedId view hview

/-- A controller that is detached, taken by another state, or loses tokens. -/
theorem setController_quiet (world : World) (c : ℕ) (controller : Controller)
    (hnext : (world.controllers c).nextHeadlessKeyPressToken ≤
      controller.nextHeadlessKeyPressToken)
    (hheld : controller.headlessKeyPressAction = some .here →
      (world.controllers c).headlessKeyPressAction = some .here) :
    Quiet world (world.setController c controller) := by
  refine ⟨rfl, rfl, rfl, rfl, List.prefix_rfl, fun _ => rfl, ?_, ?_⟩
  · intro c'
    by_cases hc : c' = c
    · subst hc
      rw [setController_self]
      exact hnext
    · rw [setController_of_ne _ hc]
  · intro c' hc'
    by_cases hc : c' = c
    · subst hc
      rw [setController_self] at hc'
      exact hheld hc'
    · rwa [setController_of_ne _ hc] at hc'

theorem attachElsewhere_quiet (world : World) (c : ℕ) (headless : Bool) :
    Quiet world (world.attach c .elsewhere headless) := by
  apply setController_quiet
  · exact le_rfl
  · intro h
    cases headless <;> cases h

theorem detach_quiet (world : World) (c : ℕ) : Quiet world (world.detach c) := by
  apply setController_quiet
  · exact le_rfl
  · intro h
    cases h

theorem cancel_quiet (world : World) (c : ℕ) : Quiet world (world.cancel c).2 := by
  have hrefl : Quiet world world := .of_controllers rfl
  unfold cancel call send
  split
  · exact hrefl
  · split
    · split
      · exact hrefl
      · next id _ =>
        refine ⟨rfl, rfl, rfl, rfl, List.prefix_append _ _, ?_, fun _ => le_rfl, fun _ h => h⟩
        intro viewId
        simp only [tokensTo_append, tokensTo_cancel, List.append_nil]
    · exact hrefl

/-- What a key press does: it takes a token at most, or it sends one over the channel. -/
theorem pressKey_cases (world : World) (c : ℕ) (keyId : String) :
    Quiet world (world.pressKey c keyId).2 ∨
    ∃ viewId, (world.controllers c).headlessKeyPressAction = some .here ∧
      world.state.controlChannel = some viewId ∧
      (world.pressKey c keyId).2 =
        { world.setController c { world.controllers c with
            nextHeadlessKeyPressToken := (world.controllers c).nextHeadlessKeyPressToken + 1 } with
          sent := world.sent ++
            [(viewId, .pressKey (world.controllers c).nextHeadlessKeyPressToken keyId)] } := by
  have hrefl : Quiet world world := .of_controllers rfl
  -- A token that is taken and not sent leaves a gap, and nothing else.
  have htaken : Quiet world (world.setController c { world.controllers c with
      nextHeadlessKeyPressToken := (world.controllers c).nextHeadlessKeyPressToken + 1 }) :=
    setController_quiet world c _ (Nat.le_succ _) fun h => h
  unfold pressKey
  split
  · exact .inl hrefl
  · split
    · exact .inl hrefl
    · next owner howner =>
      dsimp only
      split
      · exact .inl hrefl
      · cases owner with
        | elsewhere => exact .inl htaken
        | here =>
          unfold call send
          dsimp only
          split
          · exact .inl htaken
          · next viewId hchannel => exact .inr ⟨viewId, howner, hchannel, rfl⟩

/-- A number above all others keeps them increasing. -/
theorem increasing_snoc {tokens : List ℕ} {token : ℕ} (h : tokens.Pairwise (· < ·))
    (habove : ∀ t ∈ tokens, t < token) : (tokens ++ [token]).Pairwise (· < ·) := by
  rw [List.pairwise_append]
  refine ⟨h, List.pairwise_singleton _ _, ?_⟩
  intro t ht t' ht'
  rw [List.mem_singleton] at ht'
  exact ht' ▸ habove t ht

theorem pressKey_tokens {world : World} (h : world.Tokens) (c : ℕ) (keyId : String) :
    (world.pressKey c keyId).2.Tokens := by
  rcases pressKey_cases world c keyId with hquiet | ⟨sentTo, howner, hchannel, heq⟩
  · exact hquiet.tokensKept h
  · have hc := h.held c howner
    have hnext := h.next c sentTo hc hchannel
    rw [heq]
    refine ⟨?_, ?_, ?_, ?_, h.mountedId⟩
    · intro viewId
      rw [tokensTo_append, tokensTo_pressKey]
      split_ifs with hto
      · subst hto
        exact increasing_snoc (h.increasing sentTo) hnext
      · rw [List.append_nil]
        exact h.increasing viewId
    · intro c' viewId hc' hchannel' token htoken
      -- The widget's controller is the one that was pressed, and the channel is the one used.
      obtain rfl : c' = c := Option.some.inj (hc'.symm.trans hc)
      obtain rfl : viewId = sentTo := Option.some.inj (hchannel'.symm.trans hchannel)
      simp only [setController_self]
      rw [tokensTo_append, tokensTo_pressKey, if_pos rfl, List.mem_append,
        List.mem_singleton] at htoken
      rcases htoken with hold | rfl
      · exact (hnext token hold).trans (Nat.lt_succ_self _)
      · exact Nat.lt_succ_self _
    · intro c' hc'
      by_cases heqc : c' = c
      · rw [heqc]
        exact hc
      · apply h.held c'
        rwa [setController_of_ne _ heqc] at hc'
    · intro viewId hunopened
      obtain ⟨htokens, hnot⟩ := h.unopened viewId hunopened
      refine ⟨?_, hnot⟩
      rw [tokensTo_append, tokensTo_pressKey, htokens, if_neg, List.append_nil]
      rintro rfl
      exact hnot hchannel

/-! ## Steps of the framework -/

theorem emitBuildErrors_quiet (world : World) :
    Quiet world (world.emitBuildErrors platform heap) := by
  unfold emitBuildErrors emitOnce
  split_ifs <;> exact .of_controllers rfl

theorem reconcile_tokens {world : World} (h : world.Tokens) (child : Option String) :
    (world.reconcile child).Tokens := by
  unfold reconcile
  split
  · refine ⟨h.increasing, h.next, h.held, ?_, ?_⟩
    · intro viewId hunopened
      rcases hunopened with hlow | ⟨view, hview, _⟩
      · exact h.unopened viewId (.inl hlow)
      · cases hview
    · intro view hview
      cases hview
  · split
    · exact h
    · refine ⟨h.increasing, h.next, h.held, ?_, ?_⟩
      · intro viewId hunopened
        -- The id of the new view was not used before.
        apply h.unopened viewId
        rcases hunopened with hlow | ⟨view, hview, _, hid⟩
        · exact .inl (Nat.le_of_succ_le hlow)
        · cases hview
          exact .inl hid.le
      · intro view hview
        cases hview
        exact Nat.lt_succ_self _

theorem build_tokens {world : World} (h : world.Tokens) : (world.build platform heap).Tokens :=
  reconcile_tokens ((emitBuildErrors_quiet platform heap world).tokensKept h) _

/-- `_attachController` changes the closures of the widget's controller only. -/
theorem attachController_controllers (world : World) (c : ℕ) :
    ((world.attachController heap).controllers c).nextHeadlessKeyPressToken =
        (world.controllers c).nextHeadlessKeyPressToken ∧
      (world.state.widget.controller = some c ∨
        (world.attachController heap).controllers c = world.controllers c) := by
  unfold attachController
  split
  · exact ⟨rfl, .inr rfl⟩
  · next c' hc' =>
    by_cases hc : c = c'
    · subst hc
      exact ⟨by simp only [attach, setController_self], .inl hc'⟩
    · simp only [attach, setController_of_ne _ hc, or_true, and_self]

@[simp] theorem attachController_sent (world : World) :
    (world.attachController heap).sent = world.sent := by
  unfold attachController
  split <;> rfl

@[simp] theorem attachController_nextViewId (world : World) :
    (world.attachController heap).nextViewId = world.nextViewId := by
  unfold attachController
  split <;> rfl

/-- The update puts a controller in another's place while the channel stays, and the controller
    goes on with a token that is not above all those sent over the channel. -/
def Rewinds (world : World) (widget : Widget) : Prop :=
  ∃ c viewId token, widget.controller = some c ∧ world.state.widget.controller ≠ some c ∧
    ¬ world.drops widget ∧ world.state.controlChannel = some viewId ∧
    token ∈ tokensTo world.sent viewId ∧
    (world.controllers c).nextHeadlessKeyPressToken ≤ token

/-- Sent messages, view ids and tokens are as they were. -/
structure SameTokens (world world' : World) : Prop where
  sent : world'.sent = world.sent
  nextViewId : world'.nextViewId = world.nextViewId
  next : ∀ c, (world'.controllers c).nextHeadlessKeyPressToken =
    (world.controllers c).nextHeadlessKeyPressToken

theorem SameTokens.trans {a b c : World} (hab : SameTokens a b) (hbc : SameTokens b c) :
    SameTokens a c :=
  ⟨hbc.1.trans hab.1, hbc.2.trans hab.2, fun x => (hbc.3 x).trans (hab.3 x)⟩

theorem attachController_sameTokens (world : World) :
    SameTokens world (world.attachController heap) :=
  ⟨attachController_sent heap world, attachController_nextViewId heap world,
    fun c => (attachController_controllers heap world c).1⟩

theorem detach_sameTokens (world : World) (c : ℕ) : SameTokens world (world.detach c) := by
  refine ⟨rfl, rfl, ?_⟩
  intro c'
  by_cases hc : c' = c
  · subst hc
    simp only [detach, setController_self]
  · simp only [detach, setController_of_ne _ hc]

theorem dropChannels_sameTokens (world : World) (dropped : Prop) [Decidable dropped] :
    SameTokens world (world.dropChannels heap dropped) := by
  unfold dropChannels
  split
  · have hattach := attachController_sameTokens heap { world with state := { world.state with
      eventSubscription := none, controlChannel := none, reportedConfigurationError := false } }
    exact ⟨hattach.1, hattach.2, hattach.3⟩
  · exact ⟨rfl, rfl, fun _ => rfl⟩

theorem exchangeController_sameTokens (world : World) (old : Option ℕ) :
    SameTokens world (world.exchangeController heap old) := by
  unfold exchangeController
  split
  · cases old with
    | none => exact attachController_sameTokens heap world
    | some c => exact (detach_sameTokens world c).trans (attachController_sameTokens heap _)
  · exact ⟨rfl, rfl, fun _ => rfl⟩

theorem didUpdateWidget_sameTokens (world : World) (widget : Widget) :
    SameTokens world (world.didUpdateWidget heap widget) := by
  have hdrop := dropChannels_sameTokens heap
    { world with state := { world.state with widget } } (world.drops widget)
  have hexchange := hdrop.trans
    (exchangeController_sameTokens heap _ world.state.widget.controller)
  exact ⟨hexchange.1, hexchange.2, hexchange.3⟩

/-- A controller that is not the widget's and that the exchange leaves with closures of this state
    had them before, and is not the old one. -/
theorem exchangeController_held {world : World} {old : Option ℕ} {c : ℕ}
    (hother : world.state.widget.controller ≠ some c)
    (h : ((world.exchangeController heap old).controllers c).headlessKeyPressAction =
      some .here) :
    (world.controllers c).headlessKeyPressAction = some .here ∧ old ≠ some c := by
  unfold exchangeController at h
  split at h
  · cases old with
    | none =>
      rw [((attachController_controllers heap world c).2.resolve_left hother)] at h
      exact ⟨h, by simp⟩
    | some c' =>
      rw [((attachController_controllers heap (world.detach c') c).2.resolve_left hother)] at h
      have hne : c ≠ c' := by
        rintro rfl
        simp [detach] at h
      simp only [detach, setController_of_ne _ hne] at h
      exact ⟨h, by simpa using Ne.symm hne⟩
  · next hsame =>
    rw [ne_eq, not_not] at hsame
    exact ⟨h, hsame ▸ hother⟩

/-- Behind `didUpdateWidget`, the closures of this state are with the widget's controller only. -/
theorem didUpdateWidget_held {world : World} (h : world.Tokens) (widget : Widget) {c : ℕ}
    (hc : ((world.didUpdateWidget heap widget).controllers c).headlessKeyPressAction =
      some .here) : widget.controller = some c := by
  by_contra hother
  have hdropped : (dropChannels heap { world with state := { world.state with widget } }
      (world.drops widget)).state.widget = widget := by
    unfold dropChannels
    split
    · rw [attachController_state]
    · rfl
  obtain ⟨hheld, hold⟩ := exchangeController_held heap (by rw [hdropped]; exact hother) hc
  apply hold
  apply h.held c
  unfold dropChannels at hheld
  split at hheld
  · rwa [((attachController_controllers heap _ c).2.resolve_left hother)] at hheld
  · exact hheld

/-- An update that rewinds no tokens. -/
theorem didUpdateWidget_tokens {world : World} (h : world.Tokens) {widget : Widget}
    (hrewinds : ¬ world.Rewinds widget) : (world.didUpdateWidget heap widget).Tokens := by
  have hsame := didUpdateWidget_sameTokens heap world widget
  have hwidget : (world.didUpdateWidget heap widget).state.widget = widget := by
    rw [didUpdateWidget_state]
    split <;> rfl
  -- A channel that is there behind the update was there before, and has been kept.
  have hkept : ∀ viewId, (world.didUpdateWidget heap widget).state.controlChannel = some viewId →
      ¬ world.drops widget ∧ world.state.controlChannel = some viewId := by
    intro viewId hchannel
    rw [didUpdateWidget_state] at hchannel
    split at hchannel
    · cases hchannel
    · next hdrops => exact ⟨hdrops, hchannel⟩
  constructor
  · intro viewId
    rw [hsame.sent]
    exact h.increasing viewId
  · intro c viewId hc hchannel token htoken
    obtain ⟨hdrops, hbefore⟩ := hkept viewId hchannel
    rw [hwidget] at hc
    rw [hsame.sent] at htoken
    rw [hsame.next]
    by_cases hold : world.state.widget.controller = some c
    · exact h.next c viewId hold hbefore token htoken
    · by_contra hlow
      exact hrewinds ⟨c, viewId, token, hc, hold, hdrops, hbefore, htoken, not_lt.mp hlow⟩
  · intro c hc
    rw [hwidget]
    exact didUpdateWidget_held heap h widget hc
  · intro viewId hunopened
    unfold Unopened at hunopened
    rw [hsame.nextViewId, didUpdateWidget_view] at hunopened
    obtain ⟨htokens, hnot⟩ := h.unopened viewId hunopened
    rw [hsame.sent]
    exact ⟨htokens, fun hchannel => hnot (hkept viewId hchannel).2⟩
  · intro view hview
    rw [didUpdateWidget_view] at hview
    rw [hsame.nextViewId]
    exact h.mountedId view hview

/-- The channel to a view that has come up is opened. -/
theorem created_tokens {world : World} (h : world.Tokens) : (world.created heap).Tokens := by
  unfold created
  split
  · exact h
  · next view hview =>
    split
    · exact h
    · next hcreated =>
      have hunopened : world.Unopened view.id :=
        .inr ⟨view, hview, by simpa using hcreated, rfl⟩
      have hnone := (h.unopened view.id hunopened).1
      constructor
      · intro viewId
        simp only [onPlatformViewCreated, attachController_sent]
        exact h.increasing viewId
      · intro c viewId _ hchannel token htoken
        -- Nothing has been sent to the view yet.
        simp only [onPlatformViewCreated, attachController_state, Option.some.injEq] at hchannel
        simp only [onPlatformViewCreated, attachController_sent, ← hchannel, hnone] at htoken
        cases htoken
      · intro c hc
        simp only [onPlatformViewCreated, attachController_state]
        rcases (attachController_controllers heap { world with
          view := some { view with created := true }
          state := { world.state with controlChannel := some view.id } } c).2 with hwidget | hsame
        · exact hwidget
        · exact h.held c (hsame ▸ hc)
      · intro viewId hlow
        simp only [Unopened, onPlatformViewCreated, attachController_nextViewId,
          attachController_view, attachController_sent, attachController_state] at hlow ⊢
        rcases hlow with hlow | ⟨view', hview', hcreated', _⟩
        · refine ⟨(h.unopened viewId (.inl hlow)).1, ?_⟩
          have hid := h.mountedId view hview
          simp only [ne_eq, Option.some.injEq]
          omega
        · cases hview'
          cases hcreated'
      · intro view' hview'
        simp only [onPlatformViewCreated, attachController_nextViewId, attachController_view,
          Option.some.injEq] at hview' ⊢
        rw [← hview']
        exact h.mountedId view hview

theorem dispose_tokens {world : World} (h : world.Tokens) : world.dispose.Tokens := by
  have hquiet : ∀ world' : World, Quiet world world' →
      World.Tokens { world' with
        state := { world'.state with eventSubscription := none, controlChannel := none }
        mounted := false
        view := none } := by
    intro world' hquiet
    have h' := hquiet.tokensKept h
    refine ⟨h'.increasing, ?_, h'.held, ?_, ?_⟩
    · intro c viewId _ hchannel
      cases hchannel
    · intro viewId hunopened
      rcases hunopened with hlow | ⟨view, hview, _⟩
      · exact ⟨(h'.unopened viewId (.inl hlow)).1, by simp⟩
      · cases hview
    · intro view hview
      cases hview
  unfold dispose
  cases world.state.widget.controller with
  | none => exact hquiet world (.of_controllers rfl)
  | some c => exact hquiet _ (detach_quiet world c)

/-- **One step** keeps the tokens sent to each view increasing, unless it is an update that rewinds
    them. -/
theorem step_tokens {world : World} (h : world.Tokens) {event : Event}
    (hrewinds : ∀ widget, event = .update widget → ¬ world.Rewinds widget) :
    (world.step platform heap event).2.Tokens := by
  cases event with
  -- An update that rewinds the tokens is ruled out by `hrewinds`.
  | update widget =>
    simp only [step]
    split
    · exact build_tokens platform heap (didUpdateWidget_tokens heap h (hrewinds widget rfl))
    · exact h
  | rebuild =>
    simp only [step]
    split
    · exact build_tokens platform heap h
    · exact h
  | created =>
    simp only [step]
    split
    · exact created_tokens heap h
    · exact h
  | endOfFrame =>
    simp only [step]
    split
    · obtain ⟨reports, heq⟩ := foldl_emitResult_eq heap world.postFrame world
      rw [heq]
      exact (Quiet.of_controllers rfl).tokensKept h
    · exact (Quiet.of_controllers rfl).tokensKept h
  | dispose =>
    simp only [step]
    split
    · exact dispose_tokens h
    · exact h
  | native viewId event =>
    simp only [step]
    split
    · obtain ⟨reports, heq⟩ := onNativeEvent_eq heap world event
      rw [heq]
      exact (Quiet.of_controllers rfl).tokensKept h
    · exact h
  | cancel c => exact (cancel_quiet world c).tokensKept h
  -- The token of a press is the next one of its controller.
  | pressKey c keyId => exact pressKey_tokens h c keyId
  | attachElsewhere c headless => exact (attachElsewhere_quiet world c headless).tokensKept h
  | detachElsewhere c => exact (detach_quiet world c).tokensKept h

/-- A state starts with no tokens sent, over controllers none of which is attached to it. -/
theorem mount_tokens (widget : Widget) {controllers : ℕ → Controller}
    (hforeign : ∀ c, (controllers c).headlessKeyPressAction ≠ some .here) :
    (mount platform heap widget controllers).Tokens := by
  apply build_tokens
  refine ⟨fun _ => List.Pairwise.nil, ?_, ?_, ?_, ?_⟩
  · intro c viewId _ hchannel
    cases hchannel
  · intro c hc
    exact absurd hc (hforeign c)
  · intro viewId _
    exact ⟨rfl, by simp⟩
  · intro view hview
    cases hview

theorem build_sent (world : World) : (world.build platform heap).sent = world.sent := by
  unfold build reconcile emitBuildErrors emitOnce
  split <;> split_ifs <;> rfl

/-- What has been sent stays sent. -/
theorem step_sent (world : World) (event : Event) :
    world.sent <+: (world.step platform heap event).2.sent := by
  cases event with
  | update widget =>
    simp only [step]
    split
    · rw [build_sent, (didUpdateWidget_sameTokens heap world widget).sent]
    · exact List.prefix_rfl
  | rebuild =>
    simp only [step]
    split
    · rw [build_sent]
    · exact List.prefix_rfl
  | created =>
    simp only [step, created]
    split
    · split
      · exact List.prefix_rfl
      · split
        · exact List.prefix_rfl
        · simp [onPlatformViewCreated]
    · exact List.prefix_rfl
  | endOfFrame =>
    simp only [step]
    split
    · obtain ⟨reports, heq⟩ := foldl_emitResult_eq heap world.postFrame world
      rw [heq]
    · exact List.prefix_rfl
  | dispose =>
    simp only [step, dispose]
    split
    · split <;> exact List.prefix_rfl
    · exact List.prefix_rfl
  | native viewId event =>
    simp only [step]
    split
    · obtain ⟨reports, heq⟩ := onNativeEvent_eq heap world event
      rw [heq]
    · exact List.prefix_rfl
  | cancel c => exact (cancel_quiet world c).sent
  -- A press is the only event that sends a command.
  | pressKey c keyId =>
    rcases pressKey_cases world c keyId with hquiet | ⟨viewId, _, _, heq⟩
    · exact hquiet.sent
    · simp only [step, heq]
      exact List.prefix_append _ _
  | attachElsewhere c headless => exact List.prefix_rfl
  | detachElsewhere c => exact List.prefix_rfl

end World

end SecureKeypad.Flutter
