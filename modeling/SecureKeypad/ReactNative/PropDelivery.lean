import SecureKeypad.Native.SessionLedger
import SecureKeypad.ReactNative.ViewManager

/-!
# One Prop Delivery (React Native)

What the delivery of one prop comes to, on a device that opens sessions: it is malformed, it
dismisses a configured view, the configuration is refused, or the value is stored, and if there are
a layout and a theme the view is configured or given its headless command.

## Main results

- `returns_requestHeadlessKeyPress`: a key press keeps what the view is configured with
- `parsedFrom_of_androidParse`: where the fields of a parsed configuration come from
- `Manager.deliver_cases`: the outcomes of a delivery
-/

namespace SecureKeypad.ReactNative

open Callback Native Native.Android

/-! ## Key presses keep the configuration -/

section View

variable {Theme : Type}

/-- What the view is configured with is as it was. -/
def Steady (a b : View Theme) : Prop :=
  b.retainedConfiguration = a.retainedConfiguration ∧ b.headlessHostMode = a.headlessHostMode

instance : Keeping (@Steady Theme) where
  refl _ := ⟨rfl, rfl⟩
  trans _ _ _ hab hbc := ⟨hbc.1.trans hab.1, hbc.2.trans hab.2⟩

theorem steady_after (view : View Theme) (calls : List NativeCall) (asked : ℕ) :
    Steady view (view.after calls asked) := ⟨rfl, rfl⟩

theorem steady_freed (view : View Theme) : Steady view view.freed := by
  unfold View.freed
  split <;> exact ⟨rfl, rfl⟩

variable (device : Device Theme)

theorem returns_onError (code : ℤ) :
    Code.Returns quiet Steady (onError code : Method Theme Unit) :=
  fun view => ⟨(), view, settle_onError .., Keeping.refl _⟩

theorem returns_record (call : NativeCall) :
    Code.Returns quiet Steady (record call : Method Theme Unit) :=
  returns_modify fun _ => ⟨rfl, rfl⟩

theorem returns_ask {α : Type} (answer : Reply → α) :
    Code.Returns quiet Steady (ask device answer) :=
  returns_bind returns_get fun _ =>
    returns_bind (returns_modify fun _ => ⟨rfl, rfl⟩) fun _ => returns_pure _

theorem returns_releaseNativeSessionPreservingConfiguration (displayState : ℤ) :
    Code.Returns quiet Steady
      (releaseNativeSessionPreservingConfiguration displayState : Method Theme Unit) :=
  fun view => ⟨(), view.freed, settle_releaseNativeSessionPreservingConfiguration ..,
    steady_freed view⟩

theorem returns_ensureSecureInputBoundary :
    Code.Returns quiet Steady (ensureSecureInputBoundary device) := by
  intro view
  rcases settle_ensureSecureInputBoundary device view with
    ⟨asked, hboundary⟩ | ⟨checks, asked, -, hboundary⟩
  · exact ⟨true, _, hboundary, steady_after ..⟩
  · exact ⟨false, _, hboundary, Keeping.trans _ _ _ (steady_after view checks asked)
      (steady_freed _)⟩

theorem returns_nativeActivation (handle : ℕ) (key : KeySpec) :
    Code.Returns quiet Steady (nativeActivation device handle key) := by
  have hstatus : ∀ call : ℤ → NativeCall, Code.Returns quiet Steady (do
      let status ← ask device Reply.status
      record (call status)
      pure (some (status, none)) : Method Theme (Option (ℤ × Option ℕ))) := fun call =>
    returns_bind (returns_ask device _) fun _ => returns_bind (returns_record _) fun _ =>
      returns_pure _
  unfold nativeActivation
  cases key.role with
  | input => exact hstatus _
  | backspace => exact hstatus _
  | clear => exact hstatus _
  | cancel => exact hstatus _
  | spacer => exact returns_pure _
  | submit =>
    refine returns_bind (returns_ask device _) fun raw =>
      returns_bind (returns_record _) fun _ => ?_
    cases raw with
    | none =>
      exact returns_bind (returns_releaseNativeSessionPreservingConfiguration 0) fun _ =>
        returns_bind (returns_onError _) fun _ => returns_pure _
    | some raw =>
      refine returns_bind returns_get fun view => returns_ite ?_ ?_
      · exact returns_bind (returns_modify fun _ => ⟨rfl, rfl⟩) fun _ => returns_pure _
      · exact returns_bind (returns_record _) fun _ => returns_bind (returns_onError _) fun _ =>
          returns_pure _

/-- A session that shows its state is not given up by a refresh. -/
theorem returns_finishActivation (hwilling : device.Willing) (result : Option (ℤ × Option ℕ)) :
    Code.Returns quiet Steady (finishActivation device result) := by
  cases result with
  | none => exact returns_pure _
  | some result =>
    refine returns_ite ?_ ?_
    · exact returns_bind (returns_releaseNativeSessionPreservingConfiguration 0) fun _ =>
        returns_bind (returns_onError _) fun _ => returns_pure _
    · intro view
      obtain ⟨packed, asked, ⟨-, hshown⟩ | ⟨hblank, -⟩⟩ := settle_refreshMaskedState device view
      · refine ⟨true, view.refreshed packed asked, ?_, steady_after ..⟩
        rw [settle_bind, hshown]
        cases result.2 <;> simp [deliverOrRelease]
      · exact absurd (hwilling.state _) hblank

theorem returns_activate (hwilling : device.Willing) (key : KeySpec) :
    Code.Returns quiet Steady (activate device key) := by
  rw [activate_eq]
  refine returns_bind (returns_ensureSecureInputBoundary device) fun secure =>
    returns_ite ?_ (returns_pure _)
  refine returns_bind returns_get fun view => ?_
  cases view.sessionHandle with
  | none => exact returns_pure _
  | some handle =>
    exact returns_bind (returns_nativeActivation device handle key) fun result =>
      returns_finishActivation device hwilling result

/-- **A headless key press returns, and keeps what the view is configured with.** -/
theorem returns_requestHeadlessKeyPress (hwilling : device.Willing) (requestId : ℤ)
    (keyId : String) :
    Code.Returns quiet Steady (requestHeadlessKeyPress device requestId keyId) := by
  have hwork : ∀ key, Code.Returns quiet Steady (headlessWork device requestId key) := by
    intro key
    refine returns_bind (returns_ensureSecureInputBoundary device) fun secure =>
      returns_ite ?_ (returns_pure _)
    refine returns_bind returns_get fun view =>
      returns_bind (returns_activate device hwilling key) fun active =>
        returns_ite (returns_modify fun _ => ⟨rfl, rfl⟩) (returns_pure _)
  refine returns_bind returns_get fun view => ?_
  unfold headlessBranch
  refine returns_ite (returns_onError _) (returns_ite (returns_onError _)
    (returns_ite (returns_pure _) ?_))
  cases view.key keyId with
  | none => exact returns_onError _
  | some key => exact hwork key

/-- Without a session nothing comes of it. -/
theorem settle_requestHeadlessKeyPress_of_none {view : View Theme}
    (hnone : view.sessionHandle = none) (requestId : ℤ) (keyId : String) :
    Code.settle quiet (requestHeadlessKeyPress device requestId keyId) view = (.ok (), view) := by
  have hrefused : view.refusesHeadless requestId keyId := .inl hnone
  simp only [requestHeadlessKeyPress, settle_bind, settle_get, headlessBranch, if_pos hrefused,
    settle_onError]

end View

/-! ## What a delivery comes to -/

instance (device : Device AndroidTheme) (configuration : RetainedConfiguration AndroidTheme) :
    Decidable (device.Accepts configuration) :=
  inferInstanceAs (Decidable (¬ (_ ∨ _ ∨ _ ∨ _ ∨ _ ∨ _ ∨ _)))

namespace Manager

variable (replies : ℕ → Reply)

/-- The stored configuration parses, and the view takes it. -/
def isConfigurable (configuration : List (String × Json)) : Bool :=
  (androidParse configuration).any fun parsed => (device replies).Accepts (retained parsed)

/-- The view is configured with what is parsed. -/
structure Reflects (manager : Manager) (parsed : BridgeConfiguration AndroidTheme) : Prop where
  configured : manager.configured = true
  retainedConfiguration : manager.view.retainedConfiguration = some (retained parsed)
  headlessHostMode : manager.view.headlessHostMode = decide (parsed.mode = "headless-host")

/-- Everything is cleared, but for `configuredViews` behind a value that is malformed. -/
structure Cleared (manager after : Manager) : Prop where
  pending : after.pendingConfiguration = none
  session : after.view.sessionHandle = none
  configures : manager.configures ≤ after.configures

/-- What the delivery of a prop comes to. -/
inductive Outcome (manager : Manager) (delivery : Delivery) (after : Manager) : Prop where
  /-- The value is malformed. -/
  | malformed (hvalue : delivery.value = none) (hcleared : Cleared manager after)
    (hconfigured : after.configured = manager.configured)
  /-- A configured view loses its layout or its theme. -/
  | dismissed (value : Json) (hvalue : delivery.value = some value)
    (hincomplete : isComplete (manager.stored delivery.key value) = false)
    (hbefore : manager.configured = true) (hcleared : Cleared manager after)
    (hconfigured : after.configured = false)
  /-- The configuration is refused. -/
  | refused (value : Json) (hvalue : delivery.value = some value)
    (hcomplete : isComplete (manager.stored delivery.key value) = true)
    (hrefused : isConfigurable replies (manager.stored delivery.key value) = false)
    (hcleared : Cleared manager after) (hconfigured : after.configured = false)
  /-- There is a layout or a theme still to come. -/
  | stored (value : Json) (hvalue : delivery.value = some value)
    (hincomplete : isComplete (manager.stored delivery.key value) = false)
    (hbefore : manager.configured = false ∨ delivery.key = "headlessKeyPress")
    (hafter : after = { manager with
      pendingConfiguration := some (manager.stored delivery.key value) })
  /-- The view is configured, with a session unless a headless command ends it. -/
  | configured (value : Json) (hvalue : delivery.value = some value)
    (parsed : BridgeConfiguration AndroidTheme)
    (hparsed : androidParse (manager.stored delivery.key value) = some parsed)
    (hpending : after.pendingConfiguration = some (manager.stored delivery.key value))
    (hreflects : Reflects after parsed)
    (hsession : parsed.headlessKeyPress = none → after.view.sessionHandle.isSome)
    (hconfigures : manager.configures < after.configures)
  /-- A configured view is given its headless command. -/
  | pressed (value : Json) (hvalue : delivery.value = some value)
    (hkey : delivery.key = "headlessKeyPress") (parsed : BridgeConfiguration AndroidTheme)
    (hparsed : androidParse (manager.stored delivery.key value) = some parsed)
    (hpending : after.pendingConfiguration = some (manager.stored delivery.key value))
    (hbefore : manager.configured = true) (hconfigured : after.configured = true)
    (hsteady : Steady manager.view after.view)
    (hsession : manager.view.sessionHandle = none ∨ parsed.headlessKeyPress = none →
      after.view.sessionHandle = manager.view.sessionHandle)
    (hconfigures : after.configures = manager.configures)

end Manager

/-- How the fields of what is parsed come from those of the configuration. -/
structure ParsedFrom (configuration : List (String × Json))
    (parsed : BridgeConfiguration AndroidTheme) : Prop where
  layout : ∃ layout, configuration.lookup "layout" = some (.obj layout) ∧
    parseLayout android layout = some parsed.layout
  theme : ∃ theme, configuration.lookup "theme" = some (.obj theme) ∧
    androidParseTheme theme = some parsed.theme
  inputPolicy : parsed.inputPolicy = textOr "numeric" (configuration.lookup "inputPolicy")
  maxTokens : integerOr android 8 1 4096 (configuration.lookup "maxTokens") = some parsed.maxTokens
  timeoutMs : integerOr android 60000 1 86400000 (configuration.lookup "timeoutMs") =
    some parsed.timeoutMs
  mode : parsed.mode = textOr "secure-native" (configuration.lookup "mode")
  securityMode : parsed.securityMode = textOr "standard" (configuration.lookup "securityMode")
  acknowledged : (parsed.mode = "secure-native" ∧ parsed.acknowledgeLowerAssurance = false) ∨
    (parsed.mode = "headless-host" ∧ parsed.acknowledgeLowerAssurance = true)
  headlessKeyPress : parseHeadlessKeyPress android parsed.mode
    (configuration.lookup "headlessKeyPress") = some parsed.headlessKeyPress

theorem parsedFrom_of_androidParse {configuration : List (String × Json)}
    {parsed : BridgeConfiguration AndroidTheme} (h : androidParse configuration = some parsed) :
    ParsedFrom configuration parsed := by
  simp only [androidParse, parse, Option.bind_eq_bind, Option.bind_eq_some_iff,
    Option.guard_eq_some', Json.asObject?_eq_some, exists_const] at h
  obtain ⟨-, layoutFields, ⟨layoutValue, hlayout, rfl⟩, themeFields, ⟨themeValue, htheme, rfl⟩,
    layout, hparseLayout, theme, hparseTheme, -, maxTokens, hmaxTokens, timeoutMs, htimeoutMs, -, -,
    acknowledged, -, hmode, headless, hheadless, hparsed⟩ := h
  cases hparsed
  exact ⟨⟨layoutFields, hlayout, hparseLayout⟩, ⟨themeFields, htheme, hparseTheme⟩, rfl, hmaxTokens,
    htimeoutMs, rfl, rfl, hmode, hheadless⟩

theorem ParsedFrom.isComplete {configuration : List (String × Json)}
    {parsed : BridgeConfiguration AndroidTheme} (h : ParsedFrom configuration parsed) :
    isComplete configuration = true := by
  obtain ⟨layout, hlayout, -⟩ := h.layout
  obtain ⟨theme, htheme, -⟩ := h.theme
  simp [ReactNative.isComplete, hasMap, hlayout, htheme, Json.asObject?]

namespace Manager

variable {replies : ℕ → Reply} (hwilling : (device replies).Willing) (manager : Manager)

@[simp] theorem releaseSession_pending :
    manager.releaseSession.pendingConfiguration = manager.pendingConfiguration := rfl

@[simp] theorem releaseSession_configured :
    manager.releaseSession.configured = manager.configured := rfl

@[simp] theorem releaseSession_configures :
    manager.releaseSession.configures = manager.configures := rfl

@[simp] theorem releaseSession_session : manager.releaseSession.view.sessionHandle = none := by
  simp [releaseSession, run]

theorem cleared_malformed : Cleared manager manager.malformed := ⟨rfl, by simp [malformed], le_rfl⟩

theorem cleared_caught {after : Manager} (h : manager.configures ≤ after.configures) :
    Cleared manager (after.caught .illegalArgument) ∧
      (after.caught .illegalArgument).configured = false :=
  ⟨⟨rfl, by simp [caught], h⟩, rfl⟩

include hwilling

/-- A headless command changes the session at most. -/
theorem press_steady (headlessKeyPress : Option HeadlessKeyPress) :
    ∃ view, manager.press replies headlessKeyPress = { manager with view } ∧
      Steady manager.view view ∧
      (manager.view.sessionHandle = none ∨ headlessKeyPress = none →
        view.sessionHandle = manager.view.sessionHandle) := by
  cases headlessKeyPress with
  | none => exact ⟨manager.view, rfl, Keeping.refl _, fun _ => rfl⟩
  | some command =>
    obtain ⟨_, view, hpress, hsteady⟩ := returns_requestHeadlessKeyPress (device replies) hwilling
      command.token command.keyId manager.view
    refine ⟨view, ?_, hsteady, fun h => ?_⟩
    · simp only [press, run, hpress]
    · rcases h with hnone | hnone
      · have hidle := settle_requestHeadlessKeyPress_of_none (device replies) hnone command.token
          command.keyId
        rw [hpress] at hidle
        cases hidle
        rfl
      · cases hnone

/-- A configuration that is complete: it is refused, or the view is configured with it. -/
theorem configureWith_cases {configuration : List (String × Json)}
    (hpending : manager.pendingConfiguration = some configuration) (replay : Bool) :
    (isConfigurable replies configuration = false ∧
      Cleared manager (manager.configureWith replies configuration replay) ∧
      (manager.configureWith replies configuration replay).configured = false) ∨
    ∃ parsed, androidParse configuration = some parsed ∧
      (manager.configureWith replies configuration replay).pendingConfiguration =
        some configuration ∧
      Reflects (manager.configureWith replies configuration replay) parsed ∧
      (parsed.headlessKeyPress = none →
        (manager.configureWith replies configuration replay).view.sessionHandle.isSome) ∧
      manager.configures < (manager.configureWith replies configuration replay).configures := by
  unfold configureWith
  cases hparse : androidParse configuration with
  -- A configuration that does not parse is cleared.
  | none =>
    have hrefused : isConfigurable replies configuration = false := by
      rw [isConfigurable, hparse]
      rfl
    exact .inl ⟨hrefused, cleared_caught manager le_rfl⟩
  | some parsed =>
    -- A lower mode parses only if it is acknowledged, so the renderer mode is accepted.
    have hmode := (parsedFrom_of_androidParse hparse).acknowledged
    have hrenderer : manager.run (setRendererMode parsed.mode parsed.acknowledgeLowerAssurance) =
        (.ok (), { manager with view := { manager.view with
          headlessHostMode := decide (parsed.mode = "headless-host") } }) := by
      simp only [run, setRendererMode, if_pos hmode, settle_modify]
    simp only [hrenderer]
    by_cases haccepts : (device replies).Accepts (retained parsed)
    · obtain ⟨asked, handle, packed, asked', hconfigure⟩ := settle_configure_of_willing
        (device replies) { manager.view with
          headlessHostMode := decide (parsed.mode = "headless-host") } hwilling haccepts
      simp only [run, hconfigure]
      refine .inr ⟨parsed, rfl, ?_⟩
      generalize hview : ({ View.opened _ _ handle packed asked' with
        retainedConfiguration := some (retained parsed) } : View AndroidTheme) = view
      have hretained : view.retainedConfiguration = some (retained parsed) := by rw [← hview]
      have hsession : view.sessionHandle = some handle := by
        rw [← hview]
        rfl
      have hheadless : view.headlessHostMode = decide (parsed.mode = "headless-host") := by
        rw [← hview]
        exact (steady_freed _).2
      split
      · -- the command is given to the new session
        obtain ⟨view', hpress, hsteady, hkept⟩ := press_steady hwilling
          { manager with view, configured := true, configures := manager.configures + 1 }
          parsed.headlessKeyPress
        rw [hpress]
        refine ⟨hpending, ⟨rfl, hsteady.1.trans hretained, hsteady.2.trans hheadless⟩,
          fun hnone => ?_, Nat.lt_succ_self _⟩
        rw [hkept (.inr hnone), hsession]
        rfl
      · exact ⟨hpending, ⟨rfl, hretained, hheadless⟩, fun _ => hsession ▸ rfl, Nat.lt_succ_self _⟩
    -- The device refuses the parsed configuration, which is cleared as well.
    · have hrefused : isConfigurable replies configuration = false := by
        simp [isConfigurable, hparse, haccepts]
      simp only [run, settle_configure_of_refused _ _ haccepts]
      exact .inl ⟨hrefused, cleared_caught manager (Nat.le_succ _)⟩

/-- The value is stored in a configuration that is complete with it, and the view configured. -/
theorem outcome_configureStored {delivery : Delivery} {value : Json}
    (hvalue : delivery.value = some value)
    (hcomplete : isComplete (manager.stored delivery.key value) = true) (replay : Bool) :
    Outcome replies manager delivery ({ manager with
      pendingConfiguration := some (manager.stored delivery.key value)
      }.configureStoredConfiguration replies replay) := by
  simp only [configureStoredConfiguration, hcomplete, if_true]
  rcases configureWith_cases hwilling { manager with
      pendingConfiguration := some (manager.stored delivery.key value) } rfl replay with
    ⟨hrefused, hcleared, hconfigured⟩ | ⟨parsed, hparsed, hpending, hreflects, hsession, hcount⟩
  · exact .refused value hvalue hcomplete hrefused ⟨hcleared.pending, hcleared.session,
      hcleared.configures⟩ hconfigured
  · exact .configured value hvalue parsed hparsed hpending hreflects hsession hcount

/-- All props but the headless command. -/
theorem setConfigurationValue_cases (delivery : Delivery) :
    Outcome replies manager delivery
      (manager.setConfigurationValue replies delivery.key delivery.value) := by
  cases hvalue : delivery.value with
  | none => exact .malformed hvalue (cleared_malformed manager) rfl
  | some value =>
    simp only [setConfigurationValue]
    split
    · next hcomplete => exact outcome_configureStored hwilling manager hvalue hcomplete false
    · next hincomplete =>
      rw [Bool.not_eq_true] at hincomplete
      split
      · next hconfigured =>
        exact .dismissed value hvalue hincomplete hconfigured ⟨rfl, by simp, le_rfl⟩ rfl
      · next hunconfigured =>
        rw [Bool.not_eq_true] at hunconfigured
        exact .stored value hvalue hincomplete (.inl hunconfigured) rfl

/-- The headless command. -/
theorem setHeadlessKeyPress_cases (command : Option (List (String × Json))) :
    Outcome replies manager (.headlessKeyPress command)
      (manager.setHeadlessKeyPress replies (Delivery.headlessKeyPress command).value) := by
  cases hvalue : (Delivery.headlessKeyPress command).value with
  | none => exact .malformed hvalue (cleared_malformed manager) rfl
  | some value =>
    simp only [setHeadlessKeyPress]
    -- A command is pressed at once in a configured view, and stored in an incomplete one.
    split
    · next hcomplete =>
      split
      · next hconfigured =>
        unfold applyStoredHeadlessKeyPress
        cases hparse : androidParse (manager.stored "headlessKeyPress" value) with
        | none =>
          have hrefused : isConfigurable replies (manager.stored "headlessKeyPress" value) =
              false := by
            rw [isConfigurable, hparse]
            rfl
          have hcleared := @cleared_caught manager { manager with
            pendingConfiguration := some (manager.stored "headlessKeyPress" value) } le_rfl
          exact .refused value hvalue hcomplete hrefused hcleared.1 hcleared.2
        | some parsed =>
          obtain ⟨view, hpress, hsteady, hkept⟩ := press_steady hwilling { manager with
            pendingConfiguration := some (manager.stored "headlessKeyPress" value) }
            parsed.headlessKeyPress
          simp only [hpress]
          exact .pressed value hvalue rfl parsed hparse rfl hconfigured hconfigured hsteady hkept
            rfl
      · exact outcome_configureStored hwilling manager hvalue hcomplete true
    · next hincomplete =>
      rw [Bool.not_eq_true] at hincomplete
      exact .stored value hvalue hincomplete (.inr rfl) rfl

/-- **What the delivery of a prop comes to.** -/
theorem deliver_cases (delivery : Delivery) :
    Outcome replies manager delivery (manager.deliver replies delivery) := by
  cases delivery with
  | headlessKeyPress command => exact setHeadlessKeyPress_cases hwilling manager command
  | layout value => exact setConfigurationValue_cases hwilling manager (.layout value)
  | theme value => exact setConfigurationValue_cases hwilling manager (.theme value)
  | inputPolicy value => exact setConfigurationValue_cases hwilling manager (.inputPolicy value)
  | mode value => exact setConfigurationValue_cases hwilling manager (.mode value)
  | securityMode value => exact setConfigurationValue_cases hwilling manager (.securityMode value)
  | acknowledgeLowerAssurance value =>
    exact setConfigurationValue_cases hwilling manager (.acknowledgeLowerAssurance value)
  | maxTokens value => exact setConfigurationValue_cases hwilling manager (.maxTokens value)
  | timeoutMs value => exact setConfigurationValue_cases hwilling manager (.timeoutMs value)

end Manager

end SecureKeypad.ReactNative
