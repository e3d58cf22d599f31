import SecureKeypad.ReactNative.PropDelivery

/-!
# Prop Churn (React Native)

Whatever props are delivered to a view: behind a delivery that is malformed or takes the layout or
the theme away there is no session until the view is configured again. Once all has been delivered
again, in any order, the view is configured with the latest values, if no value was malformed on a
configured view and no configuration that was complete was refused on the way: such a value leaves
the view marked as configured, and the next delivery is dropped with all that is stored.

## Main results

- `configured_of_session`, `idle_deliverAll`: where sessions come from
- `synced_deliver`, `synced_deliverAll`: what deliveries that are not bad keep
- `prop_churn`: every sequence of deliveries
-/

namespace SecureKeypad.ReactNative

open Callback Native Native.Android

/-! ## Bad deliveries -/

namespace Delivery

/-- A value that is malformed, or a layout or a theme that is removed. -/
def Bad (delivery : Delivery) : Prop :=
  delivery.value = none ∨ delivery = .layout none ∨ delivery = .theme none

/-- What the delivery stores. -/
def entry (delivery : Delivery) : Option (String × Json) :=
  delivery.value.map fun value => (delivery.key, value)

/-- A layout or a theme that is not removed is a map. -/
theorem exists_map {delivery : Delivery} {value : Json} (hgood : ¬ delivery.Bad)
    (hvalue : delivery.value = some value)
    (hkey : delivery.key = "layout" ∨ delivery.key = "theme") : ∃ map, value = .obj map := by
  have hcopy : ∀ allowedKeys fields, publicMap allowedKeys (some fields) = some value →
      ∃ map, value = .obj map := by
    intro allowedKeys fields h
    rw [publicMap, Option.map_eq_some_iff] at h
    obtain ⟨copy, -, rfl⟩ := h
    exact ⟨copy.1, rfl⟩
  cases delivery with
  | layout fields =>
    cases fields with
    | none => exact absurd (.inr (.inl rfl)) hgood
    | some fields => exact hcopy _ _ hvalue
  | theme fields =>
    cases fields with
    | none => exact absurd (.inr (.inr rfl)) hgood
    | some fields => exact hcopy _ _ hvalue
  | _ => simp [key] at hkey

/-- Behind a delivery that is not bad a map is there if it was. -/
theorem hasMap_cons {delivery : Delivery} {value : Json} {configuration : List (String × Json)}
    {name : String} (hgood : ¬ delivery.Bad) (hvalue : delivery.value = some value)
    (hname : name = "layout" ∨ name = "theme") (h : hasMap configuration name = true) :
    hasMap ((delivery.key, value) :: configuration) name = true := by
  by_cases hkey : delivery.key = name
  · obtain ⟨map, rfl⟩ := exists_map hgood hvalue (by rwa [hkey])
    simp [hasMap, hkey, Json.asObject?]
  · have hother : (name == delivery.key) = false := beq_eq_false_iff_ne.mpr (Ne.symm hkey)
    rwa [hasMap, List.lookup_cons, hother]

theorem isComplete_cons {delivery : Delivery} {value : Json} {configuration : List (String × Json)}
    (hgood : ¬ delivery.Bad) (hvalue : delivery.value = some value)
    (h : isComplete configuration = true) :
    isComplete ((delivery.key, value) :: configuration) = true := by
  rw [isComplete, Bool.and_eq_true] at h ⊢
  exact ⟨hasMap_cons hgood hvalue (.inl rfl) h.1, hasMap_cons hgood hvalue (.inr rfl) h.2⟩

/-- Behind a bad delivery there is no layout or no theme. -/
theorem isComplete_of_bad {delivery : Delivery} {value : Json}
    {configuration : List (String × Json)} (hbad : delivery.Bad)
    (hvalue : delivery.value = some value) :
    isComplete ((delivery.key, value) :: configuration) = false := by
  rcases hbad with hnone | rfl | rfl
  · cases hnone.symm.trans hvalue
  · cases hvalue
    rfl
  · cases hvalue
    simp [isComplete, hasMap, key, Json.asObject?]

theorem Bad.key_ne {delivery : Delivery} {value : Json} (hbad : delivery.Bad)
    (hvalue : delivery.value = some value) : delivery.key ≠ "headlessKeyPress" := by
  rcases hbad with hnone | rfl | rfl
  · cases hnone.symm.trans hvalue
  · decide
  · decide

end Delivery

/-- What the deliveries store, the newest first: a map that has the latest value of each prop. -/
def entries (deliveries : List Delivery) : List (String × Json) :=
  (deliveries.filterMap Delivery.entry).reverse

theorem entries_append (deliveries later : List Delivery) :
    entries (deliveries ++ later) = entries later ++ entries deliveries := by
  rw [entries, List.filterMap_append, List.reverse_append]
  rfl

theorem entries_singleton {delivery : Delivery} {value : Json} (h : delivery.value = some value) :
    entries [delivery] = [(delivery.key, value)] := by
  simp [entries, Delivery.entry, h]

/-- The view and the manager behind the deliveries. -/
def managerAfter (replies : ℕ → Reply) (deliveries : List Delivery) : Manager :=
  createViewInstance.deliverAll replies deliveries

theorem managerAfter_snoc (replies : ℕ → Reply) (deliveries : List Delivery)
    (delivery : Delivery) : managerAfter replies (deliveries ++ [delivery]) =
      (managerAfter replies deliveries).deliver replies delivery := by
  simp [managerAfter, Manager.deliverAll]

theorem managerAfter_append (replies : ℕ → Reply) (deliveries later : List Delivery) :
    managerAfter replies (deliveries ++ later) =
      (managerAfter replies deliveries).deliverAll replies later := by
  simp [managerAfter, Manager.deliverAll]

section Runs

variable {replies : ℕ → Reply} (hwilling : (Manager.device replies).Willing)

include hwilling

/-- **Only a configured view has a session.** -/
theorem configured_of_session (deliveries : List Delivery) :
    (managerAfter replies deliveries).view.sessionHandle.isSome →
      (managerAfter replies deliveries).configured = true := by
  induction deliveries using List.reverseRecOn with
  | nil => exact fun h => (nomatch h)
  | append_singleton deliveries delivery ih =>
    rw [managerAfter_snoc]
    intro hsome
    cases Manager.deliver_cases hwilling (managerAfter replies deliveries) delivery with
    | malformed _ hcleared _ =>
      rw [hcleared.session] at hsome
      cases hsome
    | dismissed _ _ _ _ hcleared _ =>
      rw [hcleared.session] at hsome
      cases hsome
    | refused _ _ _ _ hcleared _ =>
      rw [hcleared.session] at hsome
      cases hsome
    | stored _ _ _ _ hafter =>
      rw [hafter] at hsome ⊢
      exact ih hsome
    | configured _ _ _ _ _ hreflects _ _ => exact hreflects.configured
    | pressed _ _ _ _ _ _ _ hconfigured _ _ _ => exact hconfigured

/-- **Only a configuration opens a session.** -/
theorem idle_deliver (manager : Manager) (delivery : Delivery) :
    manager.configures ≤ (manager.deliver replies delivery).configures ∧
    ((manager.deliver replies delivery).configures = manager.configures →
      manager.view.sessionHandle = none →
        (manager.deliver replies delivery).view.sessionHandle = none) := by
  cases Manager.deliver_cases hwilling manager delivery with
  | malformed _ hcleared _ => exact ⟨hcleared.configures, fun _ _ => hcleared.session⟩
  | dismissed _ _ _ _ hcleared _ => exact ⟨hcleared.configures, fun _ _ => hcleared.session⟩
  | refused _ _ _ _ hcleared _ => exact ⟨hcleared.configures, fun _ _ => hcleared.session⟩
  | stored _ _ _ _ hafter =>
    rw [hafter]
    exact ⟨le_rfl, fun _ hnone => hnone⟩
  | configured _ _ _ _ _ _ _ hcount => exact ⟨hcount.le, fun heq _ => absurd heq hcount.ne'⟩
  | pressed _ _ _ _ _ _ _ _ _ hsession hcount =>
    exact ⟨hcount.ge, fun _ hnone => (hsession (.inl hnone)).trans hnone⟩

theorem idle_deliverAll (deliveries : List Delivery) (manager : Manager) :
    manager.configures ≤ (manager.deliverAll replies deliveries).configures ∧
    ((manager.deliverAll replies deliveries).configures = manager.configures →
      manager.view.sessionHandle = none →
        (manager.deliverAll replies deliveries).view.sessionHandle = none) := by
  induction deliveries generalizing manager with
  | nil => exact ⟨le_rfl, fun _ hnone => hnone⟩
  | cons delivery deliveries ih =>
    obtain ⟨hfirst, hidle⟩ := idle_deliver hwilling manager delivery
    obtain ⟨hrest, hidles⟩ := ih (manager.deliver replies delivery)
    have hcons : manager.deliverAll replies (delivery :: deliveries) =
        (manager.deliver replies delivery).deliverAll replies deliveries := rfl
    rw [hcons]
    refine ⟨hfirst.trans hrest, fun heq hnone => ?_⟩
    have hstays : (manager.deliver replies delivery).configures = manager.configures :=
      le_antisymm (heq ▸ hrest) hfirst
    exact hidles (heq.trans hstays.symm) (hidle hstays hnone)

/-- What is stored are the newest of the values delivered. -/
theorem stored_prefix (deliveries : List Delivery) :
    (managerAfter replies deliveries).pendingConfiguration.getD [] <+: entries deliveries := by
  induction deliveries using List.reverseRecOn with
  | nil => exact List.nil_prefix
  | append_singleton deliveries delivery ih =>
    have hstored : ∀ value, delivery.value = some value →
        (managerAfter replies deliveries).stored delivery.key value <+:
          entries (deliveries ++ [delivery]) := by
      intro value hvalue
      rw [entries_append, entries_singleton hvalue]
      exact (List.prefix_cons_inj _).mpr ih
    rw [managerAfter_snoc]
    -- A delivery stores one more entry or clears them all.
    cases Manager.deliver_cases hwilling (managerAfter replies deliveries) delivery with
    | malformed _ hcleared _ =>
      rw [hcleared.pending]
      exact List.nil_prefix
    | dismissed _ _ _ _ hcleared _ =>
      rw [hcleared.pending]
      exact List.nil_prefix
    | refused _ _ _ _ hcleared _ =>
      rw [hcleared.pending]
      exact List.nil_prefix
    | stored value hvalue _ _ hafter =>
      rw [hafter]
      exact hstored value hvalue
    | configured value hvalue _ _ hpending _ _ _ =>
      rw [hpending]
      exact hstored value hvalue
    | pressed value hvalue _ _ _ hpending _ _ _ _ _ =>
      rw [hpending]
      exact hstored value hvalue

end Runs

/-! ## The configuration of the latest values -/

/-- The props but the layout and the theme, each of them removed. -/
def settings : List Delivery :=
  [.inputPolicy none, .mode none, .securityMode none, .acknowledgeLowerAssurance none,
    .maxTokens none, .timeoutMs none, .headlessKeyPress none]

/-- The value is the one of a prop that is removed. -/
def IsDefault (key : String) (value : Json) : Prop :=
  ∃ removed ∈ settings, removed.key = key ∧ removed.value = some value

/-- The values are the same, or one is absent and the other the default. -/
def Agree (key : String) (stored latest : Option Json) : Prop :=
  stored = latest ∨ stored = none ∧ ∃ value, latest = some value ∧ IsDefault key value

theorem agree_map {key : String} (hkey : key = "layout" ∨ key = "theme")
    {stored latest : Option Json} (h : Agree key stored latest) : stored = latest := by
  rcases h with heq | ⟨-, value, -, removed, hremoved, hname, -⟩
  · exact heq
  · simp only [settings, List.mem_cons, List.not_mem_nil, or_false] at hremoved
    rcases hkey with rfl | rfl <;> rcases hremoved with rfl | rfl | rfl | rfl | rfl | rfl | rfl <;>
      simp [Delivery.key] at hname

/-- What is read of a setting does not change if the setting is left out where it has the
    default. -/
theorem agree_setting {α : Type} {removed : Delivery} (hremoved : removed ∈ settings)
    (read : Option Json → α) (hread : read none = read removed.value) {stored latest : Option Json}
    (h : Agree removed.key stored latest) : read stored = read latest := by
  rcases h with rfl | ⟨rfl, value, rfl, other, hother, hname, hvalue⟩
  · rfl
  · have hnodup : (settings.map Delivery.key).Nodup := by decide
    have hsame : other = removed := List.inj_on_of_nodup_map hnodup hother hremoved hname
    rw [hread, ← hsame, hvalue]

/-- **What a view is configured with is read from the latest values** but the headless command,
    whether those that are the defaults are stored or not. -/
theorem retained_eq {stored latest : List (String × Json)}
    {parsed parsed' : BridgeConfiguration AndroidTheme} (h : ParsedFrom stored parsed)
    (h' : ParsedFrom latest parsed')
    (hagree : ∀ key, key ≠ "headlessKeyPress" → Agree key (stored.lookup key) (latest.lookup key)) :
    retained parsed = retained parsed' ∧ parsed.mode = parsed'.mode := by
  have hlayout : parsed.layout = parsed'.layout := by
    obtain ⟨layout, hlookup, hparsed⟩ := h.layout
    obtain ⟨layout', hlookup', hparsed'⟩ := h'.layout
    rw [agree_map (.inl rfl) (hagree "layout" (by decide)), hlookup'] at hlookup
    cases hlookup
    exact Option.some.inj (hparsed.symm.trans hparsed')
  have htheme : parsed.theme = parsed'.theme := by
    obtain ⟨theme, hlookup, hparsed⟩ := h.theme
    obtain ⟨theme', hlookup', hparsed'⟩ := h'.theme
    rw [agree_map (.inr rfl) (hagree "theme" (by decide)), hlookup'] at hlookup
    cases hlookup
    exact Option.some.inj (hparsed.symm.trans hparsed')
  have hpolicy : parsed.inputPolicy = parsed'.inputPolicy := by
    rw [h.inputPolicy, h'.inputPolicy]
    exact @agree_setting _ (.inputPolicy none) (by simp [settings]) (textOr "numeric") rfl _ _
      (hagree _ (by decide))
  have hmode : parsed.mode = parsed'.mode := by
    rw [h.mode, h'.mode]
    exact @agree_setting _ (.mode none) (by simp [settings]) (textOr "secure-native") rfl _ _
      (hagree _ (by decide))
  have hsecurity : parsed.securityMode = parsed'.securityMode := by
    rw [h.securityMode, h'.securityMode]
    exact @agree_setting _ (.securityMode none) (by simp [settings]) (textOr "standard") rfl _ _
      (hagree _ (by decide))
  have htokens : parsed.maxTokens = parsed'.maxTokens := by
    have hsame := @agree_setting _ (.maxTokens none) (by simp [settings])
      (integerOr android 8 1 4096) (by decide) _ _ (hagree _ (by decide))
    exact Option.some.inj (h.maxTokens.symm.trans (hsame.trans h'.maxTokens))
  have htimeout : parsed.timeoutMs = parsed'.timeoutMs := by
    have hsame := @agree_setting _ (.timeoutMs none) (by simp [settings])
      (integerOr android 60000 1 86400000) (by decide) _ _ (hagree _ (by decide))
    exact Option.some.inj (h.timeoutMs.symm.trans (hsame.trans h'.timeoutMs))
  refine ⟨?_, hmode⟩
  rw [retained, retained, hlayout, htheme, hpolicy, hsecurity, htokens, htimeout]

/-! ## Deliveries behind a bad one -/

/-- No value is malformed on a configured view, and no configuration that is complete is refused. -/
def meets (replies : ℕ → Reply) (manager : Manager) (delivery : Delivery) : Bool :=
  match delivery.value with
  | none => !manager.configured
  | some value =>
    !isComplete (manager.stored delivery.key value) ||
      Manager.isConfigurable replies (manager.stored delivery.key value)

/-- Each of the deliveries meets the condition. -/
def allMeet (replies : ℕ → Reply) : Manager → List Delivery → Bool
  | _, [] => true
  | manager, delivery :: deliveries =>
    meets replies manager delivery && allMeet replies (manager.deliver replies delivery) deliveries

/-- No headless command is among what is stored. -/
def NoCommand (configuration : List (String × Json)) : Prop :=
  ∀ value, ("headlessKeyPress", value) ∈ configuration → value = .null

/-- The view is configured with what is stored when that is complete, and not configured before. -/
structure Synced (manager : Manager) : Prop where
  waiting : isComplete (manager.pendingConfiguration.getD []) = false → manager.configured = false
  reflects : isComplete (manager.pendingConfiguration.getD []) = true →
    ∃ parsed, androidParse (manager.pendingConfiguration.getD []) = some parsed ∧
      manager.Reflects parsed
  session : isComplete (manager.pendingConfiguration.getD []) = true →
    NoCommand (manager.pendingConfiguration.getD []) → manager.view.sessionHandle.isSome

theorem NoCommand.headlessKeyPress_eq_none {configuration : List (String × Json)}
    (h : NoCommand configuration) {parsed : BridgeConfiguration AndroidTheme}
    (hparsed : ParsedFrom configuration parsed) : parsed.headlessKeyPress = none := by
  have hread := hparsed.headlessKeyPress
  cases hlookup : configuration.lookup "headlessKeyPress" with
  | none =>
    rw [hlookup] at hread
    exact (Option.some.inj hread).symm
  | some value =>
    obtain ⟨front, back, hsplit, -⟩ := List.lookup_eq_some_iff.mp hlookup
    have hmem : ("headlessKeyPress", value) ∈ configuration := by
      rw [hsplit]
      exact List.mem_append_right _ List.mem_cons_self
    rw [hlookup, h value hmem] at hread
    exact (Option.some.inj hread).symm

section Churn

variable {replies : ℕ → Reply} (hwilling : (Manager.device replies).Willing)

include hwilling

/-- Behind a bad delivery the view waits, without a session. -/
theorem synced_of_bad (before : List Delivery) {bad : Delivery} (hbad : bad.Bad)
    (hmeets : meets replies (managerAfter replies before) bad = true) :
    Synced (managerAfter replies (before ++ [bad])) := by
  -- all that is left to show is that the view is not configured, and what is stored not complete
  suffices h : isComplete ((managerAfter replies (before ++ [bad])).pendingConfiguration.getD []) =
      false ∧ (managerAfter replies (before ++ [bad])).configured = false by
    refine ⟨fun _ => h.2, fun hcomplete => ?_, fun hcomplete => ?_⟩
    · cases h.1.symm.trans hcomplete
    · cases h.1.symm.trans hcomplete
  rw [managerAfter_snoc]
  cases Manager.deliver_cases hwilling (managerAfter replies before) bad with
  | malformed hvalue hcleared hconfigured =>
    simp only [meets, hvalue, Bool.not_eq_true'] at hmeets
    rw [hcleared.pending, hconfigured]
    exact ⟨rfl, hmeets⟩
  | dismissed _ _ _ _ hcleared hconfigured =>
    rw [hcleared.pending]
    exact ⟨rfl, hconfigured⟩
  | refused _ _ _ _ hcleared hconfigured =>
    rw [hcleared.pending]
    exact ⟨rfl, hconfigured⟩
  | stored value hvalue hincomplete hbefore hafter =>
    rw [hafter]
    exact ⟨hincomplete, hbefore.resolve_right (hbad.key_ne hvalue)⟩
  | configured value hvalue parsed hparsed _ _ _ _ =>
    have hcomplete := (parsedFrom_of_androidParse hparsed).isComplete
    cases hcomplete.symm.trans (Delivery.isComplete_of_bad hbad hvalue)
  | pressed value hvalue hkey _ _ _ _ _ _ _ _ => exact absurd hkey (hbad.key_ne hvalue)

/-- **One delivery that is not bad** is stored, and the view stays in step. -/
theorem synced_deliver {manager : Manager} (h : Synced manager) {delivery : Delivery}
    (hgood : ¬ delivery.Bad) (hmeets : meets replies manager delivery = true) :
    Synced (manager.deliver replies delivery) ∧
      (manager.deliver replies delivery).pendingConfiguration.getD [] =
        entries [delivery] ++ manager.pendingConfiguration.getD [] := by
  cases Manager.deliver_cases hwilling manager delivery with
  | malformed hvalue _ _ => exact absurd (.inl hvalue) hgood
  | dismissed value hvalue hincomplete hbefore _ _ =>
    -- what was complete stays so
    have hwas : isComplete (manager.pendingConfiguration.getD []) = false := by
      rw [← Bool.not_eq_true]
      intro hcomplete
      cases hincomplete.symm.trans (Delivery.isComplete_cons hgood hvalue hcomplete)
    cases hbefore.symm.trans (h.waiting hwas)
  | refused value hvalue hcomplete hrefused _ _ =>
    simp [meets, hvalue, hcomplete, hrefused] at hmeets
  | stored value hvalue hincomplete _ hafter =>
    have hwas : isComplete (manager.pendingConfiguration.getD []) = false := by
      rw [← Bool.not_eq_true]
      intro hcomplete
      cases hincomplete.symm.trans (Delivery.isComplete_cons hgood hvalue hcomplete)
    rw [hafter, entries_singleton hvalue]
    refine ⟨⟨fun _ => h.waiting hwas, fun hcomplete => ?_, fun hcomplete => ?_⟩, rfl⟩
    · cases hincomplete.symm.trans hcomplete
    · cases hincomplete.symm.trans hcomplete
  | configured value hvalue parsed hparsed hpending hreflects hsession _ =>
    have hfrom := parsedFrom_of_androidParse hparsed
    rw [hpending, entries_singleton hvalue]
    refine ⟨⟨fun hincomplete => ?_, fun _ => ?_, fun _ hnone => ?_⟩, rfl⟩
    · rw [hpending] at hincomplete
      cases hincomplete.symm.trans hfrom.isComplete
    · rw [hpending]
      exact ⟨parsed, hparsed, hreflects⟩
    · rw [hpending] at hnone
      exact hsession (hnone.headlessKeyPress_eq_none hfrom)
  | pressed value hvalue hkey parsed hparsed hpending hbefore hconfigured hsteady hsession _ =>
    have hfrom := parsedFrom_of_androidParse hparsed
    have hwas : isComplete (manager.pendingConfiguration.getD []) = true := by
      rw [← Bool.not_eq_false]
      intro hincomplete
      cases hbefore.symm.trans (h.waiting hincomplete)
    obtain ⟨parsed', hparsed', hreflects⟩ := h.reflects hwas
    -- a headless command is no part of what the view is configured with
    have hsame : retained parsed' = retained parsed ∧ parsed'.mode = parsed.mode := by
      refine retained_eq (parsedFrom_of_androidParse hparsed') hfrom fun key hother => .inl ?_
      have hskip : (key == delivery.key) = false := by
        rw [hkey]
        exact beq_eq_false_iff_ne.mpr hother
      rw [Manager.stored, List.lookup_cons, hskip]
    rw [hpending, entries_singleton hvalue]
    refine ⟨⟨fun hincomplete => ?_, fun _ => ?_, fun _ hnone => ?_⟩, rfl⟩
    · rw [hpending] at hincomplete
      cases hincomplete.symm.trans hfrom.isComplete
    · rw [hpending]
      refine ⟨parsed, hparsed, hconfigured, ?_, ?_⟩
      · rw [hsteady.1, hreflects.retainedConfiguration, hsame.1]
      · rw [hsteady.2, hreflects.headlessHostMode, hsame.2]
    · rw [hpending] at hnone
      rw [hsession (.inr (hnone.headlessKeyPress_eq_none hfrom))]
      exact h.session hwas fun command hcommand => hnone command (List.mem_cons_of_mem _ hcommand)

theorem synced_deliverAll {deliveries : List Delivery} {manager : Manager} (h : Synced manager)
    (hgood : ∀ delivery ∈ deliveries, ¬ delivery.Bad)
    (hmeets : allMeet replies manager deliveries = true) :
    Synced (manager.deliverAll replies deliveries) ∧
      (manager.deliverAll replies deliveries).pendingConfiguration.getD [] =
        entries deliveries ++ manager.pendingConfiguration.getD [] := by
  induction deliveries generalizing manager with
  | nil => exact ⟨h, rfl⟩
  | cons delivery deliveries ih =>
    obtain ⟨hfirst, hothers⟩ := List.forall_mem_cons.mp hgood
    obtain ⟨hmeet, hmeets⟩ := Bool.and_eq_true_iff.mp hmeets
    obtain ⟨hsynced, hstored⟩ := synced_deliver hwilling h hfirst hmeet
    obtain ⟨hend, hall⟩ := ih hsynced hothers hmeets
    refine ⟨hend, hall.trans ?_⟩
    rw [hstored, ← List.append_assoc, ← entries_append]
    rfl

end Churn

/-! ## Redelivered props -/

/-- A layout, a theme and each other prop that is not at its default are delivered. -/
structure Redelivered (before after : List Delivery) : Prop where
  layout : ∃ value, .layout value ∈ after
  theme : ∃ value, .theme value ∈ after
  others : ∀ key value, (entries before).lookup key = some value → ¬ IsDefault key value →
    ∃ delivery ∈ after, delivery.key = key

theorem mem_entries {deliveries : List Delivery} {field : String × Json} :
    field ∈ entries deliveries ↔ ∃ delivery ∈ deliveries, delivery.key = field.1 ∧
      delivery.value = some field.2 := by
  simp only [entries, List.mem_reverse, List.mem_filterMap, Delivery.entry, Option.map_eq_some_iff]
  constructor
  · rintro ⟨delivery, hdelivery, value, hvalue, rfl⟩
    exact ⟨delivery, hdelivery, rfl, hvalue⟩
  · rintro ⟨delivery, hdelivery, hkey, hvalue⟩
    exact ⟨delivery, hdelivery, field.2, hvalue, by rw [hkey]⟩

/-- The value of a prop that is delivered. -/
theorem exists_lookup_entries {deliveries : List Delivery}
    (hgood : ∀ delivery ∈ deliveries, ¬ delivery.Bad) {key : String}
    (h : ∃ delivery ∈ deliveries, delivery.key = key) :
    ∃ delivery ∈ deliveries, ∃ value, delivery.key = key ∧ delivery.value = some value ∧
      (entries deliveries).lookup key = some value := by
  obtain ⟨delivery, hdelivery, hkey⟩ := h
  obtain ⟨value, hvalue⟩ := Option.ne_none_iff_exists'.mp fun hnone =>
    hgood delivery hdelivery (.inl hnone)
  have hsome : ((entries deliveries).lookup key).isSome := by
    rw [List.lookup_isSome_iff]
    exact ⟨(key, value), mem_entries.mpr ⟨delivery, hdelivery, hkey, hvalue⟩, beq_self_eq_true _⟩
  obtain ⟨latest, hlatest⟩ := Option.isSome_iff_exists.mp hsome
  obtain ⟨front, back, hsplit, -⟩ := List.lookup_eq_some_iff.mp hlatest
  have hmem : (key, latest) ∈ entries deliveries := by
    rw [hsplit]
    exact List.mem_append_right _ List.mem_cons_self
  obtain ⟨newest, hnewest, hname, hvalue'⟩ := mem_entries.mp hmem
  exact ⟨newest, hnewest, latest, hname, hvalue', hlatest⟩

theorem lookup_eq_of_begins {fields all : List (String × Json)} (h : fields <+: all) {key : String}
    {value : Json} (hvalue : fields.lookup key = some value) : all.lookup key = some value := by
  obtain ⟨rest, rfl⟩ := h
  rw [List.lookup_append, hvalue]
  rfl

/-- What is stored is complete once all has been delivered again. -/
theorem Redelivered.isComplete {before after : List Delivery} (h : Redelivered before after)
    (hgood : ∀ delivery ∈ after, ¬ delivery.Bad) (old : List (String × Json)) :
    isComplete (entries after ++ old) = true := by
  have hmap : ∀ key, key = "layout" ∨ key = "theme" →
      (∃ delivery ∈ after, delivery.key = key) → hasMap (entries after ++ old) key = true := by
    intro key hkey hdelivered
    obtain ⟨delivery, hdelivery, value, hname, hvalue, hlookup⟩ :=
      exists_lookup_entries hgood hdelivered
    obtain ⟨map, rfl⟩ := Delivery.exists_map (hgood delivery hdelivery) hvalue (by rwa [hname])
    simp [hasMap, List.lookup_append, hlookup, Json.asObject?]
  obtain ⟨layout, hlayout⟩ := h.layout
  obtain ⟨theme, htheme⟩ := h.theme
  rw [ReactNative.isComplete, Bool.and_eq_true]
  exact ⟨hmap _ (.inl rfl) ⟨_, hlayout, rfl⟩, hmap _ (.inr rfl) ⟨_, htheme, rfl⟩⟩

/-- What is stored has the latest values, but for defaults. -/
theorem Redelivered.agree {before after : List Delivery} (h : Redelivered before after)
    (hgood : ∀ delivery ∈ after, ¬ delivery.Bad) {old : List (String × Json)}
    (hold : old <+: entries before) (key : String) :
    Agree key ((entries after ++ old).lookup key)
      ((entries after ++ entries before).lookup key) := by
  rw [List.lookup_append, List.lookup_append]
  -- A prop that was delivered again has its last value on both sides.
  by_cases hdelivered : ∃ delivery ∈ after, delivery.key = key
  · obtain ⟨-, -, value, -, -, hlookup⟩ := exists_lookup_entries hgood hdelivered
    rw [hlookup]
    exact .inl rfl
  · have hnone : (entries after).lookup key = none := by
      rw [← Option.not_isSome_iff_eq_none, List.lookup_isSome_iff]
      rintro ⟨field, hfield, hkey⟩
      obtain ⟨delivery, hdelivery, hname, -⟩ := mem_entries.mp hfield
      exact hdelivered ⟨delivery, hdelivery, hname.trans (eq_of_beq hkey).symm⟩
    rw [hnone, Option.none_or, Option.none_or]
    cases hlatest : (entries before).lookup key with
    | none =>
      left
      cases hstored : old.lookup key with
      | none => rfl
      | some value => cases hlatest.symm.trans (lookup_eq_of_begins hold hstored)
    | some latest =>
      cases hstored : old.lookup key with
      | none =>
        right
        refine ⟨rfl, latest, rfl, ?_⟩
        by_contra hdefault
        -- Only a default need not be delivered again.
        exact hdelivered (h.others key latest hlatest hdefault)
      | some value =>
        left
        exact (lookup_eq_of_begins hold hstored).symm.trans hlatest

/-! ## Prop churn -/

/-- What is asked of the deliveries behind a bad one. -/
structure ChurnRule (replies : ℕ → Reply) (before : List Delivery) (bad : Delivery)
    (after : List Delivery) : Prop where
  /-- No session is live until the view is configured again. -/
  released : (managerAfter replies (before ++ [bad] ++ after)).configures =
      (managerAfter replies (before ++ [bad])).configures →
    (managerAfter replies (before ++ [bad] ++ after)).view.sessionHandle = none
  /-- Once all has been delivered again, the view is configured with the latest values, and the
      session is live if there is no headless command that could end it. -/
  reconfigured : (∀ delivery ∈ after, ¬ delivery.Bad) → Redelivered (before ++ [bad]) after →
    ∀ parsed, androidParse (entries (before ++ [bad] ++ after)) = some parsed →
      (Manager.device replies).Accepts (retained parsed) →
        (managerAfter replies (before ++ [bad] ++ after)).Reflects parsed ∧
        (NoCommand (entries (before ++ [bad] ++ after)) →
          (managerAfter replies (before ++ [bad] ++ after)).view.sessionHandle.isSome)

section Churn

variable {replies : ℕ → Reply} (hwilling : (Manager.device replies).Willing)

include hwilling

/-- **Behind a bad delivery there is no session** until the view is configured again, whatever is
    delivered. -/
theorem released_of_bad (before : List Delivery) {bad : Delivery} (hbad : bad.Bad)
    (after : List Delivery)
    (hcount : (managerAfter replies (before ++ [bad] ++ after)).configures =
      (managerAfter replies (before ++ [bad])).configures) :
    (managerAfter replies (before ++ [bad] ++ after)).view.sessionHandle = none := by
  have hidle : (managerAfter replies (before ++ [bad])).view.sessionHandle = none := by
    rw [managerAfter_snoc]
    cases Manager.deliver_cases hwilling (managerAfter replies before) bad with
    | malformed _ hcleared _ => exact hcleared.session
    | dismissed _ _ _ _ hcleared _ => exact hcleared.session
    | refused _ _ _ _ hcleared _ => exact hcleared.session
    | stored value hvalue _ hbefore hafter =>
      rw [hafter]
      have hwaiting := hbefore.resolve_right (hbad.key_ne hvalue)
      cases hsession : (managerAfter replies before).view.sessionHandle with
      | none => rfl
      | some handle =>
        have hconfigured := configured_of_session hwilling before (hsession ▸ rfl)
        cases hwaiting.symm.trans hconfigured
    | configured value hvalue parsed hparsed _ _ _ _ =>
      have hcomplete := (parsedFrom_of_androidParse hparsed).isComplete
      cases hcomplete.symm.trans (Delivery.isComplete_of_bad hbad hvalue)
    | pressed value hvalue hkey _ _ _ _ _ _ _ _ => exact absurd hkey (hbad.key_ne hvalue)
  rw [managerAfter_append] at hcount ⊢
  exact (idle_deliverAll hwilling after _).2 hcount hidle

/-- **Prop churn.** For every sequence of deliveries before a bad one and behind it, where none is
    malformed on a configured view and no complete configuration is refused: no session is live
    until the view is configured again, and once all has been delivered again, in any order, the
    view is configured with exactly the latest values. -/
theorem prop_churn (before : List Delivery) {bad : Delivery} (hbad : bad.Bad)
    {after : List Delivery}
    (hmeets : allMeet replies (managerAfter replies before) (bad :: after) = true) :
    ChurnRule replies before bad after := by
  obtain ⟨hmeet, hmeets⟩ := Bool.and_eq_true_iff.mp hmeets
  -- Behind the bad delivery the manager waits, and keeps what is stored in step.
  have hwaits := synced_of_bad hwilling before hbad hmeet
  rw [← managerAfter_snoc] at hmeets
  refine ⟨released_of_bad hwilling before hbad after, ?_⟩
  intro hgood hagain parsed hparsed _
  obtain ⟨hsynced, hstored⟩ := synced_deliverAll hwilling hwaits hgood hmeets
  rw [← managerAfter_append] at hsynced hstored
  have hold := stored_prefix hwilling (before ++ [bad])
  have hcomplete := hagain.isComplete hgood
    ((managerAfter replies (before ++ [bad])).pendingConfiguration.getD [])
  rw [← hstored] at hcomplete
  constructor
  · obtain ⟨parsed', hparsed', hreflects⟩ := hsynced.reflects hcomplete
    rw [hstored] at hparsed'
    rw [entries_append] at hparsed
    -- What is stored differs from all that was delivered only in what stands at its default.
    obtain ⟨hretained, hmode⟩ := retained_eq (parsedFrom_of_androidParse hparsed')
      (parsedFrom_of_androidParse hparsed) fun key _ => hagain.agree hgood hold key
    refine ⟨hreflects.configured, ?_, ?_⟩
    · rw [hreflects.retainedConfiguration, hretained]
    · rw [hreflects.headlessHostMode, hmode]
  · intro hnone
    refine hsynced.session hcomplete fun value hvalue => hnone value ?_
    rw [hstored, List.mem_append] at hvalue
    rw [entries_append]
    exact List.mem_append.mpr (hvalue.imp_right fun hmem => hold.subset hmem)

end Churn

/-! ## A layout that is taken away, and one that is malformed -/

/-- One key of the numeric policy. -/
def keyLayout : Delivery :=
  .layout (some [("schemaVersion", .number (.ofNat 1)),
    ("rows", .arr [.arr [.obj [("id", .str "digit-1"), ("role", .str "input")]]])])

/-- A theme without animation and feedback. -/
def plainTheme : Delivery :=
  .theme (some [("schemaVersion", .number (.ofNat 1)),
    ("colors", .obj [("background", .str "#000000"), ("keyBackground", .str "#111111"),
      ("keyForeground", .str "#ffffff"), ("keyPressedBackground", .str "#222222"),
      ("keyDisabledBackground", .str "#333333"), ("error", .str "#ff0000")]),
    ("metrics", .obj [("keyHeight", .number (.ofNat 48)), ("keyGap", .number (.ofNat 4)),
      ("keyRadius", .number (.ofNat 8)), ("contentPadding", .number (.ofNat 8))]),
    ("typography", .obj [("keyFontSize", .number (.ofNat 18)), ("keyFontWeight", .str "500")])])

/-- A layout with a key that is not allowed. -/
def malformedLayout : Delivery := .layout (some [("unknown", .null)])

/-- A device on which every native call succeeds. -/
def willing : ℕ → Reply := fun _ => ⟨true, true, some 1, 0, 0, none⟩

theorem willing_device : (Manager.device willing).Willing :=
  ⟨fun _ => rfl, fun _ => rfl, fun _ =>
    ⟨0, 0, (by decide : decodeMaskedState 0 = some (0, 0)), by decide, by decide, by decide⟩⟩

theorem prop_churn_layout_removed :
    ChurnRule willing [keyLayout, plainTheme] (.layout none) [plainTheme, keyLayout] :=
  prop_churn willing_device [keyLayout, plainTheme] (.inr (.inl rfl)) (by decide +kernel)

/-- A malformed layout leaves the view marked as configured, and so the layout that is delivered
    next is dropped. -/
theorem not_prop_churn : (Manager.device willing).Willing ∧
    ¬ ∀ (before : List Delivery) (bad : Delivery) (after : List Delivery), bad.Bad →
      ChurnRule willing before bad after := by
  refine ⟨willing_device, fun h => ?_⟩
  have hbad : malformedLayout.Bad := .inl (by decide +kernel)
  have hgood : ∀ delivery ∈ [keyLayout, plainTheme], ¬ delivery.Bad := by
    intro delivery hdelivery
    rcases List.mem_cons.mp hdelivery with rfl | hdelivery
    · have hvalue : keyLayout.value.isSome = true := by decide +kernel
      rintro (hnone | hremoved | hremoved)
      · cases hnone ▸ hvalue
      · cases hremoved
      · cases hremoved
    · cases List.mem_singleton.mp hdelivery
      have hvalue : plainTheme.value.isSome = true := by decide +kernel
      rintro (hnone | hremoved | hremoved)
      · cases hnone ▸ hvalue
      · cases hremoved
      · cases hremoved
  -- The good props are delivered again after the bad one, with the values they had.
  have hagain : Redelivered ([keyLayout, plainTheme] ++ [malformedLayout])
      [keyLayout, plainTheme] := by
    refine ⟨⟨_, List.mem_cons_self⟩, ⟨_, List.mem_cons_of_mem _ List.mem_cons_self⟩, ?_⟩
    intro key value hlookup _
    obtain ⟨front, back, hsplit, -⟩ := List.lookup_eq_some_iff.mp hlookup
    have hmem : (key, value) ∈ entries ([keyLayout, plainTheme] ++ [malformedLayout]) := by
      rw [hsplit]
      exact List.mem_append_right _ List.mem_cons_self
    obtain ⟨delivery, hdelivery, rfl, hvalue⟩ := mem_entries.mp hmem
    rcases List.mem_append.mp hdelivery with hdelivery | hdelivery
    · exact ⟨delivery, hdelivery, rfl⟩
    · have hnone : malformedLayout.value = none :=
        hbad.resolve_right (by rintro (hremoved | hremoved) <;> cases hremoved)
      rw [List.mem_singleton.mp hdelivery, hnone] at hvalue
      cases hvalue
  have hconfigurable : Manager.isConfigurable willing (entries
      ([keyLayout, plainTheme] ++ [malformedLayout] ++ [keyLayout, plainTheme])) = true := by
    decide +kernel
  obtain ⟨parsed, hparsed, haccepts⟩ := (Option.any_eq_true _ _).mp hconfigurable
  have hrule := h [keyLayout, plainTheme] malformedLayout [keyLayout, plainTheme] hbad
  have hreflects := (hrule.reconfigured hgood hagain parsed hparsed (of_decide_eq_true haccepts)).1
  -- Nevertheless the manager does not configure the view again.
  have hdropped : (managerAfter willing ([keyLayout, plainTheme] ++ [malformedLayout] ++
      [keyLayout, plainTheme])).configured = false := by decide +kernel
  cases hdropped.symm.trans hreflects.configured

end SecureKeypad.ReactNative
