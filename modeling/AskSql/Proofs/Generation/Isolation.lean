import AskSql.Generation

/-!
# The provider that is not selected

A configuration holds the settings of every provider, each read from three variables of its own
(`Provider.variables`), but a run takes from it those of the selected one alone. So the variables
of another provider have no say : whatever they are, loading fails for the same reason, or
generation gives the same answer and sends the same requests (`runAlike_of_agreeOnSelected`). This
holds of a run that degrades, too : a selected provider without a key is not replaced by one
that has a key.
-/

namespace AskSql

/-- The variables that the settings of a provider are read from. -/
def Provider.variables : Provider → List String
  | .openAI => ["OPENAI_API_KEY", "OPENAI_MODEL", "OPENAI_BASE_URL"]
  | .gemini => ["GEMINI_API_KEY", "GEMINI_MODEL", "GEMINI_BASE_URL"]

namespace Config

variable {lookup lookup' : Text → Option Text} {c c' : Config} {names : List String}

/-! ## What loading reads -/

/-- The selected provider, which is the default one if the selection has no meaning. -/
def selectedProvider (lookup : Text → Option Text) : Provider :=
  match selection lookup with
  | .ok provider => provider
  | .error _ => .default

/-- The settings of a provider, from its own variables. -/
def settingsFrom (lookup : Text → Option Text) : Provider → ProviderSettings
  | .openAI =>
    providerSettings lookup default.openAI "OPENAI_API_KEY" "OPENAI_MODEL" "OPENAI_BASE_URL"
  | .gemini =>
    providerSettings lookup default.gemini "GEMINI_API_KEY" "GEMINI_MODEL" "GEMINI_BASE_URL"

theorem load_of_timeLimit_error {e : ConfigError} (h : timeLimit lookup = .error e) :
    load lookup = .error e := by
  rw [load, h]

theorem exists_load_of_timeLimit_ok {seconds : Nat} (h : timeLimit lookup = .ok seconds) :
    ∃ c, load lookup = .ok c ∧ c.timeout = seconds ∧ c.provider = selectedProvider lookup ∧
      ∀ p, c.settings p = settingsFrom lookup p := by
  rw [load, h]
  refine ⟨_, rfl, rfl, rfl, fun p => ?_⟩
  cases p <;> rfl

/-! ## Lookups that agree -/

/-- Two lookups give the same values to some variables. -/
def AgreeOn (names : List String) (lookup lookup' : Text → Option Text) : Prop :=
  ∀ name ∈ names, lookup name.toList = lookup' name.toList

instance : Decidable (AgreeOn names lookup lookup') :=
  inferInstanceAs (Decidable (∀ name ∈ names, lookup name.toList = lookup' name.toList))

/-- Two lookups agree on the variables that all providers share, and on those of the provider that
is selected. -/
structure AgreeOnSelected (lookup lookup' : Text → Option Text) : Prop where
  shared : AgreeOn ["LLM_PROVIDER", "LLM_TIMEOUT_SECS"] lookup lookup'
  selected : ∀ c, load lookup = .ok c → AgreeOn c.provider.variables lookup lookup'

theorem AgreeOn.setting?_eq (h : AgreeOn names lookup lookup') {name : String}
    (hname : name ∈ names) : setting? lookup name = setting? lookup' name := by
  rw [setting?, setting?, h name hname]

theorem AgreeOn.providerSettings_eq {key model baseUrl : String}
    (h : AgreeOn [key, model, baseUrl] lookup lookup') (defaults : ProviderSettings) :
    providerSettings lookup defaults key model baseUrl =
      providerSettings lookup' defaults key model baseUrl := by
  have hkey : setting? lookup key = setting? lookup' key := h.setting?_eq (by simp)
  have hmodel : setting? lookup model = setting? lookup' model := h.setting?_eq (by simp)
  have hbaseUrl : setting? lookup baseUrl = setting? lookup' baseUrl := h.setting?_eq (by simp)
  rw [providerSettings, providerSettings, hkey, hmodel, hbaseUrl]

theorem AgreeOn.settingsFrom_eq {p : Provider} (h : AgreeOn p.variables lookup lookup') :
    settingsFrom lookup p = settingsFrom lookup' p := by
  cases p with
  | openAI => exact AgreeOn.providerSettings_eq h default.openAI
  | gemini => exact AgreeOn.providerSettings_eq h default.gemini

namespace AgreeOnSelected

variable (h : AgreeOnSelected lookup lookup')
include h

theorem timeLimit_eq : timeLimit lookup = timeLimit lookup' := by
  rw [timeLimit, timeLimit, h.shared.setting?_eq (by simp)]

theorem selectedProvider_eq : selectedProvider lookup = selectedProvider lookup' := by
  rw [selectedProvider, selectedProvider, selection, selection, h.shared.setting?_eq (by simp)]

end AgreeOnSelected

/-! ## Runs -/

/-- A run cannot tell two lookups apart : both configurations fail for the same reason, or
completions have the same time and generation answers alike, whatever it is asked and whatever
a provider answers. -/
inductive RunAlike (lookup lookup' : Text → Option Text) : Prop
  | failed {e : ConfigError} (hload : load lookup = .error e) (hload' : load lookup' = .error e)
  | loaded {c c' : Config} (hload : load lookup = .ok c) (hload' : load lookup' = .ok c')
    (timeout : c.timeout = c'.timeout)
    (generation : ∀ catalog endpoint request supplied,
      generate (.ofConfig c) catalog endpoint request supplied =
        generate (.ofConfig c') catalog endpoint request supplied)

/-- A strategy knows the settings of the selected provider only. -/
theorem ofConfig_congr (hprovider : c.provider = c'.provider)
    (hsettings : c.settings c.provider = c'.settings c.provider) :
    Strategy.ofConfig c = Strategy.ofConfig c' := by
  have hselected : c.selected = c'.selected := by
    rw [selected, selected, hsettings, hprovider]
  rw [Strategy.ofConfig, Strategy.ofConfig, hprovider, hselected]

/-- The variables of a provider that is not selected make no difference to a run. -/
theorem runAlike_of_agreeOnSelected (h : AgreeOnSelected lookup lookup') :
    RunAlike lookup lookup' := by
  cases hlimit : timeLimit lookup with
  | error e =>
    exact .failed (load_of_timeLimit_error hlimit)
      (load_of_timeLimit_error (h.timeLimit_eq ▸ hlimit))
  | ok seconds =>
    obtain ⟨c, hload, htimeout, hprovider, hsettings⟩ := exists_load_of_timeLimit_ok hlimit
    obtain ⟨c', hload', htimeout', hprovider', hsettings'⟩ :=
      exists_load_of_timeLimit_ok (h.timeLimit_eq ▸ hlimit)
    have hsame : c.provider = c'.provider := by
      rw [hprovider, hprovider', h.selectedProvider_eq]
    have hown : c.settings c.provider = c'.settings c.provider := by
      rw [hsettings, hsettings', (h.selected c hload).settingsFrom_eq]
    refine .loaded hload hload' (htimeout.trans htimeout'.symm) fun _ _ _ _ => ?_
    rw [ofConfig_congr hsame hown]

/-- The selected provider has no key, the other one has one or has none. -/
theorem runAlike_of_agreeOnSelected_of_foreign_key :
    let shared := [("LLM_PROVIDER".toList, "gemini".toList),
      ("GEMINI_BASE_URL".toList, "http://host".toList)]
    let lookup : Text → Option Text := fun name => shared.lookup name
    let lookup' : Text → Option Text := fun name =>
      (("OPENAI_API_KEY".toList, "key".toList) :: shared).lookup name
    lookup "OPENAI_API_KEY".toList ≠ lookup' "OPENAI_API_KEY".toList ∧
      AgreeOnSelected lookup lookup' ∧ RunAlike lookup lookup' := by
  intro shared lookup lookup'
  have hload : (load lookup).toOption.map (·.provider) = some .gemini := by decide +kernel
  have hagree : AgreeOnSelected lookup lookup' := {
    shared := by decide
    selected := fun c hc => by
      rw [hc] at hload
      have hgemini : c.provider = .gemini := Option.some.inj hload
      rw [hgemini]
      decide }
  exact ⟨by decide, hagree, runAlike_of_agreeOnSelected hagree⟩

end Config
end AskSql
