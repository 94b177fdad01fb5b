import AskSql.Failure

/-!
# Configuration

The settings of a process, read from named variables. A variable that is blank counts as not
set.
-/

namespace AskSql

/-- Credentials and endpoint of one provider. -/
structure ProviderSettings where
  /-- Without a key, the provider is not configured. -/
  apiKey : Option Text
  model : Text
  baseUrl : Text
  deriving Repr, DecidableEq

/-- The settings of a process. -/
structure Config where
  /-- The selected provider. -/
  provider : Provider
  openAI : ProviderSettings
  gemini : ProviderSettings
  /-- How long a single completion may take, in seconds. -/
  timeout : Nat
  deriving Repr, DecidableEq

namespace Config

/-- The settings of a provider. -/
def settings (c : Config) : Provider → ProviderSettings
  | .openAI => c.openAI
  | .gemini => c.gemini

/-- The settings of the selected provider. -/
def selected (c : Config) : ProviderSettings :=
  c.settings c.provider

/-- The settings that hold where no variable is set. -/
def default : Config where
  provider := .default
  openAI := ⟨none, "gpt-3.5-turbo".toList, "https://api.openai.com/v1".toList⟩
  gemini :=
    ⟨none, "gemini-1.5-flash".toList,
      "https://generativelanguage.googleapis.com/v1beta".toList⟩
  timeout := 30

variable (lookup : Text → Option Text)

/-- The value of a variable, unless it is blank. -/
def setting? (name : String) : Option Text :=
  (lookup name.toList).filter fun value => !Text.isBlankText value

/-- The selected provider, or why the selection has no meaning. -/
def selection : Except ConfigError Provider :=
  match setting? lookup "LLM_PROVIDER" with
  | none => .ok .default
  | some setting =>
    match Provider.ofText? setting with
    | some provider => .ok provider
    | none => .error (.unknownProvider setting)

/-- What to tell about a selection without a meaning: the default provider takes its place. -/
def warning? : Option Text :=
  match selection lookup with
  | .ok _ => none
  | .error e => some (e.message ++ ", falling back to ".toList ++ Provider.default.name)

/-- The time that a completion may take. -/
def timeLimit : Except ConfigError Nat :=
  match setting? lookup "LLM_TIMEOUT_SECS" with
  | none => .ok default.timeout
  | some setting =>
    match Text.unsigned? Text.maxUInt64 (Text.trim setting) with
    | some seconds => .ok seconds
    | none => .error (.invalidTimeout setting)

/-- The settings of one provider, from its three variables. -/
def providerSettings (defaults : ProviderSettings) (key model baseUrl : String) :
    ProviderSettings where
  apiKey := setting? lookup key
  model := (setting? lookup model).getD defaults.model
  baseUrl := (setting? lookup baseUrl).getD defaults.baseUrl

/-- The configuration that the variables describe. -/
def load : Except ConfigError Config :=
  match timeLimit lookup with
  | .error e => .error e
  | .ok timeout =>
    .ok {
      provider :=
        match selection lookup with
        | .ok provider => provider
        | .error _ => .default
      openAI :=
        providerSettings lookup default.openAI "OPENAI_API_KEY" "OPENAI_MODEL" "OPENAI_BASE_URL"
      gemini :=
        providerSettings lookup default.gemini "GEMINI_API_KEY" "GEMINI_MODEL" "GEMINI_BASE_URL"
      timeout }

end Config
end AskSql
