import AskSql.Text.Case

/-!
# Providers

The services that turn a request into SQL.
-/

namespace AskSql

/-- A service that answers completion requests. -/
inductive Provider where
  | openAI
  | gemini
  deriving Repr, DecidableEq

namespace Provider

/-- The name of a provider. -/
def name : Provider → Text
  | .openAI => "OpenAI".toList
  | .gemini => "Gemini".toList

/-- The provider that is asked if none is selected. -/
def default : Provider := .openAI

/-- The provider that a setting selects, whatever its case and the blanks around it. -/
def ofText? (setting : Text) : Option Provider :=
  let key := Text.lower (Text.trim setting)
  if key = "openai".toList then some .openAI
  else if key = "gemini".toList then some .gemini
  else none

end Provider
end AskSql
