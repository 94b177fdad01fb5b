import AskSql.Config
import AskSql.Json.Printer
import AskSql.Url.Parser

/-!
# Exchanges with a provider

The request that a client sends for a system prompt and a user prompt, and what can come of
sending it. An endpoint is anything that has an outcome for every request. What keeps a request
from being sent at all is found before: an address that is none, or a key that no header can
hold.
-/

namespace AskSql

open Text

/-! ## Requests -/

/-- A request, as far as the other side sees it. -/
structure Request where
  url : Url
  /-- The header `authorization`. -/
  authorization : Option Text
  /-- The header `x-goog-api-key`. -/
  apiKey : Option Text
  /-- The body, a JSON text. -/
  body : Text
  deriving Repr, DecidableEq

/-- What comes of sending a request. -/
inductive Outcome where
  /-- The connection is refused, or closed without an answer. -/
  | unreachable
  /-- The time is over before the answer is there. -/
  | timedOut
  /-- An answer, whose body may end too early to be read. -/
  | answer (status : Nat) (body : Option Text)
  deriving Repr, DecidableEq

/-- The other side. -/
abbrev Endpoint := Request → Outcome

/-! ## Clients -/

/-- A provider's client. -/
structure Client where
  provider : Provider
  apiKey : Text
  model : Text
  /-- The address that every request's address starts with, without slashes at its end. -/
  baseUrl : Text
  deriving Repr, DecidableEq

namespace Client

/-- The client of a provider with a key and settings. -/
def ofSettings (provider : Provider) (apiKey : Text) (settings : ProviderSettings) : Client where
  provider
  apiKey
  model := settings.model
  baseUrl := dropEndWhile (· == '/') settings.baseUrl

/-- The address of a completion. -/
def address (c : Client) : Text :=
  match c.provider with
  | .openAI => c.baseUrl ++ "/chat/completions".toList
  | .gemini => c.baseUrl ++ "/models/".toList ++ c.model ++ ":generateContent".toList

/-- How freely an answer is drawn: one fifth. -/
def temperature : Json :=
  .number (.real (.ofQuotient false 1 5))

/-- The longest answer, in tokens. -/
def maxTokens : Json :=
  .natural 400

/-- A message of a conversation. -/
def message (role content : Text) : Json :=
  .object [("role".toList, .string role), ("content".toList, .string content)]

/-- The body of a request. Gemini gets both prompts as one turn. -/
def body (c : Client) (system user : Text) : Json :=
  match c.provider with
  | .openAI =>
    .object [
      ("model".toList, .string c.model),
      ("messages".toList,
        .array [message "system".toList system, message "user".toList user]),
      ("temperature".toList, temperature),
      ("max_tokens".toList, maxTokens)]
  | .gemini =>
    .object [
      ("contents".toList,
        .array [.object [
          ("role".toList, .string "user".toList),
          ("parts".toList,
            .array [.object [("text".toList, .string (system ++ "\n\n".toList ++ user))]])]]),
      ("generationConfig".toList,
        .object [("temperature".toList, temperature), ("maxOutputTokens".toList, maxTokens)])]

/-- A header can hold the text. -/
def fitsHeader (s : Text) : Bool :=
  s.all fun c => c == '\t' || (0x20 ≤ c.toNat && c.toNat != 0x7F)

/-- What is wrong with a request before it is sent: nothing is said about the address where it
is none, or where the key is to blame. -/
def builderError (url? : Option Url) : Text :=
  "builder error".toList ++
    match url? with
    | some url => " for url (".toList ++ url.text ++ [')']
    | none => []

/-- The request for a completion, or what is wrong with it. -/
def request (c : Client) (system user : Text) : Except Text Request :=
  match Url.parse? c.address with
  | none => .error (builderError none)
  | some url =>
    let url := url.withoutCredentials
    if url.host?.isNone then .error (builderError (some url))
    else if !fitsHeader c.apiKey then .error (builderError none)
    else if (url.scheme ≠ "http".toList ∧ url.scheme ≠ "https".toList) ∨ !url.isReachable then
      .error (builderError (some url))
    else
      .ok {
        url
        authorization :=
          match c.provider with
          | .openAI => some ("Bearer ".toList ++ c.apiKey)
          | .gemini => none
        apiKey :=
          match c.provider with
          | .openAI => none
          | .gemini => some c.apiKey
        body := (c.body system user).compact }

end Client
end AskSql
