import AskSql.Json.Parser
import AskSql.Program

/-!
# Replies of a provider

What a provider's answer says: the status decides between the text of a completion and the
different failures, the body holds the text. Both providers answer with records in JSON, of
which only the way to the text of the first alternative is read; records may also be written
as arrays of their fields.
-/

namespace AskSql

open Json (Document)

/-- The values of all items, if all have one. -/
def allSome? {α β : Type} (f : α → Option β) : List α → Option (List β)
  | [] => some []
  | x :: xs =>
    match f x, allSome? f xs with
    | some y, some ys => some (y :: ys)
    | _, _ => none

namespace Provider

/-- A field that may be missing or null. -/
def optionalField? : Option Document → Option (Option Text)
  | none => some none
  | some d => d.optionalText?

/-- The text of a record `content` or `text`. -/
def textRecord? (name : String) (d : Document) : Option (Option Text) :=
  match d.record? [name.toList] 1 with
  | some [field] => optionalField? field
  | _ => none

/-- The only field of a record that has to have it. -/
def onlyField? (name : String) (d : Document) : Option Document :=
  match d.record? [name.toList] 1 with
  | some [some field] => some field
  | _ => none

/-- The items of the only field of a record, none where it is missing. -/
def defaultItems? (name : String) (d : Document) : Option (List Document) :=
  match d.record? [name.toList] 0 with
  | some [some field] => field.items?
  | some [none] => some []
  | _ => none

/-- The text of the first choice of a chat completion. -/
def chatText? (d : Document) : Option (Option Text) := do
  let choices ← (← onlyField? "choices" d).items?
  let contents ← allSome? (fun choice => do textRecord? "content" (← onlyField? "message" choice))
    choices
  some contents.head?.join

/-- The text of the first candidate of a generated content, its parts joined. -/
def candidateText? (d : Document) : Option (Option Text) := do
  let candidates ← defaultItems? "candidates" d
  let contents ← allSome? (fun candidate => do
    let parts ← defaultItems? "parts" (← onlyField? "content" candidate)
    allSome? (textRecord? "text") parts) candidates
  some (contents.head?.map fun parts => (parts.filterMap id).flatten)

/-- The text in the body of an answer. -/
def completionText? (p : Provider) (body : Text) : Option (Option Text) := do
  let d ← Document.parse? body
  match p with
  | .openAI => chatText? d
  | .gemini => candidateText? d

/-- The completion in the body of a successful answer. -/
def readBody (p : Provider) (body : Option Text) : Except CompletionError Text :=
  match body.bind (p.completionText? ·) with
  | none =>
    .error (.malformed "failed to parse response: error decoding response body".toList)
  | some none => .error .empty
  | some (some text) => if Text.isBlankText text then .error .empty else .ok text

/-- What an outcome of the request to `url` comes to. -/
def read (p : Provider) (url : Url) : Outcome → Except CompletionError Text
  | .unreachable =>
    .error (.transport p ("error sending request for url (".toList ++ url.text ++ [')']))
  | .timedOut => .error (.timeout p)
  | .answer status body =>
    if 200 ≤ status ∧ status < 300 then p.readBody body
    else if status = 401 ∨ status = 403 then .error (.unauthorized p status)
    else .error (.api p status (body.getD "Unknown error".toList))

end Provider

/-! ## Strategies -/

/-- How completions are made. -/
inductive Strategy where
  /-- A client is asked. -/
  | client (c : Client)
  /-- The selected provider has no credentials. -/
  | unconfigured (provider : Provider)
  deriving Repr, DecidableEq

/-- Asks a provider for a completion, with one request at most. -/
def Client.complete (c : Client) (system user : Text) : Program (Except CompletionError Text) :=
  match c.request system user with
  | .error reason => return .error (.transport c.provider reason)
  | .ok request => return c.provider.read request.url (← Program.send request)

namespace Strategy

/-- The strategy that a configuration selects. -/
def ofConfig (config : Config) : Strategy :=
  match config.selected.apiKey with
  | none => .unconfigured config.provider
  | some key => .client (.ofSettings config.provider key config.selected)

/-- The provider of a strategy. -/
def provider : Strategy → Provider
  | .client c => c.provider
  | .unconfigured p => p

/-- The model of a strategy that has a client. -/
def model? : Strategy → Option Text
  | .client c => some c.model
  | .unconfigured _ => none

/-- Asks for a completion. -/
def complete (s : Strategy) (system user : Text) : Program (Except CompletionError Text) :=
  match s with
  | .client c => c.complete system user
  | .unconfigured p => return .error (.unconfigured p)

end Strategy
end AskSql
