import AskSql.Completion.Exchange
import AskSql.Store

/-!
# Programs

The library does its work by calls: it asks a store what it holds, hands statements to it, and
sends requests to a provider. A program is such work, written down: it has a value, or it makes a
call and goes on with the answer. What is outside answers the calls, and only there does a program
get its answers from.

Running a program gives its value and the calls that it has made, each entered as it is answered.
In surroundings where a question may panic, a program need not come to an end (`Program.run?`).
-/

namespace AskSql

/-! ## Calls -/

/-- A call of something outside. -/
inductive Call where
  /-- Asks a store for its objects. -/
  | objects
  /-- Asks a store for the definition of a table. -/
  | describe (table : Text)
  /-- Hands a statement to a store. -/
  | fetch (sql : Text)
  /-- Sends a request to a provider. -/
  | send (request : Request)
  deriving Repr, DecidableEq

namespace Call

/-- What can come of a call. -/
abbrev Answer : Call → Type
  | .objects => Except StoreError (List CatalogObject)
  | .describe _ => Except StoreError TableDefinition
  | .fetch _ => Except StoreError (List Row)
  | .send _ => Outcome

/-- The statement that a call hands to a store. -/
def statement? : Call → Option Text
  | .fetch sql => some sql
  | _ => none

/-- The request that a call sends. -/
def request? : Call → Option Request
  | .send request => some request
  | _ => none

end Call

/-- What answers calls. -/
abbrev Answers := (call : Call) → call.Answer

/-- What answers calls, where some may panic. -/
abbrev PartialAnswers := (call : Call) → Option call.Answer

/-! ## Programs -/

/-- A value, or a call with what is done after each answer to it. -/
inductive Program (α : Type) where
  | done (a : α)
  | ask (call : Call) (next : call.Answer → Program α)

/-- A value, with the calls that were made to get it. -/
structure Effect (α : Type) where
  value : α
  calls : List Call

namespace Effect

variable {α β : Type} (e : Effect α)

/-- The effect with a call in front. -/
def after (call : Call) : Effect α :=
  ⟨e.value, call :: e.calls⟩

/-- The effect with another value in place of its own. -/
def map (f : α → β) : Effect β :=
  ⟨f e.value, e.calls⟩

/-- The statements handed to a store, in order. -/
def executed : List Text :=
  e.calls.filterMap Call.statement?

/-- The requests sent to a provider, in order. -/
def sent : List Request :=
  e.calls.filterMap Call.request?

end Effect

namespace Program

variable {α β : Type}

/-- One program after the other. -/
def bind (next : α → Program β) : Program α → Program β
  | .done a => next a
  | .ask call rest => .ask call fun answer => (rest answer).bind next

instance : Monad Program where
  pure := .done
  bind p next := p.bind next

/-- The objects of a store. -/
def objects : Program (Except StoreError (List CatalogObject)) :=
  .ask .objects .done

/-- The definition of a table. -/
def describe (table : Text) : Program (Except StoreError TableDefinition) :=
  .ask (.describe table) .done

/-- The rows of a statement. -/
def fetch (sql : Text) : Program (Except StoreError (List Row)) :=
  .ask (.fetch sql) .done

/-- The outcome of a request. -/
def send (request : Request) : Program Outcome :=
  .ask (.send request) .done

/-- Runs a program. -/
def run (answers : Answers) : Program α → Effect α
  | .done a => ⟨a, []⟩
  | .ask call next => ((next (answers call)).run answers).after call

/-- Runs a program where a call may panic. Nothing comes of it then. -/
def run? (answers? : PartialAnswers) : Program α → Option (Effect α)
  | .done a => some ⟨a, []⟩
  | .ask call next =>
    (answers? call).bind fun answer => ((next answer).run? answers?).map (·.after call)

end Program

/-! ## Stores and providers -/

/-- What a store and a provider answer. -/
def Store.answers (store : Store) (endpoint : Endpoint) : Answers
  | .objects => store.catalog.objects
  | .describe table => store.catalog.describe table
  | .fetch sql => store.fetch sql
  | .send request => endpoint request

/-- What a store that may panic and a provider answer. -/
def PartialStore.answers? (store : PartialStore) (endpoint : Endpoint) : PartialAnswers
  | .objects => some store.objects
  | .describe table => store.describe? table
  | .fetch sql => some (store.fetch sql)
  | .send request => some (endpoint request)

end AskSql
