import AskSql.Provider
import AskSql.Text.Numeral

/-!
# Failures

What can go wrong in each part of the library, as causes. The wording of a cause is its
`message`. `Recovery` says what becomes of a failure: it is answered by the composer, or it is
reported.
-/

namespace AskSql

/-- What becomes of a failure. -/
inductive Recovery where
  /-- The composer answers instead; the failure shows in the explanation only. -/
  | degrade
  /-- The failure is reported as it is. -/
  | surface
  deriving Repr, DecidableEq

/-! ## Table definitions -/

/-- Why a text does not define a table. -/
inductive DefinitionError where
  /-- The text is no SQL, for the reason that the parser gives. -/
  | unreadable (reason : Text)
  /-- None of its statements creates a table. -/
  | noTable
  deriving Repr, DecidableEq

namespace DefinitionError

/-- The wording. -/
def message : DefinitionError → Text
  | .unreadable reason => "failed to parse table definition: ".toList ++ reason
  | .noTable => "definition does not contain a CREATE TABLE statement".toList

/-- The wordings of an error and of what lies behind it. -/
def chain (e : DefinitionError) : List Text :=
  e.message ::
    match e with
    | .unreadable reason => [reason]
    | .noTable => []

end DefinitionError

/-! ## Stores -/

/-- Why a store cannot answer. -/
inductive StoreError where
  /-- The database reports an error, by code and text. -/
  | database (code : Nat) (text : Text)
  /-- A value that has to be there is null. -/
  | unexpectedNull (column : Text)
  /-- A value in a column, given by its number, is not what its class says. -/
  | undecodable (column : Nat) (reason : Text)
  /-- The settings in a connection string have no meaning. -/
  | settings (reason : Text)
  /-- The database cannot be asked at all. -/
  | communication (reason : Text)
  /-- Values that a statement leaves open cannot be given to it. -/
  | invalidData (reason : Text)
  /-- The store has been closed. -/
  | closed
  /-- The definition of a table cannot be read. -/
  | definition (table : Text) (cause : DefinitionError)
  /-- There is no such table. -/
  | missingTable (table : Text)
  /-- The kind of database is known, but not supported. -/
  | unsupported (kind : Text)
  /-- The kind of database is not known. -/
  | unknownDatabase (url : Text)
  deriving Repr, DecidableEq

namespace StoreError

/-- The code and text of a database error. -/
def databaseText (code : Nat) (text : Text) : Text :=
  "(code: ".toList ++ Text.ofNat code ++ ") ".toList ++ text

/-- What is said of a null. -/
def nullText : Text := "unexpected null; try decoding as an `Option`".toList

/-- The wording. -/
def message : StoreError → Text
  | .database code text => "error returned from database: ".toList ++ databaseText code text
  | .unexpectedNull column =>
    "error occurred while decoding column \"".toList ++ column ++ "\": ".toList ++ nullText
  | .undecodable column reason =>
    "error occurred while decoding column ".toList ++ Text.ofNat column ++ ": ".toList ++ reason
  | .settings reason => "error with configuration: ".toList ++ reason
  | .communication reason => "error communicating with database: ".toList ++ reason
  | .invalidData reason => "encountered unexpected or invalid data: ".toList ++ reason
  | .closed => "attempted to acquire a connection on a closed pool".toList
  | .definition table cause =>
    "failed to read definition of table `".toList ++ table ++ "`: ".toList ++ cause.message
  | .missingTable table => "table `".toList ++ table ++ "` does not exist".toList
  | .unsupported kind =>
    kind ++ " databases are not supported, use a `sqlite:` connection string".toList
  | .unknownDatabase url =>
    "failed to determine database type from connection string `".toList ++ url ++ ['`']

/-- The wordings of an error and of what lies behind it. -/
def chain (e : StoreError) : List Text :=
  e.message ::
    match e with
    | .database code text => [databaseText code text]
    | .unexpectedNull _ => [nullText]
    | .undecodable _ reason => [reason]
    | .settings reason => [reason]
    | .communication reason => [reason]
    | .definition _ cause => cause.chain
    | _ => []

end StoreError

/-- The schema of a store cannot be read. -/
structure IntrospectionError where
  cause : StoreError
  deriving Repr, DecidableEq

namespace IntrospectionError

/-- The wording. -/
def message (e : IntrospectionError) : Text :=
  "Failed to retrieve database schema: ".toList ++ e.cause.message

/-- The wordings of an error and of what lies behind it. -/
def chain (e : IntrospectionError) : List Text :=
  e.message :: e.cause.chain

/-- Nothing else can tell what the schema is. -/
def recovery (_ : IntrospectionError) : Recovery := .surface

end IntrospectionError

/-! ## Completions -/

/-- Why a provider's answer is of no use. -/
inductive CompletionError where
  /-- The provider has no credentials. -/
  | unconfigured (provider : Provider)
  /-- No answer arrived in time. -/
  | timeout (provider : Provider)
  /-- The provider refuses the credentials. -/
  | unauthorized (provider : Provider) (status : Nat)
  /-- The provider answers with an error. -/
  | api (provider : Provider) (status : Nat) (body : Text)
  /-- The request cannot be sent, or the connection breaks. -/
  | transport (provider : Provider) (reason : Text)
  /-- The answer is not of the expected form. -/
  | malformed (reason : Text)
  /-- The answer is empty. -/
  | empty
  deriving Repr, DecidableEq

namespace CompletionError

/-- The wording. -/
def message : CompletionError → Text
  | .unconfigured p => p.name ++ " is not configured".toList
  | .timeout p => p.name ++ " request timed out".toList
  | .unauthorized p status =>
    p.name ++ " rejected the credentials (".toList ++ Text.ofNat status ++ [')']
  | .api p status body =>
    p.name ++ " API error (".toList ++ Text.ofNat status ++ "): ".toList ++ body
  | .transport p reason => p.name ++ " request failed: ".toList ++ reason
  | .malformed reason => "malformed response: ".toList ++ reason
  | .empty => "empty response".toList

/-- The composer stands in for every provider. -/
def recovery (_ : CompletionError) : Recovery := .degrade

end CompletionError

/-- What keeps a request from being answered by a provider. -/
inductive GenerationError where
  | introspection (e : IntrospectionError)
  | completion (e : CompletionError)
  deriving Repr, DecidableEq

namespace GenerationError

/-- The wording. -/
def message : GenerationError → Text
  | .introspection e => e.message
  | .completion e => e.message

/-- Generation itself never fails its caller, so here a schema that cannot be read degrades
the answer, too. -/
def recovery : GenerationError → Recovery
  | .introspection _ => .degrade
  | .completion e => e.recovery

end GenerationError

/-! ## Execution -/

/-- Why a statement has no result. -/
inductive ExecutionError where
  /-- The statement is not read-only. -/
  | policyViolation
  /-- The store reports an error. -/
  | runtime (reason : Text)
  deriving Repr, DecidableEq

namespace ExecutionError

/-- The wording. -/
def message : ExecutionError → Text
  | .policyViolation => "Only SELECT queries are allowed for execution".toList
  | .runtime reason => "Query execution failed: ".toList ++ reason

/-- There is no other way to a result. -/
def recovery (_ : ExecutionError) : Recovery := .surface

end ExecutionError

/-! ## Configuration -/

/-- Why a setting has no meaning. -/
inductive ConfigError where
  | unknownProvider (setting : Text)
  | invalidTimeout (setting : Text)
  deriving Repr, DecidableEq

/-- The wording. -/
def ConfigError.message : ConfigError → Text
  | .unknownProvider setting =>
    "unknown LLM provider `".toList ++ setting ++ "`, expected `openai` or `gemini`".toList
  | .invalidTimeout setting =>
    "invalid timeout `".toList ++ setting ++ "`, expected a number of seconds".toList

end AskSql
