import AskSql.Catalog.Introspection
import AskSql.Completion.Reply
import AskSql.Composer
import AskSql.Prompt
import AskSql.Schema.Annotated

/-!
# Generation

From a request in plain words to SQL. The schema is the one that comes with the request, or
else the one of the store. A provider is asked; whatever fails on the way to a usable answer,
the composer answers instead, and the explanation tells why.
-/

namespace AskSql

/-- SQL for a request. -/
structure GeneratedQuery where
  sql : Text
  explanation : Text
  success : Bool
  error : Option Text
  deriving Repr, DecidableEq

/-- A query that was generated. There is no other kind. -/
def GeneratedQuery.generated (sql explanation : Text) : GeneratedQuery :=
  ⟨sql, explanation, true, none⟩

/-- Where the schema of a request comes from. -/
inductive SchemaSource where
  | supplied
  | detected
  deriving Repr, DecidableEq

/-- The wording. -/
def SchemaSource.name : SchemaSource → Text
  | .supplied => "supplied".toList
  | .detected => "auto-detected".toList

/-- A generated query, with what kept a provider from answering. -/
structure Generated where
  query : GeneratedQuery
  failure : Option GenerationError

namespace Generation

open Program

/-- The explanation of an answer by the composer. -/
def fallbackExplanation : GenerationError → Text
  | .completion (.unconfigured p) =>
    "Generated using heuristic pattern matching (".toList ++ p.name ++
      " is not configured)".toList
  | e => "Fallback to heuristic generation due to error: ".toList ++ e.message

/-- The answer by the composer. -/
def recover (request schemaText : Text) (failure : GenerationError) : Generated :=
  ⟨.generated (compose request schemaText) (fallbackExplanation failure), some failure⟩

/-- The explanation of an answer by a provider. -/
def explanation (strategy : Strategy) (source : SchemaSource) : Text :=
  "Generated using ".toList ++ strategy.provider.name ++ " (".toList ++
    strategy.model?.getD [] ++ ") with ".toList ++ source.name ++ " schema".toList

/-- The schema text for a request, and where it comes from. A store is asked for its schema if
none comes with the request. -/
def schemaText (supplied : Option Text) :
    Program (Except IntrospectionError (Text × SchemaSource)) :=
  match supplied.filter fun s => !Text.isBlankText s with
  | some s => return .ok (s, .supplied)
  | none => do
    match ← Introspection.schema with
    | .ok schema => return .ok (schema.annotated, .detected)
    | .error e => return .error e

/-- Asks a provider for a statement: a completion that is one. -/
def statement (strategy : Strategy) (request schemaText : Text) :
    Program (Except CompletionError Text) := do
  match ← strategy.complete systemPrompt (userPrompt request schemaText) with
  | .ok raw => return normalizeSql raw
  | .error e => return .error e

/-- Generates SQL for a request, about the schema text that comes with it or the one of a store. -/
def generating (strategy : Strategy) (request : Text) (supplied : Option Text) :
    Program Generated := do
  match ← schemaText supplied with
  | .error e => return recover request [] (.introspection e)
  | .ok (schemaText, source) =>
    match ← statement strategy request schemaText with
    | .ok sql => return ⟨.generated sql (explanation strategy source), none⟩
    | .error e => return recover request schemaText (.completion e)

end Generation

/-- A generated query, with what kept a provider from answering and the requests sent. -/
structure Generation extends Generated where
  sent : List Request

/-- What is generated for a request, with a catalog and a provider behind an endpoint. -/
def generate (strategy : Strategy) (catalog : Catalog) (endpoint : Endpoint) (request : Text)
    (supplied : Option Text) : Generation :=
  let answers := (Store.ofCatalog catalog).answers endpoint
  let e := (Generation.generating strategy request supplied).run answers
  ⟨e.value, e.sent⟩

end AskSql
