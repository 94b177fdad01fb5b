import AskSql.Service.Envelope

/-!
# The service

The operations on a store: converting a request into SQL, running that SQL through the gate,
and telling the schema. Each operation is a program. Carried out on a store, with a provider behind
an endpoint, it gives its response and the calls that it has made for it. A run is a row of
operations; the store and the other side may be different ones each time.
-/

namespace AskSql.Service

/-- What the service says when it works. -/
def healthMessage : Text := "QueryMind AI is running!".toList

/-- What a request without words is told. -/
def emptyText : Text := "Text cannot be empty".toList

/-! ## Programs -/

section

variable (strategy : Strategy) (r : QueryRequest)

/-- Generates SQL for a request, if it has words. -/
def generation? : Program (Option Generated) :=
  match r.words? with
  | some words => return some (← Generation.generating strategy words r.schemaText)
  | none => return none

/-- The response to a request for SQL. -/
def conversion : Option Generated → Response QueryResponse
  | none => ⟨.badRequest, ⟨none, none, false, some emptyText⟩⟩
  | some g =>
    ⟨.ok, ⟨some g.query.sql, some g.query.explanation, g.query.success, g.query.error⟩⟩

/-- Answers a request for data, for which SQL has been generated. -/
def execution : Option Generated → Program (Response DataResponse)
  | none => return ⟨.badRequest, ⟨none, none, false, some emptyText, none, 0, false⟩⟩
  | some g => do
    let result ← Execution.result g.query.sql
    return ⟨.ok,
      { sql := some g.query.sql
        explanation := some g.query.explanation
        success := result.success
        error := result.error
        data := result.rows
        rowCount := result.rowCount
        executed := true }⟩

/-- Answers a request for SQL. -/
def converting : Program (Response QueryResponse) :=
  return conversion (← generation? strategy r)

/-- Answers a request for data. -/
def executing : Program (Response DataResponse) := do
  execution (← generation? strategy r)

/-- Tells the schema of a store. -/
def telling : Program (Except IntrospectionError SchemaResponse) := do
  match ← Introspection.schema with
  | .ok s => return .ok ⟨s, s.size, s.annotated⟩
  | .error e => return .error e

end

/-! ## Operations -/

/-- An operation. -/
inductive Step where
  | convert (r : QueryRequest)
  | convertAndExecute (r : QueryRequest)
  | schema
  | health
  deriving Repr, DecidableEq

/-- The response to an operation. -/
inductive Answer where
  | converted (r : Response QueryResponse)
  | executed (r : Response DataResponse)
  | schema (r : Except IntrospectionError SchemaResponse)
  | health (message : Text)

/-- The program of an operation. -/
def Step.program (strategy : Strategy) : Step → Program Answer
  | .convert r => return .converted (← converting strategy r)
  | .convertAndExecute r => return .executed (← executing strategy r)
  | .schema => return .schema (← telling)
  | .health => return .health healthMessage

section

variable (strategy : Strategy) (store : Store) (endpoint : Endpoint)

/-- Converts a request into SQL. -/
def convert (r : QueryRequest) : Effect (Response QueryResponse) :=
  (converting strategy r).run (store.answers endpoint)

/-- Converts a request into SQL and runs it. -/
def convertAndExecute (r : QueryRequest) : Effect (Response DataResponse) :=
  (executing strategy r).run (store.answers endpoint)

/-- Carries out an operation. -/
def perform (step : Step) : Effect Answer :=
  (step.program strategy).run (store.answers endpoint)

end

/-! ## Runs -/

/-- Carries out a row of operations, each on the store and the other side of its moment. -/
def run (strategy : Strategy) (steps : List (Store × Endpoint × Step)) : List (Effect Answer) :=
  steps.map fun (store, endpoint, step) => perform strategy store endpoint step

/-- The statements handed to a store in a run, in order. -/
def log (strategy : Strategy) (steps : List (Store × Endpoint × Step)) : List Text :=
  (run strategy steps).flatMap (·.executed)

end AskSql.Service
