import AskSql.Execution
import AskSql.Generation
import AskSql.Json.Parser
import AskSql.Schema.Annotated

/-!
# Envelopes

The requests and responses of the service, and how they are written as JSON. A schema is an
object with a member for each table, so two tables of one name make two members of one name.
-/

namespace AskSql

/-! ## Values -/

/-- A target as a string. -/
def ForeignKeyTarget.toJson (target : ForeignKeyTarget) : Json :=
  .string target.display

/-- A column as an object. -/
def Column.toJson (c : Column) : Json :=
  .object [
    ("name".toList, .string c.name),
    ("type".toList, .string c.typeName),
    ("size".toList, .natural c.size),
    ("nullable".toList, .bool c.nullable),
    ("primaryKey".toList, .bool c.primaryKey),
    ("foreignKeyTargets".toList, .array (c.targets.map (·.toJson)))]

/-- The columns of a table. -/
def Table.toJson (t : Table) : Json :=
  .array (t.columns.map (·.toJson))

/-- A schema as an object of its tables. -/
def Schema.toJson (s : Schema) : Json :=
  .object (s.tables.map fun t => (t.name, t.toJson))

/-- Rows, or `null` if there are none to show. -/
def rowsToJson : Option (List Row) → Json
  | some rows => .array (rows.map (·.toJson))
  | none => .null

/-- The result of a statement as an object. -/
def ExecutionResult.toJson (r : ExecutionResult) : Json :=
  .object [
    ("success".toList, .bool r.success),
    ("rows".toList, rowsToJson r.rows),
    ("rowCount".toList, .natural r.rowCount),
    ("error".toList, .ofOption r.error)]

/-- A generated query as an object. -/
def GeneratedQuery.toJson (q : GeneratedQuery) : Json :=
  .object [
    ("sqlText".toList, .string q.sql),
    ("explanation".toList, .string q.explanation),
    ("success".toList, .bool q.success),
    ("error".toList, .ofOption q.error)]

/-! ## Requests -/

/-- A request in plain words, possibly with the schema text that it is about. -/
structure QueryRequest where
  text : Option Text
  schemaText : Option Text
  deriving Repr, DecidableEq

namespace QueryRequest

/-- The words of a request, unless they are missing or blank. -/
def words? (r : QueryRequest) : Option Text :=
  r.text.filter fun s => !Text.isBlankText s

/-- A field of a request. -/
def field? : Option Json.Document → Option (Option Text)
  | none => some none
  | some d => d.optionalText?

/-- The request that a JSON text stands for. -/
def parse? (s : Text) : Option QueryRequest := do
  let d ← Json.Document.parse? s
  match d.record? ["text".toList, "databaseSchema".toList] 2 with
  | some [text, schemaText] => some ⟨← field? text, ← field? schemaText⟩
  | _ => none

end QueryRequest

/-! ## Responses -/

/-- The status of a response. -/
inductive Status where
  | ok
  | badRequest
  deriving Repr, DecidableEq

/-- A response with its status. -/
structure Response (α : Type) where
  status : Status
  body : α

/-- SQL for a request. -/
structure QueryResponse where
  sql : Option Text
  explanation : Option Text
  success : Bool
  error : Option Text
  deriving Repr, DecidableEq

/-- The response as an object. -/
def QueryResponse.toJson (r : QueryResponse) : Json :=
  .object [
    ("sqlQuery".toList, .ofOption r.sql),
    ("explanation".toList, .ofOption r.explanation),
    ("success".toList, .bool r.success),
    ("error".toList, .ofOption r.error)]

/-- SQL for a request, with its result. -/
structure DataResponse where
  sql : Option Text
  explanation : Option Text
  success : Bool
  error : Option Text
  data : Option (List Row)
  rowCount : Nat
  executed : Bool

/-- The response as an object. -/
def DataResponse.toJson (r : DataResponse) : Json :=
  .object [
    ("sqlQuery".toList, .ofOption r.sql),
    ("explanation".toList, .ofOption r.explanation),
    ("success".toList, .bool r.success),
    ("error".toList, .ofOption r.error),
    ("data".toList, rowsToJson r.data),
    ("rowCount".toList, .natural r.rowCount),
    ("executed".toList, .bool r.executed)]

/-- A schema as tables and as text. -/
structure SchemaResponse where
  schema : Schema
  tableCount : Nat
  text : Text
  deriving Repr, DecidableEq

/-- The response as an object. -/
def SchemaResponse.toJson (r : SchemaResponse) : Json :=
  .object [
    ("tables".toList, r.schema.toJson),
    ("tableCount".toList, .natural r.tableCount),
    ("schemaString".toList, .string r.text)]

end AskSql
