import AskSql.Failure
import AskSql.Sql.Statement

/-!
# Prompts and completions

What a provider is told, and what is made of its answer: code fences go, blanks around the rest
go, and a semicolon ends it. What is empty then, holds several statements or is no sequence of
tokens is refused.
-/

namespace AskSql

/-- What every request starts with. -/
def systemPrompt : Text :=
  ("You are an expert SQL assistant. Convert natural language queries to optimized, " ++
    "syntactically correct SQL for the provided relational schema. Schema format: TABLE " ++
    "(column TYPE [annotations]) where annotations can indicate PK primary keys and FK " ++
    "foreign key relationships. When multiple tables are referenced, infer JOINs using " ++
    "foreign key relationships. Prefer explicit JOIN syntax. Return ONLY the SQL query " ++
    "(single statement) ending with a semicolon. Do not include backticks, markdown, or " ++
    "explanations.").toList

/-- What every request ends with. -/
def constraints : Text :=
  ("Constraints: Only one SQL statement; choose only relevant columns; include necessary " ++
    "JOINs and filters; use table aliases; if aggregation requested include GROUP BY; if " ++
    "counting return COUNT with meaningful alias.").toList

/-- The request of a user about a schema. -/
def userPrompt (request schemaText : Text) : Text :=
  "Database Schema:\n".toList ++ schemaText ++ "\n\nUser Request: ".toList ++ request ++
    "\n\n".toList ++ constraints

/-! ## Completions -/

/-- The mark of a code fence. -/
def fence : Text := "```".toList

/-- The mark of a code fence that names SQL. -/
def sqlFence : Text := "```sql".toList

/-- A completion without code fences and the blanks around it. -/
def unfenced (raw : Text) : Text :=
  Text.trim (Text.replaceAll fence [] (Text.replaceAll sqlFence [] raw))

/-- A statement with its terminator. -/
def terminated (sql : Text) : Text :=
  if sql.getLast? = some ';' then sql else sql ++ [';']

/-- A terminated statement, or why it is none. -/
def checkStatement (sql : Text) : Except CompletionError Text :=
  match Sql.countStatements sql with
  | .error e => .error (.malformed e.message)
  | .ok n =>
    if n > 1 then
      .error (.malformed ("expected a single statement, got ".toList ++ Text.ofNat n))
    else .ok sql

/-- The statement in a completion. -/
def normalizeSql (raw : Text) : Except CompletionError Text :=
  let sql := unfenced raw
  if Text.isBlankText (Text.dropEndWhile (· == ';') sql) then .error .empty
  else checkStatement (terminated sql)

end AskSql
