import AskSql.Program
import AskSql.Text.Case

/-!
# Execution

Statements are run only if they look like queries: trimmed and upper-cased, they have to start
with `SELECT`. That is all the gate asks; comments in front of a statement and statements after
it are not looked for. What goes wrong is part of the result.
-/

namespace AskSql

/-- The result of a statement. -/
structure ExecutionResult where
  success : Bool
  rows : Option (List Row)
  rowCount : Nat
  error : Option Text

namespace ExecutionResult

/-- The result of a statement that returned rows. -/
def succeeded (rows : List Row) : ExecutionResult :=
  ⟨true, some rows, rows.length, none⟩

/-- The result of a statement that failed or was not run. -/
def failed (e : ExecutionError) : ExecutionResult :=
  ⟨false, none, 0, some e.message⟩

end ExecutionResult

/-- The gate: the trimmed, upper-cased statement starts with `SELECT`. -/
def isReadOnly (sql : Text) : Bool :=
  "SELECT".toList.isPrefixOf (Text.upper (Text.trim sql))

namespace Execution

open Program

/-- Asks a store for the rows of a statement, if it passes the gate. -/
def rows (sql : Text) : Program (Except ExecutionError (List Row)) :=
  if isReadOnly sql then do
    match ← fetch sql with
    | .ok rows => return .ok rows
    | .error e => return .error (.runtime e.message)
  else return .error .policyViolation

/-- Asks a store for the result of a statement. -/
def result (sql : Text) : Program ExecutionResult := do
  match ← rows sql with
  | .ok rows => return .succeeded rows
  | .error e => return .failed e

end Execution
end AskSql
