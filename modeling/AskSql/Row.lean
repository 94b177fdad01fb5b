import AskSql.Json.Basic

/-!
# Rows

A row of a result: named values. A name occurs once; a value for a name that is there already
takes the place of the earlier one.
-/

namespace AskSql

/-- Values by column name, in order. -/
abbrev Row := List (Text × Json)

namespace Row

/-- The row with the value of a column set. -/
def insert (name : Text) (value : Json) : Row → Row
  | [] => [(name, value)]
  | (n, v) :: row => if n = name then (n, value) :: row else (n, v) :: insert name value row

/-- The row of some values by column, in the order of the columns. -/
def ofPairs (pairs : List (Text × Json)) : Row :=
  pairs.foldl (fun row (name, value) => row.insert name value) []

/-- The row as a JSON object. -/
def toJson (row : Row) : Json :=
  .object row

end Row
end AskSql
