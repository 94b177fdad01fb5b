import AskSql.Text.Quoted

/-!
# Select statements

The statements that the composer emits: a projection of one table, or of two tables joined on
one equality.
-/

namespace AskSql

/-- A column, with its table or without. -/
structure ColumnName where
  table : Option Text
  column : Text
  deriving Repr, DecidableEq

/-- The column name in SQL, each part quoted if it needs to be. -/
def ColumnName.sql (c : ColumnName) : Text :=
  (match c.table with
    | some table => Text.quoteIdentifier table ++ ['.']
    | none => []) ++ Text.quoteIdentifier c.column

/-- A join condition: two columns are equal. -/
structure Equality where
  left : ColumnName
  right : ColumnName
  deriving Repr, DecidableEq

/-- The condition in SQL. -/
def Equality.sql (e : Equality) : Text :=
  e.left.sql ++ " = ".toList ++ e.right.sql

/-- What a statement selects. -/
inductive Projection where
  /-- All columns. -/
  | everything
  /-- All columns of the named tables. -/
  | allOf (tables : List Text)
  /-- The number of rows, under an alias or without one. -/
  | count (alias? : Option Text)
  deriving Repr, DecidableEq

/-- The projection in SQL. -/
def Projection.sql : Projection → Text
  | .everything => ['*']
  | .allOf tables =>
    Text.join ", ".toList (tables.map fun t => Text.quoteIdentifier t ++ ".*".toList)
  | .count none => "COUNT(*)".toList
  | .count (some name) => "COUNT(*) AS ".toList ++ name

/-- A table joined on a condition. -/
structure Join where
  table : Text
  on : Equality
  deriving Repr, DecidableEq

/-- The join in SQL. -/
def Join.sql (j : Join) : Text :=
  " JOIN ".toList ++ Text.quoteIdentifier j.table ++ " ON ".toList ++ j.on.sql

/-- A statement that selects from one table or from a join of two. -/
structure Select where
  projection : Projection
  source : Text
  join? : Option Join := none
  deriving Repr, DecidableEq

namespace Select

/-- The statement with `table` joined on a condition, in place of any earlier join. -/
def join (s : Select) (table : Text) (on : Equality) : Select :=
  { s with join? := some ⟨table, on⟩ }

/-- The statement in SQL, without its terminator. -/
def body (s : Select) : Text :=
  "SELECT ".toList ++ s.projection.sql ++ " FROM ".toList ++ Text.quoteIdentifier s.source ++
    match s.join? with
    | some j => j.sql
    | none => []

/-- The statement in SQL. -/
def sql (s : Select) : Text :=
  s.body ++ [';']

end Select
end AskSql
