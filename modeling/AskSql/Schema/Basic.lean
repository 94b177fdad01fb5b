import AskSql.Text.Basic

/-!
# Schemas

The tables of a database as the rest of the library sees them: named columns with a type, a
primary-key mark and the targets of the foreign keys they hold, in discovery order.
-/

namespace AskSql

/-- What a foreign key points to. -/
structure ForeignKeyTarget where
  table : Text
  column : Text
  deriving Repr, DecidableEq

/-- The target as `table.column`, without quotes. -/
def ForeignKeyTarget.display (target : ForeignKeyTarget) : Text :=
  target.table ++ '.' :: target.column

/-- A column of a table. The type is named as the store names it; `size` is `0` if the type
has none. -/
structure Column where
  name : Text
  typeName : Text
  size : Nat
  nullable : Bool
  primaryKey : Bool
  targets : List ForeignKeyTarget
  deriving Repr, DecidableEq

/-- A table with its columns in order. -/
structure Table where
  name : Text
  columns : List Column
  deriving Repr, DecidableEq

/-- The first column called `name`. -/
def Table.column? (t : Table) (name : Text) : Option Column :=
  t.columns.find? (·.name == name)

/-- Tables in discovery order. -/
structure Schema where
  tables : List Table
  deriving Repr, DecidableEq

namespace Schema

/-- The first table called `name`. -/
def table? (s : Schema) (name : Text) : Option Table :=
  s.tables.find? (·.name == name)

/-- The names of the tables. -/
def tableNames (s : Schema) : List Text :=
  s.tables.map (·.name)

/-- The number of tables. -/
def size (s : Schema) : Nat :=
  s.tables.length

/-- A schema without tables. -/
def isEmpty (s : Schema) : Bool :=
  s.tables.isEmpty

end Schema
end AskSql
