import AskSql.Text.Numeral

/-!
# Table definitions

What a store knows about one table: its columns, its primary key and its foreign keys, each in
the order of their declaration.
-/

namespace AskSql

/-- A foreign key of one column. Without a target column it points to the primary key of its
target. -/
structure ForeignKey where
  column : Text
  targetTable : Text
  targetColumn : Option Text
  deriving Repr, DecidableEq

/-- A column as it is defined. -/
structure ColumnDefinition where
  name : Text
  /-- The declared type without its arguments. -/
  typeName : Text
  /-- The first argument of the declared type, or `0`. -/
  size : Nat
  nullable : Bool
  deriving Repr, DecidableEq

namespace ColumnDefinition

/-- A declared type as its name and its size. The size is the first argument of the type, if
that is a number of 32 bits. -/
def splitType (declared : Text) : Text × Nat :=
  match Text.breakAt? '(' declared with
  | none => (Text.trim declared, 0)
  | some (name, arguments) =>
    let first := arguments.takeWhile fun c => c != ',' && c != ')'
    (Text.trim name, (Text.unsigned? Text.maxUInt32 (Text.trim first)).getD 0)

/-- The column with a type as it is declared. -/
def ofDeclared (name declaredType : Text) (nullable : Bool) : ColumnDefinition :=
  let (typeName, size) := splitType declaredType
  ⟨name, typeName, size, nullable⟩

end ColumnDefinition

/-- A table as it is defined. -/
structure TableDefinition where
  name : Text
  columns : List ColumnDefinition
  primaryKeys : List Text
  foreignKeys : List ForeignKey
  deriving Repr, DecidableEq

/-- The first column called `name`. -/
def TableDefinition.column? (t : TableDefinition) (name : Text) : Option ColumnDefinition :=
  t.columns.find? (·.name == name)

end AskSql
