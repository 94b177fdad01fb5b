import AskSql.Catalog.Definition
import AskSql.Sql.Name

/-!
# Table texts

What a `CREATE TABLE` statement says, taken apart into columns with options and table
constraints, and the table definition that it declares.

The names in a definition lose their quotes at both ends. The name of a table is what comes
after the last dot of its written name. A primary key is declared by the options of columns
first, by constraints after that; a name that repeats its predecessor counts once.
-/

namespace AskSql.Sql

/-- The target of a foreign key. -/
structure Reference where
  table : List Name
  columns : List Name
  deriving Repr, DecidableEq

/-- What a column is declared to be, as far as a definition shows it. -/
inductive ColumnOption where
  | nullable (b : Bool)
  | primaryKey
  | references (target : Reference)
  | other
  deriving Repr, DecidableEq

/-- A column with its type, written back, and its options. -/
structure ColumnText where
  name : Name
  declaredType : Text
  options : List ColumnOption
  deriving Repr, DecidableEq

/-- A constraint of a table, as far as a definition shows it. -/
inductive TableConstraint where
  | primaryKey (columns : List Name)
  | foreignKey (columns : List Name) (target : Reference)
  | other
  deriving Repr, DecidableEq

/-- A `CREATE TABLE` statement. -/
structure TableText where
  name : List Name
  columns : List ColumnText
  constraints : List TableConstraint
  deriving Repr, DecidableEq

namespace ColumnText

/-- The first option about null decides; a column may hold null if there is none. -/
def nullable (c : ColumnText) : Bool :=
  (c.options.findSome? fun
    | .nullable b => some b
    | _ => none).getD true

/-- The column as it is defined. -/
def definition (c : ColumnText) : ColumnDefinition :=
  .ofDeclared c.name.value c.declaredType c.nullable

/-- The primary keys that the column declares. -/
def primaryKeys (c : ColumnText) : List Text :=
  c.options.filterMap fun
    | .primaryKey => some c.name.value
    | _ => none

/-- The foreign keys that the column declares. One that names several columns is none. -/
def foreignKeys (c : ColumnText) : List ForeignKey :=
  c.options.filterMap fun
    | .references target =>
      if target.columns.length ≤ 1 then
        some ⟨c.name.value, Name.lastPart target.table, target.columns.head?.map Name.bare⟩
      else none
    | _ => none

end ColumnText

namespace TableConstraint

/-- The primary keys that a constraint declares. -/
def primaryKeys : TableConstraint → List Text
  | .primaryKey columns => columns.map Name.bare
  | _ => []

/-- The foreign keys that a constraint declares: column by column, as far as both sides
reach. -/
def foreignKeys : TableConstraint → List ForeignKey
  | .foreignKey columns target =>
    let table := Name.lastPart target.table
    if target.columns.isEmpty then columns.map fun c => ⟨c.bare, table, none⟩
    else (columns.zip target.columns).map fun (c, r) => ⟨c.bare, table, some r.bare⟩
  | _ => []

end TableConstraint

/-- `xs` without the elements that repeat their predecessor. -/
def dropRepeats : List Text → List Text
  | [] => []
  | [x] => [x]
  | x :: y :: xs => if x = y then dropRepeats (y :: xs) else x :: dropRepeats (y :: xs)

/-- The definition that a statement declares. -/
def TableText.definition (t : TableText) : TableDefinition where
  name := Name.lastPart t.name
  columns := t.columns.map (·.definition)
  primaryKeys :=
    dropRepeats (t.columns.flatMap (·.primaryKeys) ++ t.constraints.flatMap (·.primaryKeys))
  foreignKeys := t.columns.flatMap (·.foreignKeys) ++ t.constraints.flatMap (·.foreignKeys)

end AskSql.Sql
