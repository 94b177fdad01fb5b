import AskSql.Schema.Basic
import AskSql.Text.Quoted

/-!
# Annotated schema text

A schema written down for a reader, one header line for each table and one indented line for
each of its columns:

    orders (
      id INTEGER [PK],
      user_id INTEGER [FK->users.id|accounts.id]
    )

Names that are not plain identifiers stand between double quotes. `AskSql.Schema.Outline` is
the reader of this text.
-/

namespace AskSql

/-- The target as `table.column`, each part quoted if it needs to be. -/
def ForeignKeyTarget.annotated (target : ForeignKeyTarget) : Text :=
  Text.quoteIdentifier target.table ++ '.' :: Text.quoteIdentifier target.column

/-- The annotations of a column: its primary-key mark, then the targets of its foreign keys
with `|` between them. -/
def Column.annotations (c : Column) : List Text :=
  (if c.primaryKey then ["PK".toList] else []) ++
    if c.targets.isEmpty then []
    else ["FK->".toList ++ Text.join ['|'] (c.targets.map (·.annotated))]

/-- The line of a column, without its indent and its comma. -/
def Column.annotated (c : Column) : Text :=
  Text.quoteIdentifier c.name ++
    (if c.typeName.isEmpty then [] else ' ' :: c.typeName) ++
    if c.annotations.isEmpty then []
    else " [".toList ++ Text.join ", ".toList c.annotations ++ [']']

/-- The lines of the columns, a comma after all but the last. -/
def Column.annotatedLines : List Column → Text
  | [] => []
  | [c] => "  ".toList ++ c.annotated ++ ['\n']
  | c :: rest => "  ".toList ++ c.annotated ++ ",\n".toList ++ annotatedLines rest

/-- A table: its header line, the lines of its columns and the closing line. -/
def Table.annotated (t : Table) : Text :=
  Text.quoteIdentifier t.name ++ " (\n".toList ++ Column.annotatedLines t.columns ++ ")\n".toList

/-- The annotated text of a schema. -/
def Schema.annotated (s : Schema) : Text :=
  s.tables.flatMap (·.annotated)

end AskSql
