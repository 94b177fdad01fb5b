import AskSql.Catalog.Definition
import AskSql.Database.Affinity
import AskSql.Database.Syntax

/-!
# Shapes of tables

What the database knows about a table from the statement that made it: its columns, its keys and
indexes, and what its rows have to satisfy. Expressions are kept as they are written.

`TableShape.definition` is what the database itself reports of a table: declared types as they
are written, and foreign keys with the last declared first.
-/

namespace AskSql.Database

/-- How a column is computed from others. -/
structure Generation where
  pieces : List Piece
  /-- The value is kept, and not computed when it is asked for. -/
  stored : Bool
  deriving Repr, DecidableEq

/-- A column. -/
structure ColumnShape where
  name : Text
  /-- The type as it is written, or the name of a standard type in upper case. -/
  declaredType : Text
  affinity : Affinity
  collation : Collation := .binary
  /-- What becomes of a null, if the column takes none. -/
  notNull : Option Conflict := none
  /-- The value of a row that gives none. -/
  default : Option (List Piece) := none
  /-- The column is computed from others. -/
  generated : Option Generation := none
  deriving Repr, DecidableEq

/-- A column of an index. -/
structure IndexColumn where
  /-- The place of the column in its table; nothing for an expression. -/
  place : Option Nat
  pieces : List Piece := []
  direction : Direction
  deriving Repr, DecidableEq

/-- An index. -/
structure IndexShape where
  name : Text
  columns : List IndexColumn
  /-- What becomes of values that are there already, if they may occur only once. -/
  unique : Option Conflict
  /-- The index is made for the primary key. -/
  isPrimary : Bool := false
  /-- Only rows that satisfy this are in the index. -/
  condition : Option (List Piece) := none
  deriving Repr, DecidableEq

/-- A condition that each row has to satisfy. -/
structure CheckShape where
  /-- Its name, or how it is written. -/
  label : Text
  pieces : List Piece
  deriving Repr, DecidableEq

/-- What becomes of a row when the row that it points to goes. -/
inductive KeyAction where
  | nothing
  | restrict
  | clear
  | reset
  | cascade
  deriving Repr, DecidableEq

/-- A foreign key. Without target columns it points to the primary key of its target. -/
structure KeyShape where
  columns : List Text
  target : Text
  targetColumns : List Text
  onDelete : KeyAction := .nothing
  onUpdate : KeyAction := .nothing
  /-- The key is looked at when the transaction ends. -/
  deferred : Bool := false
  deriving Repr, DecidableEq

/-- What the database knows about a table. -/
structure TableShape where
  columns : List ColumnShape := []
  primaryKey : List Text := []
  /-- The column that holds the number of a row, if one does. -/
  rowNumber : Option Text := none
  /-- What becomes of a row whose number is there already. -/
  rowConflict : Conflict := .abort
  /-- The indexes that the keys of the table have, in order of declaration. -/
  indexes : List IndexShape := []
  /-- In order of declaration. -/
  foreignKeys : List KeyShape := []
  checks : List CheckShape := []
  autoincrement : Bool := false
  /-- Rows have no number; the primary key tells them apart. -/
  withoutRowNumber : Bool := false
  /-- Columns take no values of other types. -/
  strict : Bool := false
  deriving Repr, DecidableEq

namespace TableShape

/-- The place of a column in a row. -/
def place? (shape : TableShape) (column : Text) : Option Nat :=
  shape.columns.findIdx? fun c => Text.equalsIgnoringCase c.name column

/-- The columns of a foreign key, each as a key of its own. -/
def split (key : KeyShape) : List ForeignKey :=
  if key.targetColumns.isEmpty then key.columns.map fun c => ⟨c, key.target, none⟩
  else (key.columns.zip key.targetColumns).map fun (c, t) => ⟨c, key.target, some t⟩

/-- What the database reports of the table `name`. -/
def definition (shape : TableShape) (name : Text) : TableDefinition where
  name
  columns := (shape.columns.filter (·.generated.isNone)).map fun c =>
    .ofDeclared c.name c.declaredType c.notNull.isNone
  primaryKeys := Text.distinct shape.primaryKey
  foreignKeys := shape.foreignKeys.reverse.flatMap split

/-- The place of the column that holds the number of a row. -/
def rowNumberPlace? (shape : TableShape) : Option Nat :=
  shape.rowNumber.bind shape.place?

/-- The index of the primary key of a table without row numbers, which is the table itself. -/
def tableIndex? (shape : TableShape) : Option IndexShape :=
  if shape.withoutRowNumber then shape.indexes.find? (·.isPrimary) else none

/-- The indexes of keys that have an entry of their own in the catalog. -/
def listedIndexes (shape : TableShape) : List IndexShape :=
  if shape.withoutRowNumber then shape.indexes.filter (!·.isPrimary) else shape.indexes

/-- What the row of a table is ordered by, place by place. -/
def directions (index : IndexShape) : List Direction :=
  index.columns.map (·.direction)

/-- A shape of columns without types. -/
def plain (names : List Text) : TableShape where
  columns := names.map fun n => { name := n, declaredType := [], affinity := .blob }

end TableShape

/-! ## Widths -/

/-- The number that a text begins with after characters that are no digits. -/
def firstNumber (s : Text) : Nat :=
  Text.appendDigits 0 ((s.dropWhile (!Text.isAsciiDigit ·)).takeWhile Text.isAsciiDigit)

/-- What follows the last occurrence of a text in another, if there is one. -/
def afterLast? (needle : Text) : Text → Option Text
  | [] => none
  | c :: s => (afterLast? needle s).or (Text.dropPrefix? needle (c :: s))

/-- The width that the values of a column are taken to have, where an integer counts one. -/
def ColumnShape.width (c : ColumnShape) : Nat :=
  let type := c.declaredType.map Char.toUpper
  if type.isEmpty then 1
  else if ["BLOB".toList, "TEXT".toList].contains type then 5
  else if c.affinity == .text || c.affinity == .blob then
    let sized := (afterLast? "CHAR".toList type).or (afterLast? "BLOB(".toList type)
    match sized with
    | some rest => min 255 (firstNumber rest / 4 + 1)
    | none => 5
  else 1

/-- The width that a row is taken to have. -/
def TableShape.width (shape : TableShape) : Nat :=
  sumOf (shape.columns.map ColumnShape.width) + if shape.rowNumber.isNone then 1 else 0

/-- The width that a column of an index is taken to have. -/
def TableShape.keyWidth (shape : TableShape) (c : IndexColumn) : Nat :=
  ((c.place.bind (shape.columns[·]?)).map ColumnShape.width).getD 1

/-- The columns of the primary key that an index of a table without row numbers holds after its
own. -/
def TableShape.keyRest (shape : TableShape) (index : IndexShape) : List IndexColumn :=
  let holds := fun (c : IndexColumn) => index.columns.any fun d =>
    d.place == c.place && d.direction.collation == c.direction.collation
  match shape.tableIndex? with
  | some primary => if index.isPrimary then [] else primary.columns.filter (!holds ·)
  | none => []

/-- The width that an entry of an index is taken to have: with the number of the row, or what
stands for it, or with the whole row. -/
def TableShape.indexWidth (shape : TableShape) (index : IndexShape) : Nat :=
  let own := sumOf (index.columns.map shape.keyWidth)
  if !shape.withoutRowNumber then own + 1
  else if index.isPrimary then
    let kept := shape.columns.filter fun c => (c.generated.map (·.stored)).getD true
    sumOf (kept.map ColumnShape.width)
  else own + sumOf ((shape.keyRest index).map shape.keyWidth)

end AskSql.Database
