import AskSql.Database.Reader
import AskSql.Database.Shape

/-!
# Databases

A database as a value: the entries of its catalog in order, and the tables, views and indexes
that it knows. The two need not agree, for once the catalog may be edited, anything can be
entered there. Rows are kept in the order of their keys.
-/

namespace AskSql.Database

/-- An entry of the catalog. -/
structure Entry where
  type : Option Text
  name : Option Text
  table : Option Text
  rootPage : Value
  sql : Option Text
  deriving Repr, DecidableEq

/-- A row with the key that it is kept by: its number, or the values of its primary key. -/
structure KeyedRow where
  key : List Value
  values : List Value
  deriving Repr, DecidableEq

/-- A table with its rows. -/
structure StoredTable where
  name : Text
  shape : TableShape
  /-- The catalog does not list the table. -/
  temporary : Bool := false
  /-- The table only shows what is kept elsewhere. -/
  isVirtual : Bool := false
  rows : List KeyedRow := []
  deriving Repr, DecidableEq

/-- A view. -/
structure StoredView where
  name : Text
  /-- The names of its columns, if they are given. -/
  columns : List Text
  body : List Piece
  /-- The catalog does not list the view. -/
  temporary : Bool
  deriving Repr, DecidableEq

/-- An index that a statement has created. -/
structure StoredIndex where
  table : Text
  shape : IndexShape
  /-- The catalog does not list the index. -/
  temporary : Bool := false
  deriving Repr, DecidableEq

/-- What a database holds. -/
structure Contents where
  entries : List Entry := []
  tables : List StoredTable := []
  views : List StoredView := []
  /-- In the order in which they were created. -/
  indexes : List StoredIndex := []
  deriving Repr, DecidableEq

/-- What a database held at the start of a transaction. -/
structure Savepoint where
  /-- The name, if the transaction is within another one. -/
  name : Option Text
  contents : Contents
  deriving Repr, DecidableEq

end Database

/-- A database. -/
structure Database extends Database.Contents where
  /-- The catalog may be edited. -/
  editable : Bool := false
  /-- Rows have to have what their foreign keys point to. -/
  keysEnforced : Bool := true
  /-- The open transactions, the innermost first. -/
  savepoints : List Database.Savepoint := []
  deriving Repr, DecidableEq

namespace Database

open Text

/-- There is no such table. -/
def noTable (name : Text) : StoreError :=
  fault ("no such table: ".toList ++ name)

/-- There is no such column. -/
def noColumn (name : Text) : StoreError :=
  fault ("no such column: ".toList ++ name)

/-! ## Finding -/

/-- A name in front of another one stands for the whole database. -/
def isMain (schema : Text) : Bool :=
  equalsIgnoringCase schema "main".toList

/-- A name in front of another one stands for what is temporary. -/
def isTemp (schema : Text) : Bool :=
  equalsIgnoringCase schema "temp".toList

/-- Something may be meant by the name in front of a name, or without one. -/
def mayBe (schema : Option Text) (temporary : Bool) : Bool :=
  match schema with
  | none => true
  | some s => if temporary then isTemp s else isMain s

/-- The table of a name, whatever its case; a temporary one comes first. -/
def table? (db : Database) (schema : Option Text) (name : Text) : Option StoredTable :=
  let named := fun (t : StoredTable) => mayBe schema t.temporary && equalsIgnoringCase t.name name
  (db.tables.find? fun t => t.temporary && named t).or (db.tables.find? named)

/-- The view of a name, whatever its case; a temporary one comes first. -/
def view? (db : Database) (schema : Option Text) (name : Text) : Option StoredView :=
  let named := fun (v : StoredView) => mayBe schema v.temporary && equalsIgnoringCase v.name name
  (db.views.find? fun v => v.temporary && named v).or (db.views.find? named)

/-- The index of a name, whatever its case. -/
def index? (db : Database) (name : Text) : Option StoredIndex :=
  db.indexes.find? fun i => equalsIgnoringCase i.shape.name name

/-- The names under which the catalog can be read. -/
def isCatalogName (name : Text) : Bool :=
  ["sqlite_schema", "sqlite_master"].any fun n => equalsIgnoringCase n.toList name

/-- A name that only the database itself may give. -/
def isReserved (name : Text) : Bool :=
  equalsIgnoringCase (name.take 7) "sqlite_".toList

/-- A name with the name in front of it, if there is one. -/
def qualified (schema : Option Text) (name : Text) : Text :=
  match schema with
  | some s => s ++ '.' :: name
  | none => name

namespace StoredTable

/-- The indexes of a table, in the order in which they are tried: the newest first, and those
last that make room for new values. -/
def indexes (db : Database) (t : StoredTable) : List IndexShape :=
  let created := (db.indexes.filter fun i =>
    i.temporary == t.temporary && equalsIgnoringCase i.table t.name).map (·.shape)
  let all := (t.shape.indexes ++ created).reverse
  let replaces := fun (i : IndexShape) => i.unique == some .replace
  all.filter (!replaces ·) ++ all.filter replaces

/-- The number of a row. -/
def numberOf (row : KeyedRow) : Value :=
  row.key.headD .null

/-- The values of a row with its number behind them. -/
def valuesOf (row : KeyedRow) : List Value :=
  row.values ++ [numberOf row]

/-- The directions of the key that rows are kept by. -/
def keyDirections (t : StoredTable) : List Direction :=
  match t.shape.tableIndex? with
  | some i => TableShape.directions i
  | none => [{}]

/-- The number that follows the numbers of all rows. -/
def nextNumber (t : StoredTable) : Int :=
  match (t.rows.getLast?).map numberOf with
  | some (.integer k) => k + 1
  | _ => 1

end StoredTable

/-! ## The catalog -/

/-- The first page that no entry starts at. The first page of all is the catalog's own. -/
def freePage (db : Database) : Nat :=
  (((List.range (db.entries.length + 1)).map (· + 2)).find? fun (n : Nat) =>
    !db.entries.any fun e => e.rootPage == .integer n).getD 2

/-- The database with one more entry, which has a page of its own or none. -/
def enter (db : Database) (type : String) (name table : Text) (paged : Bool)
    (sql : Option Text) : Database :=
  let page := if paged then db.freePage else 0
  { db with
    entries := db.entries ++ [⟨some type.toList, some name, some table, .integer page, sql⟩] }

/-- The name of the index that the `n`th key of a table has. -/
def keyIndexName (table : Text) (n : Nat) : Text :=
  "sqlite_autoindex_".toList ++ table ++ '_' :: Text.ofNat n

/-- The table that counts the rows of other tables. -/
def sequenceName : Text := "sqlite_sequence".toList

/-- The database with a table that has no rows yet. -/
def addTable (db : Database) (t : StoredTable) (sql : Text) : Database :=
  let db := { db with tables := db.tables ++ [t] }
  if t.temporary then db
  else
    let db := db.enter "table" t.name t.name (!t.isVirtual) (some sql)
    let db := t.shape.listedIndexes.foldl
      (fun db i => db.enter "index" i.name t.name true none) db
    if t.shape.autoincrement && (db.table? none sequenceName).isNone then
      let counters : StoredTable :=
        { name := sequenceName, shape := .plain ["name".toList, "seq".toList] }
      { db with tables := db.tables ++ [counters] }.enter "table" sequenceName sequenceName true
        (some "CREATE TABLE sqlite_sequence(name,seq)".toList)
    else db

/-- The database with a changed table in place of the one of its name. -/
def replaceTable (db : Database) (t : StoredTable) : Database :=
  { db with
    tables := db.tables.map fun u =>
      if u.name = t.name ∧ u.temporary = t.temporary then t else u }

/-- The database without a table and whatever belongs to it. -/
def removeTable (db : Database) (t : StoredTable) : Database :=
  { db with
    entries := db.entries.filter fun e => t.temporary || e.table != some t.name
    tables := (db.tables.filter fun u =>
      !(u.temporary == t.temporary && equalsIgnoringCase u.name t.name)).map fun u =>
        if u.name = sequenceName then
          { u with rows := u.rows.filter fun r => r.values.head? != some (.text t.name) }
        else u
    indexes := db.indexes.filter fun i =>
      !(i.temporary == t.temporary && equalsIgnoringCase i.table t.name) }

/-- The columns of the catalog. -/
def catalogColumns : List ColumnShape :=
  [("type", "TEXT", Affinity.text), ("name", "TEXT", .text), ("tbl_name", "TEXT", .text),
    ("rootpage", "INT", .integer), ("sql", "TEXT", .text)].map fun (name, type, affinity) =>
      { name := name.toList, declaredType := type.toList, affinity }

/-- The catalog as a table. -/
def catalogTable (db : Database) : StoredTable where
  name := "sqlite_master".toList
  shape := { columns := catalogColumns }
  rows := (db.entries.zipIdx 1).map fun (e, n) =>
    { key := [.integer n]
      values := [.ofText? e.type, .ofText? e.name, .ofText? e.table, e.rootPage, .ofText? e.sql] }

end AskSql.Database
