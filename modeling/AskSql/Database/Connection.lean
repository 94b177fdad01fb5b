import AskSql.Database.Run
import AskSql.Sql.Statement
import AskSql.Store

/-!
# Connections

A connection to a database as a store. The catalog lists what the database has entered there, in
that order. A table is described by the text that the catalog has for it; where reading that text
ends with an error, by what the database itself knows of a table of this name. Reading a text may
panic, and then the table is not described at all.

Whatever a statement changes is seen by the next one: `Connection.run` gives back the connection
after a text, and the store of a connection answers for the moment at which it is taken.
-/

namespace AskSql.Database

/-- The kind of an object, by the type, name and text that the catalog has for it. -/
def objectKind (type name : Text) (sql : Option Text) : ObjectKind :=
  if type = "table".toList then
    if "sqlite_".toList.isPrefixOf name then .systemTable
    else if (sql.map fun s =>
        "CREATE VIRTUAL TABLE".toList.isPrefixOf (Text.upper (Text.trimStart s))).getD false then
      .virtualTable
    else .table
  else if type = "view".toList then .view
  else .other

/-- The object that an entry stands for. -/
def Entry.object (e : Entry) : Except StoreError CatalogObject :=
  match e.type, e.name with
  | none, _ => .error (.unexpectedNull "type".toList)
  | _, none => .error (.unexpectedNull "name".toList)
  | some type, some name => .ok ⟨name, objectKind type name e.sql⟩

/-- The objects that entries stand for. -/
def objectsOf : List Entry → Except StoreError (List CatalogObject)
  | [] => .ok []
  | e :: es => do
    let o ← e.object
    let os ← objectsOf es
    return o :: os

/-- What the database itself knows of a table, unless it knows no column of it. -/
def ownDefinition? (db : Database) (name : Text) : Option TableDefinition :=
  match db.table? none name with
  | none => none
  | some t =>
    let d := t.shape.definition name
    if d.columns.isEmpty then none else some d

/-- The definition of the table of a name, unless reading its text panics. -/
def describe? (db : Database) (wording : Sql.Wording) (name : Text) :
    Option (Except StoreError TableDefinition) :=
  match db.entries.find? fun e => e.type = some "table".toList ∧ e.name = some name with
  | some ⟨_, _, _, _, some sql⟩ =>
    match Sql.readTable sql with
    | .ok d => some (.ok d)
    | .error reason =>
      (reason.error? wording sql).map fun cause =>
        match db.ownDefinition? name with
        | some d => .ok d
        | none => .error (.definition name cause)
  | _ => some (.error (.missingTable name))

end AskSql.Database

namespace AskSql

/-- A connection to a database. -/
inductive Connection where
  | live (db : Database)
  /-- Whatever is asked of it, the answer is the same error. -/
  | dead (e : StoreError)
  deriving Repr, DecidableEq

namespace Connection

/-- A connection to a new database. -/
def fresh : Connection := .live {}

/-- A connection that has been closed. -/
def closed : Connection := .dead .closed

/-- A connection to a file that holds no database. Only the first statement finds out. -/
def withoutDatabase : Connection :=
  .dead (.database 26 "file is not a database".toList)

/-- Runs a text: the records of its statements, and the connection after them. -/
def run : Connection → Text → Except StoreError (List Database.Record) × Connection
  | .live db, sql =>
    let (records, db) := db.run sql
    (records, .live db)
  | .dead e, _ => (.error e, .dead e)

/-- The connection after some texts. -/
def runAll (c : Connection) (statements : List Text) : Connection :=
  statements.foldl (fun c sql => (c.run sql).2) c

/-- The rows of a text. -/
def fetch (c : Connection) (sql : Text) : Except StoreError (List Row) :=
  match (c.run sql).1 with
  | .ok records => Database.Record.decodeAll records
  | .error e => .error e

/-- The connection as a store. -/
def toStore (c : Connection) (wording : Sql.Wording) : PartialStore where
  objects :=
    match c with
    | .live db => Database.objectsOf db.entries
    | .dead e => .error e
  describe? name :=
    match c with
    | .live db => db.describe? wording name
    | .dead e => some (.error e)
  fetch := c.fetch

end Connection
end AskSql
