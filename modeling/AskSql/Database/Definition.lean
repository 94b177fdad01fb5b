import AskSql.Database.Change.Terms
import AskSql.Database.Grammar.Statement
import AskSql.Text.Quoted

/-!
# Definitions

What the statements that define something add to a database, and what is wrong with them beyond
their grammar. A table that holds what a query gives is described in the catalog by a text of the
database's own.
-/

namespace AskSql.Database

open Text

/-! ## Names -/

/-- A name whose database is told is in one that there is. -/
def checkSchema (n : NewName) : Except StoreError Unit :=
  match n.schema with
  | none => .ok ()
  | some s =>
    if !isMain s && !isTemp s then .error (fault ("unknown database ".toList ++ s))
    else if n.temporary && !isTemp s then
      .error (fault "temporary table name must be unqualified".toList)
    else .ok ()

/-- A name may be given to something. -/
def checkName (db : Database) (n : NewName) : Except StoreError Unit :=
  if isReserved n.name && !db.editable then
    .error (fault ("object name reserved for internal use: ".toList ++ n.name))
  else .ok ()

/-- The database that a name is defined in. -/
def NewName.place (n : NewName) : Option Text :=
  some (if n.temporary then "temp" else "main").toList

/-- The index of a name, whatever its case, keys of tables included. -/
def hasIndex (db : Database) (n : NewName) : Bool :=
  let named := fun (i : Text) => equalsIgnoringCase i n.name
  (db.indexes.any fun i => i.temporary == n.temporary && named i.shape.name) ||
    db.tables.any fun t => t.temporary == n.temporary && t.shape.indexes.any fun i => named i.name

/-- Whether a table or a view is to be defined under a name: it is a fault if the name is taken
and the statement does not ask for nothing to be done then. -/
def isFree (db : Database) (n : NewName) : Except StoreError Bool := do
  checkSchema n
  db.checkName n
  let taken := if (db.table? n.place n.name).isSome then some "table"
    else if (db.view? n.place n.name).isSome then some "view" else none
  match taken with
  | some kind =>
    if n.unlessThere then return false
    else throw (fault (kind.toList ++ ' ' :: n.written ++ " already exists".toList))
  | none =>
    if db.hasIndex n then throw (fault ("there is already an index named ".toList ++ n.name))
    else return true

/-! ## Tables -/

/-- What a table computes from its rows can be looked up. -/
def checkShape (db : Database) (t : StoredTable) : Except StoreError Unit := do
  let _ ← checkTerms db t
  let generated ← generatedTerms db t
  if !generated.isEmpty then
    if generated.length = t.shape.columns.length then
      throw (fault "must have at least one non-generated column".toList)
    match loop? generated with
    | some e => throw e
    | none => pure ()

/-- The database with a table. -/
def createTable (db : Database) (n : NewName) (d : Draft) (o : Grammar.TableOptions)
    (sql : Text) : Except StoreError Database := do
  let shape ← d.complete o.withoutRowNumber o.strict
  let t : StoredTable := { name := n.name, shape, temporary := n.temporary }
  checkShape db t
  return db.addTable t sql

/-! ## Tables from queries -/

/-- The words that are no plain names where a table is described, besides the reserved ones. -/
def specialWords : List String :=
  ["ABORT", "ACTION", "AFTER", "ALWAYS", "ANALYZE", "ASC", "ATTACH", "BEFORE", "BEGIN", "BY",
   "CASCADE", "CAST", "COLUMN", "CONFLICT", "CURRENT", "CURRENT_DATE", "CURRENT_TIME",
   "CURRENT_TIMESTAMP", "DATABASE", "DEFERRED", "DESC", "DETACH", "DO", "EACH", "END", "EXCLUDE",
   "EXCLUSIVE", "EXPLAIN", "FAIL", "FILTER", "FIRST", "FOLLOWING", "FOR", "GENERATED", "GLOB",
   "GROUPS", "IF", "IGNORE", "IMMEDIATE", "INDEXED", "INITIALLY", "INSTEAD", "KEY", "LAST",
   "LIKE", "MATCH", "MATERIALIZED", "NO", "NULLS", "OF", "OFFSET", "OTHERS", "OVER", "PARTITION",
   "PLAN", "PRAGMA", "PRECEDING", "QUERY", "RAISE", "RANGE", "RECURSIVE", "REGEXP", "REINDEX",
   "RELEASE", "RENAME", "REPLACE", "RESTRICT", "ROLLBACK", "ROW", "ROWS", "SAVEPOINT", "TEMP",
   "TEMPORARY", "TIES", "TRIGGER", "UNBOUNDED", "VACUUM", "VIEW", "VIRTUAL", "WINDOW", "WITH",
   "WITHOUT"]

/-- A name as the database writes it. -/
def writtenName (name : Text) : Text :=
  let part := fun c => isAsciiLetter c || isAsciiDigit c || c == '_'
  let plain := !name.isEmpty && name.all part && !(name.head?.map isAsciiDigit).getD false &&
    !(Token.word name).isAmong (Reader.reserved ++ Reader.joining ++ specialWords)
  if plain then name else '"' :: doubleQuotes name ++ ['"']

/-- The type that stands for an affinity. -/
def typeName : Affinity → Text
  | .blob => []
  | .text => "TEXT".toList
  | .numeric => "NUM".toList
  | .integer => "INT".toList
  | .real => "REAL".toList

/-- The length of a name between quotes. -/
def quotedLength (name : Text) : Nat :=
  (doubleQuotes name).length + 2

/-- The text that describes a table of some columns: on one line if it is short. -/
def describedTable (name : Text) (columns : List (Text × Affinity)) : Text :=
  let length := columns.foldl (fun n (c, _) => n + quotedLength c + 5) (quotedLength name)
  let column := fun ((c, affinity) : Text × Affinity) =>
    let type := typeName affinity
    writtenName c ++ if type.isEmpty then [] else ' ' :: type
  let (first, between, last) :=
    if length < 50 then ("", ",", ")") else ("\n  ", ",\n  ", "\n)")
  "CREATE TABLE ".toList ++ writtenName name ++ '(' :: first.toList ++
    join between.toList (columns.map column) ++ last.toList

/-- The database with a table that holds what a query gives. -/
def createResult (db : Database) (ev : Evaluator) (n : NewName) (q : Query) :
    Except StoreError Database := do
  let plan ← ev.query [] q
  let rows ← plan.rows []
  let names := sourceNames (plan.columns.map (·.name))
  let columns := names.zip (plan.columns.map fun c => c.affinity.getD .blob)
  let shape : TableShape :=
    { columns := columns.map fun (name, affinity) =>
        { name, declaredType := typeName affinity, affinity } }
  let stored := fun (values : List Value) =>
    (columns.zip values).map fun ((_, affinity), v) => affinity.store v
  let t : StoredTable :=
    { name := n.name, shape, temporary := n.temporary
      rows := (rows.zipIdx 1).map fun (values, i) => ⟨[.integer i], stored values⟩ }
  return db.addTable t (describedTable n.name columns)

/-! ## Views, indexes and virtual tables -/

/-- The database with a view. -/
def createView (db : Database) (n : NewName) (columns : List Text) (body : List Piece)
    (sql : Text) : Except StoreError Database := do
  let isParameter := fun (p : Piece) => match p.token with
    | .parameter _ => true
    | _ => false
  if body.any isParameter then throw (fault "parameters are not allowed in views".toList)
  if ← db.isFree n then
    let db := { db with views := db.views ++ [⟨n.name, columns, body, n.temporary⟩] }
    return if n.temporary then db else db.enter "view" n.name n.name false (some sql)
  else return db

/-- A part of an index. -/
def indexColumn (db : Database) (t : StoredTable) (p : KeyPart) :
    Except StoreError IndexColumn := do
  let place ← keyPlace? t.shape p
  let direction ← partDirection t.shape p place
  let column : IndexColumn := { place, pieces := p.pieces, direction }
  let _ ← indexKey db t { column with place := none }
  return column

/-- The keys of two rows are the same in an index that tells rows apart. -/
def hasDuplicates (i : IndexTerms) : List KeyedRow → Except StoreError Bool
  | [] => .ok false
  | r :: rows => do
    let same ← i.clashing rows (StoredTable.valuesOf r)
    if same.isEmpty then hasDuplicates i rows else return true

/-- The table that an index is defined on. -/
def indexedTable (db : Database) (n : NewName) (table : Text) : Except StoreError StoredTable := do
  let temporary := n.temporary ||
    (n.schema.isNone && ((db.table? none table).map (·.temporary)).getD false)
  let place := some (if temporary then "temp" else "main").toList
  if isReserved table then
    throw (if isCatalogName table || (db.table? place table).isSome then
      fault ("table ".toList ++ (if isCatalogName table then "sqlite_master".toList else table) ++
        " may not be indexed".toList)
      else noTable (qualified place table))
  match db.table? place table with
  | some t =>
    if t.isVirtual then throw (fault "virtual tables may not be indexed".toList)
    else return t
  | none =>
    throw (if (db.view? place table).isSome then fault "views may not be indexed".toList
      else noTable (qualified place table))

/-- The database with an index. -/
def createIndex (db : Database) (n : NewName) (table : Text) (parts : List KeyPart)
    (unique : Bool) (condition : Option (Expr × List Piece)) (sql : Text) :
    Except StoreError Database := do
  match nullsFault? parts with
  | some e => throw e
  | none => pure ()
  checkSchema n
  let t ← db.indexedTable n table
  let n := { n with temporary := t.temporary }
  db.checkName n
  if (db.table? n.place n.name).isSome || (db.view? n.place n.name).isSome then
    throw (fault ("there is already a table named ".toList ++ n.name))
  if db.hasIndex n then
    if n.unlessThere then return db
    else throw (fault ("index ".toList ++ n.name ++ " already exists".toList))
  let condition := condition.map (·.2)
  let shape : IndexShape :=
    { name := n.name, columns := [], unique := if unique then some .abort else none, condition }
  let _ ← indexTerms db t shape
  let columns ← parts.mapM (db.indexColumn t)
  let shape := { shape with columns }
  let terms ← indexTerms db t shape
  if unique && (← hasDuplicates terms t.rows) then throw (terms.violation t)
  let db := { db with indexes := db.indexes ++ [⟨t.name, shape, t.temporary⟩] }
  return if t.temporary then db else db.enter "index" n.name t.name true (some sql)

/-- The columns of the tables that page statistics are read from. -/
def statisticsColumns : List ColumnShape :=
  [("name", "TEXT"), ("path", "TEXT"), ("pageno", "INTEGER"), ("pagetype", "TEXT"),
    ("ncell", "INTEGER"), ("payload", "INTEGER"), ("unused", "INTEGER"),
    ("mx_payload", "INTEGER"), ("pgoffset", "INTEGER"), ("pgsize", "INTEGER")].map
      fun (name, type) =>
        { name := name.toList, declaredType := type.toList, affinity := .ofType type.toList }

/-- The database with a virtual table. Page statistics are the only ones there are. -/
def createVirtual (db : Database) (n : NewName) (provider sql : Text) :
    Except StoreError Database := do
  if ← db.isFree n then
    if equalsIgnoringCase provider "dbstat".toList then
      let shape : TableShape := { columns := statisticsColumns }
      return db.addTable
        { name := n.name, shape, temporary := n.temporary, isVirtual := true } sql
    else throw (fault ("no such module: ".toList ++ provider))
  else return db

/-- The database with what a statement defines. -/
def define (db : Database) (ev : Evaluator) : Definition → Except StoreError Database
  | .table n (some d) o sql => db.createTable n d o sql
  | .table _ none _ _ => .ok db
  | .result n free q => if free then db.createResult ev n q else .ok db
  | .view n columns _ body sql => db.createView n columns body sql
  | .index n table parts unique condition sql =>
    db.createIndex n table parts unique condition sql
  | .virtual n provider sql => db.createVirtual n provider sql

/-! ## Dropping -/

/-- The name of a table that is not to be dropped, if it is one. -/
def lastingName? (name : Text) : Option Text :=
  if isCatalogName name then some "sqlite_master".toList
  else if isReserved name then some name
  else none

/-- A table or a view that a statement names. -/
def droppedObject (db : Database) (kind : DroppedKind) (ifThere : Bool) (target : Target) :
    Except StoreError (Option (StoredTable ⊕ StoredView)) :=
  match db.table? target.schema target.name, db.view? target.schema target.name with
  | some t, none => .ok (some (.inl t))
  | none, some v => .ok (some (.inr v))
  | some t, some v => .ok (some (if v.temporary && !t.temporary then .inr v else .inl t))
  | none, none =>
    if isCatalogName target.name then .ok (some (.inl db.catalogTable))
    else if ifThere then .ok none
    else
      .error (fault ((if kind = .view then "no such view: " else "no such table: ").toList ++
        qualified target.schema target.name))

/-- The database without a view. -/
def removeView (db : Database) (v : StoredView) : Database :=
  { db with
    entries := db.entries.filter fun e => v.temporary || e.table != some v.name
    views := db.views.filter fun u => !(u.temporary == v.temporary && u.name == v.name) }

/-- The database without an index. -/
def dropIndex (db : Database) (ifThere : Bool) (target : Target) :
    Except StoreError Database :=
  let found := fun (temporary : Bool) (name : Text) =>
    mayBe target.schema temporary && equalsIgnoringCase name target.name
  match db.indexes.find? fun i => found i.temporary i.shape.name with
  | some i =>
    .ok { db with
      entries := db.entries.filter fun e =>
        i.temporary || !(e.type == some "index".toList && e.name == some i.shape.name)
      indexes := db.indexes.filter fun j =>
        !(j.temporary == i.temporary && j.shape.name == i.shape.name) }
  | none =>
    if db.tables.any fun t => t.shape.indexes.any fun i => found t.temporary i.name then
      .error (fault ("index associated with UNIQUE or PRIMARY KEY constraint ".toList ++
        "cannot be dropped".toList))
    else if ifThere then .ok db
    else .error (fault ("no such index: ".toList ++ qualified target.schema target.name))

end AskSql.Database
