import AskSql.Database.Change.Insertion
import AskSql.Database.Definition

/-!
# Running statements

A text is run statement by statement: each one is read, looked up, carried out, and followed by
the next. The records of all statements together are the result of the text. The first fault ends
the run; what the statements before it did stays done.

A value that a statement leaves open is a null, for no values are ever given beside a statement.
-/

namespace AskSql.Database

open Text

/-! ## Switches -/

/-- The values that turn a switch on. -/
def isOn (value : Text) : Bool :=
  ["on", "yes", "true", "extra", "full"].any (fun v => equalsIgnoringCase v.toList value) ||
    ((value.head?.map isAsciiDigit).getD false &&
      appendDigits 0 (value.takeWhile isAsciiDigit) % 0x100 != 0)

/-- A record of one value. -/
def singleRecord (name : String) (v : Value) : List Record :=
  [[(name.toList, v)]]

/-- Asks for a switch, or sets it. -/
def switch (db : Database) (name : Text) (value : Option Text) : Outcome :=
  match String.ofList (name.map Char.toLower), value with
  | "writable_schema", some v => (.ok [], { db with editable := isOn v })
  | "writable_schema", none => (.ok (singleRecord "writable_schema" (.ofBool db.editable)), db)
  | "foreign_keys", some v =>
    (.ok [], if db.savepoints.isEmpty then { db with keysEnforced := isOn v } else db)
  | "foreign_keys", none => (.ok (singleRecord "foreign_keys" (.ofBool db.keysEnforced)), db)
  | _, value =>
    match Evaluator.pragmaRows? db (name.map Char.toLower) (value.getD []) with
    | some (columns, rows) =>
      let labels := columns.map fun c => ({ label := c.toList, name := c.toList } : ResultColumn)
      (.ok (rows.map (recordOf labels)), db)
    | none => (.ok [], db)

/-! ## Transactions -/

/-- The savepoints from the one of a name on, those inside of it left out. -/
def savepointsFrom? (name : Text) : List Savepoint → Option (List Savepoint)
  | [] => none
  | s :: outer =>
    if (s.name.map (equalsIgnoringCase name)).getD false then some (s :: outer)
    else savepointsFrom? name outer

/-- The keys that were put off until the end of a transaction are kept. -/
def settleKeys (db : Database) : Except StoreError Unit :=
  match db.savepoints.getLast? with
  | some s =>
    let before : Database := { toContents := s.contents, keysEnforced := db.keysEnforced }
    keepKeys before db
  | none => .ok ()

/-- Starts or ends a transaction. -/
def transact (db : Database) : Transaction → Except StoreError Database
  | .start =>
    if db.savepoints.isEmpty then .ok { db with savepoints := [⟨none, db.toContents⟩] }
    else .error (fault "cannot start a transaction within a transaction".toList)
  | .commit =>
    if db.savepoints.isEmpty then
      .error (fault "cannot commit - no transaction is active".toList)
    else (settleKeys db).map fun _ => { db with savepoints := [] }
  | .rollback =>
    if db.savepoints.isEmpty then
      .error (fault "cannot rollback - no transaction is active".toList)
    else .ok db.rolledBack
  | .mark name => .ok { db with savepoints := ⟨some name, db.toContents⟩ :: db.savepoints }
  | .release name =>
    match savepointsFrom? name db.savepoints with
    | some (_ :: []) => (settleKeys db).map fun _ => { db with savepoints := [] }
    | some (_ :: outer) => .ok { db with savepoints := outer }
    | _ => .error (fault ("no such savepoint: ".toList ++ name))
  | .rollbackTo name =>
    match savepointsFrom? name db.savepoints with
    | some (s :: outer) => .ok { db with toContents := s.contents, savepoints := s :: outer }
    | _ => .error (fault ("no such savepoint: ".toList ++ name))

/-! ## Statements -/

/-- Drops a table, a view or an index. The rows that point to a table lose what they point to. -/
def drop (db : Database) (kind : DroppedKind) (ifThere : Bool) (target : Target) :
    Except StoreError Database :=
  if kind = .index then db.dropIndex ifThere target
  else do
    match ← db.droppedObject kind ifThere target with
    | none => return db
    | some found =>
      let name := match found with
        | .inl t => t.name
        | .inr v => v.name
      match lastingName? name, found with
      | some name, _ =>
        throw (fault ("table ".toList ++ name ++ " may not be dropped".toList))
      | none, .inl t =>
        if kind = .view then
          throw (fault ("use DROP TABLE to delete table ".toList ++ t.name))
        else
          checkDrop db t
          let (s, _) ← Site.remove ⟨db, t⟩ t.rows
          keepKeys db s.db
          return s.db.removeTable t
      | none, .inr v =>
        if kind = .table then
          throw (fault ("use DROP VIEW to delete view ".toList ++ v.name))
        else return db.removeView v

/-- A change that gives no rows. -/
def silent (db : Database) (after : Except StoreError Database) : Outcome :=
  match after with
  | .ok db => (.ok [], db)
  | .error e => (.error e, db)

/-- A statement with its names looked up: what it gives when it is carried out. -/
def prepare (db : Database) (ev : Evaluator) :
    Statement → Except StoreError (Unit → Outcome)
  | .define d => .ok fun _ => db.silent (db.define ev d)
  | .drop kind ifThere target => .ok fun _ => db.silent (db.drop kind ifThere target)
  | .insert i => (prepareInsertion db ev i).map fun p _ => insertPrepared db p
  | .modify m => (prepareModification db ev m).map fun p _ => modifyPrepared db m.conflict p
  | .query q => (ev.query [] q).map fun plan _ =>
    ((plan.rows []).map (List.map (recordOf plan.columns)), db)
  | .switch name value => .ok fun _ => db.switch name value
  | .transaction t => .ok fun _ => db.silent (db.transact t)
  | .rest => .ok fun _ => (.ok [], db)

/-- What is wrong with the first value that a statement leaves open, if something is: it has a
name, but only a place could be given to it. -/
def openValueFault? (ps : List Piece) : Option StoreError :=
  match ps.findSome? fun p => match p.token with
    | .parameter text => some text
    | _ => none with
  | some ('$' :: name) =>
    if !name.isEmpty && name.all isAsciiDigit then none
    else
      some (.invalidData
        ("parameters with non-integer names are not currently supported: ".toList ++ name))
  | some ('?' :: _) | none => none
  | some text => some (.invalidData ("unsupported SQL parameter format: ".toList ++ text))

/-- Runs the statements of some pieces, at most `fuel` of them. -/
def runPieces : (fuel : Nat) → Database → List Piece → Outcome
  | 0, db, _ => (.ok [], db)
  | fuel + 1, db, ps =>
    match ps with
    | [] => (.ok [], db)
    | p :: rest =>
      if p.token.isSymbol ";" then runPieces fuel db rest
      else
        match Grammar.wholeStatement db.isFree ps with
        | .error h => (.error h.error, db)
        | .ok (s, rest) =>
          let own := ps.take (ps.length - rest.length)
          match prepare db (Evaluator.ofSize db own.length) s with
          | .error e => (.error e, db)
          | .ok carryOut =>
            match openValueFault? own with
            | some e => (.error e, db)
            | none =>
              match carryOut () with
              | (.error e, db) => (.error e, db)
              | (.ok records, db) =>
                match runPieces fuel db rest with
                | (.ok more, db) => (.ok (records ++ more), db)
                | failed => failed

/-- Runs a text: the records of its statements, and the database after them. -/
def run (db : Database) (sql : Text) : Outcome :=
  let ps := pieces sql
  runPieces (ps.length + 1) db ps

/-- The database after some texts, each run where the one before it ended. -/
def runAll (db : Database) (statements : List Text) : Database :=
  statements.foldl (fun db sql => (db.run sql).2) db

end AskSql.Database
