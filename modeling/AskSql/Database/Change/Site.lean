import AskSql.Database.Change.Row

/-!
# Sites

A database together with the one table that is changed. Rows are put in their places here, changed
or removed one after the other, and what follows for the rows that point to them is done at once:
a row that goes or changes may take others with it, in its own table as well.

A row may be gone, or be another one, before its turn comes. So it is looked for by its key again
each time (`Site.current?`).
-/

namespace AskSql.Database

open Text

/-- A database and the table in it that is changed. -/
structure Site where
  db : Database
  table : StoredTable

namespace Site

/-- The row that has the key of a row now. -/
def current? (s : Site) (r : KeyedRow) : Option KeyedRow :=
  s.table.rows.find? fun q => q.key == r.key

/-- The site with other rows in its table. -/
def setTable (s : Site) (t : StoredTable) : Site :=
  ⟨s.db.replaceTable t, t⟩

/-- The site in a later database. -/
def setDatabase (s : Site) (db : Database) : Site :=
  ⟨db, (db.table? (some s.table.schema) s.table.name).getD s.table⟩

/-- The site with a row in its place, after `clear` has dealt with each way in which the row can be
there already. -/
def place (clear : Site → Rival → Attempt Site) (conflict : Option Conflict)
    (rules : List UpsertRule) (terms : TableTerms) (number : Value) (values : List Value)
    (s : Site) : Attempt Site := do
  let (first, second) := rivals s.table terms conflict rules number (values ++ [number])
  let s ← first.foldlM clear s
  checkTypes s.table values isKept
  let s ← second.foldlM clear s
  return s.setTable (s.table.adding ⟨s.table.keyOf values number, values⟩)

/-- The site with a row changed to the one of some values, with its number behind them, and that
row as it is then. -/
def rewrite (clear : Site → Rival → Attempt Site) (conflict : Option Conflict)
    (terms : TableTerms) (old : KeyedRow) (row : List Value) (s : Site) :
    Attempt (Site × List Value) := do
  let shape := s.table.shape
  let width := shape.columns.length
  let number ← if shape.withoutRowNumber then pure .null
    else Attempt.of (rowNumberOf (valueAt row (shape.rowNumberPlace?.getD width)))
  let values ← readyValues s.db s.table terms conflict number (row.take width)
  let s ← (s.setTable (s.table.without [old])).place clear conflict [] terms number values
  return (s, values ++ [number])

/-- A row that follows another one makes no room for itself. -/
def refuse (s : Site) (r : Rival) : Attempt Site := do
  match ← Attempt.of (r.rows s.table.rows) with
  | [] => return s
  | _ => Attempt.conflict .abort r.error

end Site

/-! ## What follows from a change -/

/-- What becomes of the values of a key whose target is gone or changed. -/
def keyValues (db : Database) (c : StoredTable) (w : KeyWay) (action : KeyAction)
    (new : Option (List Value)) : Except StoreError (List (Nat × Value)) :=
  w.own.zipIdx.mapM fun (p, i) => do
    match action, new.bind fun row => w.places[i]?.map (valueAt row) with
    | .cascade, some v => return (p, v)
    | .reset, _ =>
      match c.shape.columns[p]? with
      | some column => return (p, ← defaultValue db column)
      | none => return (p, .null)
    | _, _ => return (p, .null)

/-- One change leads to another, and so on, more often than may be. -/
def tooDeep : StoreError :=
  fault "too many levels of trigger recursion".toList

/-- How many changes may lead from one to the next. -/
def mostSteps : Nat := 1000

/-- The database after a row of a table has gone, or has changed to another one, with what follows
for the rows that point to it, `fuel` steps away at most. -/
def follow : (fuel : Nat) → Database → StoredTable → (old : List Value) →
    (new : Option (List Value)) → Except StoreError Database
  | 0, db, t, _, new =>
    let action := fun (k : KeyShape) => if new.isSome then k.onUpdate else k.onDelete
    if (keysTo db t).any fun (_, k) => action k != .nothing then .error tooDeep else .ok db
  | fuel + 1, db, t, old, new =>
    (keysTo db t).foldlM (fun db (child, k) =>
      match keyWay db child k with
      | .error _ => .ok db
      | .ok w =>
        let site := Site.setDatabase ⟨db, child⟩ db
        let kept := (new.map (w.keeps old)).getD false
        let led := if kept then [] else site.table.rows.filter fun r => w.leads r.values old
        match (if new.isSome then k.onUpdate else k.onDelete), new with
        | .nothing, _ => .ok db
        | .restrict, _ =>
          if led.isEmpty then .ok db
          else .error (.database 1811 "FOREIGN KEY constraint failed".toList)
        | .cascade, none =>
          led.foldlM (fun db r => do
            let s := site.setDatabase db
            match s.current? r with
            | none => return db
            | some r =>
              let s := s.setTable (s.table.without [r])
              follow fuel s.db s.table (StoredTable.valuesOf r) none) db
        | action, _ =>
          if led.isEmpty then .ok db
          else do
            let changes ← keyValues db child w action new
            let terms ← tableTerms db child
            led.foldlM (fun db r => do
              let s := site.setDatabase db
              match s.current? r with
              | none => return db
              | some r =>
                let old := StoredTable.valuesOf r
                let row := changes.foldl (fun row (p, v) => row.set p v) old
                let (s, new) ←
                  (s.rewrite Site.refuse (some .abort) terms r row).strict (s, old)
                follow fuel s.db s.table old (some new)) db) db

namespace Site

/-- The site after a row of its table has gone or has changed, with what follows from that. -/
def settle (s : Site) (old : List Value) (new : Option (List Value)) : Except StoreError Site :=
  if s.db.keysEnforced then (follow mostSteps s.db s.table old new).map s.setDatabase else .ok s

/-- The site without some rows, one removed after the other, and the rows as they were then. -/
def remove : Site → List KeyedRow → Except StoreError (Site × List (List Value))
  | s, [] => .ok (s, [])
  | s, r :: rows =>
    match s.current? r with
    | none => s.remove rows
    | some r => do
      let old := StoredTable.valuesOf r
      let s ← (s.setTable (s.table.without [r])).settle old none
      let (s, rest) ← s.remove rows
      return (s, old :: rest)

/-- The site with room for a row, as far as one rival goes. -/
def clear (conflict : Option Conflict) (rules : List UpsertRule) (s : Site) (r : Rival) :
    Attempt Site := do
  match ← Attempt.of (r.rows s.table.rows) with
  | [] => return s
  | first :: rest =>
    match ruleFor? rules r.index with
    | some .nothing => .error .skipped
    | some (.update changes condition) => .error (.met first changes condition)
    | none =>
      match conflict.getD r.conflict with
      | .replace => (Attempt.of (s.remove (first :: rest))).map (·.1)
      | c => Attempt.conflict c r.error

end Site

end AskSql.Database
