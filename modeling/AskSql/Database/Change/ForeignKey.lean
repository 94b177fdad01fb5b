import AskSql.Database.Change.Terms
import AskSql.Text.Quoted

/-!
# Foreign keys

What the rows of a table point to, and what a statement has to do with that. A statement may break
a key on the way as long as it has mended it in the end: what counts is whether more rows lack what
they point to than before.
-/

namespace AskSql.Database

open Text

/-- How a foreign key leads from the rows of its table to those of its target. -/
structure KeyWay where
  target : StoredTable
  /-- The places of the key in a row of its table. -/
  own : List Nat
  /-- The places of what the key points to, in the same order. -/
  places : List Nat
  /-- The key points to the number of a row. -/
  byNumber : Bool

/-- A foreign key points to no key of its target. -/
def keyMismatch (t : StoredTable) (k : KeyShape) : StoreError :=
  fault ("foreign key mismatch - \"".toList ++ doubleQuotes t.name ++
    "\" referencing \"".toList ++ doubleQuotes k.target ++ ['"'])

/-- What a foreign key points to is missing. -/
def keyViolation : StoreError :=
  .database 787 "FOREIGN KEY constraint failed".toList

/-- The name of the database that a table belongs to. -/
def StoredTable.schema (t : StoredTable) : Text :=
  (if t.temporary then "temp" else "main").toList

/-- An index compares its columns as they are compared elsewhere. -/
def plainlyCompared (t : StoredTable) (i : IndexShape) : Bool :=
  i.columns.all fun c =>
    match c.place.bind (t.shape.columns[·]?) with
    | some column => column.collation == c.direction.collation
    | none => false

/-- The places in a target that a foreign key points to by an index. -/
def keyPlaces? (target : StoredTable) (k : KeyShape) (i : IndexShape) : Option (List Nat) :=
  if i.unique.isNone || i.condition.isSome || i.columns.length != k.columns.length then none
  else if k.targetColumns.isEmpty then
    if i.isPrimary then i.columns.mapM (·.place) else none
  else if !plainlyCompared target i then none
  else
    match k.targetColumns.mapM target.shape.place? with
    | none => none
    | some places => if places.all fun p => i.columns.any fun c => c.place == some p then
        some places else none

/-- The place of the number of a row, if that is what a foreign key points to. -/
def numberPlace? (target : StoredTable) (k : KeyShape) : Option Nat :=
  match k.columns, k.targetColumns with
  | [_], [] => target.shape.rowNumberPlace?
  | [_], [c] => if (target.shape.rowNumber.map (equalsIgnoringCase c)).getD false then
      target.shape.rowNumberPlace? else none
  | _, _ => none

/-- How a foreign key of a table leads to its target. -/
def keyWay (db : Database) (t : StoredTable) (k : KeyShape) : Except StoreError KeyWay :=
  match db.table? (some t.schema) k.target with
  | none =>
    if (db.view? (some t.schema) k.target).isSome then .error (keyMismatch t k)
    else .error (noTable (qualified (some t.schema) k.target))
  | some target =>
    let own := k.columns.filterMap t.shape.place?
    match numberPlace? target k with
    | some place => .ok ⟨target, own, [place], true⟩
    | none =>
      match (target.indexes db).findSome? (keyPlaces? target k) with
      | some places => .ok ⟨target, own, places, false⟩
      | none => .error (keyMismatch t k)

namespace KeyWay

/-- The values of a key as those of its target, and how they are compared. -/
def compared (w : KeyWay) (key : List Value) : List (Nat × Value × Collation) :=
  (w.places.zip key).filterMap fun (p, v) =>
    (w.target.shape.columns[p]?).map fun c => (p, c.affinity.store v, c.collation)

/-- A row of a table leads to a row of the target. -/
def leads (w : KeyWay) (row target : List Value) : Bool :=
  (w.compared (w.own.map (valueAt row))).all fun (p, v, c) =>
    !v.isNull && v.same c (valueAt target p)

/-- A row of the target points to itself. Where this is found out by an index, its values are
compared as they are. -/
def leadsBack (w : KeyWay) (row : List Value) : Bool :=
  if w.byNumber then w.leads row row
  else (w.own.zip w.places).all fun (p, q) => (valueAt row p).same .binary (valueAt row q)

/-- A row of a table points to something that is not there. -/
def lacks (w : KeyWay) (t : StoredTable) (row : KeyedRow) : Bool :=
  let inside := w.target.name == t.name && w.target.temporary == t.temporary
  !(w.own.map (valueAt row.values)).any Value.isNull &&
    !w.target.rows.any fun r =>
      if inside && r.key == row.key then w.leadsBack r.values else w.leads row.values r.values

/-- What a key points to is the same in two rows of the target. -/
def keeps (w : KeyWay) (row other : List Value) : Bool :=
  w.places.all fun p =>
    match w.target.shape.columns[p]? with
    | some c => (valueAt row p).same c.collation (valueAt other p)
    | none => true

end KeyWay

/-! ## Keeping keys -/

/-- The number of rows that lack what they point to; deferred keys count if `deferred` tells so. -/
def lackingRows (db : Database) (deferred : Bool) : Nat :=
  sumOf <| db.tables.flatMap fun t =>
    (t.shape.foreignKeys.filter fun k => deferred || !k.deferred).map fun k =>
      match keyWay db t k with
      | .ok w => (t.rows.filter (w.lacks t)).length
      | .error _ => 0

/-- A change that breaks keys is a fault. Deferred keys may be broken while a transaction is
open. -/
def keepKeys (before after : Database) : Except StoreError Unit :=
  let deferred := before.savepoints.isEmpty
  if after.keysEnforced && lackingRows before deferred < lackingRows after deferred then
    .error keyViolation
  else .ok ()

/-- The tables and their keys that point to a table, with the last declared first. -/
def keysTo (db : Database) (t : StoredTable) : List (StoredTable × KeyShape) :=
  (db.tables.flatMap fun c =>
    if c.temporary == t.temporary then
      (c.shape.foreignKeys.filter fun k => equalsIgnoringCase k.target t.name).map (c, ·)
    else []).reverse

/-! ## Looking at keys -/

/-- What a statement does to the rows of a table, as far as foreign keys go. -/
inductive Effect where
  /-- There is one more row. -/
  | addition
  /-- There are more rows. -/
  | additions
  | removal
  /-- The columns at some places change; the place behind all columns is that of the number of
  the row. Rows may be removed first to make room. -/
  | change (places : List Nat) (removes : Bool)

/-- Some places of a table are among those of a foreign key of it. -/
def pointsFrom (t : StoredTable) (places : List Nat) (k : KeyShape) : Bool :=
  k.columns.any fun n => ((t.shape.place? n).map places.contains).getD false

/-- Some places of a table are among those that a foreign key points to. -/
def pointsTo (t : StoredTable) (places : List Nat) (k : KeyShape) : Bool :=
  let names := if k.targetColumns.isEmpty then t.shape.primaryKey else k.targetColumns
  names.any fun n => ((t.shape.place? n).map places.contains).getD false

/-- A change of the columns at some places has to do with foreign keys. -/
def concerns (db : Database) (t : StoredTable) (places : List Nat) : Bool :=
  t.shape.foreignKeys.any (pointsFrom t places) || (keysTo db t).any (pointsTo t places ·.2)

/-- A foreign key points to the table that it belongs to. -/
def pointsToItself (t : StoredTable) (k : KeyShape) : Bool :=
  equalsIgnoringCase k.target t.name

/-- A change of the columns at some places may lead to changes of other rows, or has to do with a
key of the table to itself; then all indexes of the table are looked at. -/
def concernsOwnRows (db : Database) (t : StoredTable) (places : List Nat) : Bool :=
  db.keysEnforced &&
    ((t.shape.foreignKeys.any fun k => pointsToItself t k && pointsFrom t places k) ||
      (keysTo db t).any fun (_, k) => pointsTo t places k && k.onUpdate != .nothing)

/-- The keys of a table, and those that point to it, that a statement has to look at. -/
def keysOf (db : Database) (t : StoredTable) :
    Effect → List KeyShape × List (StoredTable × KeyShape)
  | .addition => (t.shape.foreignKeys.reverse, (keysTo db t).filter (·.2.deferred))
  | .additions | .removal => (t.shape.foreignKeys.reverse, keysTo db t)
  | .change places _ =>
    if concerns db t places then
      (t.shape.foreignKeys.reverse.filter fun k => pointsToItself t k || pointsFrom t places k,
        (keysTo db t).filter (pointsTo t places ·.2))
    else ([], [])

/-- What a statement makes of the rows whose key points to one that goes or changes. -/
def actionOf (e : Effect) (k : KeyShape) : KeyAction :=
  match e with
  | .addition | .additions => .nothing
  | .removal => k.onDelete
  | .change _ _ => k.onUpdate

/-- What a statement does in turn to a table with a key that points to the one that it changes. -/
def nextEffect? (e : Effect) (child : StoredTable) (k : KeyShape) : Option Effect :=
  match e, actionOf e k with
  | _, .nothing | _, .restrict => none
  | .removal, .cascade => some .removal
  | _, _ => some (.change (k.columns.filterMap child.shape.place?) false)

/-- What is wrong with a key of a table. -/
def keyFault? (db : Database) (t : StoredTable) (k : KeyShape) : Option StoreError :=
  match keyWay db t k with
  | .ok _ => none
  | .error e => some e

/-- The keys that point to a table are gone through before rows of it go or change. -/
def goesThrough (db : Database) (t : StoredTable) : Effect → Bool
  | .addition | .additions => false
  | .removal => true
  | .change places _ => concerns db t places

/-- Some faults with what is wrong with the keys that a statement has to do with, in the order in
which it is met, at most `fuel` steps away. What is wrong further away is not met after something
else. -/
def keyFaults :
    (fuel : Nat) → Database → StoredTable → Effect → List StoreError → List StoreError
  | 0, _, _, _, faults => faults
  | fuel + 1, db, t, e, faults =>
    let (own, others) := keysOf db t e
    let faultOf := fun ((c, k) : StoredTable × KeyShape) => keyFault? db c k
    let early := if goesThrough db t e then (keysTo db t).filterMap faultOf else []
    let faults := match e with
      | .change _ true => keyFaults fuel db t .removal (faults ++ early)
      | _ => faults ++ early
    let met := (own.filterMap (keyFault? db t) ++ others.filterMap faultOf).take 1
    others.foldl (fun faults (c, k) =>
      if actionOf e k == .nothing then faults
      else
        match keyFault? db c k, nextEffect? e c k with
        | some fault, _ => faults ++ [fault]
        | none, some next =>
          if faults.isEmpty then (keyFaults fuel db c next []).getLast?.toList else faults
        | none, none => faults) (faults ++ met)

/-- More steps than it takes to meet all that is wrong with the keys of some tables. -/
def keySteps (db : Database) : Nat :=
  db.tables.length + 2

/-- The keys that a statement has to do with lead somewhere, through all that it does; the fault
that is met last is the one reported. -/
def checkKeys (db : Database) (t : StoredTable) (es : List Effect) : Except StoreError Unit :=
  let faults := if db.keysEnforced then
      es.foldl (fun faults e => keyFaults db.keySteps db t e faults) []
    else []
  match faults.getLast? with
  | some fault => .error fault
  | none => .ok ()

/-- What follows for other tables when a table is dropped has to do with keys that lead somewhere;
those to the table itself need not. -/
def checkDrop (db : Database) (t : StoredTable) : Except StoreError Unit :=
  let sound := (keysTo db t).filter fun (c, k) => (keyFault? db c k).isNone
  let faults := if db.keysEnforced then
      sound.flatMap fun (c, k) => match nextEffect? .removal c k with
        | some e => (keyFaults db.keySteps db c e []).getLast?.toList
        | none => []
    else []
  match faults with
  | fault :: _ => .error fault
  | [] => .ok ()

/-! ## Rows by their keys -/

/-- The key that a row is kept by. -/
def StoredTable.keyOf (t : StoredTable) (values : List Value) (number : Value) : List Value :=
  match t.shape.tableIndex? with
  | some i => i.columns.map fun c => ((c.place).map (valueAt values)).getD .null
  | none => [number]

/-- Some rows with one more, which comes where its key belongs. -/
def insertByKey (directions : List Direction) (r : KeyedRow) : List KeyedRow → List KeyedRow
  | [] => [r]
  | s :: rows =>
    if compareRows directions r.key s.key == .lt then r :: s :: rows
    else s :: insertByKey directions r rows

/-- A table without some of its rows. -/
def StoredTable.without (t : StoredTable) (rows : List KeyedRow) : StoredTable :=
  { t with rows := t.rows.filter fun r => !rows.any fun s => s.key == r.key }

/-- A table with one more row. -/
def StoredTable.adding (t : StoredTable) (r : KeyedRow) : StoredTable :=
  { t with rows := insertByKey t.keyDirections r t.rows }

end AskSql.Database
