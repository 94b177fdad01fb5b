import AskSql.Database.Change.Site
import AskSql.Database.Record

/-!
# Changes of rows

What the statements that change rows have in common: the table that they change, the rows that
they show, and what becomes of a change that fails. Rows that are there already are changed or
removed here.

The catalog is changed like a table; its rows become its entries again in the end.
-/

namespace AskSql.Database

open Text

/-! ## Tables that are changed -/

/-- The name of a table that a statement changes, as it is written. -/
def Target.text (target : Target) : Text :=
  qualified target.schema target.name

/-- A table that cannot be changed. -/
def fixedTable (name : Text) : StoreError :=
  fault ("table ".toList ++ name ++ " may not be modified".toList)

/-- A view cannot be changed; what is wrong with the view itself comes first. -/
def fixedView (ev : Evaluator) (v : StoredView) : StoreError :=
  match ev.query [] (.allOf (.table none v.name)) with
  | .error e => e
  | .ok _ => fault ("cannot modify ".toList ++ v.name ++ " because it is a view".toList)

/-- The table that a statement changes. -/
def changedTable (db : Database) (ev : Evaluator) (target : Target) :
    Except StoreError StoredTable :=
  if isCatalogName target.name && mayBe target.schema false then
    if db.editable then .ok db.catalogTable
    else .error (fixedTable db.catalogTable.name)
  else
    match db.table? target.schema target.name, db.view? target.schema target.name with
    | none, none => .error (noTable target.text)
    | none, some v => .error (fixedView ev v)
    | some t, some v =>
      if v.temporary && !t.temporary then .error (fixedView ev v) else .ok t
    | some t, none => if t.isVirtual then .error (fixedTable t.name) else .ok t

/-- A value as a text of the catalog. -/
def catalogText (v : Value) : Option Text :=
  match v with
  | .text s => some s
  | _ => none

/-- The entry that a row of the catalog is. -/
def entryOf (r : KeyedRow) : Entry where
  type := catalogText (valueAt r.values 0)
  name := catalogText (valueAt r.values 1)
  table := catalogText (valueAt r.values 2)
  rootPage := valueAt r.values 3
  sql := catalogText (valueAt r.values 4)

/-- The database after the changes at a site. -/
def Site.close (s : Site) : Database :=
  if isCatalogName s.table.name then { s.db with entries := s.table.rows.map entryOf }
  else s.db

/-! ## What is shown -/

/-- Some values under the labels of their columns. -/
def recordOf (columns : List ResultColumn) (values : List Value) : Record :=
  (columns.zip values).map fun (c, v) => (c.label, v)

/-- What a statement shows of the rows that it changes. -/
structure Shown where
  columns : List ResultColumn
  terms : List Term

/-- What is shown of the rows of a table. -/
def shownOf (ev : Evaluator) (t : StoredTable) (items : List Item) : Except StoreError Shown := do
  let a := Evaluator.tableAddition {} 0 t false none
  let scope : Scope := { columns := a.columns.map fun c => { c with schema := none } }
  let fields ← ev.allFields scope [] items
  return ⟨fields.map (·.column), fields.map (·.term)⟩

/-- The values that are shown of a row. -/
def Shown.row (s : Shown) (values : List Value) : Except StoreError (List Value) :=
  Term.values (rowFrames values) s.terms

/-! ## Outcomes -/

/-- What a statement gives: its records or an error, and the database after it. -/
abbrev Outcome := Except StoreError (List Record) × Database

/-- The database as it was before all open transactions. -/
def rolledBack (db : Database) : Database :=
  match db.savepoints.getLast? with
  | some s => { db with toContents := s.contents, savepoints := [] }
  | none => db

/-- What a failed change leaves: what was there before, unless the conflict is to keep what has
been done so far, as far as that keeps the foreign keys, or to undo all. -/
def failedChange (before : Database) (s : Site) (c : Conflict) (e : StoreError) : Outcome :=
  match c with
  | .fail =>
    match keepKeys before s.close with
    | .error e => (.error e, before)
    | .ok () => (.error e, s.close)
  | .rollback => (.error e, before.rolledBack)
  | _ => (.error e, before)

/-- What a finished change gives, if it keeps the foreign keys. -/
def finishedChange (before : Database) (after : Database) (shown : Shown)
    (rows : List (List Value)) : Outcome :=
  match keepKeys before after with
  | .error e => (.error e, before)
  | .ok () =>
    if shown.columns.isEmpty then (.ok [], after)
    else
      match rows.mapM shown.row with
      | .error e => (.error e, before)
      | .ok rows => (.ok (rows.map (recordOf shown.columns)), after)

/-! ## Changing rows -/

/-- The site with a row changed. -/
def rewriteRow (conflict : Option Conflict) (terms : TableTerms) (frames : Frames)
    (changes : List Assignment) (old : KeyedRow) (s : Site) : Attempt (Site × List Value) := do
  let before := StoredTable.valuesOf old
  let row ← Attempt.of (assigned frames changes before)
  let (s, new) ← s.rewrite (Site.clear conflict []) conflict terms old row
  let s ← Attempt.of (s.settle before (some new))
  return (s, new)

/-- The site with some rows changed one after the other, and the rows as they are then; or what
went wrong. A row may have made room for one before it; whatever has its key now is changed. -/
def rewriteRows (conflict : Option Conflict) (terms : TableTerms) (changes : List Assignment) :
    Site → List KeyedRow → (Site × List (List Value)) ⊕ (Site × Conflict × StoreError)
  | s, [] => .inl (s, [])
  | s, r :: rows =>
    match s.current? r with
    | none => rewriteRows conflict terms changes s rows
    | some r =>
      match rewriteRow conflict terms (rowFrames (StoredTable.valuesOf r)) changes r s with
      | .error (.failed c e) => .inr (s, c, e)
      | .error _ => rewriteRows conflict terms changes s rows
      | .ok (s, new) =>
        match rewriteRows conflict terms changes s rows with
        | .inl (s, rest) => .inl (s, new :: rest)
        | .inr failure => .inr failure

/-- What a change of rows does to those of its table: where some columns change, it may remove other
rows first. -/
def modificationEffects (db : Database) (t : StoredTable) (conflict : Option Conflict) :
    (changes : Option (List Assignment)) → List Effect
  | none => [.removal]
  | some changes =>
    let places := changes.map (·.place)
    let replaces := fun (own : Conflict) => conflict.getD own == .replace
    let key := match t.shape.tableIndex? with
      | some i => i.columns.filterMap IndexColumn.place
      | none => [t.shape.rowNumberPlace?.getD t.shape.columns.length]
    let moves := key.any places.contains
    let leads := concernsOwnRows db t places
    let removes := (moves && !t.shape.withoutRowNumber && replaces t.shape.rowConflict) ||
      (t.indexes db).any fun i => (i.unique.map replaces).getD false &&
        (moves || (leads && !(t.shape.withoutRowNumber && i.isPrimary)) ||
          i.columns.any fun c => (c.place.map places.contains).getD true)
    [.change places removes]

/-- What a change of rows needs to know. -/
structure PreparedModification where
  table : StoredTable
  terms : TableTerms
  condition : Option Term
  changes : Option (List Assignment)
  shown : Shown

/-- A change of rows with its names looked up. -/
def prepareModification (db : Database) (ev : Evaluator) (m : Modification) :
    Except StoreError PreparedModification := do
  let t ← changedTable db ev m.target
  let named := m.commons.map NamedQuery.of
  let scope := { tableScope t none true with named }
  let changes ← match m.changes with
    | some cs => (assignments ev scope t cs).map some
    | none => .ok none
  let condition ← ev.optional [scope] m.condition
  let terms ← tableTerms db t
  checkKeys db t (modificationEffects db t m.conflict changes)
  let shown ← shownOf ev t m.returning
  return ⟨t, terms, condition, changes, shown⟩

/-- Changes rows, or removes them. -/
def modifyPrepared (db : Database) (conflict : Option Conflict) (p : PreparedModification) :
    Outcome :=
  let selected := p.table.rows.filterM fun r =>
    match p.condition with
    | some c => (c.value (rowFrames (StoredTable.valuesOf r))).map Value.isTrue
    | none => .ok true
  match selected, p.changes with
  | .error e, _ => (.error e, db)
  | .ok rows, none =>
    match Site.remove ⟨db, p.table⟩ rows with
    | .error e => (.error e, db)
    | .ok (s, gone) => finishedChange db s.close p.shown gone
  | .ok rows, some changes =>
    match rewriteRows conflict p.terms changes ⟨db, p.table⟩ rows with
    | .inr (s, c, e) => failedChange db s c e
    | .inl (s, new) => finishedChange db s.close p.shown new

end AskSql.Database
