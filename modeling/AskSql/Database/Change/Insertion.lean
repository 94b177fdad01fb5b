import AskSql.Database.Change.Modification

/-!
# Inserting rows

The values of new rows are matched with the columns of their table, and the rows are written one
after the other. A row that is there already may be changed instead, where the statement asks
for it.
-/

namespace AskSql.Database

open Text

/-! ## Columns -/

/-- Where a new row has its values from. -/
structure ColumnSources where
  /-- For each column of the table the place of its value, if one is given. -/
  columns : List (Option Nat)
  /-- The place of the row's number, if one is given. -/
  number : Option Nat

/-- The places of values that are given for all columns which are not computed. -/
def allSources (t : StoredTable) : ColumnSources :=
  let given := t.shape.columns.zipIdx.filter fun (c, _) => c.generated.isNone
  let placeOf := fun (place : Nat) => given.findIdx? fun (_, p) => p == place
  { columns := (List.range t.shape.columns.length).map placeOf
    number := t.shape.rowNumberPlace?.bind placeOf }

/-- The places of values that are given for some columns, of which `n` were looked at. The first
value of a column counts, and the last number. -/
def namedSources (t : StoredTable) (target : Target) :
    (n : Nat) → ColumnSources → List Text → Except StoreError ColumnSources
  | _, s, [] => .ok s
  | n, s, name :: names =>
    match (t.shape.place? name).map fun p => (p, t.shape.columns[p]?) with
    | some (p, c) =>
      match c.filter (·.generated.isSome) with
      | some c =>
        .error (fault ("cannot INSERT into generated column \"".toList ++ c.name ++ ['"']))
      | none =>
        let number := if t.shape.rowNumberPlace? = some p then some n else s.number
        let own := ((s.columns[p]?).bind id).or (some n)
        namedSources t target (n + 1) ⟨s.columns.set p own, number⟩ names
    | none =>
      if isRowNumberName name && !t.shape.withoutRowNumber then
        namedSources t target (n + 1) { s with number := some n } names
      else
        .error (fault ("table ".toList ++ target.text ++ " has no column named ".toList ++ name))

/-- Where the new rows of a table have their values from. -/
def columnSources (t : StoredTable) (i : Insertion) : Except StoreError ColumnSources :=
  let nothing : ColumnSources := ⟨t.shape.columns.map fun _ => none, none⟩
  if !i.columns.isEmpty then namedSources t i.target 0 nothing i.columns
  else if i.rows.isSome then .ok (allSources t)
  else .ok nothing

/-- New rows have the right number of values. -/
def checkWidth (t : StoredTable) (i : Insertion) (width : Nat) : Except StoreError Unit :=
  let all := (t.shape.columns.filter (·.generated.isNone)).length
  if i.columns.isEmpty then
    if i.rows.isNone || width = all then .ok ()
    else
      .error (fault ("table ".toList ++ i.target.text ++ " has ".toList ++ ofNat all ++
        " columns but ".toList ++ ofNat width ++ " values were supplied".toList))
  else if width = i.columns.length then .ok ()
  else
    .error (fault (ofNat width ++ " values for ".toList ++ ofNat i.columns.length ++
      " columns".toList))

/-! ## Sources of rows -/

/-- The plan of the rows to insert. -/
def rowPlan (ev : Evaluator) (i : Insertion) : Except StoreError Plan :=
  match i.rows with
  | none => .ok { columns := [], rows := fun _ => .ok [[]] }
  | some (.query own first rest order limit offset) =>
    ev.query [] (.query (i.commons ++ own) first rest order limit offset)

/-- More than one row may be inserted. -/
def isMany : Option Query → Bool
  | none => false
  | some (.query _ (.values [_]) [] _ _ _) => false
  | some _ => true

/-! ## Rows that are there already -/

/-- The names of the columns that parts of a key are. -/
def partNames (parts : List KeyPart) : Option (List Text) :=
  parts.mapM fun p =>
    match p.expr with
    | .name _ [n] | .collate (.name _ [n]) _ => some n
    | _ => none

/-- The names, as many as an index has columns, are those of its columns. -/
def isIndexOf (t : StoredTable) (names : List Text) (i : IndexShape) : Bool :=
  let places := i.columns.filterMap (·.place)
  match names.mapM t.shape.place? with
  | none => false
  | some named => i.unique.isSome && places.length == i.columns.length &&
      places.length == named.length && places.all named.contains

/-- The index that a clause about rows which are there already names; nothing inside for the
number of the row. -/
def upsertIndex? (db : Database) (t : StoredTable) (parts : List KeyPart) :
    Except StoreError (Option (Option Text)) :=
  if parts.isEmpty then .ok none
  else
    let names := (partNames parts).getD []
    let isNumber := match names with
      | [n] => !t.shape.withoutRowNumber && (isRowNumberName n ||
          (t.shape.rowNumber.map (equalsIgnoringCase n)).getD false)
      | _ => false
    match names.find? fun n => (t.shape.place? n).isNone && !isRowNumberName n with
    | some n => .error (noColumn n)
    | none =>
      if isNumber then .ok (some none)
      else
        match (t.indexes db).find? (isIndexOf t names) with
        | some i => .ok (some (some i.name))
        | none =>
          .error (fault ("ON CONFLICT clause does not match any PRIMARY KEY or ".toList ++
            "UNIQUE constraint".toList))

/-- The scope of a change of a row that is there already: its own columns, and those of the new
row under a name of their own. -/
def upsertScope (t : StoredTable) : Scope :=
  let own := (tableScope t none true).columns
  let new := (Evaluator.tableAddition {} 1 t false (some "excluded".toList)).columns
  { columns := own ++ new.map fun c => { c with merged := true } }

/-- What becomes of a row that is there already, with its names looked up. -/
def remedyOf (ev : Evaluator) (t : StoredTable) : Resolution → Except StoreError Remedy
  | .nothing => .ok .nothing
  | .update changes condition => do
    let scope := upsertScope t
    let changes ← assignments ev scope t changes
    let condition ← ev.optional [scope] condition
    return .update changes condition

/-- Something that a clause about rows which are there already is about may tell of such a row. -/
def mayMeet (db : Database) (t : StoredTable) (numbered : Bool) : Option (Option Text) → Bool
  | none => numbered || (t.indexes db).any (·.unique.isSome)
  | some none => numbered
  | some (some _) => true

/-- The rules that clauses about rows which are there already make. All keys are looked up before
anything else is, and what is never carried out is not looked at. -/
def upsertRules (db : Database) (ev : Evaluator) (t : StoredTable) (numbered : Bool)
    (us : List Upsert) : Except StoreError (List UpsertRule) := do
  let indexes ← us.mapM fun u => upsertIndex? db t u.parts
  (us.zip indexes).mapM fun (u, index) => do
    let remedy ← if mayMeet db t numbered index then remedyOf ev t u.resolution else pure .nothing
    return ⟨index, remedy⟩

/-- What an insertion does to the rows of its table: it may remove some, or change some at some
places, before there are more. -/
def insertionEffects (db : Database) (t : StoredTable) (i : Insertion) (numbered : Bool)
    (rules : List UpsertRule) : List Effect :=
  let changed := rules.filterMap fun r =>
    match r.remedy with
    | .update changes _ => some (changes.map (·.place))
    | .nothing => none
  let replaces := fun (index : Option Text) (own : Conflict) =>
    (ruleFor? rules index).isNone && i.conflict.getD own == .replace
  let removes := (numbered && replaces none t.shape.rowConflict) ||
    (t.indexes db).any fun x => (x.unique.map (replaces (some x.name))).getD false
  let several := removes || isMany i.rows || !i.returning.isEmpty || changed.any (concerns db t)
  (if removes then [.removal] else []) ++ changed.map (.change · false) ++
    [if several then .additions else .addition]

/-! ## Insertion -/

/-- What an insertion needs to know. -/
structure PreparedInsertion where
  table : StoredTable
  sources : ColumnSources
  terms : TableTerms
  rules : List UpsertRule
  shown : Shown
  plan : Plan
  conflict : Option Conflict

/-- An insertion with its names looked up. -/
def prepareInsertion (db : Database) (ev : Evaluator) (i : Insertion) :
    Except StoreError PreparedInsertion := do
  let t ← changedTable db ev i.target
  let sources ← columnSources t i
  let plan ← rowPlan ev i
  checkWidth t i plan.columns.length
  let rules ← upsertRules db ev t sources.number.isSome i.upserts
  let terms ← tableTerms db t
  checkKeys db t (insertionEffects db t i sources.number.isSome rules)
  let shown ← shownOf ev t i.returning
  return ⟨t, sources, terms, rules, shown, plan, i.conflict⟩

/-- The values of a new row: those that are given for it, and default values. -/
def newValues (db : Database) (p : PreparedInsertion) (given : List Value) :
    Except StoreError (List Value) :=
  (p.table.shape.columns.zip p.sources.columns).mapM fun (c, source) =>
    match source with
    | some place => .ok (valueAt given place)
    | none => if c.generated.isSome then .ok .null else defaultValue db c

/-- The number of a new row: the one that is given for it, or the next one. -/
def newNumber (p : PreparedInsertion) (counted : Int) (s : Site) (given : List Value) :
    Except StoreError Value :=
  if s.table.shape.withoutRowNumber then .ok .null
  else
    match p.sources.number.map (valueAt given) with
    | none | some .null => nextNumber s.db s.table counted
    | some v => rowNumberOf v

/-- The site with one more row, and the row. -/
def insertRow (p : PreparedInsertion) (counted : Int) (s : Site) (given : List Value) :
    Attempt (Site × Option (List Value) × Int) := do
  let number ← Attempt.of (newNumber p counted s given)
  let values ← Attempt.of (newValues s.db p given)
  let ready ← readyValues s.db s.table p.terms p.conflict number values
  let counted := match number with
    | .integer n => max n counted
    | _ => counted
  match s.place (Site.clear p.conflict p.rules) p.conflict p.rules p.terms number ready with
  | .ok s => return (s, some (ready ++ [number]), counted)
  | .error (.met row changes condition) => do
    let frames : Frames := [{ row := [StoredTable.valuesOf row, ready ++ [number]] }]
    let wanted ← match condition with
      | some c => Attempt.of ((c.value frames).map Value.isTrue)
      | none => pure true
    if wanted then
      let (s, new) ← rewriteRow (some .abort) p.terms frames changes row s
      return (s, some new, counted)
    else return (s, none, counted)
  | .error e => .error e

/-- The site with some more rows, and these; or what went wrong. -/
def insertRows (p : PreparedInsertion) : (counted : Int) → Site → List (List Value) →
    (Site × List (List Value) × Int) ⊕ (Site × Conflict × StoreError)
  | counted, s, [] => .inl (s, [], counted)
  | counted, s, given :: rows =>
    match insertRow p counted s given with
    | .error (.failed c e) => .inr (s, c, e)
    | .error _ => insertRows p counted s rows
    | .ok (s, new, counted) =>
      match insertRows p counted s rows with
      | .inl (s, rest, counted) => .inl (s, new.toList ++ rest, counted)
      | .inr failure => .inr failure

/-- Inserts rows. -/
def insertPrepared (db : Database) (p : PreparedInsertion) : Outcome :=
  match p.plan.rows [] with
  | .error e => (.error e, db)
  | .ok rows =>
    match insertRows p 0 ⟨db, p.table⟩ rows with
    | .inr (s, c, e) => failedChange db s c e
    | .inl (s, new, counted) =>
      finishedChange db (raiseSequence s.close s.table counted) p.shown new

end AskSql.Database
