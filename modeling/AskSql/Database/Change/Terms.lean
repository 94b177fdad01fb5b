import AskSql.Database.Selection.Named

/-!
# Terms of tables

What a table computes from its rows: the values of computed columns, the conditions that a row
has to satisfy, and the keys under which its indexes have the row. All of it is kept as it is
written, and looked up when rows are to be written.
-/

namespace AskSql.Database

open Text

/-- A row as what there is for the terms of its table. -/
def rowFrames (values : List Value) : Frames :=
  [{ row := [values] }]

/-- A value at a place of a row; behind the row there are nulls. -/
def valueAt (values : List Value) (place : Nat) : Value :=
  (values[place]?).getD .null

/-- The scope of what is written in the definition of a table. The number of a row has no name
in it where that could change. -/
def tableScope (t : StoredTable) (definition : Option Text) (numbered : Bool) : Scope :=
  let a := Evaluator.tableAddition {} 0 t false none
  { columns := a.columns.filter fun c => numbered || !c.isRowNumber, definition }

/-- The term of an expression that is kept as it is written. -/
def storedTerm (db : Database) (scope : Scope) (pieces : List Piece) : Except StoreError Term :=
  match Grammar.ruled Grammar.Rules.any pieces with
  | .ok (e, _) => (Evaluator.ofSize db pieces.length).single [scope] e
  | .error h => .error h.error

/-! ## Computed columns -/

/-- A column that is computed. -/
structure GeneratedTerm where
  place : Nat
  column : ColumnShape
  stored : Bool
  term : Term

/-- The columns of its own table that a term depends on. -/
def ownPlaces (t : Term) : List Nat :=
  (t.uses.filter fun s => s.level == 0).map (·.place)

/-- The terms of the computed columns of a table. -/
def generatedTerms (db : Database) (t : StoredTable) : Except StoreError (List GeneratedTerm) :=
  (t.shape.columns.zipIdx.filterMap fun (c, place) => c.generated.map (c, place, ·)).mapM
    fun (c, place, g) => do
      let term ← storedTerm db (tableScope t (some "generated columns".toList) false) g.pieces
      return ⟨place, c, g.stored, term⟩

/-- Columns are computed from each other in a circle. -/
def generatedLoop (name : Text) : StoreError :=
  fault ("generated column loop on \"".toList ++ name ++ ['"'])

/-- The terms of computed columns in an order in which each one depends on earlier ones only, in
at most `fuel` rounds. -/
def orderedTerms : (fuel : Nat) → List GeneratedTerm → Except StoreError (List GeneratedTerm)
  | 0, _ => .ok []
  | fuel + 1, gs =>
    let waits := fun (g : GeneratedTerm) =>
      (ownPlaces g.term).any fun p => gs.any fun h => h.place == p
    match gs.filter (!waits ·), (gs.filter waits).getLast? with
    | ready, none => .ok ready
    | [], some g => .error (generatedLoop g.column.name)
    | ready, some _ => (orderedTerms fuel (gs.filter waits)).map (ready ++ ·)

/-- The name of the last column that is met again while the columns are followed that a computed
column needs, at most `fuel` deep. -/
def loopFrom? (gs : List GeneratedTerm) : (fuel : Nat) → (passed : List Nat) → GeneratedTerm →
    Option Text
  | 0, _, _ => none
  | fuel + 1, passed, g =>
    let needed := (ownPlaces g.term).filterMap fun p =>
      gs.find? fun h => h.place == p && !h.stored
    (needed.filterMap fun h =>
      if h.place == g.place || passed.contains h.place then some h.column.name
      else loopFrom? gs fuel (g.place :: passed) h).getLast?

/-- What is wrong with columns that are computed whenever they are asked for: they need each
other. -/
def loop? (gs : List GeneratedTerm) : Option StoreError :=
  (((gs.filter (!·.stored)).filterMap (loopFrom? gs gs.length [])).getLast?).map generatedLoop

/-! ## Keys of indexes -/

/-- An index with what its keys are made of. -/
structure IndexTerms where
  shape : IndexShape
  keys : List Computed
  condition : Option Term

/-- What is made of one column of an index. -/
def indexKey (db : Database) (t : StoredTable) (c : IndexColumn) : Except StoreError Computed :=
  match c.place with
  | some place => .ok fun frames =>
      .ok (valueAt (((frames.head?.map (·.row.headD [])).getD [])) place)
  | none => do
    let term ← storedTerm db (tableScope t (some "index expressions".toList) false) c.pieces
    return term.value

/-- An index of a table with its terms. -/
def indexTerms (db : Database) (t : StoredTable) (i : IndexShape) :
    Except StoreError IndexTerms := do
  let keys ← i.columns.mapM (indexKey db t)
  let condition ← match i.condition with
    | some pieces =>
      (storedTerm db (tableScope t (some "partial index WHERE clauses".toList) false) pieces).map
        some
    | none => .ok none
  return ⟨i, keys, condition⟩

namespace IndexTerms

/-- A row is in an index. -/
def holds (i : IndexTerms) (row : List Value) : Except StoreError Bool :=
  match i.condition with
  | some c => (c.value (rowFrames row)).map (·.isTrue)
  | none => .ok true

/-- The key that an index has for a row, if the row is in the index. -/
def key? (i : IndexTerms) (row : List Value) : Except StoreError (Option (List Value)) := do
  if ← i.holds row then
    let key ← i.keys.mapM fun k => k (rowFrames row)
    return some key
  else return none

/-- Two keys are equal, none of whose values is a null. -/
def clash (i : IndexTerms) (a b : List Value) : Bool :=
  !a.any Value.isNull && compareRows (TableShape.directions i.shape) a b == .eq

/-- The rows among some whose key is that of another row. -/
def clashing (i : IndexTerms) (rows : List KeyedRow) (row : List Value) :
    Except StoreError (List KeyedRow) := do
  match ← i.key? row with
  | none => return []
  | some key => rows.filterM fun r => do
    match ← i.key? (StoredTable.valuesOf r) with
    | some other => return i.clash key other
    | none => return false

/-- A key is there already. -/
def violation (i : IndexTerms) (t : StoredTable) : StoreError :=
  let columns := i.shape.columns.map fun c =>
    t.name ++ '.' :: (((c.place.bind (t.shape.columns[·]?)).map (·.name)).getD [])
  let what := if i.shape.columns.any (·.place.isNone) then
      "index '".toList ++ i.shape.name ++ ['\x27']
    else join ", ".toList columns
  .database (if i.shape.isPrimary then 1555 else 2067)
    ("UNIQUE constraint failed: ".toList ++ what)

end IndexTerms

/-! ## All terms of a table -/

/-- What a table computes from its rows. -/
structure TableTerms where
  generated : List GeneratedTerm
  checks : List (Text × Term)
  /-- The indexes that tell rows apart, in the order in which they are tried. -/
  indexes : List IndexTerms

/-- The conditions on the rows of a table. -/
def checkTerms (db : Database) (t : StoredTable) : Except StoreError (List (Text × Term)) :=
  t.shape.checks.mapM fun c => do
    let term ← storedTerm db (tableScope t (some "CHECK constraints".toList) true) c.pieces
    return (c.label, term)

/-- What a table computes from its rows. -/
def tableTerms (db : Database) (t : StoredTable) : Except StoreError TableTerms := do
  let generated ← generatedTerms db t
  let generated ← orderedTerms generated.length generated
  let checks ← checkTerms db t
  let indexes ← ((t.indexes db).filter (·.unique.isSome)).mapM (indexTerms db t)
  return ⟨generated, checks, indexes⟩

/-- The first function in an expression that is not known. -/
def unknownFunction? (pieces : List Piece) : Option Text :=
  match Grammar.ruled Grammar.Rules.any pieces with
  | .ok (e, _) => e.ingredients.findSome? fun
    | .function name => if (Scalar.ofName? name).isSome then none else some name
    | _ => none
  | .error _ => none

/-- The default value of a column. -/
def defaultValue (db : Database) (c : ColumnShape) : Except StoreError Value :=
  match c.default with
  | some pieces =>
    match unknownFunction? pieces with
    | some name => .error (fault ("unknown function: ".toList ++ name ++ "()".toList))
    | none => do
      let term ← storedTerm db {} pieces
      term.value []
  | none => .ok .null

end AskSql.Database
