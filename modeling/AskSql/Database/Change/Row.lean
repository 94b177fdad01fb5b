import AskSql.Database.Change.Assignment
import AskSql.Database.Change.ForeignKey
import AskSql.Database.Grammar.Statement

/-!
# Writing rows

A row is made ready, column by column, before it is put in its place. It may be refused on the
way: because a column takes no nulls, because a condition does not hold, or because a key is there
already. What becomes of a refusal is told by the statement, or else by what the table declares
for the key or the column.
-/

namespace AskSql.Database

open Text

/-- Why a row is not written. -/
inductive Refusal where
  /-- Nothing is wrong, but the row is left out. -/
  | skipped
  | failed (conflict : Conflict) (e : StoreError)
  /-- A row is there already that is to be changed. -/
  | met (row : KeyedRow) (changes : List Assignment) (condition : Option Term)

/-- What comes of the attempt to write a row. -/
abbrev Attempt := Except Refusal

namespace Attempt

/-- An error while a row is written undoes its statement. -/
def of {α : Type} : Except StoreError α → Attempt α
  | .ok a => .ok a
  | .error e => .error (.failed .abort e)

/-- What a conflict makes of a row. -/
def conflict {α : Type} (c : Conflict) (e : StoreError) : Attempt α :=
  match c with
  | .ignore => .error .skipped
  | .replace => .error (.failed .abort e)
  | c => .error (.failed c e)

/-- What comes of an attempt whose failure undoes its statement; where a row is left out, all stays
as it was. -/
def strict {α : Type} (before : α) : Attempt α → Except StoreError α
  | .ok a => .ok a
  | .error (.failed _ e) => .error e
  | .error _ => .ok before

end Attempt

/-- A conflict that nothing but the statement tells about. -/
def orAbort (c : Option Conflict) : Conflict :=
  c.getD .abort

/-! ## Values -/

/-- The name of a value's class. -/
def className : Value → Text
  | .null => "NULL".toList
  | .integer _ => "INT".toList
  | .real _ => "REAL".toList
  | .text _ | .garbled _ => "TEXT".toList
  | .blob _ => "BLOB".toList

/-- A value is of the type of its column. -/
def isOfType (c : ColumnShape) (v : Value) : Bool :=
  match v, String.ofList c.declaredType with
  | .null, _ => true
  | _, "ANY" => true
  | .integer _, "INT" | .integer _, "INTEGER" | .integer _, "REAL" => true
  | .real _, "REAL" => true
  | .text _, "TEXT" | .garbled _, "TEXT" => true
  | .blob _, "BLOB" => true
  | _, _ => false

/-- The values of a column are kept with the row. -/
def isKept (c : ColumnShape) : Bool :=
  (c.generated.map (·.stored)).getD true

/-- The values of a row are of the types of their columns, where these are binding. -/
def checkTypes (t : StoredTable) (values : List Value) (counts : ColumnShape → Bool) :
    Attempt Unit :=
  if !t.shape.strict then .ok ()
  else
    match (t.shape.columns.zip values).find? fun (c, v) => counts c && !isOfType c v with
    | some (c, v) =>
      .error (.failed .abort (.database 3091 ("cannot store ".toList ++ className v ++
        " value in ".toList ++ c.declaredType ++ " column ".toList ++ t.name ++ '.' :: c.name)))
    | none => .ok ()

/-- The values of a row as its columns store them. -/
def storedValues (t : StoredTable) (values : List Value) : List Value :=
  (t.shape.columns.zip values).map fun (c, v) => c.affinity.store v

/-- A row with the values of its computed columns. -/
def computedValues (gs : List GeneratedTerm) (number : Value) (values : List Value) :
    Except StoreError (List Value) :=
  gs.foldlM (fun values g => do
    let v ← g.term.value (rowFrames (values ++ [number]))
    return values.set g.place (g.column.affinity.store v)) values

/-- A value of a column that is no null, if the column takes none. -/
def requiredValue (db : Database) (t : StoredTable) (conflict : Option Conflict)
    (c : ColumnShape) (v : Value) : Attempt Value :=
  match c.notNull with
  | none => .ok v
  | some own =>
    if !v.isNull || t.shape.rowNumber == some c.name then .ok v
    else
      let e := StoreError.database 1299
        ("NOT NULL constraint failed: ".toList ++ t.name ++ '.' :: c.name)
      match conflict.getD own with
      | .replace => do
        let v ← Attempt.of (defaultValue db c)
        if v.isNull then .error (.failed .abort e) else return c.affinity.store v
      | chosen => Attempt.conflict chosen e

/-- The conditions of a table hold for a row. -/
def checkConditions (checks : List (Text × Term)) (conflict : Option Conflict)
    (row : List Value) : Attempt Unit :=
  checks.forM fun (label, t) => do
    let v ← Attempt.of (t.value (rowFrames row))
    if v.truth? = some false then
      Attempt.conflict (orAbort conflict)
        (.database 275 ("CHECK constraint failed: ".toList ++ label))

/-- The values of a row, ready to be put in its place. -/
def readyValues (db : Database) (t : StoredTable) (terms : TableTerms)
    (conflict : Option Conflict) (number : Value) (values : List Value) :
    Attempt (List Value) := do
  let values := match t.shape.rowNumberPlace? with
    | some p => values.set p number
    | none => values
  let values := storedValues t values
  let computes := !terms.generated.isEmpty
  if computes then checkTypes t values (·.generated.isNone)
  let values ← Attempt.of (computedValues terms.generated number values)
  let values ← (t.shape.columns.zip values).mapM fun (c, v) => requiredValue db t conflict c v
  if !terms.checks.isEmpty then checkTypes t values isKept
  checkConditions terms.checks conflict (values ++ [number])
  return values

/-! ## Numbers -/

/-- The number that a value is as the number of a row. -/
def rowNumberOf (v : Value) : Except StoreError Value :=
  match Affinity.asInteger (Affinity.asNumber v) with
  | .integer n => .ok (.integer n)
  | _ => .error (.database 20 "datatype mismatch".toList)

/-- The count that is kept for a table, if it has one. -/
def sequenceOf? (db : Database) (t : StoredTable) : Option Int :=
  if t.shape.autoincrement then
    ((db.table? none sequenceName).bind fun s =>
      s.rows.find? fun r => r.values.head? == some (.text t.name)).map fun r =>
        match r.values with
        | [_, v] => v.toInt
        | _ => 0
  else none

/-- The first number from one on that no row of a table has. -/
def freeNumber (t : StoredTable) : Int :=
  (((List.range (t.rows.length + 1)).map fun n => ((n + 1 : Nat) : Int)).find? fun n =>
    !t.rows.any fun r => StoredTable.numberOf r == .integer n).getD 1

/-- The number of the next row of a table. Where the numbers of rows are counted, no number comes
twice. -/
def nextNumber (db : Database) (t : StoredTable) (counted : Int) : Except StoreError Value :=
  if t.shape.autoincrement then
    let n := max t.nextNumber (max counted ((sequenceOf? db t).getD 0) + 1)
    if Value.isInteger64 n then .ok (.integer n)
    else .error (.database 13 "database or disk is full".toList)
  else if Value.isInteger64 t.nextNumber then .ok (.integer t.nextNumber)
  else .ok (.integer (freeNumber t))

/-- The database with the count of a table raised to a number. -/
def raiseSequence (db : Database) (t : StoredTable) (n : Int) : Database :=
  match db.table? none sequenceName with
  | none => db
  | some s =>
    if !t.shape.autoincrement then db
    else
      let own := fun (r : KeyedRow) => r.values.head? == some (.text t.name)
      match s.rows.find? own with
      | some r =>
        let n := max n ((sequenceOf? db t).getD 0)
        let rows := s.rows.map fun q =>
          if q.key == r.key then { q with values := [.text t.name, .integer n] } else q
        db.replaceTable { s with rows }
      | none =>
        db.replaceTable (s.adding ⟨[.integer s.nextNumber], [.text t.name, .integer n]⟩)

/-! ## Rivals -/

/-- What becomes of a row that is there already. -/
inductive Remedy where
  | nothing
  | update (changes : List Assignment) (condition : Option Term)

/-- What becomes of rows that are there already, by the index that tells; without one by any. -/
structure UpsertRule where
  /-- The index; nothing inside for the number of the row. -/
  index : Option (Option Text)
  remedy : Remedy

/-- The rule for the rows that an index has already. -/
def ruleFor? (rules : List UpsertRule) (index : Option Text) : Option Remedy :=
  (rules.find? fun r => r.index.isNone || r.index == some index).map (·.remedy)

/-- A way in which a row can be there already. -/
structure Rival where
  index : Option Text
  conflict : Conflict
  error : StoreError
  rows : List KeyedRow → Except StoreError (List KeyedRow)

/-- The row is there already if its number is. -/
def numberRival (t : StoredTable) (number : Value) : Rival where
  index := none
  conflict := t.shape.rowConflict
  error := match t.shape.rowNumber with
    | some c => .database 1555 ("UNIQUE constraint failed: ".toList ++ t.name ++ '.' :: c)
    | none => .database 2579 ("UNIQUE constraint failed: ".toList ++ t.name ++ ".rowid".toList)
  rows := fun rows => .ok (rows.filter fun r => StoredTable.numberOf r == number)

/-- The row is there already if an index has its key. -/
def indexRival (t : StoredTable) (row : List Value) (i : IndexTerms) : Rival where
  index := some i.shape.name
  conflict := i.shape.unique.getD .abort
  error := i.violation t
  rows := fun rows => i.clashing rows row

/-- The ways in which a row can be there already, as rules about that name them; the number of the
row comes last if none of them is about it. -/
def namedRivals (t : StoredTable) (number : Value) (byIndex : List Rival)
    (rules : List UpsertRule) : List Rival :=
  let named := rules.filterMap (·.index)
  let all := if t.shape.withoutRowNumber || named.contains none then named else named ++ [none]
  all.eraseDups.filterMap fun
    | none => some (numberRival t number)
    | some name => byIndex.find? fun r => r.index == some name

/-- The ways in which a row can be there already: those that are tried before the types of its
values are looked at, and those that are tried after that. What rules are about is tried first. -/
def rivals (t : StoredTable) (terms : TableTerms) (conflict : Option Conflict)
    (rules : List UpsertRule) (number : Value) (row : List Value) : List Rival × List Rival :=
  let byIndex := terms.indexes.map (indexRival t row)
  let named := namedRivals t number byIndex rules
  let others := byIndex.filter fun r => !named.any fun s => s.index == r.index
  match rules.findSome? (·.index) with
  | some none => (named.take 1, named.drop 1 ++ others)
  | some (some _) => ([], named ++ others)
  | none =>
    if t.shape.withoutRowNumber then ([], byIndex)
    else if conflict.isNone && t.shape.rowConflict == .replace then
      ([], byIndex ++ [numberRival t number])
    else ([numberRival t number], byIndex)

end AskSql.Database
