import AskSql.Database.Basic

/-!
# Drafts of tables

The shape of a table while its definition is read, one declaration after the other. Each step
refuses what contradicts the declarations before it. What speaks of columns that may still come,
the conditions on rows and the computed columns, is looked at when the shape is complete.
-/

namespace AskSql.Database

open Text

/-- A table whose definition is being read. -/
structure Draft where
  name : Text
  shape : TableShape := {}
  hasPrimaryKey : Bool := false
  /-- The indexes for which it is told what becomes of a conflict. -/
  settled : List Text := []
  /-- What becomes of a row whose number is there already, if it is told. -/
  numberConflict : Option Conflict := none
  /-- The name that the next condition has. -/
  label : Option Text := none
  deriving Repr, DecidableEq

/-! ## Types -/

/-- A text without the quotes around it, where nothing follows them. -/
def dequoted (s : Text) : Text :=
  match s with
  | '[' :: rest => ((breakAt? ']' rest).map (·.1)).getD rest
  | c :: rest =>
    if c == '\x27' || c == '"' || c == '\x60' then ((quotedValue? c 1 rest).map (·.1)).getD rest
    else s
  | [] => []

/-- A text without a word at its end, if it ends with it, whatever its case. -/
def dropLastWord? (word : String) (s : Text) : Option Text :=
  let n := word.toList.length
  if n ≤ s.length ∧ equalsIgnoringCase (s.drop (s.length - n)) word.toList then
    some (dropEndWhile isSpace (s.take (s.length - n)))
  else none

/-- A type without the words that announce a computed column. -/
def withoutAnnouncement (type : Text) : Text :=
  if type.length < 16 then type
  else
    match dropLastWord? "always" type with
    | none => type
    | some s => (dropLastWord? "generated" s).getD s

/-- A type between quotes without them, if no other quote stands in it. -/
def unquotedType (type : Text) : Text :=
  let isQuote := fun c => ['\x27', '"', '\x60', '['].contains c
  let inside := (type.drop 1).dropLast
  if 3 ≤ type.length && (type.head?.map isQuote).getD false && !inside.any isQuote then inside
  else type

/-- The types that are known by name. -/
def standardTypes : List Text :=
  ["ANY", "BLOB", "INT", "INTEGER", "REAL", "TEXT"].map String.toList

/-- A type as the database keeps it: a standard type in upper case, any other one as it is
written. -/
def declaredType (written : Text) : Text :=
  let type := unquotedType (withoutAnnouncement written)
  match standardTypes.find? fun t => equalsIgnoringCase t type with
  | some t => t
  | none => dequoted type

/-! ## Looking up columns -/

/-- The first name in an expression that could be a column and is none. -/
def strangeName? (shape : TableShape) (e : Expr) : Option Text :=
  e.ingredients.findSome? fun
    | .name false [name] => if (shape.place? name).isSome then none else some name
    | _ => none

/-- The collation of a name. -/
def collationNamed (name : Text) : Except StoreError Collation :=
  match Collation.ofName? name with
  | some c => .ok c
  | none => .error (.database 257 ("no such collation sequence: ".toList ++ name))

/-- The column that a part of a key names. -/
def keyPlace? (shape : TableShape) (p : KeyPart) : Except StoreError (Option Nat) :=
  let expr := match p.expr with
    | .collate e _ => e
    | e => e
  match expr with
  | .name quoted [name] =>
    match shape.place? name with
    | some place => .ok (some place)
    | none => if quoted then .ok none else .error (noColumn name)
  | .value (.text name) =>
    match shape.place? name with
    | some place => .ok (some place)
    | none => .error (noColumn name)
  | _ =>
    match strangeName? shape p.expr with
    | some w => .error (noColumn w)
    | none => .ok none

/-- The direction of a part of a key. -/
def partDirection (shape : TableShape) (p : KeyPart) (place : Option Nat) :
    Except StoreError Direction := do
  let collation ← match p.expr with
    | .collate _ name => collationNamed name
    | _ => .ok (((place.bind (shape.columns[·]?)).map (·.collation)).getD .binary)
  return { collation, descending := p.descending, nullsLast := p.descending }

/-- The places of nulls are told, which a key cannot keep. -/
def nullsFault? (parts : List KeyPart) : Option StoreError :=
  (parts.findSome? (·.nullsLast)).map fun last =>
    fault ("unsupported use of NULLS ".toList ++ (if last then "LAST" else "FIRST").toList)

namespace Draft

/-- A draft with a change of its last column. -/
def withColumn (d : Draft) (f : ColumnShape → ColumnShape) : Draft :=
  match d.shape.columns.reverse with
  | c :: before => { d with shape := { d.shape with columns := (f c :: before).reverse } }
  | [] => d

/-- The last column and its place. -/
def lastColumn? (d : Draft) : Option (ColumnShape × Nat) :=
  (d.shape.columns.getLast?).map fun c => (c, d.shape.columns.length - 1)

/-- A draft with one more column. -/
def addColumn (d : Draft) (name type : Text) : Except StoreError Draft :=
  if (d.shape.place? name).isSome then
    .error (fault ("duplicate column name: ".toList ++ name))
  else
    let declared := declaredType type
    let column : ColumnShape :=
      { name, declaredType := declared, affinity := .ofType declared }
    .ok { d with
      label := none
      shape := { d.shape with columns := d.shape.columns ++ [column] } }

/-- A draft whose last column has a default value. -/
def addDefault (d : Draft) (isConstant : Bool) (pieces : List Piece) : Except StoreError Draft :=
  match d.lastColumn? with
  | none => .ok d
  | some (c, _) =>
    if !isConstant then
      .error (fault ("default value of column [".toList ++ c.name ++ "] is not constant".toList))
    else if c.generated.isSome then
      .error (fault "cannot use DEFAULT on a generated column".toList)
    else .ok (d.withColumn fun c => { c with default := some pieces })

/-- Computed columns have no place in a primary key. -/
def generatedKey : StoreError :=
  fault "generated columns cannot be part of the PRIMARY KEY".toList

/-- A draft whose last column is computed. -/
def addGenerated (d : Draft) (pieces : List Piece) (kind : Option Text) :
    Except StoreError Draft :=
  match d.lastColumn? with
  | none => .ok d
  | some (c, _) =>
    let kindIs := fun (s : String) => (kind.map (equalsIgnoringCase s.toList)).getD false
    if c.default.isSome || (kind.isSome && !kindIs "virtual" && !kindIs "stored") then
      .error (fault ("error in generated column \"".toList ++ c.name ++ ['"']))
    else if d.shape.primaryKey.contains c.name then .error generatedKey
    else .ok (d.withColumn fun c => { c with generated := some ⟨pieces, kindIs "stored"⟩ })

/-- A draft whose last column takes no nulls. -/
def addNotNull (d : Draft) (conflict : Conflict) : Draft :=
  d.withColumn fun c => { c with notNull := some conflict }

/-- A draft whose last column has a collation; the indexes that begin with it have it as well. -/
def addCollation (d : Draft) (name : Text) : Except StoreError Draft := do
  let c ← collationNamed name
  match d.lastColumn? with
  | none => return d
  | some (_, place) =>
    let d := d.withColumn fun column => { column with collation := c }
    let indexes := d.shape.indexes.map fun i =>
      match i.columns with
      | k :: ks =>
        if k.place = some place then
          { i with columns := { k with direction := { k.direction with collation := c } } :: ks }
        else i
      | [] => i
    return { d with shape := { d.shape with indexes } }

/-- Two indexes are of the same columns. -/
def sameColumns (i j : IndexShape) : Bool :=
  i.columns.map (fun c => (c.place, c.direction.collation)) ==
    j.columns.map fun c => (c.place, c.direction.collation)

/-- An equal key with another conflict has to tell nothing of it. -/
def conflictingKeys : StoreError :=
  fault "conflicting ON CONFLICT clauses specified".toList

/-- A draft with an index for a key, unless an equal one is there. -/
def addIndex (d : Draft) (columns : List IndexColumn) (conflict : Option Conflict)
    (isPrimary : Bool) : Except StoreError Draft :=
  let index : IndexShape :=
    { name := keyIndexName d.name (d.shape.indexes.length + 1), columns
      unique := some (conflict.getD .abort), isPrimary }
  match d.shape.indexes.find? (sameColumns index) with
  | none =>
    .ok { d with
      settled := if conflict.isSome then index.name :: d.settled else d.settled
      shape := { d.shape with indexes := d.shape.indexes ++ [index] } }
  | some old =>
    let isSettled := d.settled.contains old.name
    if isSettled && conflict.isSome && conflict != old.unique then .error conflictingKeys
    else
      let unique := if isSettled then old.unique else conflict.or old.unique
      let merged := { old with isPrimary := old.isPrimary || isPrimary, unique }
      .ok { d with
        settled := if conflict.isSome then old.name :: d.settled else d.settled
        shape := { d.shape with
          indexes := d.shape.indexes.map fun i => if i.name = old.name then merged else i } }

/-- The columns of a key. -/
def keyColumns (d : Draft) (parts : List KeyPart) : Except StoreError (List IndexColumn) :=
  match nullsFault? parts with
  | some e => .error e
  | none => parts.mapM fun p => do
    match ← keyPlace? d.shape p with
    | some place =>
      let direction ← partDirection d.shape p (some place)
      return { place := some place, direction }
    | none =>
      throw (fault "expressions prohibited in PRIMARY KEY and UNIQUE constraints".toList)

/-- The last column as the only one of a key. -/
def ownKey (d : Draft) (descending : Bool) : List IndexColumn :=
  match d.lastColumn? with
  | some (c, place) =>
    [{ place := some place
       direction := { collation := c.collation, descending, nullsLast := descending } }]
  | none => []

/-- A draft with a key that tells rows apart: the last column, or some parts. -/
def addUnique (d : Draft) (parts : Option (List KeyPart)) (conflict : Option Conflict) :
    Except StoreError Draft := do
  let columns ← match parts with
    | none => .ok (d.ownKey false)
    | some parts => d.keyColumns parts
  d.addIndex columns conflict false

/-- The columns that parts of a primary key name, as far as there are such columns. -/
def namedColumns (d : Draft) (parts : List KeyPart) : List ColumnShape :=
  parts.filterMap fun p =>
    match keyPlace? d.shape p with
    | .ok (some place) => d.shape.columns[place]?
    | _ => none

/-- A draft with a primary key: the last column, or some parts. A single integer column holds the
number of the row. -/
def addPrimaryKey (d : Draft) (parts : Option (List KeyPart)) (descending : Bool)
    (conflict : Option Conflict) (autoincrement : Bool) : Except StoreError Draft := do
  if d.hasPrimaryKey then
    throw (fault ("table \"".toList ++ d.name ++ "\" has more than one primary key".toList))
  let columns : List ColumnShape := match parts with
    | none => (d.lastColumn?.map Prod.fst).toList
    | some parts => d.namedColumns parts
  if columns.any (·.generated.isSome) then throw generatedKey
  let d := { d with
    hasPrimaryKey := true
    shape := { d.shape with primaryKey := columns.map ColumnShape.name } }
  let width := (parts.map List.length).getD 1
  match columns with
  | [c] =>
    if width = 1 ∧ c.declaredType = "INTEGER".toList ∧ !descending then
      return { d with
        numberConflict := conflict
        shape := { d.shape with
          rowNumber := some c.name, rowConflict := conflict.getD .abort, autoincrement } }
  | _ => pure ()
  if autoincrement then
    throw (fault "AUTOINCREMENT is only allowed on an INTEGER PRIMARY KEY".toList)
  let columns ← match parts with
    | none => .ok (d.ownKey descending)
    | some parts => d.keyColumns parts
  d.addIndex columns conflict true

/-- A draft with a condition on its rows. -/
def addCheck (d : Draft) (written : Text) (pieces : List Piece) : Draft :=
  let label := d.label.getD (dequoted written)
  { d with shape := { d.shape with checks := d.shape.checks ++ [⟨label, pieces⟩] } }

/-- A draft with a foreign key of the last column, or of some columns. -/
def addForeignKey (d : Draft) (columns : Option (List Text)) (key : KeyShape)
    (writtenTarget : Text) : Except StoreError Draft := do
  let own ← match columns, d.lastColumn? with
    | none, some (c, _) =>
      if 1 < key.targetColumns.length then
        throw (fault ("foreign key on ".toList ++ c.name ++
          " should reference only one column of table ".toList ++ writtenTarget))
      else pure [c.name]
    | none, none => pure []
    | some names, _ =>
      if !key.targetColumns.isEmpty && key.targetColumns.length != names.length then
        throw (fault ("number of columns in foreign key does not match the number of ".toList ++
          "columns in the referenced table".toList))
      else
        names.mapM fun n =>
          match (d.shape.place? n).bind (d.shape.columns[·]?) with
          | some c => pure c.name
          | none =>
            throw (fault ("unknown column \"".toList ++ n ++
              "\" in foreign key definition".toList))
  return { d with shape := { d.shape with
    foreignKeys := d.shape.foreignKeys ++ [{ key with columns := own }] } }

/-- A draft whose last foreign key is looked at when the transaction ends, or at once. -/
def deferKey (d : Draft) (deferred : Bool) : Draft :=
  match d.shape.foreignKeys.reverse with
  | k :: before =>
    { d with shape := { d.shape with
      foreignKeys := ({ k with deferred } :: before).reverse } }
  | [] => d

/-! ## The end of a definition -/

/-- A draft whose columns take no values of other types. -/
def makeStrict (d : Draft) : Except StoreError Draft := do
  let columns ← d.shape.columns.mapM fun c =>
    if c.declaredType.isEmpty then
      .error (fault ("missing datatype for ".toList ++ d.name ++ '.' :: c.name))
    else if !standardTypes.contains c.declaredType then
      .error (fault ("unknown datatype for ".toList ++ d.name ++ '.' :: c.name ++
        ": \"".toList ++ c.declaredType ++ ['"']))
    else
      let required := d.shape.primaryKey.contains c.name && d.shape.rowNumber != some c.name
      .ok { c with
        affinity := if c.declaredType = "ANY".toList then .blob else c.affinity
        notNull := if required then c.notNull.or (some .abort) else c.notNull }
  return { d with shape := { d.shape with columns, strict := true } }

/-- A primary key without the columns that it has already. -/
def distinctColumns : List IndexColumn → List IndexColumn
  | [] => []
  | c :: cs => c :: (distinctColumns cs).filter fun k => k.place != c.place

/-- A draft whose rows are told apart by the primary key alone. -/
def dropRowNumber (d : Draft) : Except StoreError Draft := do
  if d.shape.autoincrement then
    throw (fault "AUTOINCREMENT not allowed on WITHOUT ROWID tables".toList)
  if !d.hasPrimaryKey then
    throw (fault ("PRIMARY KEY missing on table ".toList ++ d.name))
  let columns := d.shape.columns.map fun c =>
    if d.shape.primaryKey.contains c.name then { c with notNull := c.notNull.or (some .abort) }
    else c
  let d ← match d.shape.rowNumberPlace? with
    | some place =>
      let collation := ((d.shape.columns[place]?).map ColumnShape.collation).getD .binary
      d.addIndex [{ place := some place, direction := { collation } }] d.numberConflict true
    | none => .ok d
  let indexes := d.shape.indexes.map fun i =>
    if i.isPrimary then { i with columns := distinctColumns i.columns } else i
  return { d with shape := { d.shape with
    columns, indexes, rowNumber := none, withoutRowNumber := true } }

/-- The shape of a draft that is complete. -/
def complete (d : Draft) (withoutRowNumber strict : Bool) : Except StoreError TableShape := do
  let d ← if strict then d.makeStrict else .ok d
  let d ← if withoutRowNumber then d.dropRowNumber else .ok d
  return d.shape

end Draft
end AskSql.Database
