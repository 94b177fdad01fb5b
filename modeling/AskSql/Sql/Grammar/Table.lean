import AskSql.Sql.Grammar.Query

/-!
# Tables

The `CREATE TABLE` statement: columns with types and options, constraints of the table, and how
and where its rows are kept.

Some options that a dialect does not know are passed over, but end the options of their column.
-/

namespace AskSql.Sql.Grammar

open Text Reading

variable (r : Rules)

/-! ## References -/

/-- What is done to a row whose target goes away or changes. -/
def referentialAction : Reading Unit := do
  unless ← oneOf ["RESTRICT", "CASCADE"] do
    unless ← keywords ["SET", "NULL"] do
      unless ← keywords ["NO", "ACTION"] do
        requireAll ["SET", "DEFAULT"]

/-- The actions of a foreign key, each at most once. -/
def referentialActions : Reading Unit := do
  if ← keywords ["ON", "DELETE"] then
    referentialAction
    if ← keywords ["ON", "UPDATE"] then referentialAction
  else if ← keywords ["ON", "UPDATE"] then
    referentialAction
    if ← keywords ["ON", "DELETE"] then referentialAction

/-- When a constraint is checked, and whether it is: each said at most once, and nothing said
of what is not `open`. -/
def characteristicsOf : (fuel : Nat) → (deferrable initially enforced : Bool) → Reading Unit
  | 0, _, _, _ => return
  | fuel + 1, deferrable, initially, enforced => do
    let said := fun (isOpen : Bool) (ks : List String) => if isOpen then keywords ks else pure false
    if ← said deferrable ["NOT", "DEFERRABLE"] then
      characteristicsOf fuel false initially enforced
    else if ← said deferrable ["DEFERRABLE"] then characteristicsOf fuel false initially enforced
    else if ← said initially ["INITIALLY"] then
      requireOneOf ["DEFERRED", "IMMEDIATE"]
      characteristicsOf fuel deferrable false enforced
    else if ← said enforced ["ENFORCED"] then characteristicsOf fuel deferrable initially false
    else if ← said enforced ["NOT", "ENFORCED"] then
      characteristicsOf fuel deferrable initially false

/-- When a constraint is checked, and whether it is. -/
def characteristics : Reading Unit :=
  characteristicsOf 3 true true true

/-- The target of a foreign key after `REFERENCES`, with its actions and characteristics. -/
def reference : Reading Reference := do
  let target ← dottedName
  let columns ← optionalNameList
  referentialActions
  characteristics
  return ⟨target, columns⟩

/-! ## Columns -/

/-- The options of a sequence of numbers, in their order. -/
def sequenceOptions : Reading Unit := do
  if ← keyword "INCREMENT" then
    let _ ← keyword "BY"
    signedNumber
  if ← keyword "MINVALUE" then signedNumber
  else
    let _ ← keywords ["NO", "MINVALUE"]
  if ← keyword "MAXVALUE" then signedNumber
  else
    let _ ← keywords ["NO", "MAXVALUE"]
  if ← keyword "START" then
    let _ ← keyword "WITH"
    signedNumber
  if ← keyword "CACHE" then signedNumber
  unless ← keywords ["NO", "CYCLE"] do
    let _ ← keyword "CYCLE"

/-- Whether a computed column is kept. -/
def storage : Reading Unit := do
  let _ ← oneOf ["STORED", "VIRTUAL"]

/-- A computed column after `GENERATED`, if it is one. -/
def generated : Reading Bool := do
  let always ← keywords ["ALWAYS", "AS", "IDENTITY"]
  let identity ← if always then pure true else keywords ["BY", "DEFAULT", "AS", "IDENTITY"]
  if identity then
    if ← symbol "(" then
      sequenceOptions
      requireSymbol ")"
    return true
  else if ← keywords ["ALWAYS", "AS"] then
    if ← symbol "(" then
      let _ ← r.expression
      requireSymbol ")"
      storage
      return true
    else return false
  else return false

/-- A text that comments on something. -/
def commentText : Reading Unit := do
  match ← next with
  | .literal .plain _ => return
  | .literal .dollar _ => return
  | _ => unexpected

/-- The options that come last, after those that are passed over in `general` SQL alone. -/
def lateOption : Reading (Option ColumnOption) := do
  let permissive := r.dialect.permissive
  let autoIncrement ← keyword "AUTO_INCREMENT"
  if autoIncrement && permissive then return some .other
  if ← oneOf ["AUTOINCREMENT", "ASC", "DESC"] then return some .other
  if ← keywords ["ON", "UPDATE"] then
    if permissive then
      let _ ← r.expression
      return some .other
  if ← keyword "GENERATED" then
    if ← generated r then return some .other else return none
  if permissive then
    if ← keyword "OPTIONS" then
      let _ ← parenthesized (listUnless ")" do
        let _ ← name
        requireSymbol "="
        r.expression)
      return some .other
  if ← keyword "AS" then
    let _ ← parenthesized r.expression
    storage
    return some .other
  if ← keyword "IDENTITY" then
    if permissive then
      if ← symbol "(" then
        signedNumber
        requireSymbol ","
        signedNumber
        requireSymbol ")"
      return some .other
  if ← keywords ["ON", "CONFLICT"] then
    requireOneOf ["ROLLBACK", "ABORT", "FAIL", "IGNORE", "REPLACE"]
    return some .other
  return none

/-- An option of a column, if one is next. -/
def columnOption? : Reading (Option ColumnOption) := do
  if ← keywords ["CHARACTER", "SET"] then
    let _ ← dottedName
    return some .other
  else if ← keyword "COLLATE" then
    let _ ← dottedName
    return some .other
  else if ← keywords ["NOT", "NULL"] then return some (.nullable false)
  else if ← keyword "COMMENT" then commentText; return some .other
  else if ← keyword "NULL" then return some (.nullable true)
  else if ← keyword "DEFAULT" then
    let _ ← r.expression
    return some .other
  else if ← keywords ["PRIMARY", "KEY"] then characteristics; return some .primaryKey
  else if ← keyword "UNIQUE" then characteristics; return some .other
  else if ← keyword "REFERENCES" then return some (.references (← reference))
  else if ← keyword "CHECK" then
    let _ ← parenthesized r.expression
    return some .other
  else lateOption r

/-- The options of a column, at most `fuel`. An option may have a name, after which it has to be
there. -/
def columnOptions : (fuel : Nat) → Reading (List ColumnOption)
  | 0 => unexpected
  | fuel + 1 => do
    let named ← keyword "CONSTRAINT"
    if named then
      let _ ← name
    match ← columnOption? r with
    | some o => return o :: (← columnOptions fuel)
    | none => if named then unexpected else return []

/-- A column with its type and its options. -/
def column : Reading ColumnText := do
  let n ← name
  let declaredType ← DataType.ofColumn r.dialect
  let options ← columnOptions r ((← get).length + 1)
  return ⟨n, declaredType, options⟩

/-! ## Constraints -/

/-- The name of an index, where one stands in front of the columns. -/
def indexName : Reading Unit := do
  let _ ← attempt name

/-- The kind of an index, if it is said. -/
def indexKind : Reading Bool := do
  if ← keyword "USING" then
    let _ ← name
    return true
  else return false

/-- The options of an index. -/
def indexOptions : Reading Unit :=
  repeatWhile do
    if ← indexKind then return true
    else if ← keyword "COMMENT" then
      let _ ← literalText
      return true
    else return false

/-- The columns of a key with its index. -/
def keyColumns : Reading (List Name) := do
  indexName
  let _ ← indexKind
  let columns ← nameList
  indexOptions
  characteristics
  return columns

/-- A constraint of a table, if one is next. -/
def constraint? : Reading (Option TableConstraint) := do
  let named ← keyword "CONSTRAINT"
  if named then
    let _ ← name
  if ← keyword "UNIQUE" then
    if ← oneOf ["KEY", "INDEX"] then
      unless r.dialect.permissive do unexpected
    if ← keyword "NULLS" then
      let _ ← keyword "NOT"
      require "DISTINCT"
    let _ ← keyColumns
    return some .other
  else if ← keyword "PRIMARY" then
    require "KEY"
    return some (.primaryKey (← keyColumns))
  else if ← keyword "FOREIGN" then
    require "KEY"
    let columns ← nameList
    require "REFERENCES"
    return some (.foreignKey columns (← reference))
  else if ← keyword "CHECK" then
    let _ ← parenthesized r.expression
    return some .other
  else if named then unexpected
  else if r.dialect.permissive then
    if ← oneOf ["INDEX", "KEY"] then
      unless ← symbolAhead "(" do
        indexName
      let _ ← indexKind
      let _ ← nameList
      indexOptions
      return some .other
    else return none
  else return none

/-! ## Elements -/

/-- The elements of a table up to its closing parenthesis, at most `fuel`. -/
def elements : (fuel : Nat) → Reading (List ColumnText × List TableConstraint)
  | 0 => unexpected
  | fuel + 1 => do
    let (columns, constraints) ←
      match ← constraint? r with
      | some c => pure ([], [c])
      | none =>
        match ← peek with
        | some (.word _ _) => do pure ([← column r], [])
        | _ => unexpected
    if ← symbol ")" then return (columns, constraints)
    else
      requireSymbol ","
      let (columns', constraints') ← elements fuel
      return (columns ++ columns', constraints ++ constraints')

/-- The elements of a table between parentheses, or none. -/
def optionalElements : Reading (List ColumnText × List TableConstraint) := do
  if ← symbol "(" then
    if ← symbol ")" then return ([], []) else elements r ((← get).length + 1)
  else return ([], [])

/-! ## How and where rows are kept -/

/-- Options with values after the words `ws`; says whether there are any. -/
def options (ws : List String) : Reading Bool := do
  if ← keywords ws then
    let settings ← parenthesized (listUnless ")" do
      let _ ← name
      requireSymbol "="
      r.expression)
    return !settings.isEmpty
  else return false

/-- How the parts of a row are told apart. -/
def rowFormat : Reading Unit := do
  require "FORMAT"
  if ← keyword "SERDE" then
    let _ ← literalText
  else
    let _ ← keyword "DELIMITED"
    repeatWhile do
      if ← keyword "FIELDS" then
        if ← keywords ["TERMINATED", "BY"] then
          let _ ← name
          if ← keywords ["ESCAPED", "BY"] then
            let _ ← name
          return true
        else return false
      else if ← keyword "COLLECTION" then ended ["ITEMS", "TERMINATED", "BY"]
      else if ← keyword "MAP" then ended ["KEYS", "TERMINATED", "BY"]
      else if ← keyword "LINES" then ended ["TERMINATED", "BY"]
      else if ← keyword "NULL" then ended ["DEFINED", "AS"]
      else return false
where
  /-- A mark after the words `ws`, if it is said. -/
  ended (ws : List String) : Reading Bool := do
    if ← keywords ws then
      let _ ← name
      return true
    else return false

/-- The formats of files. -/
def fileFormats : List String :=
  ["AVRO", "JSONFILE", "ORC", "PARQUET", "RCFILE", "SEQUENCEFILE", "TEXTFILE"]

/-- Columns that rows are parted by. -/
def parting : Reading Unit := do
  if ← keywords ["PARTITIONED", "BY"] then
    let _ ← parenthesized (list (column r))

/-- In which files rows are kept. -/
def files : Reading Unit :=
  repeatWhile do
    if ← keyword "ROW" then
      rowFormat
      return true
    else if ← keyword "STORED" then
      require "AS"
      if ← keyword "INPUTFORMAT" then
        let _ ← r.expression
        require "OUTPUTFORMAT"
        let _ ← r.expression
      else requireOneOf fileFormats
      return true
    else if ← keyword "LOCATION" then
      let _ ← literalText
      return true
    else options r ["WITH", "SERDEPROPERTIES"]

/-- The engine that keeps the rows. -/
def engine : Reading Unit := do
  if ← keyword "ENGINE" then
    requireSymbol "="
    unless (← next).isWord do unexpected
    let _ ← optionalNameList

/-- A word after the words `ws` and an equals sign. -/
def setting (ws : List String) : Reading Unit := do
  if ← keywords ws then
    requireSymbol "="
    unless (← next).isWord do unexpected

/-- A comment on a table. -/
def tableComment : Reading Unit := do
  if ← keyword "COMMENT" then
    let _ ← symbol "="
    commentText

/-- What becomes of the rows when a transaction ends. -/
def onCommit : Reading Unit := do
  if ← keywords ["ON", "COMMIT"] then
    unless ← keywords ["DELETE", "ROWS"] do
      unless ← keywords ["PRESERVE", "ROWS"] do
        require "DROP"

/-- How rows are kept, in the order in which it may be said. -/
def keeping : Reading Unit := do
  let _ ← keywords ["WITHOUT", "ROWID"]
  parting r
  if r.dialect.permissive then
    if ← keywords ["CLUSTERED", "BY"] then
      let _ ← nameList
      require "INTO"
      signedNumber
      require "BUCKETS"
  files r
  let _ ← options r ["WITH"]
  let _ ← options r ["TBLPROPERTIES"]
  engine
  if ← keyword "AUTO_INCREMENT" then
    let _ ← symbol "="
    let _ ← naturalUpTo 0xFFFFFFFF
  if r.dialect.permissive then
    if ← keywords ["PRIMARY", "KEY"] then
      let _ ← r.expression
  if ← keywords ["ORDER", "BY"] then
    if ← symbol "(" then
      let _ ← listUnless ")" r.expression
      requireSymbol ")"
    else
      let _ ← r.expression
  if ← keyword "INHERITS" then
    let _ ← parenthesized (list dottedName)
  if r.dialect.permissive then
    if ← keywords ["PARTITION", "BY"] then
      let _ ← r.expression
    clause r ["CLUSTER", "BY"]
    let _ ← options r ["OPTIONS"]
  setting ["DEFAULT", "CHARSET"]
  setting ["COLLATE"]
  onCommit
  let _ ← keyword "STRICT"
  tableComment

/-- A name that need not be there; without one, a token is passed over. -/
def looseName : Reading Unit := do
  if (← attempt dottedName).isNone then skip

/-- `IF NOT EXISTS`, if it is said. -/
def unlessThere : Reading Unit := do
  let _ ← keywords ["IF", "NOT", "EXISTS"]

/-- The words that say which cluster holds a table. -/
def onCluster : Reading Unit := do
  if ← keywords ["ON", "CLUSTER"] then
    let _ ← name

/-- A `CREATE TABLE` statement after the word `TABLE`. -/
def tableText : Reading TableText := do
  unlessThere
  let n ← dottedName
  onCluster
  if ← oneOf ["LIKE", "ILIKE"] then looseName
  if ← keyword "CLONE" then looseName
  let (columns, constraints) ← optionalElements r
  keeping r
  if ← keyword "AS" then r.query
  else if r.dialect.permissive then
    if ← ahead "SELECT" then r.query
  return ⟨n, columns, constraints⟩

/-- The definition of a table that is kept in files of its own, after the word `TABLE`. -/
def externalTableText : Reading TableText := do
  unlessThere
  let n ← dottedName
  let (columns, constraints) ← optionalElements r
  parting r
  files r
  let _ ← options r ["TBLPROPERTIES"]
  return ⟨n, columns, constraints⟩

end AskSql.Sql.Grammar
