import AskSql.Sql.Grammar.Table

/-!
# Changes

The statements that change the rows of a table: they insert, update, delete, merge or copy.
-/

namespace AskSql.Sql.Grammar

open Text Reading

variable (r : Rules)

/-- What is done about a row that conflicts with another. -/
def conflictWord : Reading Unit := do
  let words := ["REPLACE", "ROLLBACK", "ABORT", "FAIL", "IGNORE"]
  match ← get with
  | t :: u :: ts =>
    if t.isKeyword "OR" && words.any u.isKeyword then set ts
    else
      let _ ← keyword "REPLACE"
  | _ =>
    let _ ← keyword "REPLACE"

/-- A value for a column, or for several. -/
def assignment : Reading Unit := do
  if ← symbol "(" then
    let _ ← list dottedName
    requireSymbol ")"
  else
    let _ ← dottedName
  requireSymbol "="
  let _ ← r.expression

/-- Values for columns. -/
def assignments : Reading Unit := do
  let _ ← list (assignment r)

/-- What is answered about each changed row. -/
def returning : Reading Unit := do
  if ← keyword "RETURNING" then
    let _ ← list (selectItem r)

/-- What is done about rows that are there already. -/
def onConflict : Reading Unit := do
  if ← keyword "ON" then
    if ← keyword "CONFLICT" then
      if ← keywords ["ON", "CONSTRAINT"] then
        let _ ← dottedName
      else
        let _ ← optionalNameList
      require "DO"
      unless ← keyword "NOTHING" do
        requireAll ["UPDATE", "SET"]
        assignments r
        condition r "WHERE"
    else
      requireAll ["DUPLICATE", "KEY", "UPDATE"]
      assignments r

/-- A row of tokens starts with a query between parentheses. -/
def startsEnclosedQuery : List Token → Bool
  | .symbol ['('] :: t :: _ => t.isKeyword "SELECT"
  | _ => false

/-- Where the rows of an insertion come from. -/
def insertedRows : Reading Unit := do
  unless ← keywords ["DEFAULT", "VALUES"] do
    unless startsEnclosedQuery (← get) do
      let _ ← optionalNameList
      if ← keyword "PARTITION" then
        let _ ← parenthesized r.expressions
    if r.dialect.permissive then
      if ← keyword "SET" then assignments r else r.query
    else unless ← aheadOneOf ["FORMAT", "SETTINGS"] do r.query

/-- An insertion after its first word. -/
def insertion : Reading Unit := do
  conflictWord
  if r.dialect.permissive then
    let _ ← oneOf ["LOW_PRIORITY", "DELAYED", "HIGH_PRIORITY"]
    let _ ← keyword "IGNORE"
  let _ ← keyword "OVERWRITE"
  let _ ← keyword "INTO"
  let _ ← keyword "LOCAL"
  if ← keyword "DIRECTORY" then
    let _ ← literalText
    if ← keywords ["STORED", "AS"] then requireOneOf fileFormats
    r.query
  else
    let _ ← keyword "TABLE"
    let _ ← dottedName
    insertedRows r
    if r.dialect.permissive then
      if ← keyword "AS" then
        let _ ← dottedName
        let _ ← optionalNameList
    onConflict r
    returning r

/-- An update after its first word. -/
def update : Reading Unit := do
  conflictWord
  joinedTable r
  let before ← keyword "FROM"
  if before then joinedTables r
  require "SET"
  assignments r
  unless before do
    if ← keyword "FROM" then joinedTables r
  condition r "WHERE"
  returning r

/-- A deletion after its first word. -/
def deletion : Reading Unit := do
  unless ← keyword "FROM" do
    unless r.dialect.permissive do
      let _ ← list dottedName
      require "FROM"
  joinedTables r
  if ← keyword "USING" then joinedTables r
  condition r "WHERE"
  returning r
  if ← keywords ["ORDER", "BY"] then orderItems r
  if ← keyword "LIMIT" then
    unless ← keyword "ALL" do
      let _ ← r.expression

/-- What is done about the rows that match, or about those that do not. -/
def mergeClause : Reading Bool := do
  if ← keyword "WHEN" then
    let missing ← keyword "NOT"
    require "MATCHED"
    let fromSource ← if missing then keywords ["BY", "SOURCE"] else pure false
    if missing && !fromSource then
      let _ ← keywords ["BY", "TARGET"]
    let inserts := missing && !fromSource
    condition r "AND"
    require "THEN"
    if ← keyword "INSERT" then
      unless inserts do unexpected
      let _ ← optionalNameList
      let whole ← if r.dialect.permissive then keyword "ROW" else pure false
      unless whole do
        require "VALUES"
        rows r
    else
      if inserts then unexpected
      unless ← keyword "DELETE" do
        requireAll ["UPDATE", "SET"]
        assignments r
    return true
  else return false

/-- A merger after its first word. -/
def merger : Reading Unit := do
  let _ ← keyword "INTO"
  let fuel := (← get).length + 1
  let _ ← table r fuel
  require "USING"
  let _ ← table r fuel
  require "ON"
  let _ ← r.expression
  repeatWhile (mergeClause r)

/-! ## Copies -/

/-- A text of one byte. -/
def oneByte : Reading Unit := do
  match ← literalText with
  | [c] => if 0x7F < c.toNat then unexpected
  | _ => unexpected

/-- Whether something is so, if it is said. -/
def said : Reading Unit := do
  let _ ← oneOf ["TRUE", "FALSE"]

/-- A setting of a copy, one of several between parentheses. -/
def copySetting : Reading Unit := do
  if ← keyword "FORMAT" then
    let _ ← name
  else if ← oneOf ["FREEZE", "HEADER"] then said
  else if ← oneOf ["DELIMITER", "QUOTE", "ESCAPE"] then oneByte
  else if ← oneOf ["NULL", "ENCODING"] then
    let _ ← literalText
  else
    requireOneOf ["FORCE_QUOTE", "FORCE_NOT_NULL", "FORCE_NULL"]
    let _ ← nameList

/-- A setting of values with commas between. -/
def separatedValuesSetting : Reading Unit := do
  if ← keyword "HEADER" then return
  else if ← oneOf ["QUOTE", "ESCAPE"] then
    let _ ← keyword "AS"
    oneByte
  else
    require "FORCE"
    unless ← keywords ["NOT", "NULL"] do require "QUOTE"
    let _ ← list name

/-- A setting of a copy that stands alone. -/
def plainCopySetting : Reading Unit := do
  if ← keyword "BINARY" then return
  else if ← keyword "DELIMITER" then
    let _ ← keyword "AS"
    oneByte
  else if ← keyword "NULL" then
    let _ ← keyword "AS"
    let _ ← literalText
  else
    require "CSV"
    repeatWhile do return (← attempt separatedValuesSetting).isSome

/-- The rows that follow a statement up to a backslash and a dot, or up to the end. A backslash
in front of anything else takes that with it. -/
def givenRows : List Token → List Token
  | [] => []
  | [_] => []
  | t :: u :: ts =>
    if !t.isSymbol "\\" then givenRows (u :: ts)
    else if u.isSymbol "." then ts
    else givenRows ts

/-- A copy of rows from a file or to it, after its first word. -/
def copying : Reading Unit := do
  let fromQuery ← symbol "("
  if fromQuery then
    r.query
    requireSymbol ")"
  else
    let _ ← dottedName
    let _ ← optionalNameList
  let isInput ← if fromQuery then pure false else keyword "FROM"
  unless isInput do require "TO"
  let given ← keyword "STDIN"
  unless given do
    unless ← keyword "STDOUT" do
      let _ ← keyword "PROGRAM"
      let _ ← literalText
  let _ ← keyword "WITH"
  if ← symbol "(" then
    let _ ← list copySetting
    requireSymbol ")"
  repeatWhile do return (← attempt plainCopySetting).isSome
  if given then
    requireSymbol ";"
    modify givenRows

/-- A change that may stand in the place of a query, if one is next. -/
def change : Reading Bool := do
  if ← keyword "INSERT" then
    insertion r
    return true
  else if ← keyword "UPDATE" then
    update r
    return true
  else if ← keyword "DELETE" then
    deletion r
    return true
  else return false

end AskSql.Sql.Grammar
