import AskSql.Sql.Grammar.Change

/-!
# Objects

The statements that make, alter and remove what a database holds besides rows: tables, views,
indexes and the rest.
-/

namespace AskSql.Sql.Grammar

open Text Reading

variable (r : Rules)

/-! ## Making -/

/-- How and for whom a view is read. -/
def viewSettings : Reading Unit := do
  if ← keyword "ALGORITHM" then
    requireSymbol "="
    requireOneOf ["UNDEFINED", "MERGE", "TEMPTABLE"]
  if ← keyword "DEFINER" then
    requireSymbol "="
    let _ ← dottedName
  if ← keywords ["SQL", "SECURITY"] then requireOneOf ["DEFINER", "INVOKER"]

/-- A view after its word. -/
def view : Reading Unit := do
  unlessThere
  let _ ← dottedName
  if ← symbol "(" then
    let _ ← listUnless ")" name
    requireSymbol ")"
  let _ ← options r ["WITH"]
  if ← keyword "CLUSTER" then
    require "BY"
    let _ ← optionalNameList
  if r.dialect.permissive then
    let _ ← options r ["OPTIONS"]
    if ← keyword "TO" then
      let _ ← dottedName
    if ← keyword "COMMENT" then
      requireSymbol "="
      commentText
  require "AS"
  r.query
  if r.dialect.permissive then
    let _ ← keywords ["WITH", "NO", "SCHEMA", "BINDING"]

/-- A column of an index. -/
def indexColumn : Reading Unit := do
  let _ ← r.expression
  unless ← aheadOneOf ["ASC", "DESC", "NULLS", "WITH"] do
    let _ ← attempt name
  direction

/-- An index after its word. -/
def index : Reading Unit := do
  let _ ← keyword "CONCURRENTLY"
  let ifMissing ← keywords ["IF", "NOT", "EXISTS"]
  let unnamed ← if ifMissing then pure false else keyword "ON"
  unless unnamed do
    let _ ← dottedName
    let _ ← indexKind
    require "ON"
  let _ ← dottedName
  let _ ← indexKind
  let _ ← parenthesized (list (indexColumn r))
  if ← keyword "INCLUDE" then
    let _ ← nameList
  if ← keyword "NULLS" then
    let _ ← keyword "NOT"
    require "DISTINCT"
  if r.dialect.permissive then
    if ← keyword "WITH" then
      let _ ← parenthesized r.expressions
  condition r "WHERE"

/-- A table that a module stands for, after its first word. -/
def virtualTable : Reading Unit := do
  require "TABLE"
  unlessThere
  let _ ← dottedName
  require "USING"
  let _ ← name
  let _ ← optionalNameList

/-- A schema after its word. -/
def schema : Reading Unit := do
  unlessThere
  unless ← keyword "AUTHORIZATION" do
    let _ ← dottedName
    if ← keyword "AUTHORIZATION" then
      let _ ← name
    return
  let _ ← name

/-- A database after its word. -/
def database : Reading Unit := do
  unlessThere
  let _ ← dottedName
  repeatWhile do
    if ← oneOf ["LOCATION", "MANAGEDLOCATION"] then
      let _ ← literalText
      return true
    else return false

/-- A sequence of numbers after its word. -/
def sequence : Reading Unit := do
  unlessThere
  let _ ← dottedName
  if ← keyword "AS" then
    let _ ← DataType.read
  sequenceOptions
  if ← keywords ["OWNED", "BY"] then
    let _ ← dottedName

/-- A type after its word. -/
def namedType : Reading Unit := do
  let _ ← dottedName
  require "AS"
  if ← keyword "ENUM" then
    requireSymbol "("
    let _ ← listUnless ")" name
    requireSymbol ")"
  else if ← symbol "(" then
    let closed ← symbol ")"
    unless closed do
      repeatWhile do
        let _ ← name
        let _ ← DataType.read
        if ← keyword "COLLATE" then
          let _ ← dottedName
        if ← symbol "," then return !(← symbol ")")
        else
          requireSymbol ")"
          return false

/-- An extension after its word. -/
def extension : Reading Unit := do
  unlessThere
  let _ ← name
  if ← keyword "WITH" then
    if ← keyword "SCHEMA" then
      let _ ← name
    if ← keyword "VERSION" then
      let _ ← name
    let _ ← keyword "CASCADE"

/-- A role after its word. -/
def role : Reading Unit := do
  unlessThere
  let _ ← list dottedName
  let _ ← keyword "WITH"

/-- A rule on who sees which rows, after its word. -/
def policy : Reading Unit := do
  let _ ← name
  require "ON"
  let _ ← dottedName
  if ← keyword "AS" then requireOneOf ["PERMISSIVE", "RESTRICTIVE"]
  if ← keyword "FOR" then requireOneOf ["ALL", "SELECT", "INSERT", "UPDATE", "DELETE"]
  if ← keyword "TO" then
    let _ ← list name
  if ← keyword "USING" then
    let _ ← parenthesized r.expression
  if ← keywords ["WITH", "CHECK"] then
    let _ ← parenthesized r.expression

/-- A procedure after its word, the statements of which `statements` reads. -/
def procedure (statements : Reading Unit) : Reading Unit := do
  let _ ← dottedName
  if ← symbol "(" then
    let _ ← listUnless ")" do
      let _ ← name
      DataType.read
    requireSymbol ")"
  requireAll ["AS", "BEGIN"]
  statements
  require "END"

/-- A `CREATE` statement after its first word; `statements` reads the statements of a
procedure. -/
def creation (statements : Reading Unit) : Reading Statement := do
  let orReplace ← keywords ["OR", "REPLACE"]
  let _ ← keywords ["OR", "ALTER"]
  let _ ← keyword "LOCAL"
  let _ ← keyword "GLOBAL"
  let _ ← keyword "TRANSIENT"
  let _ ← oneOf ["TEMP", "TEMPORARY"]
  viewSettings
  if ← keyword "TABLE" then return .createTable (← tableText r)
  else if ← keyword "MATERIALIZED" then
    require "VIEW"
    view r
  else if ← keyword "VIEW" then view r
  else if ← keyword "POLICY" then policy r
  else if ← keyword "EXTERNAL" then
    require "TABLE"
    return .createTable (← externalTableText r)
  else if orReplace then unexpected
  else if ← keyword "EXTENSION" then extension
  else if ← keyword "INDEX" then index r
  else if ← keywords ["UNIQUE", "INDEX"] then index r
  else if ← keyword "VIRTUAL" then virtualTable
  else if ← keyword "SCHEMA" then schema
  else if ← keyword "DATABASE" then database
  else if ← keyword "ROLE" then role
  else if ← keyword "SEQUENCE" then sequence
  else if ← keyword "TYPE" then namedType
  else if ← keyword "PROCEDURE" then procedure statements
  else unexpected
  return .other

/-! ## Removing -/

/-- What happens to what depends on something removed. -/
def dropBehavior : Reading Unit := do
  let cascades ← keyword "CASCADE"
  let restricted ← keyword "RESTRICT"
  if cascades && restricted then unexpected

/-- A `DROP` statement after its first word. -/
def removal : Reading Unit := do
  if r.dialect.permissive then
    let _ ← keyword "TEMPORARY"
  if ← oneOf ["FUNCTION", "PROCEDURE"] then
    let _ ← keywords ["IF", "EXISTS"]
    let _ ← list do
      let _ ← dottedName
      if ← symbol "(" then
        let _ ← listUnless ")" DataType.read
        requireSymbol ")"
    let _ ← oneOf ["CASCADE", "RESTRICT"]
  else if ← keyword "POLICY" then
    let _ ← keywords ["IF", "EXISTS"]
    let _ ← name
    require "ON"
    let _ ← dottedName
    let _ ← oneOf ["CASCADE", "RESTRICT"]
  else if ← keyword "EXTENSION" then
    let _ ← keywords ["IF", "EXISTS"]
    let _ ← list name
    let _ ← oneOf ["CASCADE", "RESTRICT"]
  else
    let role ← ahead "ROLE"
    if ← keyword "MATERIALIZED" then require "VIEW"
    else
      requireOneOf
        ["TABLE", "VIEW", "INDEX", "ROLE", "SCHEMA", "DATABASE", "SEQUENCE", "STAGE", "TYPE"]
    let _ ← keywords ["IF", "EXISTS"]
    let _ ← list dottedName
    if role then
      if ← aheadOneOf ["CASCADE", "RESTRICT", "PURGE"] then unexpected
    dropBehavior
    let _ ← keyword "PURGE"
    if ← keyword "ON" then
      let _ ← dottedName

/-- A `TRUNCATE` statement after its first word. -/
def truncation : Reading Unit := do
  let _ ← keyword "TABLE"
  let _ ← list do
    let _ ← keyword "ONLY"
    dottedName
  if ← keyword "PARTITION" then
    let _ ← parenthesized r.expressions
  if r.dialect.permissive then
    let _ ← oneOf ["RESTART", "CONTINUE"]
    let _ ← keyword "IDENTITY"
    let _ ← oneOf ["CASCADE", "RESTRICT"]
  onCluster

/-! ## Altering -/

/-- Values of parts of a table between parentheses. -/
def partValues : Reading Unit :=
  parenthesized r.expressions

/-- A table gets something, after `ADD`. -/
def addition : Reading Unit := do
  if (← constraint? r).isSome then return
  let _ ← keywords ["IF", "NOT", "EXISTS"]
  if ← ahead "PARTITION" then
    repeatWhile do
      if ← keyword "PARTITION" then
        partValues r
        return true
      else return false
  else
    let _ ← keyword "COLUMN"
    if r.dialect.permissive then unlessThere
    let _ ← column r
    if r.dialect.permissive then
      unless ← keyword "FIRST" do
        if ← keyword "AFTER" then
          let _ ← name

/-- Something of a table is called otherwise, after `RENAME`. -/
def otherwiseCalled : Reading Unit := do
  if ← keyword "TO" then
    let _ ← dottedName
  else
    let _ ← keyword "COLUMN"
    let _ ← name
    require "TO"
    let _ ← name

/-- A table loses something, after `DROP`. -/
def loss : Reading Unit := do
  if ← keywords ["IF", "EXISTS", "PARTITION"] then partValues r
  else if ← keyword "PARTITION" then partValues r
  else if ← keyword "CONSTRAINT" then
    let _ ← keywords ["IF", "EXISTS"]
    let _ ← name
    let _ ← oneOf ["CASCADE", "RESTRICT"]
  else if ← keywords ["PRIMARY", "KEY"] then return
  else if ← keywords ["FOREIGN", "KEY"] then
    let _ ← name
  else if ← keywords ["CLUSTERING", "KEY"] then return
  else
    let _ ← keyword "COLUMN"
    let _ ← keywords ["IF", "EXISTS"]
    let _ ← name
    let _ ← oneOf ["CASCADE", "RESTRICT"]

/-- The type and the options of a column that changes. -/
def columnChange : Reading Unit := do
  let _ ← DataType.read
  repeatWhile do
    return (← columnOption? r).isSome

/-- One column of a table changes, after `ALTER`. -/
def columnAlteration : Reading Unit := do
  let _ ← keyword "COLUMN"
  let _ ← name
  if ← keywords ["SET", "NOT", "NULL"] then return
  else if ← keywords ["DROP", "NOT", "NULL"] then return
  else if ← keywords ["SET", "DEFAULT"] then
    let _ ← r.expression
  else if ← keywords ["DROP", "DEFAULT"] then return
  else
    requireAll ["SET", "DATA", "TYPE"]
    let _ ← DataType.read

/-- A row level or a rule of a table is switched, after `DISABLE` or `ENABLE`. -/
def switching : Reading Unit := do
  unless ← keywords ["ROW", "LEVEL", "SECURITY"] do
    let _ ← oneOf ["ALWAYS", "REPLICA"]
    requireOneOf ["RULE", "TRIGGER"]
    let _ ← name

/-- One alteration of a table. -/
def tableAlteration : Reading Unit := do
  if ← keyword "ADD" then addition r
  else if ← keyword "RENAME" then otherwiseCalled
  else if ← oneOf ["DISABLE", "ENABLE"] then switching
  else if ← keyword "DROP" then loss r
  else if ← keyword "PARTITION" then
    partValues r
    requireAll ["RENAME", "TO", "PARTITION"]
    partValues r
  else if ← keyword "CHANGE" then
    let _ ← keyword "COLUMN"
    let _ ← name
    let _ ← name
    columnChange r
  else if ← keyword "MODIFY" then
    let _ ← keyword "COLUMN"
    let _ ← name
    columnChange r
  else if ← keyword "ALTER" then columnAlteration r
  else if ← keyword "SWAP" then
    require "WITH"
    let _ ← dottedName
  else if ← keywords ["CLUSTER", "BY"] then partValues r
  else if ← keywords ["SUSPEND", "RECLUSTER"] then return
  else if ← keywords ["RESUME", "RECLUSTER"] then return
  else if ← keyword "LOCK" then
    let _ ← symbol "="
    requireOneOf ["DEFAULT", "NONE", "SHARED", "EXCLUSIVE"]
  else if ← keyword "ALGORITHM" then
    let _ ← symbol "="
    requireOneOf ["DEFAULT", "INPLACE", "INSTANT", "COPY"]
  else if ← keyword "AUTO_INCREMENT" then
    let _ ← symbol "="
    signedNumber
  else
    unless ← options r ["SET", "TBLPROPERTIES"] do unexpected

/-- An `ALTER` statement after its first word. -/
def alteration : Reading Unit := do
  if ← keyword "TABLE" then
    let _ ← keywords ["IF", "EXISTS"]
    let _ ← keyword "ONLY"
    let _ ← dottedName
    onCluster
    let _ ← list (tableAlteration r)
    if ← keyword "LOCATION" then
      let _ ← name
    else if ← keywords ["SET", "LOCATION"] then
      let _ ← name
  else if ← keyword "INDEX" then
    let _ ← dottedName
    requireAll ["RENAME", "TO"]
    let _ ← dottedName
  else
    require "VIEW"
    let _ ← dottedName
    let _ ← optionalNameList
    let _ ← options r ["WITH"]
    require "AS"
    r.query

/-! ## Rights -/

/-- A name whose parts may be stars. -/
def starredName : Reading Unit := do
  let _ ← separated (symbol ".") do
    unless ← symbol "*" do
      let _ ← name

/-- What somebody may do. -/
def privilege : Reading Unit := do
  if ← oneOf ["SELECT", "INSERT", "UPDATE", "REFERENCES"] then
    let _ ← optionalNameList
  else
    requireOneOf ["CONNECT", "DELETE", "EXEC", "EXECUTE", "OWNERSHIP", "READ", "TEMP", "TEMPORARY",
      "TRIGGER", "TRUNCATE", "USAGE"]

/-- What somebody may do to which objects. -/
def privileges : Reading Unit := do
  if ← keyword "ALL" then
    let _ ← keyword "PRIVILEGES"
  else
    let _ ← list privilege
  if ← keyword "ON" then
    let all ← keywords ["ALL", "TABLES", "IN", "SCHEMA"]
    unless all do
      unless ← keywords ["ALL", "SEQUENCES", "IN", "SCHEMA"] do
        let _ ← oneOf ["SEQUENCE", "DATABASE", "SCHEMA", "TABLE", "VIEW"]
    let _ ← list starredName

/-- Those who get or lose a right. -/
def grantees : Reading Unit := do
  let _ ← list do
    unless ← keyword "PUBLIC" do
      let _ ← oneOf ["ROLE", "USER", "SHARE", "GROUP"]
      let _ ← dottedName

/-- Who gives or takes a right. -/
def grantor : Reading Unit := do
  if ← keywords ["GRANTED", "BY"] then
    let _ ← name

/-- A `GRANT` statement after its first word. -/
def granting : Reading Unit := do
  privileges
  require "TO"
  grantees
  let _ ← keywords ["WITH", "GRANT", "OPTION"]
  grantor

/-- A `REVOKE` statement after its first word. -/
def revocation : Reading Unit := do
  privileges
  require "FROM"
  grantees
  grantor
  let _ ← oneOf ["CASCADE", "RESTRICT"]

end AskSql.Sql.Grammar
