import AskSql.Sql.Grammar.Object

/-!
# Statements

All statements by their first words, and rows of statements. A row of statements is read as long
as one follows the other: semicolons between them count as one or as none, and the word `END`
after a whole statement ends the row.

Phrases lie in each other at most fifty deep, counting statements, queries and expressions.
-/

namespace AskSql.Sql.Grammar

open Text Reading

variable (r : Rules)

/-! ## Rows of statements -/

/-- Statements up to the end or to an `END`, at most `fuel`; `separated` tells whether one may
start here. -/
def statementsUpTo : (fuel : Nat) → (separated : Bool) → Reading (List Statement)
  | 0, _ => unexpected
  | fuel + 1, separated => do
    match ← get with
    | [] => return []
    | t :: ts =>
      if t = .semicolon then
        set ts
        statementsUpTo fuel true
      else if separated then
        let s ← r.statement
        return s :: (← statementsUpTo fuel false)
      else if t.isKeyword "END" then return []
      else unexpected

/-- Statements up to the end or to an `END`. -/
def statements : Reading (List Statement) := do
  statementsUpTo r (2 * (← get).length + 1) true

/-- Statements, each with a semicolon after it, up to one of the words `ends`. -/
def blockUpTo (ends : List String) : (fuel : Nat) → Reading Unit
  | 0 => unexpected
  | fuel + 1 => do
    unless ← aheadOneOf ends do
      let _ ← r.statement
      requireSymbol ";"
      blockUpTo ends fuel

/-- Statements, each with a semicolon after it, up to one of the words `ends`. -/
def block (ends : List String) : Reading Unit := do
  blockUpTo r ends ((← get).length + 1)

/-- A condition and the statements for it. -/
def branch (ends : List String) : Reading Unit := do
  let _ ← r.expression
  require "THEN"
  block r ends

/-- A case distinction between statements after its first word. -/
def caseStatement : Reading Unit := do
  unless ← ahead "WHEN" do
    let _ ← r.expression
  require "WHEN"
  let _ ← separated (keyword "WHEN") (branch r ["WHEN", "ELSE", "END"])
  if ← keyword "ELSE" then block r ["END"]
  require "END"
  let _ ← keyword "CASE"

/-- A condition for statements after its first word. -/
def ifStatement : Reading Unit := do
  branch r ["ELSE", "ELSEIF", "END"]
  if ← keyword "ELSEIF" then
    let _ ← separated (keyword "ELSEIF") (branch r ["ELSEIF", "ELSE", "END"])
  if ← keyword "ELSE" then block r ["END"]
  requireAll ["END", "IF"]

/-! ## Transactions -/

/-- How a transaction works, with commas between or without. -/
def modesUpTo : (fuel : Nat) → (needed : Bool) → Reading Unit
  | 0, _ => unexpected
  | fuel + 1, needed => do
    let isolation ← keywords ["ISOLATION", "LEVEL"]
    if isolation then
      unless ← keywords ["READ", "UNCOMMITTED"] do
        unless ← keywords ["READ", "COMMITTED"] do
          unless ← keywords ["REPEATABLE", "READ"] do
            requireOneOf ["SERIALIZABLE", "SNAPSHOT"]
      modesUpTo fuel (← symbol ",")
    else if ← keywords ["READ", "ONLY"] then modesUpTo fuel (← symbol ",")
    else if ← keywords ["READ", "WRITE"] then modesUpTo fuel (← symbol ",")
    else if needed then unexpected

/-- How a transaction works. -/
def modes : Reading Unit := do
  modesUpTo ((← get).length + 1) false

/-- Whether a transaction follows the one that ends. -/
def chain : Reading Unit := do
  let _ ← oneOf ["TRANSACTION", "WORK"]
  if ← keyword "AND" then
    let _ ← keyword "NO"
    require "CHAIN"

/-! ## Other statements -/

/-- A question about a statement or a table after its first word. -/
def explanation : Reading Unit := do
  unless ← keywords ["QUERY", "PLAN"] do
    unless ← keyword "ESTIMATE" do
      let _ ← keyword "ANALYZE"
      let _ ← keyword "VERBOSE"
      if ← keyword "FORMAT" then requireOneOf ["TEXT", "GRAPHVIZ", "JSON"]
  match ← attempt r.statement with
  | some .explain => unexpected
  | some _ => return
  | none =>
    let _ ← oneOf ["EXTENDED", "FORMATTED"]
    let _ ← dottedName

/-- What is found out about a table. -/
def analysis : Reading Unit := do
  let _ ← keyword "TABLE"
  let _ ← dottedName
  repeatWhile do
    if ← keyword "PARTITION" then
      let _ ← parenthesized r.expressions
      return true
    else if ← keyword "FOR" then
      require "COLUMNS"
      let _ ← attempt (list name)
      return true
    else if ← keyword "CACHE" then
      require "METADATA"
      return true
    else if ← keyword "COMPUTE" then
      require "STATISTICS"
      return true
    else keyword "NOSCAN"

/-- A setting of the database. -/
def pragma : Reading Unit := do
  let plainValue : Reading Unit := do
    if (← value) = .other then unexpected
  let _ ← dottedName
  if ← symbol "(" then
    plainValue
    requireSymbol ")"
  else if ← symbol "=" then plainValue

/-- A setting of the session. -/
def sessionSetting : Reading Unit := do
  let _ ← oneOf ["SESSION", "LOCAL", "GLOBAL"]
  if ← keyword "ROLE" then
    let _ ← name
  else if ← keywords ["TIME", "ZONE"] then zone
  else if ← keyword "TIMEZONE" then zone
  else if ← keyword "CHARACTERISTICS" then
    requireAll ["AS", "TRANSACTION"]
    modes
  else if ← keyword "TRANSACTION" then
    if ← keyword "SNAPSHOT" then
      let _ ← value
    modes
  else
    let _ ← dottedName
    unless ← symbol "=" do require "TO"
    r.expressions
where
  /-- A time zone, after `=` or `TO` or without. -/
  zone : Reading Unit := do
    unless ← symbol "=" do
      let _ ← keyword "TO"
    r.expressions

/-- A cursor after the word that declares it. -/
def cursor : Reading Unit := do
  let _ ← name
  let _ ← keyword "BINARY"
  let _ ← oneOf ["INSENSITIVE", "ASENSITIVE"]
  unless ← keyword "SCROLL" do
    let _ ← keywords ["NO", "SCROLL"]
  require "CURSOR"
  if ← oneOf ["WITH", "WITHOUT"] then require "HOLD"
  require "FOR"
  r.query

/-- The rows that a cursor gives, after the first word. -/
def cursorRows : Reading Unit := do
  unless ← oneOf ["NEXT", "PRIOR", "FIRST", "LAST", "ALL"] do
    let direction ← oneOf? ["ABSOLUTE", "RELATIVE", "FORWARD", "BACKWARD"]
    let all ← if direction = some "FORWARD" ∨ direction = some "BACKWARD" then keyword "ALL"
      else pure false
    unless all do
      match ← value with
      | .number => pure ()
      | .parameter => pure ()
      | _ => unexpected
  requireOneOf ["FROM", "IN"]
  let _ ← name
  if ← keyword "INTO" then
    let _ ← dottedName

/-- Everything up to a semicolon or an equals sign. -/
def anything : Reading Unit :=
  repeatWhile do
    match ← get with
    | [] => return false
    | t :: ts =>
      if t = .semicolon || t.isSymbol "=" then return false
      else
        set ts
        return true

/-- The statement that the word `t`, which has been taken, starts. -/
def statementAfter (t : Token) : Reading Statement := do
  let is := fun (ks : List String) => ks.any t.isKeyword
  if is ["CREATE"] then
    creation r do
      let _ ← statements r
  else if is ["EXPLAIN", "DESCRIBE", "DESC"] then
    explanation r
    return .explain
  else
    if is ["ANALYZE"] then analysis r
    else if is ["CASE"] then caseStatement r
    else if is ["IF"] then ifStatement r
    else if is ["RAISE"] then
      if ← keywords ["USING", "MESSAGE"] then
        requireSymbol "="
        let _ ← r.expression
      else
        let _ ← attempt r.expression
    else if is ["TRUNCATE"] then truncation r
    else if is ["ATTACH"] then
      let _ ← keyword "DATABASE"
      let _ ← r.expression
      require "AS"
      let _ ← name
    else if is ["DETACH"] && r.dialect.permissive then
      let _ ← keyword "DATABASE"
      let _ ← keywords ["IF", "EXISTS"]
      let _ ← name
    else if is ["DROP"] then removal r
    else if is ["DISCARD"] then requireOneOf ["ALL", "PLANS", "SEQUENCES", "TEMP", "TEMPORARY"]
    else if is ["DELETE"] then deletion r
    else if is ["INSERT"] then insertion r
    else if is ["REPLACE"] then
      if r.dialect.permissive then insertion r
      else
        modify (t :: ·)
        insertion r
    else if is ["UPDATE"] then update r
    else if is ["COPY"] then copying r
    else if is ["ALTER"] then alteration r
    else if is ["CALL"] then
      let _ ← dottedName
      if ← symbolAhead "(" then call r
    else if is ["DECLARE"] then cursor r
    else if is ["FETCH"] then cursorRows
    else if is ["OPEN", "CLOSE"] then
      let _ ← name
    else if is ["GRANT"] then granting
    else if is ["REVOKE"] then revocation
    else if is ["RENAME"] then
      require "TABLE"
      let _ ← list do
        let _ ← dottedName
        require "TO"
        dottedName
    else if is ["SET"] then sessionSetting r
    else if is ["SHOW"] then anything
    else if is ["USE"] then
      let _ ← dottedName
    else if is ["START"] then
      require "TRANSACTION"
      modes
    else if is ["BEGIN"] then
      let _ ← oneOf ["DEFERRED", "IMMEDIATE", "EXCLUSIVE", "TRY", "CATCH"]
      let _ ← oneOf ["TRANSACTION", "WORK"]
      modes
    else if is ["END", "COMMIT"] then chain
    else if is ["ROLLBACK"] then
      chain
      if ← keyword "TO" then
        let _ ← keyword "SAVEPOINT"
        let _ ← name
    else if is ["SAVEPOINT"] then
      let _ ← name
    else if is ["RELEASE"] then
      let _ ← keyword "SAVEPOINT"
      let _ ← name
    else if is ["ASSERT"] then
      let _ ← r.expression
      if ← keyword "AS" then
        let _ ← r.expression
    else if is ["DEALLOCATE"] then
      let _ ← keyword "PREPARE"
      let _ ← name
    else if is ["PREPARE"] then
      let _ ← name
      if ← symbol "(" then
        let _ ← list DataType.read
        requireSymbol ")"
      require "AS"
      let _ ← r.statement
    else if is ["EXECUTE", "EXEC"] then
      let _ ← dottedName
      if ← symbol "(" then
        let _ ← listUnless ")" r.expression
        requireSymbol ")"
    else if is ["KILL"] then
      let _ ← oneOf ["CONNECTION", "QUERY", "MUTATION"]
      let _ ← natural
    else if is ["MERGE"] then merger r
    else if is ["PRAGMA"] then pragma
    else if is ["PRINT"] then
      let _ ← r.expression
    else if is ["RETURN"] then
      let _ ← attempt r.expression
    else unexpected
    return .other

/-- A statement. -/
def statement : Reading Statement := do
  match ← get with
  | [] => unexpected
  | t :: ts =>
    let query := ["SELECT", "WITH", "VALUES", "FROM"].any t.isKeyword || t.isSymbol "("
    if query then
      r.query
      return .other
    else
      set ts
      statementAfter r t

/-! ## Depth -/

/-- The rules where nothing lies deeper than what may. -/
def deepest (d : Dialect) : Rules where
  dialect := d
  operation _ := throw .tooDeep
  query := throw .tooDeep
  statement := throw .tooDeep

/-- The rules one level above `inner`. -/
def level (inner : Rules) : Rules where
  dialect := inner.dialect
  operation strength := operation inner strength
  query := query inner (change inner)
  statement := statement inner

/-- The rules where phrases lie in each other at most `depth` deep. -/
def rules (d : Dialect) : (depth : Nat) → Rules
  | 0 => deepest d
  | depth + 1 => level (rules d depth)

/-- How deep phrases may lie in each other. -/
def maxDepth : Nat := 50

end AskSql.Sql.Grammar
