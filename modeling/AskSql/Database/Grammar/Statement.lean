import AskSql.Database.Grammar.Table

/-!
# Grammar of statements

A statement as data, and how it is read. Whether a name is free to be defined is asked while a
definition is read, right after the name: what follows a name that is taken is not looked at.
-/

namespace AskSql.Database

/-! ## Statements as data -/

/-- What a statement defines. -/
inductive Definition where
  /-- A table; without a draft there is nothing to define. -/
  | table (name : NewName) (draft : Option Draft) (options : Grammar.TableOptions) (sql : Text)
  /-- A table that holds what a query gives. -/
  | result (name : NewName) (free : Bool) (q : Query)
  | view (name : NewName) (columns : List Text) (q : Query) (body : List Piece) (sql : Text)
  | index (name : NewName) (table : Text) (parts : List KeyPart) (unique : Bool)
      (condition : Option (Expr × List Piece)) (sql : Text)
  | virtual (name : NewName) (provider : Text) (sql : Text)

/-- A table that a statement changes. -/
structure Target where
  schema : Option Text
  name : Text

/-- What becomes of a row that is there already. -/
inductive Resolution where
  | nothing
  | update (changes : List (List Text × Expr)) (condition : Option Expr)

/-- What becomes of rows that are there already, by the key that tells. -/
structure Upsert where
  parts : List KeyPart
  resolution : Resolution

/-- Rows to insert. -/
structure Insertion where
  commons : List Common
  conflict : Option Conflict
  target : Target
  columns : List Text
  /-- The rows; without them there is one of default values. -/
  rows : Option Query
  upserts : List Upsert
  returning : List Item

/-- A change of rows. -/
structure Modification where
  commons : List Common
  conflict : Option Conflict
  target : Target
  /-- What the columns become; without it the rows go. -/
  changes : Option (List (List Text × Expr))
  condition : Option Expr
  returning : List Item

/-- The start or the end of a transaction. -/
inductive Transaction where
  | start
  | commit
  | rollback
  | rollbackTo (name : Text)
  | mark (name : Text)
  | release (name : Text)
  deriving Repr, DecidableEq

/-- What is dropped. -/
inductive DroppedKind where
  | table
  | view
  | index
  deriving Repr, DecidableEq

/-- A statement. -/
inductive Statement where
  | define (d : Definition)
  | drop (kind : DroppedKind) (ifThere : Bool) (target : Target)
  | insert (i : Insertion)
  | modify (m : Modification)
  | query (q : Query)
  /-- A switch is asked for or set. -/
  | switch (name : Text) (value : Option Text)
  | transaction (t : Transaction)
  /-- Nothing that shows is to be done. -/
  | rest

namespace Grammar

open Text Reader

/-! ## Definitions -/

/-- The name of something to define, and the piece that the name is. -/
def newName (temporary : Bool) : Reader (NewName × List Piece) := do
  let unlessThere ← phrase "IF" ["NOT", "EXISTS"]
  let ((schema, name), taken) ← spanned qualifiedName
  let own := taken.drop (taken.length - 1)
  let inTemp := (schema.map isTemp).getD false
  return (⟨schema, name, Piece.written own, temporary || inTemp, unlessThere⟩, own)

/-- Tells whether a name is free, or refuses it. -/
abbrev Naming := NewName → Except StoreError Bool

/-- Whether a name is free. -/
def isFree (free : Naming) (n : NewName) : Reader Bool :=
  match free n with
  | .ok b => pure b
  | .error e => refuse e

/-- A table after `TABLE`. -/
def table (free : Naming) (r : Rules) (temporary : Bool) : Reader Definition := do
  let (n, own) ← newName temporary
  if ← acceptsKeyword "AS" then
    let isNew ← isFree free n
    let q ← r.query
    return .result n isNew q
  else
    let _ ← if ← seesSymbol "(" then pure () else stuck
    let isNew ← isFree free n
    let draft := if isNew then some { name := n.name } else none
    let (draft, body) ← spanned do
      symbol "("
      let d ← fun ps => elements r (ps.length + 1) draft ps
      symbol ")"
      return d
    let start := "CREATE TABLE ".toList
    if ← sees fun t => (looseNameOf? reserved t).isSome then
      let (options, taken) ← spanned fun ps => tableOptions (ps.length + 1) {} ps
      return .table n draft options (start ++ Piece.writtenWithGap (own ++ body ++ taken))
    else return .table n draft {} (start ++ Piece.written (own ++ body))

/-- A view after `VIEW`. -/
def view (r : Rules) (temporary : Bool) : Reader Definition := do
  let (n, own) ← newName temporary
  let ((columns, q, body), taken) ← spanned do
    let columns ← columnNames
    keyword "AS"
    let (q, body) ← spanned r.query
    return (columns, q, body)
  return .view n columns q body
    ("CREATE VIEW ".toList ++ dropEndWhile isWideSpace (Piece.writtenWithGap (own ++ taken)))

/-- An index after `INDEX`. -/
def index (r : Rules) (unique : Bool) : Reader Definition := do
  let (n, own) ← newName false
  let ((on, parts, condition), taken) ← spanned do
    keyword "ON"
    let on ← name
    let parts ← parenthesized (list (keyPart r))
    let condition ← Reader.after "WHERE" (spanned r.any)
    return (on, parts, condition)
  let start := if unique then "CREATE UNIQUE INDEX " else "CREATE INDEX "
  return .index n on parts unique condition
    (start.toList ++ Piece.writtenWithGap (own ++ taken))

/-- A virtual table after `TABLE`. -/
def virtualTable : Reader Definition := do
  let (n, own) ← newName false
  let (provider, taken) ← spanned do
    keyword "USING"
    let provider ← name
    if ← acceptsSymbol "(" then Rules.passEnclosed 0
    return provider
  return .virtual n provider
    ("CREATE VIRTUAL TABLE ".toList ++ Piece.written (own ++ taken))

/-- A definition after `CREATE`. -/
def definition (free : Naming) (r : Rules) : Reader Definition := do
  if ← accepts (·.isAmong ["TEMP", "TEMPORARY"]) then
    if ← acceptsKeyword "TABLE" then table free r true
    else
      keyword "VIEW"
      view r true
  else if ← acceptsKeyword "TABLE" then table free r false
  else if ← acceptsKeyword "VIEW" then view r false
  else if ← phrase "UNIQUE" ["INDEX"] then index r true
  else if ← acceptsKeyword "INDEX" then index r false
  else
    keywords ["VIRTUAL", "TABLE"]
    virtualTable

/-! ## Changes -/

/-- A table that is changed. -/
def target : Reader Target := do
  let (schema, n) ← qualifiedName
  if ← acceptsKeyword "AS" then
    let _ ← name
  return ⟨schema, n⟩

/-- What columns become, after `SET`. -/
def changes (r : Rules) : Reader (List (List Text × Expr)) :=
  list do
    let names ← if ← seesSymbol "(" then parenthesized (list name)
      else (do let n ← name; return [n])
    symbol "="
    let e ← r.any
    return (names, e)

/-- What is shown of changed rows, if it is asked for. -/
def returning (r : Rules) : Reader (List Item) := do
  if ← acceptsKeyword "RETURNING" then list r.item else return []

/-- What becomes of a row that is there already, after `DO`. -/
def resolution (r : Rules) : Reader Resolution := do
  if ← acceptsKeyword "NOTHING" then return .nothing
  else
    keywords ["UPDATE", "SET"]
    let cs ← changes r
    let condition ← Reader.after "WHERE" r.any
    return .update cs condition

/-- What becomes of rows that are there already, in at most `fuel` parts. -/
def upserts (r : Rules) : (fuel : Nat) → Reader (List Upsert)
  | 0 => stuck
  | fuel + 1 => do
    if ← phrase "ON" ["CONFLICT"] then
      let parts ← if ← seesSymbol "(" then parenthesized (list (keyPart r)) else pure []
      if !parts.isEmpty then
        let _ ← Reader.after "WHERE" r.any
      keyword "DO"
      let resolution ← resolution r
      let more ← if parts.isEmpty then pure [] else upserts r fuel
      return ⟨parts, resolution⟩ :: more
    else return []

/-- Rows to insert, after the words that announce them. -/
def insertion (r : Rules) (commons : List Common) (conflict : Option Conflict) :
    Reader Insertion := do
  keyword "INTO"
  let target ← target
  let columns ← if ← seesSymbol "(" then parenthesized (list name) else pure []
  if ← phrase "DEFAULT" ["VALUES"] then
    let returning ← returning r
    return { commons, conflict, target, columns, rows := none, upserts := [], returning }
  else
    let _ ← if ← Rules.seesQuery then pure () else stuck
    let q ← r.query
    let upserts ← fun ps => upserts r (ps.length + 1) ps
    let returning ← returning r
    return { commons, conflict, target, columns, rows := some q, upserts, returning }

/-- What becomes of a conflict, after `OR`. -/
def orConflict : Reader (Option Conflict) :=
  Reader.after "OR" (Reader.take conflictNamed?)

/-- A change of rows after the queries that have names. -/
def change (r : Rules) (commons : List Common) : Reader Statement := do
  if ← acceptsKeyword "INSERT" then
    let conflict ← orConflict
    let i ← insertion r commons conflict
    return .insert i
  else if ← acceptsKeyword "REPLACE" then
    let i ← insertion r commons (some .replace)
    return .insert i
  else if ← phrase "DELETE" ["FROM"] then
    let target ← target
    Rules.indexChoice
    let condition ← Reader.after "WHERE" r.any
    let returning ← returning r
    return .modify
      { commons, conflict := none, target, changes := none, condition, returning }
  else
    keyword "UPDATE"
    let conflict ← orConflict
    let target ← target
    Rules.indexChoice
    keyword "SET"
    let cs ← changes r
    let condition ← Reader.after "WHERE" r.any
    let returning ← returning r
    return .modify { commons, conflict, target, changes := some cs, condition, returning }

/-- A query, or a change of rows, after the queries that have names. -/
def rowStatement (r : Rules) : Reader Statement := do
  let commons ← r.commons
  if ← sees (·.isAmong ["INSERT", "REPLACE", "DELETE", "UPDATE"]) then change r commons
  else
    let q ← r.combined commons
    return .query q

/-! ## Other statements -/

/-- Something to drop, after `DROP`. -/
def dropping : Reader Statement := do
  let kind ← if ← acceptsKeyword "TABLE" then pure DroppedKind.table
    else if ← acceptsKeyword "VIEW" then pure .view
    else (do keyword "INDEX"; return .index)
  let ifThere ← phrase "IF" ["EXISTS"]
  let (schema, n) ← qualifiedName
  return .drop kind ifThere ⟨schema, n⟩

/-- The value of a switch. -/
def switchValue : Reader Text := do
  if ← sees fun t => t.isSymbol "+" || t.isSymbol "-" then
    let ((), taken) ← spanned signedNumeral
    return Piece.written taken
  else
    Reader.take fun
      | .numeral n => some n
      | t => (looseNameOf? reserved t).or
        (if t.isAmong ["ON", "DELETE", "DEFAULT"] then nameOf? [] t else none)

/-- A switch, after `PRAGMA`. -/
def switch : Reader Statement := do
  let (_, n) ← qualifiedName
  if ← acceptsSymbol "=" then
    let v ← switchValue
    return .switch n (some v)
  else if ← acceptsSymbol "(" then
    let v ← switchValue
    symbol ")"
    return .switch n (some v)
  else return .switch n none

/-- `TRANSACTION` and a name, if they are there. -/
def transactionName : Reader Unit := do
  if ← acceptsKeyword "TRANSACTION" then
    if ← seesName then
      let _ ← name

/-- The start or the end of a transaction. -/
def transaction : Reader Transaction := do
  if ← acceptsKeyword "BEGIN" then
    let _ ← accepts (·.isAmong ["DEFERRED", "IMMEDIATE", "EXCLUSIVE"])
    transactionName
    return .start
  else if ← accepts (·.isAmong ["COMMIT", "END"]) then
    transactionName
    return .commit
  else if ← acceptsKeyword "ROLLBACK" then
    transactionName
    if ← acceptsKeyword "TO" then
      let _ ← acceptsKeyword "SAVEPOINT"
      let n ← name
      return .rollbackTo n
    else return .rollback
  else if ← acceptsKeyword "SAVEPOINT" then
    let n ← name
    return .mark n
  else
    keyword "RELEASE"
    let _ ← acceptsKeyword "SAVEPOINT"
    let n ← name
    return .release n

/-- The words that a transaction starts or ends with. -/
def transactionWords : List String :=
  ["BEGIN", "COMMIT", "END", "ROLLBACK", "SAVEPOINT", "RELEASE"]

/-- A statement. -/
def statement (free : Naming) (r : Rules) : Reader Statement := do
  if ← acceptsKeyword "CREATE" then
    let d ← definition free r
    return .define d
  else if ← acceptsKeyword "DROP" then dropping
  else if ← acceptsKeyword "PRAGMA" then switch
  else if ← sees (·.isAmong transactionWords) then
    let t ← transaction
    return .transaction t
  else if ← accepts (·.isAmong ["VACUUM", "REINDEX"]) then
    if ← seesName then
      let _ ← qualifiedName
    return .rest
  else rowStatement r

/-- A statement, which the end or a semicolon follows. -/
def wholeStatement (free : Naming) : Reader Statement := do
  let s ← ruled (statement free)
  fun ps =>
    match ps with
    | [] => .ok (s, [])
    | p :: rest => if p.token.isSymbol ";" then .ok (s, rest) else .error (.stuck ps)

end Grammar
end AskSql.Database
