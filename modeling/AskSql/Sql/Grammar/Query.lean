import AskSql.Sql.Grammar.Expression

/-!
# Queries

The phrases that select rows: the tables that they come from and how these are joined, what is
selected, and how several selections are set against each other, ordered and cut off.
-/

namespace AskSql.Sql.Grammar

open Text Reading

variable (r : Rules)

/-! ## Other names -/

/-- The words that are no other name of a column: a phrase may start with each of them. -/
def reservedAfterItem : List String :=
  ["WITH", "EXPLAIN", "ANALYZE", "SELECT", "WHERE", "GROUP", "SORT", "HAVING", "ORDER", "TOP",
   "LATERAL", "VIEW", "LIMIT", "OFFSET", "FETCH", "UNION", "EXCEPT", "EXCLUDE", "INTERSECT",
   "MINUS", "CLUSTER", "DISTRIBUTE", "RETURNING", "FROM", "INTO", "END"]

/-- The words that are no other name of a table. -/
def reservedAfterTable : List String :=
  ["WITH", "EXPLAIN", "ANALYZE", "SELECT", "WHERE", "GROUP", "SORT", "HAVING", "ORDER", "PIVOT",
   "UNPIVOT", "TOP", "LATERAL", "VIEW", "LIMIT", "OFFSET", "FETCH", "UNION", "EXCEPT",
   "INTERSECT", "MINUS", "ON", "JOIN", "INNER", "CROSS", "FULL", "LEFT", "RIGHT", "NATURAL",
   "USING", "CLUSTER", "DISTRIBUTE", "GLOBAL", "ANTI", "SEMI", "RETURNING", "ASOF",
   "MATCH_CONDITION", "OUTER", "SET", "QUALIFY", "WINDOW", "END", "FOR", "PARTITION", "PREWHERE",
   "SETTINGS", "FORMAT", "START", "CONNECT", "MATCH_RECOGNIZE", "SAMPLE", "TABLESAMPLE", "FROM"]

/-- Another name, after `AS` or without it, where it is none of the words `reserved`; says
whether there is one. -/
def otherName (reserved : List String) : Reading Bool := do
  if ← keyword "AS" then
    let _ ← name
    return true
  match ← peek with
  | some (.word value quote) =>
    if reserved.any (Token.word value quote).isKeyword then return false
    else
      skip
      return true
  | some (.literal .plain _) => skip; return true
  | _ => return false

/-- Names of columns with types, between parentheses, or none. -/
def columnNames : Reading Unit := do
  if ← symbol "(" then
    let _ ← list do
      let _ ← name
      attempt DataType.read
    requireSymbol ")"

/-- Another name of a table, possibly with names for its columns. -/
def tableOtherName : Reading Unit := do
  if ← otherName reservedAfterTable then columnNames

/-- An item that is selected. -/
def selectItem : Reading Unit := do
  match ← expressionOrWildcard r with
  | .wildcard =>
    if r.dialect.permissive then
      if ← oneOf ["EXCEPT", "EXCLUDE"] then
        if ← symbolAhead "(" then
          let _ ← nameList
        else
          let _ ← name
  | .name n =>
    if n.quote.isNone ∧ lower n.value = "from".toList then unexpected
    let _ ← otherName reservedAfterItem
  | .other =>
    let _ ← otherName reservedAfterItem

/-! ## Tables -/

/-- The part of a table that is taken as a sample. -/
def sample : Reading Unit := do
  if ← oneOf ["TABLESAMPLE", "SAMPLE"] then
    let _ ← oneOf ["BERNOULLI", "ROW", "SYSTEM", "BLOCK"]
    let opened ← symbol "("
    let bucket ← if opened then keyword "BUCKET" else pure false
    if bucket then
      signedNumber
      requireAll ["OUT", "OF"]
      signedNumber
      if ← keyword "ON" then
        let _ ← r.expression
    else
      if (← attempt r.expression).isNone then
        unless (← next).isWord do unexpected
      let _ ← oneOf ["ROWS", "PERCENT"]
    if opened then requireSymbol ")"
    if ← oneOf ["REPEATABLE", "SEED"] then
      requireSymbol "("
      signedNumber
      requireSymbol ")"
    if ← keyword "OFFSET" then
      let _ ← r.expression

/-- The values of a column that become columns, after the first word. -/
def pivot : Reading Unit := do
  requireSymbol "("
  let _ ← list do
    let _ ← dottedName
    call r
    otherName reservedAfterItem
  require "FOR"
  let _ ← dottedName
  require "IN"
  requireSymbol "("
  if ← keyword "ANY" then
    if ← keywords ["ORDER", "BY"] then orderItems r
  else if ← aheadOneOf ["SELECT", "WITH"] then r.query
  else
    let _ ← list do
      let _ ← r.expression
      if ← keyword "AS" then
        let _ ← name
  requireSymbol ")"
  if ← keywords ["DEFAULT", "ON", "NULL"] then
    let _ ← parenthesized r.expression
  requireSymbol ")"
  tableOtherName

/-- The columns that become values of a column, after the first word. -/
def unpivot : Reading Unit := do
  requireSymbol "("
  let _ ← name
  require "FOR"
  let _ ← name
  require "IN"
  let _ ← nameList
  requireSymbol ")"
  tableOtherName

/-- How a table is turned, as often as it is. -/
def turned : Reading Unit :=
  repeatWhile do
    match ← oneOf? ["PIVOT", "UNPIVOT"] with
    | some "PIVOT" => pivot r; return true
    | some _ => unpivot; return true
    | none => return false

/-- A query between parentheses, the first of which has been taken, as a table. -/
def derivedTable : Reading Unit := do
  r.query
  requireSymbol ")"
  tableOtherName

/-- The arguments of a table, after the opening parenthesis. -/
def tableArguments : Reading Unit := do
  unless ← symbol ")" do
    let _ ← list (argument r)
    requireSymbol ")"

/-- A table by name, or what a call returns. -/
def namedTable : Reading Unit := do
  let _ ← dottedName
  if r.dialect.permissive then
    if ← keyword "PARTITION" then
      let _ ← nameList
  if ← symbol "(" then tableArguments r
  let _ ← keywords ["WITH", "ORDINALITY"]
  tableOtherName
  match afterKeywords? ["WITH"] (← get) with
  | some (.symbol ['('] :: ts) =>
    set ts
    r.expressions
    requireSymbol ")"
  | _ => pure ()
  sample r
  turned r

/-- What ties the rows of two tables together. -/
def joinCondition : Reading Unit := do
  if ← keyword "ON" then
    let _ ← r.expression
  else if ← keyword "USING" then
    let _ ← parenthesized (list dottedName)

/-- The word of a join before `JOIN`. -/
inductive JoinWord where
  /-- `CROSS` -/
  | cross
  /-- `OUTER` -/
  | outer
  /-- `ASOF` -/
  | nearest
  /-- A join whose condition may follow, or is that of equal names. -/
  | plain (natural : Bool)
  deriving Repr, DecidableEq

/-- The words of a join, if one comes next. -/
def joinWord? : Reading (Option JoinWord) := do
  let _ ← keyword "GLOBAL"
  if ← keyword "CROSS" then
    requireOneOf ["JOIN", "APPLY"]
    return some .cross
  else if ← keyword "OUTER" then
    require "APPLY"
    return some .outer
  else if ← keyword "ASOF" then
    require "JOIN"
    return some .nearest
  else
    let natural ← keyword "NATURAL"
    if ← aheadOneOf ["INNER", "JOIN"] then
      let _ ← keyword "INNER"
      require "JOIN"
      return some (.plain natural)
    else if ← oneOf ["LEFT", "RIGHT"] then
      if ← oneOf ["OUTER", "SEMI", "ANTI"] then require "JOIN" else require "JOIN"
      return some (.plain natural)
    else if ← oneOf ["ANTI", "SEMI"] then
      require "JOIN"
      return some (.plain natural)
    else if ← keyword "FULL" then
      let _ ← keyword "OUTER"
      require "JOIN"
      return some (.plain natural)
    else if ← keyword "STRAIGHT_JOIN" then return some (.plain natural)
    else if natural then unexpected
    else return none

mutual

/-- A table; says whether it is a join between parentheses. Tables lie in each other at most
`fuel` times. -/
def table : (fuel : Nat) → Reading Bool
  | 0 => unexpected
  | fuel + 1 => do
    if ← keyword "LATERAL" then
      if ← symbol "(" then derivedTable r
      else
        let _ ← dottedName
        requireSymbol "("
        tableArguments r
        tableOtherName
      return false
    else if ← keyword "TABLE" then
      let _ ← parenthesized r.expression
      tableOtherName
      return false
    else if ← symbol "(" then
      match ← attempt (derivedTable r) with
      | some _ =>
        turned r
        return false
      | none =>
        let inner ← table fuel
        let joined ← joins fuel
        if joined || inner then
          requireSymbol ")"
          tableOtherName
          return true
        else if r.dialect.permissive then
          requireSymbol ")"
          tableOtherName
          return false
        else unexpected
    else
      namedTable r
      return false

/-- The tables joined to a table; says whether there are any. -/
def joins : (fuel : Nat) → Reading Bool
  | 0 => unexpected
  | fuel + 1 => do
    match ← joinWord? with
    | none => return false
    | some word =>
      let _ ← table fuel
      match word with
      | .cross => pure ()
      | .outer => pure ()
      | .nearest =>
        require "MATCH_CONDITION"
        let _ ← parenthesized r.expression
        joinCondition r
      | .plain natural =>
        if ← aheadOneOf ["JOIN", "INNER", "LEFT", "RIGHT", "FULL"] then
          let _ ← joins fuel
        unless natural do joinCondition r
      let _ ← joins fuel
      return true

end

/-- A table and the tables joined to it. -/
def joinedTable : Reading Unit := do
  let fuel := (← get).length + 1
  let _ ← table r fuel
  let _ ← joins r fuel

/-- Tables and the tables joined to them, with commas between. -/
def joinedTables : Reading Unit := do
  let _ ← list (joinedTable r)

/-! ## Selections -/

/-- The rows that are kept of many. -/
def top : Reading Unit := do
  if ← symbol "(" then
    let _ ← r.expression
    requireSymbol ")"
  else
    let _ ← natural
  let _ ← keyword "PERCENT"
  let _ ← keywords ["WITH", "TIES"]

/-- Whether equal rows count once. -/
def distinctness : Reading Unit := do
  let all ← keyword "ALL"
  if ← keyword "DISTINCT" then
    if all then unexpected
    if ← keyword "ON" then
      requireSymbol "("
      let _ ← listUnless ")" r.expression
      requireSymbol ")"

/-- What rows are brought together by. -/
def grouping : Reading Unit := do
  if ← keywords ["GROUP", "BY"] then
    unless ← keyword "ALL" do
      let _ ← list do
        if r.dialect.permissive then
          if ← keywords ["GROUPING", "SETS"] then
            let _ ← parenthesized (list (parenthesized (listUnless ")" r.expression)))
          else if ← oneOf ["CUBE", "ROLLUP"] then
            let _ ← parenthesized r.expressions
          else
            let _ ← r.expression
        else
          let _ ← r.expression
    if r.dialect.permissive then
      repeatWhile do
        if ← keyword "WITH" then
          requireOneOf ["ROLLUP", "CUBE", "TOTALS"]
          return true
        else return false

/-- A window with its name. -/
def namedWindow : Reading Unit := do
  let _ ← name
  require "AS"
  if ← symbol "(" then window r
  else if r.dialect.permissive then
    let _ ← name
  else unexpected

/-- A condition after the word `w`. -/
def condition (w : String) : Reading Unit := do
  if ← keyword w then
    let _ ← r.expression

/-- Expressions after the words `ws`. -/
def clause (ws : List String) : Reading Unit := do
  if ← keywords ws then r.expressions

/-- Windows and a condition on them, in either order. -/
def windows : Reading Unit := do
  if ← keyword "WINDOW" then
    let _ ← list (namedWindow r)
    condition r "QUALIFY"
  else if ← keyword "QUALIFY" then
    let _ ← r.expression
    if ← keyword "WINDOW" then
      let _ ← list (namedWindow r)

/-- The rows that a call makes of each row. -/
def lateralViews : Reading Unit :=
  repeatWhile do
    if ← keywords ["LATERAL", "VIEW"] then
      let _ ← keyword "OUTER"
      let _ ← r.expression
      let _ ← dottedName
      let _ ← list (otherName ["WHERE", "GROUP", "CLUSTER", "HAVING", "LATERAL"])
      return true
    else return false

/-- A selection after its first word. -/
def selection : Reading Unit := do
  distinctness r
  if ← keyword "TOP" then top r
  let empty ← if r.dialect.permissive then ahead "FROM" else pure false
  unless empty do
    let _ ← list (selectItem r)
  if ← keyword "INTO" then
    let _ ← oneOf ["TEMP", "TEMPORARY"]
    let _ ← keyword "UNLOGGED"
    let _ ← keyword "TABLE"
    let _ ← dottedName
  if ← keyword "FROM" then joinedTables r
  lateralViews r
  if r.dialect.permissive then condition r "PREWHERE"
  condition r "WHERE"
  grouping r
  clause r ["CLUSTER", "BY"]
  clause r ["DISTRIBUTE", "BY"]
  clause r ["SORT", "BY"]
  condition r "HAVING"
  windows r

/-- Rows of values. -/
def rows : Reading Unit := do
  let _ ← list do
    let _ ← keyword "ROW"
    parenthesized r.expressions

/-- A table that stands for all its rows, after the first word. Two tokens after its first name
belong to the phrase, whatever they are. -/
def wholeTable : Reading Unit := do
  match ← get with
  | .word _ _ :: .symbol ['.'] :: t :: ts => if t.isWord then set ts else unexpected
  | .word _ _ :: ts => if ts.head? = some (.symbol ['.']) then unexpected else set (ts.drop 2)
  | _ => unexpected

/-- How tightly the set operator binds that comes next. -/
def setStrength : Reading Nat := do
  if ← aheadOneOf ["UNION", "EXCEPT", "MINUS"] then return 10
  else if ← ahead "INTERSECT" then return 20
  else return 0

/-- What becomes of equal rows of a set. -/
def setQuantifier : Reading Unit := do
  unless ← keywords ["DISTINCT", "BY", "NAME"] do
    unless ← keywords ["BY", "NAME"] do
      if ← keyword "ALL" then
        let _ ← keywords ["BY", "NAME"]
      else
        let _ ← keyword "DISTINCT"

mutual

/-- A selection or rows, and the sets set against them by operators that bind more tightly than
`strength`. -/
def body : (fuel : Nat) → (strength : Nat) → Reading Unit
  | 0, _ => unexpected
  | fuel + 1, strength => do
    if ← keyword "SELECT" then selection r
    else if ← symbol "(" then
      r.query
      requireSymbol ")"
    else if ← keyword "VALUES" then rows r
    else if ← keyword "TABLE" then wholeTable
    else if r.dialect.permissive then
      require "FROM"
      joinedTables r
      if ← keyword "SELECT" then selection r
    else unexpected
    further fuel strength

/-- The sets set against a body. -/
def further : (fuel : Nat) → (strength : Nat) → Reading Unit
  | 0, _ => unexpected
  | fuel + 1, strength => do
    let next ← setStrength
    if strength < next then
      skip
      setQuantifier
      body fuel next
      further fuel strength

end

/-- A query with a name of its own. -/
def commonTable : Reading Unit := do
  let _ ← name
  unless ← keyword "AS" do
    columnNames
    require "AS"
  requireSymbol "("
  r.query
  requireSymbol ")"
  if ← keyword "FROM" then
    let _ ← name

/-- The number of rows that are left out. -/
def offset : Reading Unit := do
  let _ ← r.expression
  let _ ← oneOf ["ROW", "ROWS"]

/-- How many rows there are at most, and how many are left out. -/
def limit : Reading Unit := do
  let skipped ← keyword "OFFSET"
  if skipped then offset r
  if ← keyword "LIMIT" then
    let all ← keyword "ALL"
    unless all do
      let _ ← r.expression
    let pair ← if skipped || all then pure false else symbol ","
    if pair then
      let _ ← r.expression
    else
      if r.dialect.permissive then clause r ["BY"]
      unless skipped do
        if ← keyword "OFFSET" then offset r

/-- How many rows are fetched. -/
def fetched : Reading Unit := do
  if ← keyword "FETCH" then
    let _ ← oneOf ["FIRST", "NEXT"]
    unless ← oneOf ["ROW", "ROWS"] do
      let _ ← value
      let _ ← keyword "PERCENT"
      let _ ← oneOf ["ROW", "ROWS"]
    unless ← keyword "ONLY" do
      let _ ← keywords ["WITH", "TIES"]

/-- How rows are locked or written. -/
def locks : Reading Unit :=
  repeatWhile do
    if ← keyword "FOR" then
      if ← keyword "BROWSE" then return false
      requireOneOf ["UPDATE", "SHARE"]
      if ← keyword "OF" then
        let _ ← dottedName
      unless ← keyword "NOWAIT" do
        let _ ← keywords ["SKIP", "LOCKED"]
      return true
    else return false

/-- A query; `change` reads a statement that changes rows and may stand in its place. -/
def query (change : Reading Bool) : Reading Unit := do
  if ← keyword "WITH" then
    let _ ← keyword "RECURSIVE"
    let _ ← list (commonTable r)
  unless ← change do
    body r ((← get).length * 2 + 2) 0
    if ← keywords ["ORDER", "BY"] then orderItems r
    limit r
    if r.dialect.permissive then
      if ← keyword "SETTINGS" then r.expressions
    fetched
    locks
    if r.dialect.permissive then
      if ← keyword "FORMAT" then
        let _ ← name

end AskSql.Sql.Grammar
