import AskSql.Sql.Grammar.DataType

/-!
# Expressions

Operands, the operators between them, and calls. A word that starts a special operand, such as
`CASE` or `CAST`, is a name after all if the rest of that operand is not there.

The phrases here are given the rules for what lies in them; `operation` reads one level.
-/

namespace AskSql.Sql.Grammar

open Text Reading

variable (r : Rules)

/-! ## How tightly operators bind -/

namespace Strength

/-- The operators of logic, the loosest ones. -/
def or : Nat := 5
/-- See `or`. -/
def and : Nat := 10
/-- A negation in front of an expression. -/
def not : Nat := 15
/-- The operators on documents and ranges. -/
def document : Nat := 16
/-- Tests with `IS`. -/
def test : Nat := 17
/-- Comparisons with a pattern. -/
def pattern : Nat := 19
/-- Comparisons. -/
def comparison : Nat := 20
/-- The operators on bits, and exclusive disjunction. -/
def bitOr : Nat := 21
/-- See `bitOr`. -/
def bitXor : Nat := 22
/-- See `bitOr`. -/
def bitAnd : Nat := 23
/-- See `bitOr`. -/
def xor : Nat := 24
/-- Sums. -/
def sum : Nat := 30
/-- Products. -/
def product : Nat := 40
/-- A change of the time zone. -/
def timeZone : Nat := 41
/-- A change of type after the value. -/
def typed : Nat := 50
/-- The dot between a whole and its part. -/
def part : Nat := 100

/-- How tightly a symbol binds, if it is an operator. -/
def ofSymbol? (s : Text) : Option Nat :=
  let is := fun (xs : List String) => xs.any (·.toList == s)
  if is ["."] then some part
  else if is [":=", "=", "<", "<=", "!=", "<>", ">", ">=", "==", "~", "~*", "!~", "!~*", "~~",
      "~~*", "!~~", "!~~*", "<=>"] then some comparison
  else if is ["|", "&&"] then some bitOr
  else if is ["^", "#", ">>", "<<"] then some bitXor
  else if is ["&"] then some bitAnd
  else if is ["+", "-"] then some sum
  else if is ["*", "/", "//", "%", "||"] then some product
  else if is ["::", "!", "[", "^@"] then some typed
  else if is ["->", "->>", "#>", "#>>", "@>", "<@", "#-", "@?", "@@"] then some document
  else none

/-- How tightly a keyword binds, if it is an operator. -/
def ofKeyword? (t : Token) : Option Nat :=
  let is := fun (ks : List String) => ks.any t.isKeyword
  if is ["OR"] then some or
  else if is ["AND"] then some and
  else if is ["XOR"] then some xor
  else if is ["IS"] then some test
  else if is ["IN", "BETWEEN", "OVERLAPS", "OPERATOR"] then some comparison
  else if is ["LIKE", "ILIKE", "RLIKE", "REGEXP", "MATCH", "SIMILAR"] then some pattern
  else if is ["DIV"] then some product
  else none

/-- How tightly the operator at the start of a row of tokens binds; nothing else binds. -/
def ofTokens : List Token → Nat
  | [] => 0
  | .symbol s :: _ => (ofSymbol? s).getD 0
  | t :: ts =>
    if t.isKeyword "AT" then
      match ts with
      | u :: v :: _ => if u.isKeyword "TIME" && v.isKeyword "ZONE" then timeZone else 0
      | _ => 0
    else if t.isKeyword "NOT" then
      match ts with
      | u :: _ =>
        if ["IN", "BETWEEN"].any u.isKeyword then comparison
        else if ["LIKE", "ILIKE", "RLIKE", "REGEXP", "MATCH", "SIMILAR"].any u.isKeyword then
          pattern
        else 0
      | [] => 0
    else (ofKeyword? t).getD 0

end Strength

/-- The symbols that stand between two operands. -/
def binarySymbols (d : Dialect) : List String :=
  ["<=>", "==", ":=", "=", "!=", "<>", ">", ">=", "<", "<=", "+", "-", "*", "%", "||", "|", "^",
   "&", "/", "~", "~*", "!~", "!~*", "~~", "~~*", "!~~", "!~~*", "->", "->>", "#>", "#>>", "@>", "<@",
   "#-", "@?", "@@"] ++
  if d.permissive then ["//", "<<", ">>", "&&", "^@"] else []

/-- The symbols that compare with any or all rows of a query. -/
def quantifiedSymbols : List String :=
  [">", "<", ">=", "<=", "=", "==", "!=", "<>", "~", "~*", "!~", "!~*", "~~", "~~*", "!~~", "!~~*"]

/-! ## Order and windows -/

/-- The direction after an expression to order by. -/
def direction : Reading Unit := do
  let _ ← oneOf ["ASC", "DESC"]
  unless ← keywords ["NULLS", "FIRST"] do
    let _ ← keywords ["NULLS", "LAST"]

/-- An expression to order by. -/
def orderItem : Reading Unit := do
  let _ ← r.expression
  direction

/-- Expressions to order by. -/
def orderItems : Reading Unit := do
  let _ ← list (orderItem r)

/-- The keywords that name a unit of time after a stretch of time. -/
def units : List String :=
  ["YEAR", "YEARS", "MONTH", "MONTHS", "WEEK", "WEEKS", "DAY", "DAYOFWEEK", "DAYOFYEAR", "DAYS",
   "DATE", "HOUR", "HOURS", "MINUTE", "MINUTES", "SECOND", "SECONDS", "CENTURY", "DECADE", "DOW",
   "DOY", "EPOCH", "ISODOW", "ISOYEAR", "JULIAN", "MICROSECOND", "MICROSECONDS", "MILLENIUM",
   "MILLENNIUM", "MILLISECOND", "MILLISECONDS", "NANOSECOND", "NANOSECONDS", "QUARTER", "TIMEZONE",
   "TIMEZONE_HOUR", "TIMEZONE_MINUTE"]

/-- A part of a point in time. -/
def timeField : Reading Unit := do
  if ← keyword "WEEK" then
    if r.dialect.permissive then
      if ← symbol "(" then
        let _ ← name
        requireSymbol ")"
  else if ← oneOf (units ++
      ["DATETIME", "ISOWEEK", "TIME", "TIMEZONE_ABBR", "TIMEZONE_REGION"]) then
    return
  else if r.dialect.permissive then
    let _ ← name
  else unexpected

/-- An optional precision; `scaled` tells whether a scale may follow it. -/
def precision (scaled : Bool) : Reading Unit := do
  if ← symbol "(" then
    let _ ← natural
    if scaled then
      if ← symbol "," then
        let _ ← natural
    requireSymbol ")"

/-- The unit after a stretch of time, with its precisions. -/
def timeUnit : Reading Unit := do
  let seconds ← ahead "SECOND"
  if ← aheadOneOf units then timeField r
  precision seconds
  unless seconds do
    if ← keyword "TO" then
      let seconds ← ahead "SECOND"
      timeField r
      if seconds then precision false

/-- A bound of a frame. -/
def frameBound : Reading Unit := do
  if ← keywords ["CURRENT", "ROW"] then return
  unless ← keyword "UNBOUNDED" do
    match ← peek with
    | some (.literal .plain _) => do
      skip
      timeUnit r
    | _ =>
      let _ ← r.expression
  requireOneOf ["PRECEDING", "FOLLOWING"]

/-- The rows around a row. -/
def frame : Reading Unit := do
  requireOneOf ["ROWS", "RANGE", "GROUPS"]
  if ← keyword "BETWEEN" then
    frameBound r
    require "AND"
    frameBound r
  else frameBound r

/-- A window after its opening parenthesis. -/
def window : Reading Unit := do
  match ← peek with
  | some (.word _ (some _)) => skip
  | some (.word value none) => if !isKeyword value then skip
  | _ => pure ()
  if ← keywords ["PARTITION", "BY"] then r.expressions
  if ← keywords ["ORDER", "BY"] then orderItems r
  unless ← symbol ")" do
    frame r
    requireSymbol ")"

/-! ## Calls -/

/-- Names with dots between; says whether a dot and a star follow, and takes them then. -/
def dottedWildcard : (fuel : Nat) → Reading Bool
  | 0 => unexpected
  | fuel + 1 => do
    let _ ← name
    if ← symbol "." then
      if ← symbol "*" then return true else dottedWildcard fuel
    else return false

/-- A row of tokens starts with a name and a dot. -/
def startsDotted : List Token → Bool
  | .word _ _ :: .symbol ['.'] :: _ => true
  | .literal .plain _ :: .symbol ['.'] :: _ => true
  | _ => false

/-- An expression or a star. -/
def expressionOrWildcard : Reading Expression := do
  if ← symbol "*" then return .wildcard
  let ts ← get
  if startsDotted ts then
    if ← dottedWildcard ts.length then return .wildcard
    else
      set ts
      r.expression
  else r.expression

/-- An argument of a call, with a name or without. -/
def argument : Reading Unit := do
  let named : Reading Unit := do
    let _ ← name
    unless ← keyword "VALUE" do
      unless ← symbol "=>" do
        if r.dialect.permissive then requireSymbol ":=" else unexpected
    let _ ← expressionOrWildcard r
  match ← attempt named with
  | some _ => return
  | none =>
    let _ ← expressionOrWildcard r

/-- What becomes of null in a list of arguments. -/
def nullClause : Reading Bool := do
  if ← keywords ["ABSENT", "ON", "NULL"] then return true
  else keywords ["NULL", "ON", "NULL"]

/-- Whether nulls count. -/
def nullTreatment : Reading Bool := do
  if ← oneOf ["RESPECT", "IGNORE"] then
    require "NULLS"
    return true
  else return false

/-- The filler of a list that is too long, and whether it tells what is missing. -/
def overflowClause : Reading Unit := do
  if ← keywords ["ON", "OVERFLOW"] then
    unless ← keyword "ERROR" do
      require "TRUNCATE"
      unless ← aheadOneOf ["WITH", "WITHOUT"] do
        match ← peek with
        | some (.literal _ _) =>
          let _ ← r.expression
        | _ => unexpected
      requireOneOf ["WITH", "WITHOUT"]
      require "COUNT"

/-- The arguments of a call after the opening parenthesis; says whether they tell if nulls
count. -/
def arguments : Reading Bool := do
  let _ ← nullClause
  if ← symbol ")" then return false
  let all ← keyword "ALL"
  if ← keyword "DISTINCT" then
    if all then unexpected
  let _ ← list (argument r)
  let treated ← if r.dialect.permissive then nullTreatment else pure false
  if ← keywords ["ORDER", "BY"] then orderItems r
  if ← keyword "LIMIT" then
    let _ ← r.expression
  if r.dialect.permissive then
    if ← keyword "HAVING" then
      requireOneOf ["MIN", "MAX"]
      let _ ← r.expression
    if ← keyword "SEPARATOR" then
      let _ ← value
  overflowClause r
  let _ ← nullClause
  requireSymbol ")"
  return treated

/-- A call after its name. -/
def call : Reading Unit := do
  requireSymbol "("
  let mut treated ← arguments r
  if r.dialect.permissive then
    if ← symbol "(" then treated ← arguments r
  if ← keywords ["WITHIN", "GROUP"] then
    requireSymbol "("
    requireAll ["ORDER", "BY"]
    orderItems r
    requireSymbol ")"
  unless r.dialect.permissive do
    if ← keyword "FILTER" then
      if ← symbol "(" then
        if ← keyword "WHERE" then
          let _ ← r.expression
          requireSymbol ")"
  unless treated do
    let _ ← nullTreatment
  if ← keyword "OVER" then
    if ← symbol "(" then window r
    else
      let _ ← name

/-! ## Special operands -/

/-- A case distinction after its first word. -/
def caseDistinction : Reading Unit := do
  unless ← keyword "WHEN" do
    let _ ← r.expression
    require "WHEN"
  let _ ← separated (keyword "WHEN") do
    let _ ← r.expression
    require "THEN"
    r.expression
  if ← keyword "ELSE" then
    let _ ← r.expression
  require "END"

/-- The time zone after a format. -/
def formatZone : Reading Unit := do
  if ← keywords ["AT", "TIME", "ZONE"] then
    let _ ← value

/-- A change of type after its first word. -/
def cast : Reading Unit := do
  requireSymbol "("
  let _ ← r.expression
  require "AS"
  let _ ← DataType.read
  if ← keyword "FORMAT" then
    let _ ← value
    formatZone
  requireSymbol ")"

/-- A conversion after its first word. -/
def conversion : Reading Unit := do
  requireSymbol "("
  let _ ← r.expression
  if ← keyword "USING" then
    let _ ← dottedName
  else
    requireSymbol ","
    let _ ← DataType.read
    if ← keywords ["CHARACTER", "SET"] then
      let _ ← dottedName
  requireSymbol ")"

/-- A part of a point in time after the first word. -/
def extraction : Reading Unit := do
  requireSymbol "("
  timeField r
  unless ← keyword "FROM" do
    if r.dialect.permissive then requireSymbol "," else unexpected
  let _ ← r.expression
  requireSymbol ")"

/-- A rounded value after the first word. -/
def rounding : Reading Unit := do
  requireSymbol "("
  let _ ← r.expression
  if ← keyword "TO" then timeField r
  else if ← symbol "," then
    unless (← value) = .number do unexpected
  requireSymbol ")"

/-- The position of a text in a text after the first word. -/
def position : Reading Unit := do
  let sought : Reading Unit := do
    requireSymbol "("
    let _ ← r.operation Strength.comparison
    require "IN"
    let _ ← r.expression
    requireSymbol ")"
  match ← attempt sought with
  | some _ => return
  | none => call r

/-- A part of a text after the first word. -/
def substring : Reading Unit := do
  requireSymbol "("
  let _ ← r.expression
  let comma ← symbol ","
  let start ← if comma then pure true else keyword "FROM"
  if start then
    let _ ← r.expression
  let length ← if ← keyword "FOR" then pure true else symbol ","
  if length then
    let _ ← r.expression
  requireSymbol ")"

/-- A text laid over a text after the first word. -/
def overlay : Reading Unit := do
  requireSymbol "("
  let _ ← r.expression
  require "PLACING"
  let _ ← r.expression
  require "FROM"
  let _ ← r.expression
  if ← keyword "FOR" then
    let _ ← r.expression
  requireSymbol ")"

/-- A text without what is at its ends after the first word. -/
def trimming : Reading Unit := do
  requireSymbol "("
  let _ ← oneOf ["BOTH", "LEADING", "TRAILING"]
  let _ ← r.expression
  if ← keyword "FROM" then
    let _ ← r.expression
  else if ← symbol "," then
    if r.dialect.permissive then r.expressions
  requireSymbol ")"

/-- A query between parentheses. -/
def enclosedQuery : Reading Unit :=
  parenthesized r.query

/-- A negation after its first word. -/
def negation : Reading Unit := do
  if ← keyword "EXISTS" then enclosedQuery r
  else
    let _ ← r.operation Strength.not

/-- A row of values after its opening bracket. -/
def arrayItems : Reading Unit := do
  let _ ← listUnless "]" r.expression
  requireSymbol "]"

/-- Values with names and types between parentheses, after types between angle brackets. -/
def record : Reading Unit := do
  requireSymbol "("
  let _ ← list do
    let _ ← r.expression
    if ← keyword "AS" then
      let _ ← name
  requireSymbol ")"

/-- Values with names after the opening brace. -/
def dictionary : Reading Unit := do
  let _ ← listUnless "\x7d" do
    let _ ← name
    requireSymbol ":"
    r.expression
  requireSymbol "\x7d"

/-- A call or values with names, after the opening brace. -/
def braced : Reading Unit := do
  let marked : Reading Unit := do
    require "FN"
    let _ ← dottedName
    call r
  match ← attempt marked with
  | some _ => requireSymbol "\x7d"
  | none => if r.dialect.permissive then dictionary r else unexpected

/-- The operand that the word `t`, which has been taken, starts by its meaning; none if it has
no meaning there. A stretch of time is read by `interval`. -/
def special? (interval : Reading Unit) (t : Token) : Reading Bool := do
  let is := fun (ks : List String) => ks.any t.isKeyword
  if is ["TRUE", "FALSE", "NULL"] then return true
  else if r.dialect.permissive &&
      is ["CURRENT_CATALOG", "CURRENT_USER", "SESSION_USER", "USER"] then
    return true
  else if is ["CURRENT_TIMESTAMP", "CURRENT_TIME", "CURRENT_DATE", "LOCALTIME",
      "LOCALTIMESTAMP"] then
    if ← symbol "(" then
      let _ ← arguments r
    return true
  else if is ["CASE"] then caseDistinction r; return true
  else if is ["CONVERT"] then conversion r; return true
  else if is ["TRY_CONVERT"] && r.dialect.permissive then conversion r; return true
  else if is ["CAST", "TRY_CAST", "SAFE_CAST"] then cast r; return true
  else if is ["EXISTS"] then enclosedQuery r; return true
  else if is ["EXTRACT"] then extraction r; return true
  else if is ["CEIL", "FLOOR"] then rounding r; return true
  else if is ["POSITION"] then
    if ← symbolAhead "(" then
      position r
      return true
    else return false
  else if is ["SUBSTR", "SUBSTRING"] then substring r; return true
  else if is ["OVERLAY"] then overlay r; return true
  else if is ["TRIM"] then trimming r; return true
  else if is ["INTERVAL"] then interval; return true
  else if is ["ARRAY"] then
    if ← symbol "[" then
      arrayItems r
      return true
    else if ← symbolAhead "(" then
      enclosedQuery r
      return true
    else return false
  else if is ["NOT"] then negation r; return true
  else if is ["MATCH"] && r.dialect.permissive then
    let _ ← parenthesized (list dottedName)
    require "AGAINST"
    requireSymbol "("
    let _ ← value
    unless ← keywords ["IN", "NATURAL", "LANGUAGE", "MODE", "WITH", "QUERY", "EXPANSION"] do
      unless ← keywords ["IN", "NATURAL", "LANGUAGE", "MODE"] do
        unless ← keywords ["IN", "BOOLEAN", "MODE"] do
          let _ ← keywords ["WITH", "QUERY", "EXPANSION"]
    requireSymbol ")"
    return true
  else if is ["STRUCT"] && r.dialect.permissive then
    record r
    return true
  else if is ["MAP"] && r.dialect.permissive then
    if ← symbol "\x7b" then
      dictionary r
      return true
    else return false
  else return false

/-- The operand that a name, which has been taken, starts: a call, a literal in a character set
or the name alone. -/
def nameOperand (n : Name) : Reading Expression := do
  match ← peek with
  | some (.symbol ['(']) => call r; return .other
  | some (.literal .plain _) | some (.literal .hex _) =>
    if n.value.head? = some '_' then
      skip
      return .other
    else return .name n
  | _ => return .name n

/-- The operand `x`, possibly with the order in which its texts are compared. -/
def collated (x : Expression) : Reading Expression := do
  if ← keyword "COLLATE" then
    let _ ← dottedName
    return .other
  else return x

/-- The words that start a special operand and are no names of columns. -/
def neverNames : List String :=
  ["EXISTS", "INTERVAL", "STRUCT", "TRIM"]

/-- The operand that a word starts. What is a name only because nothing else can be made of it
goes without `COLLATE`. -/
def wordOperand (interval : Reading Unit) (n : Name) : Reading Expression := do
  let t := Token.word n.value n.quote
  match ← outcome (special? r interval t) with
  | .ok true => collated .other
  | .ok false => collated (← nameOperand r n)
  | .error e =>
    if neverNames.any t.isKeyword then throw e
    match ← outcome (nameOperand r n) with
    | .ok x => return x
    | .error _ => throw e

/-- A type and a literal of it, where a type is next that is known by keyword. A stretch of
time is read by `interval`. -/
def typedLiteral (interval : Reading Unit) : Reading Unit := do
  match ← DataType.read with
  | .interval => interval
  | .known _ =>
    let _ ← value
  | .named _ => unexpected

/-- What lies between parentheses after the opening one: a query, an expression or several. -/
def enclosed : Reading Unit := do
  if ← aheadOneOf ["SELECT", "WITH"] then r.query else r.expressions
  requireSymbol ")"

/-- An operand with the stretches of time in it, which are at most `fuel`. -/
def operand : (fuel : Nat) → Reading Expression
  | 0 => unexpected
  | fuel + 1 => do
    let interval : Reading Unit := do
      let _ ← operand fuel
      timeUnit r
    match ← attempt (typedLiteral interval) with
    | some _ => return .other
    | none =>
      match ← next with
      | .word value quote => wordOperand r interval ⟨value, quote⟩
      | .number _ => collated .other
      | .literal _ _ => collated .other
      | .placeholder _ => collated .other
      | .blank => unexpected
      | .symbol s =>
        if s = ['-'] ∨ s = ['+'] then
          let _ ← r.operation Strength.product
        else if s = ['('] then enclosed r
        else if s = [':'] ∨ s = ['@'] then
          match ← next with
          | .word _ _ => pure ()
          | .number _ => pure ()
          | _ => unexpected
        else if s = ['['] then arrayItems r
        else if s = ['\x7b'] then braced r
        else unexpected
        collated .other

/-! ## Parts -/

/-- A place in a row of values, or a stretch of it, after the opening bracket. -/
def subscript : Reading Unit := do
  let first ← if ← symbol ":" then pure false else do
    let _ ← r.expression
    pure true
  if ← symbol "]" then return
  if first then requireSymbol ":"
  if ← symbol "]" then return
  let _ ← r.expression
  if ← symbol "]" then return
  requireSymbol ":"
  if ← symbol "]" then return
  let _ ← r.expression
  requireSymbol "]"

/-- The parts of a whole, after a dot or between brackets; says whether there are any. A dot
before a star stays in the row. -/
def parts : Reading Bool := do
  let start := (← get).length
  repeatWhile do
    match ← get with
    | .symbol ['.'] :: .symbol ['*'] :: _ => return false
    | .symbol ['.'] :: .literal .plain _ :: ts => set ts; return true
    | .symbol ['.'] :: ts =>
      set ts
      let _ ← r.operation Strength.part
      return true
    | .symbol ['['] :: ts =>
      set ts
      subscript r
      return true
    | _ => return false
  return (← get).length < start

/-! ## Operators -/

/-- A test after `IS`. -/
def test : Reading Unit := do
  let _ ← keyword "NOT"
  if ← oneOf ["NULL", "TRUE", "FALSE", "UNKNOWN"] then return
  if ← keywords ["DISTINCT", "FROM"] then
    let _ ← r.expression
  else
    let _ ← oneOf ["NFC", "NFD", "NFKC", "NFKD"]
    require "NORMALIZED"

/-- A pattern with the character that takes the meaning from others in it. -/
def patternOperand : Reading Unit := do
  let _ ← r.operation Strength.pattern
  if ← keyword "ESCAPE" then
    let _ ← literalText

/-- What comes after `IN`. -/
def membership : Reading Unit := do
  if ← keyword "UNNEST" then
    let _ ← parenthesized r.expression
  else
    requireSymbol "("
    match ← attempt r.query with
    | some _ => pure ()
    | none =>
      if r.dialect.untypedColumns then
        let _ ← listUnless ")" r.expression
      else r.expressions
    requireSymbol ")"

/-- The bounds after `BETWEEN`. -/
def bounds : Reading Unit := do
  let _ ← r.operation Strength.comparison
  require "AND"
  let _ ← r.operation Strength.comparison

/-- An operator on a list, on bounds or on a pattern, possibly after `NOT`. -/
def negatable : Reading Unit := do
  let _ ← keyword "NOT"
  let regexp ← keyword "REGEXP"
  let rlike ← keyword "RLIKE"
  if regexp || rlike then
    let _ ← r.operation Strength.pattern
  else if ← keyword "IN" then membership r
  else if ← keyword "BETWEEN" then bounds r
  else if ← oneOf ["LIKE", "ILIKE"] then
    let _ ← keyword "ANY"
    patternOperand r
  else if ← keywords ["SIMILAR", "TO"] then patternOperand r
  else unexpected

/-- The right side of an operator between two operands, or the rows it compares with. -/
def rightSide (strength : Nat) (quantified : Bool) : Reading Unit := do
  if ← oneOf ["ANY", "ALL", "SOME"] then
    requireSymbol "("
    if ← aheadOneOf ["SELECT", "WITH"] then
      modify (Token.symbol ['('] :: ·)
      let _ ← r.operation strength
    else
      let _ ← r.operation strength
      requireSymbol ")"
    unless quantified do unexpected
  else
    let _ ← r.operation strength

/-- An operator written as names between parentheses. -/
def namedOperator : Reading Unit := do
  requireSymbol "("
  let _ ← separated (symbol ".") next
  requireSymbol ")"

/-- The operator at the start of the row, with what follows it. -/
def operator (strength : Nat) : Reading Unit := do
  if r.dialect.matchOperators then
    if ← oneOf ["REGEXP", "MATCH"] then
      match ← outcome r.expression with
      | .ok _ => return
      | .error _ => throw .abandoned
  match ← get with
  | [] => unexpected
  | .symbol s :: ts =>
    set ts
    let isOneOf := fun (xs : List String) => xs.any (·.toList == s)
    if isOneOf (binarySymbols r.dialect) then rightSide r strength (isOneOf quantifiedSymbols)
    else if isOneOf ["::"] then
      let _ ← DataType.read
    else unexpected
  | t :: ts =>
    if ["AND", "OR", "XOR", "OVERLAPS"].any t.isKeyword then
      set ts
      rightSide r strength false
    else if t.isKeyword "OPERATOR" && r.dialect.permissive then
      set ts
      namedOperator
      rightSide r strength false
    else if t.isKeyword "IS" then
      set ts
      test r
    else if t.isKeyword "AT" then
      set ts
      requireAll ["TIME", "ZONE"]
      let _ ← r.operation strength
    else negatable r

/-- The operators after an operand that bind more tightly than `strength`; says whether there
are any. -/
def operators (strength : Nat) : Reading Bool := do
  let start := (← get).length
  repeatWhile do
    let next := Strength.ofTokens (← get)
    if next ≤ strength || (← symbolAhead ".") then return false
    operator r next
    return true
  return (← get).length < start

/-- An expression up to the first operator that does not bind more tightly than `strength`. -/
def operation (strength : Nat) : Reading Expression := do
  let x ← operand r ((← get).length + 1)
  let divided ← parts r
  if ← operators r strength then return .other
  else if divided then return .other
  else return x

end AskSql.Sql.Grammar
