import AskSql.Database.Number
import AskSql.Database.Reader

/-!
# Grammar of expressions

Operators bind by levels, from `OR` at the lowest to the signs at the highest, and those of one
level from the left. What stands inside an expression is read by rules that are handed in: they
are good for expressions and queries that are nested less deep.
-/

namespace AskSql.Database.Grammar

open Text Reader

/-- Readers for what is nested. -/
structure Rules where
  /-- An expression whose operators are of a level or of a higher one. -/
  expr : (level : Nat) → Reader Expr
  query : Reader Query
  /-- Sources with joins between them. -/
  sources : Reader (List Joined)

namespace Rules

/-- Any expression. -/
def any (r : Rules) : Reader Expr :=
  r.expr 0

/-- A query follows. -/
def seesQuery : Reader Bool :=
  sees (·.isAmong ["SELECT", "VALUES", "WITH"])

/-- Some expressions, none if the closing parenthesis follows. -/
def anyList (r : Rules) : Reader (List Expr) := do
  if ← seesSymbol ")" then return []
  else list r.any

/-! ## Levels -/

/-- The level of `NOT`. -/
def notLevel : Nat := 3

/-- The level of equality and of what looks like it. -/
def equalityLevel : Nat := 4

/-- The level of `COLLATE`. -/
def collateLevel : Nat := 11

/-- The level of signs. -/
def signLevel : Nat := 12

/-- The operators that stand between two operands, with their levels. -/
def symbolOperators : List (String × Nat × Operator) :=
  [("=", 4, .compare .equal), ("==", 4, .compare .equal), ("<>", 4, .compare .differ),
   ("!=", 4, .compare .differ), ("<", 5, .compare .less), ("<=", 5, .compare .atMost),
   (">", 5, .compare .greater), (">=", 5, .compare .atLeast), ("&", 7, .compute .bitAnd),
   ("|", 7, .compute .bitOr), ("<<", 7, .compute .shiftLeft), (">>", 7, .compute .shiftRight),
   ("+", 8, .compute .add), ("-", 8, .compute .subtract), ("*", 9, .compute .multiply),
   ("/", 9, .compute .divide), ("%", 9, .compute .remainder), ("||", 10, .compute .concat),
   ("->", 10, .extract false), ("->>", 10, .extract true)]

/-- The operator that a token is, with its level. -/
def operator? (t : Token) : Option (Nat × Operator) :=
  match t with
  | .symbol s => (symbolOperators.find? fun o => o.1.toList == s).map (·.2)
  | _ =>
    if t.isKeyword "AND" then some (2, .and)
    else if t.isKeyword "OR" then some (1, .or)
    else none

/-- The operator for patterns that a token is. -/
def pattern? (t : Token) : Option Pattern :=
  if t.isKeyword "LIKE" then some .like
  else if t.isKeyword "GLOB" then some .glob
  else if t.isKeyword "REGEXP" then some .regexp
  else if t.isKeyword "MATCH" then some .fullText
  else none

/-! ## Operands -/

/-- A numeral as it is counted: without the low lines between its digits. -/
def plainNumeral (numeral : Text) : Reader Expr :=
  let isDigit := if (numeral.take 2).map Char.toLower = "0x".toList then isHexDigit
    else isAsciiDigit
  let rec strip : (before : Option Char) → (done : Text) → Text → Except Text Text
    | _, done, [] => .ok done.reverse
    | before, done, c :: s =>
      if c = '_' then
        if (before.map isDigit).getD false && (s.head?.map isDigit).getD false then
          strip (some c) done s
        else .error (done.reverse ++ numeral.drop done.length)
      else strip (some c) (c :: done) s
  match strip none [] numeral with
  | .ok plain => pure (.numeral plain)
  | .error shown => refuse (fault ("unrecognized token: \"".toList ++ shown ++ ['"']))

/-- What follows `CASE`. -/
def choice (r : Rules) : Reader Expr := do
  let base ← if ← seesKeyword "WHEN" then pure none else (do let e ← r.any; return some e)
  let rec branches : (fuel : Nat) → Reader (List (Expr × Expr))
    | 0 => stuck
    | fuel + 1 => do
      keyword "WHEN"
      let condition ← r.any
      keyword "THEN"
      let e ← r.any
      if ← seesKeyword "WHEN" then
        let more ← branches fuel
        return (condition, e) :: more
      else return [(condition, e)]
  let branches ← fun ps => branches (ps.length + 1) ps
  let otherwise ← Reader.after "ELSE" r.any
  keyword "END"
  return .choice base branches otherwise

/-- What follows `CAST`. -/
def cast (r : Rules) : Reader Expr :=
  parenthesized do
    let e ← r.any
    keyword "AS"
    let type ← typeText
    return .cast e type

/-- What follows `RAISE`. -/
def raise : Reader Expr :=
  parenthesized do
    if ← acceptsKeyword "IGNORE" then return .raise none
    else
      let _ ← piece (·.isAmong ["ROLLBACK", "ABORT", "FAIL"])
      symbol ","
      let message ← name
      return .raise (some message)

/-- One thing that rows are ordered by. -/
def order (r : Rules) : Reader Order := do
  let e ← r.any
  let descending ← acceptsKeyword "DESC"
  if !descending then
    let _ ← acceptsKeyword "ASC"
  let nullsLast ← Reader.after "NULLS" do
    if ← acceptsKeyword "FIRST" then return false
    else
      keyword "LAST"
      return true
  return .by e descending nullsLast

/-- What rows are ordered by, if it is given. -/
def orderBy (r : Rules) : Reader (List Order) := do
  if ← phrase "ORDER" ["BY"] then list r.order
  else return []

/-- The pieces up to the parenthesis that closes `depth + 1` open ones are passed over. -/
def passEnclosed : (depth : Nat) → Reader Unit
  | _, [] => .error (.stuck [])
  | depth, p :: ps =>
    if p.token.isSymbol ")" then
      match depth with
      | 0 => .ok ((), ps)
      | depth + 1 => passEnclosed depth ps
    else if p.token = .wrong then .error (.stuck (p :: ps))
    else passEnclosed (if p.token.isSymbol "(" then depth + 1 else depth) ps

/-- What follows the arguments of a function: which rows count, and over which of them it
runs. -/
def callEnd (r : Rules) : Reader (Option Expr × Bool) := do
  let filters := (← seesKeyword "FILTER") && (← seesAt 1 (·.isSymbol "("))
  let filter ← if filters then
      keyword "FILTER"
      parenthesized do
        keyword "WHERE"
        let e ← r.any
        return some e
    else pure none
  let runs := (← seesKeyword "OVER") &&
    (← seesAt 1 fun t => t.isSymbol "(" || (nameOf? reserved t).isSome)
  if runs then
    keyword "OVER"
    if ← acceptsSymbol "(" then passEnclosed 0
    else
      let _ ← name
  return (filter, runs)

/-- The arguments of a function, from the opening parenthesis on. -/
def call (r : Rules) : Reader Call := do
  symbol "("
  if ← acceptsSymbol "*" then
    symbol ")"
    let (filter, windowed) ← r.callEnd
    return .star filter windowed
  else
    let distinct ← acceptsKeyword "DISTINCT"
    if !distinct then
      let _ ← acceptsKeyword "ALL"
    let es ← r.anyList
    let order ← if es.isEmpty then pure [] else r.orderBy
    symbol ")"
    let (filter, windowed) ← r.callEnd
    return .arguments distinct es order filter windowed

/-- A name with the names behind it after dots, at most two. -/
def dotted (quoted : Bool) (first : Text) : Reader Expr := do
  if ← acceptsSymbol "." then
    let second ← name
    if ← acceptsSymbol "." then
      let third ← name
      return .name false [first, second, third]
    else return .name false [first, second]
  else return .name quoted [first]

/-- What stands between parentheses. -/
def enclosed (r : Rules) : Reader Expr :=
  parenthesized do
    if ← seesQuery then
      let q ← r.query
      return .query q
    else
      let es ← list r.any
      match es with
      | [e] => return e
      | es => return .row es

/-- The words that begin an operand of their own. They are names where no operand is meant. -/
def operandWords : List String :=
  ["CAST", "CURRENT_DATE", "CURRENT_TIME", "CURRENT_TIMESTAMP", "RAISE"]

/-- An operand that begins with a word. -/
def word (r : Rules) (w : Text) : Reader Expr := do
  let k := String.ofList (w.map Char.toUpper)
  match k with
  | "NULL" =>
    keyword k
    return .value .null
  | "CASE" =>
    keyword k
    r.choice
  | "CAST" =>
    keyword k
    r.cast
  | "RAISE" =>
    keyword k
    raise
  | "EXISTS" =>
    keyword k
    let q ← parenthesized r.query
    return .anyRow q
  | "CURRENT_DATE" | "CURRENT_TIME" | "CURRENT_TIMESTAMP" =>
    keyword k
    return .call w (.arguments false [] [] none false)
  | _ =>
    let first ← name
    if ← seesSymbol "(" then
      let call ← r.call
      return .call first call
    else dotted false first

/-- The greatest number of a parameter. -/
def mostParameters : Nat := 32766

/-- A parameter, which the next token is. -/
def parameter (text : Text) : Reader Expr := fun ps =>
  match text with
  | '#' :: d :: _ =>
    if isAsciiDigit d then .error (.stuck ps) else .ok (.parameter text, ps.drop 1)
  | '?' :: d :: ds =>
    let n := appendDigits 0 (d :: ds)
    if 1 ≤ n ∧ n ≤ mostParameters then .ok (.parameter text, ps.drop 1)
    else
      .error (.refused (fault ("variable number must be between ?1 and ?".toList ++
        ofNat mostParameters)))
  | _ => .ok (.parameter text, ps.drop 1)

/-- An operand without a sign in front of it. -/
def operand (r : Rules) : Reader Expr := fun ps =>
  match ps with
  | [] => .error (.stuck [])
  | p :: rest =>
    match p.token with
    | .numeral n => plainNumeral n rest
    | .text value =>
      if (rest.head?.map fun q => q.token.isSymbol ".").getD false then dotted false value rest
      else .ok (.value (.text value), rest)
    | .blob digits => .ok (.value (.blob ((bytes? digits).getD [])), rest)
    | .parameter text => parameter text ps
    | .quoted name quote =>
      if (rest.head?.map fun q => q.token.isSymbol "(").getD false then
        (do let call ← r.call; return .call name call : Reader Expr) rest
      else dotted (quote == '"') name rest
    | .word w => r.word w ps
    | .symbol _ => if p.token.isSymbol "(" then r.enclosed ps else .error (.stuck ps)
    | .wrong => .error (.stuck ps)

/-- An operand with the signs in front of it. -/
def signed (r : Rules) : Reader Expr := do
  if ← acceptsSymbol "-" then
    let e ← r.expr signLevel
    return .unary .minus e
  else if ← acceptsSymbol "+" then
    let e ← r.expr signLevel
    return .unary .plus e
  else if ← acceptsSymbol "~" then
    let e ← r.expr signLevel
    return .unary .complement e
  else if ← acceptsKeyword "NOT" then
    let e ← r.expr notLevel
    return .unary .not e
  else r.operand

/-! ## Operators -/

/-- What follows `IS` after an expression. -/
def is (r : Rules) (e : Expr) : Reader Expr := do
  let negated ← acceptsKeyword "NOT"
  let distinct ← phrase "DISTINCT" ["FROM"]
  let other ← r.expr (equalityLevel + 1)
  return .binary (.compare (if negated != distinct then .notSame else .same)) e other

/-- An `OR` with what belongs to it. -/
def afterOr (r : Rules) : Reader Expr := do
  keyword "OR"
  r.any

/-- What follows `BETWEEN` after an expression. An `OR` in it takes up all that follows. -/
def between (r : Rules) (negated : Bool) (e : Expr) : Reader Expr := do
  let low ← r.expr notLevel
  if ← seesKeyword "OR" then
    let _ ← r.afterOr
  keyword "AND"
  let high ← r.expr (equalityLevel + 1)
  return .between negated e low high

/-- What follows `IN` after an expression. -/
def among (r : Rules) (negated : Bool) (e : Expr) : Reader Expr := do
  if ← acceptsSymbol "(" then
    if ← seesQuery then
      let q ← r.query
      symbol ")"
      return .amongRows negated e q
    else
      let es ← r.anyList
      symbol ")"
      return .among negated e es
  else
    let (schema, table) ← qualifiedName
    let arguments ← if ← seesSymbol "(" then
        (do let es ← parenthesized r.anyList; return some es)
      else pure none
    let source := match arguments with
      | some es => Source.call table es
      | none => .table schema table
    return .amongRows negated e (.allOf source)

/-- What follows an operator for patterns after an expression. -/
def matching (r : Rules) (op : Pattern) (negated : Bool) (e : Expr) : Reader Expr := do
  let pattern ← r.expr (equalityLevel + 1)
  let escape ← Reader.after "ESCAPE" (r.expr (equalityLevel + 1))
  return .pattern op negated e pattern escape

/-- What follows the next token after an expression, where that is an operator of the level of
equality that is a word. -/
def wordOperator (r : Rules) (negated : Bool) (e : Expr) (t : Token) : Reader (Option Expr) :=
  let go := fun (reader : Reader Expr) => do
    let _ ← piece fun _ => true
    let e ← reader
    return some e
  match pattern? t with
  | some op => go (r.matching op negated e)
  | none =>
    if t.isKeyword "BETWEEN" then go (r.between negated e)
    else if t.isKeyword "IN" then go (r.among negated e)
    else pure none

/-- An expression is the integer zero. -/
def isZero : Expr → Bool
  | .numeral n =>
    let digits := if (n.take 2).map Char.toLower = "0x".toList then n.drop 2 else n
    digits.all (· == '0')
  | _ => false

/-- Two expressions with an operator between them. Nothing is looked up where a zero makes the
result false. -/
def joinedBy (op : Operator) (a b : Expr) : Expr :=
  if op = .and && (isZero a || isZero b) then .numeral ['0'] else .binary op a b

/-- An expression with the next operator and what belongs to it, if an operator of the level or
a higher one follows. -/
def continued? (r : Rules) (level : Nat) (e : Expr) : Reader (Option Expr) := fun ps =>
  match ps with
  | [] => .ok (none, [])
  | p :: rest =>
    let t := p.token
    match operator? t with
    | some (l, op) =>
      if level ≤ l then
        (do let b ← r.expr (l + 1); return some (joinedBy op e b) : Reader (Option Expr)) rest
      else .ok (none, ps)
    | none =>
      if level ≤ equalityLevel ∧ t.isKeyword "IS" then
        (do let e ← r.is e; return some e : Reader (Option Expr)) rest
      else if level ≤ equalityLevel ∧ t.isKeyword "ISNULL" then
        .ok (some (.isNull false e), rest)
      else if level ≤ equalityLevel ∧ t.isKeyword "NOTNULL" then
        .ok (some (.isNull true e), rest)
      else if level ≤ notLevel ∧ t.isKeyword "NOT" then
        (do
          if ← acceptsKeyword "NULL" then return some (.isNull true e)
          else
            match ← r.wordOperator true e ((rest.head?.map (·.token)).getD .wrong) with
            | some e => return some e
            | none => stuck : Reader (Option Expr)) rest
      else if level ≤ collateLevel ∧ t.isKeyword "COLLATE" then
        (do let n ← bareName; return some (.collate e n) : Reader (Option Expr)) rest
      else if level ≤ equalityLevel then r.wordOperator false e t ps
      else .ok (none, ps)

/-- An expression with at most `fuel` operators after it. -/
def continuedAll (r : Rules) (level : Nat) : (fuel : Nat) → Expr → Reader Expr
  | 0, e => pure e
  | fuel + 1, e => do
    match ← r.continued? level e with
    | some e => r.continuedAll level fuel e
    | none => return e

/-- An expression whose operators are of a level or of a higher one. -/
def expression (r : Rules) (level : Nat) : Reader Expr := do
  let e ← r.signed
  fun ps => r.continuedAll level ps.length e ps

end Rules
end AskSql.Database.Grammar
