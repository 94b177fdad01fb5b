import AskSql.Database.Draft
import AskSql.Database.Grammar.Query

/-!
# Grammar of tables

The columns and constraints of a table, read into a draft. A step that the draft refuses ends the
reading. Where there is nothing to define, because a table of the name is there already, the
definition is only read past: there is no draft then.
-/

namespace AskSql.Database.Grammar

open Text Reader

/-- What reading makes of a draft, if there is one. -/
abbrev Drafting := Option Draft → Reader (Option Draft)

/-- A step of a draft. -/
def drafting (f : Draft → Except StoreError Draft) : Drafting
  | none => pure none
  | some d =>
    match f d with
    | .ok d => pure (some d)
    | .error e => refuse e

/-- What becomes of a conflict, by its word. -/
def conflictNamed? (t : Token) : Option Conflict :=
  [("ROLLBACK", Conflict.rollback), ("ABORT", .abort), ("FAIL", .fail), ("IGNORE", .ignore),
    ("REPLACE", .replace)].findSome? fun (word, c) => if t.isKeyword word then some c else none

/-- What becomes of a conflict, after `ON CONFLICT`, if it is told. -/
def onConflict : Reader (Option Conflict) := do
  if ← phrase "ON" ["CONFLICT"] then
    let c ← Reader.take conflictNamed?
    return some c
  else return none

/-- `AUTOINCREMENT`, if it is there. -/
def autoincrement : Reader Bool :=
  acceptsKeyword "AUTOINCREMENT"

/-- The direction of a column, if it is given; whether it descends. -/
def sortOrder : Reader Bool := do
  if ← acceptsKeyword "DESC" then return true
  else
    let _ ← acceptsKeyword "ASC"
    return false

/-- A name in a list of columns, which nothing else may follow. -/
def columnName : Reader Text := do
  let (n, taken) ← spanned name
  if ← sees (·.isAmong ["COLLATE", "ASC", "DESC"]) then
    refuse (fault ("syntax error after column name \"".toList ++ Piece.written taken ++ ['"']))
  else return n

/-- The names of columns between parentheses, if they are given. -/
def columnNames : Reader (List Text) := do
  if ← seesSymbol "(" then parenthesized (list columnName)
  else return []

/-! ## Foreign keys -/

/-- What becomes of a row when the row that it points to goes. -/
def keyAction : Reader KeyAction := do
  if ← acceptsKeyword "SET" then
    if ← acceptsKeyword "NULL" then return .clear
    else
      keyword "DEFAULT"
      return .reset
  else if ← acceptsKeyword "CASCADE" then return .cascade
  else if ← acceptsKeyword "RESTRICT" then return .restrict
  else
    keywords ["NO", "ACTION"]
    return .nothing

/-- What follows the target of a foreign key, of which there are at most `fuel` parts. -/
def keyParts (k : KeyShape) : (fuel : Nat) → Reader KeyShape
  | 0 => stuck
  | fuel + 1 => do
    if ← acceptsKeyword "MATCH" then
      let _ ← name
      keyParts k fuel
    else if ← acceptsKeyword "ON" then
      if ← acceptsKeyword "DELETE" then
        let action ← keyAction
        keyParts { k with onDelete := action } fuel
      else if ← acceptsKeyword "UPDATE" then
        let action ← keyAction
        keyParts { k with onUpdate := action } fuel
      else
        keyword "INSERT"
        let _ ← keyAction
        keyParts k fuel
    else return k

/-- The target of a foreign key, after `REFERENCES`, and how its table is written. -/
def keyTarget : Reader (KeyShape × Text) := do
  let (target, taken) ← spanned name
  let targetColumns ← columnNames
  let key ← fun ps =>
    keyParts { columns := [], target, targetColumns } (ps.length + 1) ps
  return (key, Piece.written taken)

/-- When a foreign key is looked at, after `DEFERRABLE`; whether that is when the transaction
ends. -/
def deferral : Reader Bool := do
  if ← acceptsKeyword "INITIALLY" then
    if ← acceptsKeyword "DEFERRED" then return true
    else
      keyword "IMMEDIATE"
      return false
  else return false

/-! ## Default values -/

/-- Nothing in an expression changes from row to row. -/
def isConstant (e : Expr) : Bool :=
  e.ingredients.all fun
    | .name false [name] => (truthNamed? name).isSome
    | .function _ => true
    | _ => false
where
  /-- The truth value of a name that is one. -/
  truthNamed? (name : Text) : Option Bool :=
    if equalsIgnoringCase name "true".toList then some true
    else if equalsIgnoringCase name "false".toList then some false
    else none

/-- The token is a value of its own. -/
def isLiteral : Token → Bool
  | .numeral _ | .text _ | .blob _ => true
  | t => t.isAmong ["NULL", "CURRENT_DATE", "CURRENT_TIME", "CURRENT_TIMESTAMP"]

/-- A value of its own. -/
def literal (r : Rules) : Reader Expr := do
  if ← sees isLiteral then r.operand
  else stuck

/-- A word as a value: a truth value, or a text. -/
def wordValue (p : Piece) : Piece :=
  match p.token with
  | .word w =>
    if (isConstant.truthNamed? w).isSome then p else { p with token := .text w }
  | .quoted n _ => { p with token := .text n }
  | _ => p

/-- The words that are no value without quotes. -/
def notValues : List String :=
  reserved ++ joining

/-- A default value, after `DEFAULT`: whether it is constant, and its pieces. -/
def defaultValue (r : Rules) : Reader (Bool × List Piece) := do
  if ← acceptsSymbol "(" then
    let (e, taken) ← spanned r.any
    symbol ")"
    return (isConstant e, taken)
  else if ← sees fun t => t.isSymbol "+" || t.isSymbol "-" then
    let ((), taken) ← spanned do
      let _ ← piece fun t => t.isSymbol "+" || t.isSymbol "-"
      let _ ← literal r
    return (true, taken)
  else if ← sees isLiteral then
    let (_, taken) ← spanned (literal r)
    return (true, taken)
  else
    let p ← piece fun t => (nameOf? notValues t).isSome
    return (true, [wordValue p])

/-! ## Columns -/

/-- A condition, after `CHECK`. -/
def condition (r : Rules) (d : Option Draft) : Reader (Option Draft) := do
  let opening ← piece (·.isSymbol "(")
  let (_, taken) ← spanned r.any
  symbol ")"
  let written := trimBlanks (opening.gap ++ Piece.writtenWithGap taken)
  drafting (fun d => .ok (d.addCheck written taken)) d
where
  /-- A text without blanks around it. -/
  trimBlanks (s : Text) : Text :=
    dropEndWhile isWideSpace (s.dropWhile isWideSpace)

/-- How a column is computed, after `AS`. -/
def generation (r : Rules) (d : Option Draft) : Reader (Option Draft) := do
  symbol "("
  let (_, taken) ← spanned r.any
  symbol ")"
  let isKind := fun (t : Token) => (nameOf? (reserved ++ joining) t).isSome
  let kind ← if ← sees isKind then (do let p ← piece isKind; return some p.text) else pure none
  drafting (·.addGenerated taken kind) d

/-- What is told of a column, if something follows. -/
def columnPart? (r : Rules) (d : Option Draft) : Reader (Option (Option Draft)) := do
  let some' := fun (reader : Reader (Option Draft)) => (do let d ← reader; return some d)
  if ← acceptsKeyword "CONSTRAINT" then
    let label ← name
    some' (drafting (fun d => .ok { d with label := some label }) d)
  else if ← acceptsKeyword "DEFAULT" then
    let (constant, taken) ← defaultValue r
    some' (drafting (·.addDefault constant taken) d)
  else if ← acceptsKeyword "NULL" then
    let _ ← onConflict
    return some d
  else if ← acceptsKeyword "NOT" then
    if ← acceptsKeyword "DEFERRABLE" then
      let _ ← deferral
      some' (drafting (fun d => .ok (d.deferKey false)) d)
    else
      keyword "NULL"
      let conflict ← onConflict
      some' (drafting (fun d => .ok (d.addNotNull (conflict.getD .abort))) d)
  else if ← acceptsKeyword "DEFERRABLE" then
    let deferred ← deferral
    some' (drafting (fun d => .ok (d.deferKey deferred)) d)
  else if ← phrase "PRIMARY" ["KEY"] then
    let descending ← sortOrder
    let conflict ← onConflict
    let counted ← autoincrement
    some' (drafting (·.addPrimaryKey none descending conflict counted) d)
  else if ← acceptsKeyword "UNIQUE" then
    let conflict ← onConflict
    some' (drafting (·.addUnique none conflict) d)
  else if ← acceptsKeyword "CHECK" then some' (condition r d)
  else if ← acceptsKeyword "REFERENCES" then
    let (key, written) ← keyTarget
    some' (drafting (·.addForeignKey none key written) d)
  else if ← acceptsKeyword "COLLATE" then
    let n ← bareName
    some' (drafting (·.addCollation n) d)
  else if ← phrase "GENERATED" ["ALWAYS", "AS"] then some' (generation r d)
  else if ← acceptsKeyword "AS" then some' (generation r d)
  else return none

/-- What is told of a column, in at most `fuel` parts. -/
def columnParts (r : Rules) : (fuel : Nat) → Drafting
  | 0, _ => stuck
  | fuel + 1, d => do
    match ← columnPart? r d with
    | some d => columnParts r fuel d
    | none => return d

/-- A column. -/
def column (r : Rules) (d : Option Draft) : Reader (Option Draft) := do
  let n ← name
  let type ← typeText
  let d ← drafting (·.addColumn n type) d
  fun ps => columnParts r (ps.length + 1) d ps

/-! ## Constraints -/

/-- A part of a key. -/
def keyPart (r : Rules) : Reader KeyPart := do
  let (o, taken) ← spanned r.order
  match o with
  | .by expr descending nullsLast => return { expr, pieces := taken, descending, nullsLast }

/-- The words that a constraint begins with. -/
def constraintWords : List String :=
  ["CONSTRAINT", "PRIMARY", "UNIQUE", "CHECK", "FOREIGN"]

/-- A constraint of a table. -/
def tableConstraint (r : Rules) (d : Option Draft) : Reader (Option Draft) := do
  if ← acceptsKeyword "CONSTRAINT" then
    let label ← name
    drafting (fun d => .ok { d with label := some label }) d
  else if ← phrase "PRIMARY" ["KEY"] then
    symbol "("
    let parts ← list (keyPart r)
    let counted ← autoincrement
    symbol ")"
    let conflict ← onConflict
    drafting (·.addPrimaryKey (some parts) false conflict counted) d
  else if ← acceptsKeyword "UNIQUE" then
    let parts ← parenthesized (list (keyPart r))
    let conflict ← onConflict
    drafting (·.addUnique (some parts) conflict) d
  else if ← acceptsKeyword "CHECK" then
    let d ← condition r d
    let _ ← onConflict
    return d
  else
    keywords ["FOREIGN", "KEY"]
    let columns ← parenthesized (list columnName)
    keyword "REFERENCES"
    let (key, written) ← keyTarget
    let d ← drafting (·.addForeignKey (some columns) key written) d
    let negated := (← seesKeyword "NOT") && (← seesAt 1 (·.isKeyword "DEFERRABLE"))
    if negated then keyword "NOT"
    if ← acceptsKeyword "DEFERRABLE" then
      let deferred ← deferral
      drafting (fun d => .ok (d.deferKey (deferred && !negated))) d
    else return d

/-- The constraints of a table, at most `fuel`; commas between them may be missing. -/
def tableConstraints (r : Rules) : (fuel : Nat) → Drafting
  | 0, _ => stuck
  | fuel + 1, d => do
    let d ← tableConstraint r d
    if ← acceptsSymbol "," then
      let d ← drafting (fun d => .ok { d with label := none }) d
      tableConstraints r fuel d
    else if ← sees (·.isAmong constraintWords) then tableConstraints r fuel d
    else return d

/-- The columns of a table, at most `fuel`, and the constraints after them. -/
def elements (r : Rules) : (fuel : Nat) → Drafting
  | 0, _ => stuck
  | fuel + 1, d => do
    let d ← column r d
    if ← acceptsSymbol "," then
      if ← sees (·.isAmong constraintWords) then
        fun ps => tableConstraints r (ps.length + 1) d ps
      else elements r fuel d
    else return d

/-! ## Options -/

/-- What is told of a table behind its columns. -/
structure TableOptions where
  withoutRowNumber : Bool := false
  strict : Bool := false
  deriving Repr, DecidableEq

/-- One option of a table added to others. -/
def tableOption (o : TableOptions) : Reader TableOptions := do
  let unknown := fun (taken : List Piece) =>
    refuse (fault ("unknown table option: ".toList ++ Piece.written taken))
  if ← acceptsKeyword "WITHOUT" then
    let (_, taken) ← spanned name
    if equalsIgnoringCase (Piece.written taken) "rowid".toList then
      return { o with withoutRowNumber := true }
    else unknown taken
  else
    let (_, taken) ← spanned name
    if equalsIgnoringCase (Piece.written taken) "strict".toList then
      return { o with strict := true }
    else unknown taken

/-- Some options of a table, at most `fuel`. -/
def tableOptions : (fuel : Nat) → TableOptions → Reader TableOptions
  | 0, _ => stuck
  | fuel + 1, o => do
    let o ← tableOption o
    if ← acceptsSymbol "," then tableOptions fuel o
    else return o

end AskSql.Database.Grammar
