import AskSql.Database.Syntax
import AskSql.Failure

/-!
# Readers

A reader takes pieces from the front. It gets stuck at the first piece that does not fit, and
that piece is what a message about the syntax points at; or it refuses what it has read, where
the wording is known before the statement ends. Each decision is made on the next pieces alone,
so that the place where a reader gets stuck is the first one at which no statement goes on.
-/

namespace AskSql.Database

open Text

/-- Why a statement cannot be read. -/
inductive Hitch where
  /-- Nothing goes on with the pieces that are left. -/
  | stuck (rest : List Piece)
  /-- What has been read is wrong. -/
  | refused (e : StoreError)

/-- A database error without a code of its own. -/
def fault (reason : Text) : StoreError :=
  .database 1 reason

/-- What is wrong with a statement. -/
def Hitch.error : Hitch → StoreError
  | .refused e => e
  | .stuck [] => fault "incomplete input".toList
  | .stuck (p :: _) =>
    if p.token = .wrong then fault ("unrecognized token: \"".toList ++ p.text ++ ['"'])
    else fault ("near \"".toList ++ p.text ++ "\": syntax error".toList)

/-- A reader of pieces. -/
abbrev Reader := StateT (List Piece) (Except Hitch)

namespace Reader

/-- Gets stuck. -/
def stuck {α : Type} : Reader α :=
  fun ps => .error (.stuck ps)

/-- Refuses what has been read. -/
def refuse {α : Type} (e : StoreError) : Reader α :=
  fun _ => .error (.refused e)

/-- The next piece, if its token satisfies `p`. -/
def piece (p : Token → Bool) : Reader Piece
  | [] => .error (.stuck [])
  | t :: ts => if p t.token then .ok (t, ts) else .error (.stuck (t :: ts))

/-- The token at a place further on satisfies `p`. -/
def seesAt (n : Nat) (p : Token → Bool) : Reader Bool :=
  fun ps => .ok ((ps[n]?.map fun t => p t.token).getD false, ps)

/-- The next token satisfies `p`. -/
def sees (p : Token → Bool) : Reader Bool :=
  seesAt 0 p

/-- The next token is the keyword `k`. -/
def seesKeyword (k : String) : Reader Bool :=
  sees (·.isKeyword k)

/-- The next token is the symbol `s`. -/
def seesSymbol (s : String) : Reader Bool :=
  sees (·.isSymbol s)

/-- The next piece is passed over if its token satisfies `p`; whether it does. -/
def accepts (p : Token → Bool) : Reader Bool := do
  let found ← sees p
  if found then
    let _ ← piece p
  return found

/-- The next piece is passed over if it is the keyword `k`. -/
def acceptsKeyword (k : String) : Reader Bool :=
  accepts (·.isKeyword k)

/-- The next piece is passed over if it is the symbol `s`. -/
def acceptsSymbol (s : String) : Reader Bool :=
  accepts (·.isSymbol s)

/-- The keyword `k`. -/
def keyword (k : String) : Reader Unit := do
  let _ ← piece (·.isKeyword k)

/-- The keywords `ks`, one after the other. -/
def keywords : List String → Reader Unit
  | [] => pure ()
  | k :: ks => do
    keyword k
    keywords ks

/-- The keyword `k`, which `ks` have to follow, if it is there. -/
def phrase (k : String) (ks : List String) : Reader Bool := do
  let found ← acceptsKeyword k
  if found then keywords ks
  return found

/-- The symbol `s`. -/
def symbol (s : String) : Reader Unit := do
  let _ ← piece (·.isSymbol s)

/-- The pieces that are left. -/
def rest : Reader (List Piece) :=
  fun ps => .ok (ps, ps)

/-- `r` with the pieces that it takes. -/
def spanned {α : Type} (r : Reader α) : Reader (α × List Piece) := fun ps =>
  match r ps with
  | .ok (a, rest) => .ok ((a, ps.take (ps.length - rest.length)), rest)
  | .error e => .error e

/-- `r` once or more often, at most `fuel` times, with commas between. -/
def commaSeparated {α : Type} (r : Reader α) : (fuel : Nat) → Reader (List α)
  | 0 => stuck
  | fuel + 1 => do
    let a ← r
    if ← acceptsSymbol "," then
      let more ← commaSeparated r fuel
      return a :: more
    else return [a]

/-- `r` once or more often, with commas between. -/
def list {α : Type} (r : Reader α) : Reader (List α) :=
  fun ps => commaSeparated r (ps.length + 1) ps

/-- `r` between parentheses. -/
def parenthesized {α : Type} (r : Reader α) : Reader α := do
  symbol "("
  let a ← r
  symbol ")"
  return a

/-- `r`, if the keyword `k` is in front of it. -/
def after {α : Type} (k : String) (r : Reader α) : Reader (Option α) := do
  if ← acceptsKeyword k then
    let a ← r
    return some a
  else return none

/-! ## Names -/

/-- The words that are no name unless they are quoted. -/
def reserved : List String :=
  ["ADD", "ALL", "ALTER", "AND", "AS", "AUTOINCREMENT", "BETWEEN", "CASE", "CHECK", "COLLATE",
   "COMMIT", "CONSTRAINT", "CREATE", "DEFAULT", "DEFERRABLE", "DELETE", "DISTINCT", "DROP", "ELSE",
   "ESCAPE", "EXCEPT", "EXISTS", "FOREIGN", "FROM", "GROUP", "HAVING", "IN", "INDEX", "INSERT",
   "INTERSECT", "INTO", "IS", "ISNULL", "JOIN", "LIMIT", "NOT", "NOTHING", "NOTNULL", "NULL", "ON",
   "OR", "ORDER", "PRIMARY", "REFERENCES", "RETURNING", "SELECT", "SET", "TABLE", "THEN", "TO",
   "TRANSACTION", "UNION", "UNIQUE", "UPDATE", "USING", "VALUES", "WHEN", "WHERE"]

/-- The words that join sources. They are names where no source is joined. -/
def joining : List String :=
  ["CROSS", "FULL", "INNER", "LEFT", "NATURAL", "OUTER", "RIGHT"]

/-- The name that a token is, if it is none of the words `excluded`. -/
def nameOf? (excluded : List String) : Token → Option Text
  | .word w => if (Token.word w).isAmong excluded then none else some w
  | .quoted name _ => some name
  | _ => none

/-- The name that a token is; a text passes for one. -/
def looseNameOf? (excluded : List String) : Token → Option Text
  | .text value => some value
  | t => nameOf? excluded t

/-- What the next token is according to `f`, if it is something. -/
def take {α : Type} (f : Token → Option α) : Reader α
  | [] => .error (.stuck [])
  | p :: ps =>
    match f p.token with
    | some a => .ok (a, ps)
    | none => .error (.stuck (p :: ps))

/-- A name. -/
def name : Reader Text :=
  take (looseNameOf? reserved)

/-- The next token is a name. -/
def seesName : Reader Bool :=
  sees fun t => (looseNameOf? reserved t).isSome

/-- A name that may stand without `AS` after something that it names, or as part of a type. -/
def bareName : Reader Text :=
  take (looseNameOf? (reserved ++ joining ++ ["INDEXED"]))

/-- The next token is such a name. -/
def seesBareName : Reader Bool :=
  sees fun t => (looseNameOf? (reserved ++ joining ++ ["INDEXED"]) t).isSome

/-- A name that may have the name of a database and a dot in front of it. -/
def qualifiedName : Reader (Option Text × Text) := do
  let first ← name
  if ← acceptsSymbol "." then
    let second ← name
    return (some first, second)
  else return (none, first)

/-- A numeral, with a sign or without one. -/
def signedNumeral : Reader Unit := do
  let _ ← accepts fun t => t.isSymbol "+" || t.isSymbol "-"
  let _ ← piece fun
    | .numeral _ => true
    | _ => false

/-- The names of a type, of which there are at most `fuel`, and its arguments. -/
def typeNames : (fuel : Nat) → Reader Unit
  | 0 => stuck
  | fuel + 1 => do
    let _ ← bareName
    if ← seesBareName then typeNames fuel
    else if ← acceptsSymbol "(" then
      signedNumeral
      if ← acceptsSymbol "," then signedNumeral
      symbol ")"

/-- A type, which may be missing, as it is written. -/
def typeText : Reader Text := do
  if ← seesBareName then
    let ((), taken) ← spanned fun ps => typeNames (ps.length + 1) ps
    return Piece.written taken
  else return []

end Reader
end AskSql.Database
