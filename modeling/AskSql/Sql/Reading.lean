import AskSql.Sql.Dialect
import AskSql.Sql.Keyword
import AskSql.Sql.TableText

/-!
# Reading tokens

How a row of tokens, blanks left out, is taken apart from left to right. A reading takes tokens
off the front of the row and says what they mean, or says what is wrong. A phrase that has
started and goes on otherwise is an error; what may be missing is looked for by its first words.
-/

namespace AskSql.Sql

open Text

/-- What is wrong with a row of tokens. -/
inductive Trouble where
  /-- The next token does not fit. -/
  | unexpected
  /-- Phrases lie in each other too deeply. -/
  | tooDeep
  /-- A pattern operator has no operand, after which nothing is tried any more. -/
  | abandoned
  deriving Repr, DecidableEq

/-- A way to take tokens off a row. -/
abbrev Reading := StateT (List Token) (Except Trouble)

namespace Reading

/-- The next token does not fit. -/
def unexpected {α : Type} : Reading α :=
  throw .unexpected

/-- The next token, which has to be there. -/
def next : Reading Token := do
  match ← get with
  | t :: ts => set ts; return t
  | [] => unexpected

/-- The next token, if there is one, goes unread. -/
def skip : Reading Unit :=
  modify List.tail

/-- The next token, which stays in the row. -/
def peek : Reading (Option Token) := do
  return (← get).head?

/-- The next token is the keyword `k`, and stays in the row. -/
def ahead (k : String) : Reading Bool := do
  match ← get with
  | t :: _ => return t.isKeyword k
  | [] => return false

/-- The next token is one of the keywords `ks`, and stays in the row. -/
def aheadOneOf (ks : List String) : Reading Bool := do
  match ← get with
  | t :: _ => return ks.any t.isKeyword
  | [] => return false

/-- The next token is the symbol `s`, and stays in the row. -/
def symbolAhead (s : String) : Reading Bool := do
  match ← get with
  | t :: _ => return t.isSymbol s
  | [] => return false

/-- Takes the keyword `k`, given in upper case, if it is next. -/
def keyword (k : String) : Reading Bool := do
  match ← get with
  | t :: ts => if t.isKeyword k then set ts; return true else return false
  | [] => return false

/-- What follows the keywords `ks`, if they are next one after the other. -/
def afterKeywords? : List String → List Token → Option (List Token)
  | [], ts => some ts
  | _ :: _, [] => none
  | k :: ks, t :: ts => if t.isKeyword k then afterKeywords? ks ts else none

/-- Takes the keywords `ks` if they are next, all of them. -/
def keywords (ks : List String) : Reading Bool := do
  match afterKeywords? ks (← get) with
  | some ts => set ts; return true
  | none => return false

/-- Takes one of the keywords `ks`, if one is next. -/
def oneOf? (ks : List String) : Reading (Option String) := do
  match ← get with
  | t :: ts =>
    match ks.find? t.isKeyword with
    | some k => set ts; return some k
    | none => return none
  | [] => return none

/-- Takes one of the keywords `ks`, if one is next, and says whether. -/
def oneOf (ks : List String) : Reading Bool := do
  return (← oneOf? ks).isSome

/-- Takes the symbol `s` if it is next. -/
def symbol (s : String) : Reading Bool := do
  match ← get with
  | t :: ts => if t.isSymbol s then set ts; return true else return false
  | [] => return false

/-- The keyword `k` has to come next. -/
def require (k : String) : Reading Unit := do
  unless ← keyword k do unexpected

/-- The keywords `ks` have to come next. -/
def requireAll (ks : List String) : Reading Unit := do
  unless ← keywords ks do unexpected

/-- One of the keywords `ks` has to come next. -/
def requireOneOf (ks : List String) : Reading Unit := do
  unless ← oneOf ks do unexpected

/-- The symbol `s` has to come next. -/
def requireSymbol (s : String) : Reading Unit := do
  unless ← symbol s do unexpected

/-- What `p` reads if it can be read here; otherwise nothing is taken. -/
def attempt {α : Type} (p : Reading α) : Reading (Option α) := fun ts =>
  match p ts with
  | .ok (a, rest) => .ok (some a, rest)
  | .error .unexpected => .ok (none, ts)
  | .error e => .error e

/-- What `p` reads, or what is wrong with it; then nothing is taken. -/
def outcome {α : Type} (p : Reading α) : Reading (Except Trouble α) := fun ts =>
  match p ts with
  | .ok (a, rest) => .ok (.ok a, rest)
  | .error .abandoned => .error .abandoned
  | .error e => .ok (.error e, ts)

/-- `p` as long as it says that it was there, at most `fuel` times. -/
def repeatUpTo (p : Reading Bool) : (fuel : Nat) → Reading Unit
  | 0 => pure ()
  | fuel + 1 => do
    if ← p then repeatUpTo p fuel

/-- `p` as long as it says that it was there. Whenever it does it has taken a token. -/
def repeatWhile (p : Reading Bool) : Reading Unit := do
  repeatUpTo p ((← get).length + 1)

/-- What `p` reads, at least once and at most `fuel` times, with the phrase `mark` between. -/
def separatedUpTo {α : Type} (mark : Reading Bool) (p : Reading α) : (fuel : Nat) → Reading (List α)
  | 0 => unexpected
  | fuel + 1 => do
    let a ← p
    if ← mark then
      return a :: (← separatedUpTo mark p fuel)
    else return [a]

/-- What `p` reads, once or more often, with the phrase `mark` between. -/
def separated {α : Type} (mark : Reading Bool) (p : Reading α) : Reading (List α) := do
  separatedUpTo mark p ((← get).length + 1)

/-- What `p` reads, once or more often, with commas between. -/
def list {α : Type} (p : Reading α) : Reading (List α) :=
  separated (symbol ",") p

/-- What `p` reads, with commas between, unless `close` comes next. -/
def listUnless {α : Type} (close : String) (p : Reading α) : Reading (List α) := do
  if ← symbolAhead close then return [] else list p

/-- What `p` reads between parentheses. -/
def parenthesized {α : Type} (p : Reading α) : Reading α := do
  requireSymbol "("
  let a ← p
  requireSymbol ")"
  return a

/-! ## Names and literals -/

/-- A name: a word, or a text between quotes. -/
def name : Reading Name := do
  match ← next with
  | .word value quote => return ⟨value, quote⟩
  | .literal .plain value => return ⟨value, some '\x27'⟩
  | _ => unexpected

/-- Names with dots between. -/
def dottedName : Reading (List Name) :=
  separated (symbol ".") name

/-- Names between parentheses. -/
def nameList : Reading (List Name) :=
  parenthesized (list name)

/-- Names between parentheses, or none. -/
def optionalNameList : Reading (List Name) := do
  if ← symbolAhead "(" then nameList else return []

/-- The number up to `bound` that comes next. -/
def naturalUpTo (bound : Nat) : Reading Nat := do
  match ← next with
  | .number digits =>
    match unsigned? bound digits with
    | some n => return n
    | none => unexpected
  | _ => unexpected

/-- The number of 64 bits that comes next. -/
def natural : Reading Nat :=
  naturalUpTo maxUInt64

/-- A text: a literal, or a word that is no keyword. -/
def literalText : Reading Text := do
  match ← next with
  | .word value (some _) => return value
  | .word value none => if isKeyword value then unexpected else return value
  | .literal .plain value => return value
  | .literal .escaped value => return value
  | .literal .unicode value => return value
  | _ => unexpected

/-- A value, as far as others look at it. -/
inductive Value where
  | number
  | text
  | parameter
  | other
  deriving Repr, DecidableEq

/-- A value: a literal, a parameter or one of the words that stand for values. -/
def value : Reading Value := do
  match ← next with
  | .number _ => return .number
  | .literal .plain _ => return .text
  | .literal _ _ => return .other
  | .placeholder _ => return .parameter
  | .word _ (some '"') => return .text
  | .word _ (some _) => unexpected
  | .word w none =>
    if ["TRUE", "FALSE", "NULL"].any (Token.word w none).isKeyword then return .other
    else unexpected
  | .symbol s =>
    if s = [':'] ∨ s = ['@'] then
      match ← next with
      | .word _ _ => return .parameter
      | .number _ => return .parameter
      | _ => unexpected
    else unexpected
  | .blank => unexpected

/-- A number, or a parameter for one, with or without a sign. -/
def signedNumber : Reading Unit := do
  unless ← symbol "+" do
    let _ ← symbol "-"
  match ← value with
  | .number => return
  | .parameter => return
  | _ => unexpected

end Reading

/-! ## What lies in each other -/

/-- An expression, as far as others look at it. -/
inductive Expression where
  /-- `*`, alone or after names and a dot. -/
  | wildcard
  | name (n : Name)
  | other
  deriving Repr, DecidableEq

/-- A statement, as far as others look at it. -/
inductive Statement where
  | createTable (table : TableText)
  /-- A question about another statement. -/
  | explain
  | other
  deriving Repr, DecidableEq

/-- How the phrases are read that all others may hold. -/
structure Rules where
  dialect : Dialect
  /-- An expression up to the first operator that does not bind more tightly than `strength`. -/
  operation : (strength : Nat) → Reading Expression
  /-- A query. -/
  query : Reading Unit
  /-- A statement. -/
  statement : Reading Statement

namespace Rules

/-- A whole expression. -/
def expression (r : Rules) : Reading Expression :=
  r.operation 0

/-- Expressions with commas between. -/
def expressions (r : Rules) : Reading Unit := do
  let _ ← Reading.list r.expression

end Rules
end AskSql.Sql
