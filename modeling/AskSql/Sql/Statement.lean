import AskSql.Failure
import AskSql.Sql.Grammar.Statement
import AskSql.Sql.Lexer

/-!
# Statements of a text

How many statements a text holds, and the tables that its statements create.

Where a text cannot be read as statements, they are counted by its tokens: every run between
semicolons that holds more than blanks is one.

A table may be missing in a text for reasons that are reported as an error (`Unread.error?`), or
because reading the text panics. What the parser says of a text that is no SQL is its own affair,
and comes as a `Wording`.
-/

namespace AskSql.Sql

open Text

/-- The statements of a row of tokens, or what is wrong with it. -/
def statements (d : Dialect) (tokens : List Token) : Except Trouble (List Statement) :=
  match Grammar.statements (Grammar.rules d Grammar.maxDepth) (tokens.filter (!·.isBlank)) with
  | .ok (statements, _) => .ok statements
  | .error e => .error e

/-- The runs of tokens between semicolons. -/
def runs : List Token → List (List Token)
  | [] => [[]]
  | t :: ts =>
    if t = .semicolon then [] :: runs ts
    else
      match runs ts with
      | [] => [[t]]
      | run :: rest => (t :: run) :: rest

/-- The number of runs that hold more than blanks. -/
def countRuns (tokens : List Token) : Nat :=
  ((runs tokens).filter fun run => run.any (!·.isBlank)).length

/-- The number of statements in a text. -/
def countStatements (s : Text) : Except LexicalError Nat :=
  match tokenize .general s with
  | .error e => .error e
  | .ok tokens =>
    match statements .general tokens with
    | .ok statements => .ok statements.length
    | .error _ => .ok (countRuns tokens)

/-! ## Tables -/

/-- Why no table is read off a text. -/
inductive Unread where
  /-- The text has no tokens. -/
  | lexical (e : LexicalError)
  /-- The tokens are no statements. -/
  | ungrammatical
  /-- Phrases lie in each other too deeply. -/
  | tooDeep
  /-- None of the statements creates a table. -/
  | noTable
  /-- Reading panics, and nothing comes back: a pattern operator has no operand. -/
  | abandoned
  deriving Repr, DecidableEq

/-- The reason in what is wrong with a row of tokens. -/
def Unread.ofTrouble : Trouble → Unread
  | .unexpected => .ungrammatical
  | .tooDeep => .tooDeep
  | .abandoned => .abandoned

/-- What a parser says of a text whose tokens are no statements. -/
abbrev Wording := Text → Text

/-- The error that is reported for the text `s`, unless reading panics. -/
def Unread.error? (wording : Wording) (s : Text) : Unread → Option DefinitionError
  | .lexical e => some (.unreadable e.message)
  | .ungrammatical => some (.unreadable (wording s))
  | .tooDeep => some (.unreadable "sql parser error: recursion limit exceeded".toList)
  | .noTable => some .noTable
  | .abandoned => none

/-- The definition in the first `CREATE TABLE` statement of a text, all of whose statements can
be read. -/
def readTable (s : Text) : Except Unread TableDefinition :=
  match tokenize .sqlite s with
  | .error e => .error (.lexical e)
  | .ok tokens =>
    match statements .sqlite tokens with
    | .error trouble => .error (.ofTrouble trouble)
    | .ok statements =>
      match statements.findSome? fun
        | .createTable t => some t
        | _ => none with
      | some t => .ok t.definition
      | none => .error .noTable

end AskSql.Sql
