import AskSql.Text.Letter

/-!
# Dialects

Where the ways of writing SQL differ: what names are made of, which quotes they take and which
prefixes make a literal, and what the grammar allows.
-/

namespace AskSql.Sql

open Text

/-- A way of writing SQL. -/
structure Dialect where
  /-- The characters that a name starts with. -/
  startsName : Char → Bool
  /-- The characters that a name goes on with. -/
  continuesName : Char → Bool
  /-- The quote that closes a name, for each quote that opens one. -/
  closingQuote? : Char → Option Char
  /-- `B`, `R`, `E` and `U&` before a quote make it a literal of their own. -/
  prefixedLiterals : Bool
  /-- A comment may hold comments. -/
  nestedComments : Bool
  /-- Text between dollar signs is a literal. -/
  dollarLiterals : Bool
  /-- `//` is an operator. -/
  doubleSlash : Bool
  /-- A column may go without a type, and a list of values may be empty. -/
  untypedColumns : Bool
  /-- `MATCH` and `REGEXP` are operators that stand between any two expressions. -/
  matchOperators : Bool
  /-- What only some database takes is taken. -/
  permissive : Bool

namespace Dialect

/-- SQL of no database in particular: names hold letters of any script, and whatever some
database takes for a literal is one. -/
def general : Dialect where
  startsName c := isLetter c || c == '_' || c == '#' || c == '@'
  continuesName c :=
    isLetter c || isAsciiDigit c || c == '@' || c == '$' || c == '#' || c == '_'
  closingQuote? c := if c = '"' ∨ c = '\x60' then some c else none
  prefixedLiterals := true
  nestedComments := true
  dollarLiterals := true
  doubleSlash := true
  untypedColumns := false
  matchOperators := false
  permissive := true

/-- Every character of the first plane that is not ASCII. -/
def isBeyondAscii (c : Char) : Bool :=
  0x7F ≤ c.toNat && c.toNat ≤ 0xFFFF

/-- SQL as SQLite takes it. -/
def sqlite : Dialect where
  startsName c := isAsciiLetter c || c == '_' || isBeyondAscii c
  continuesName c := isAsciiLetter c || c == '_' || isBeyondAscii c || isAsciiDigit c
  closingQuote? c :=
    if c = '"' ∨ c = '\x60' then some c else if c = '[' then some ']' else none
  prefixedLiterals := false
  nestedComments := false
  dollarLiterals := false
  doubleSlash := false
  untypedColumns := true
  matchOperators := true
  permissive := false

end Dialect
end AskSql.Sql
