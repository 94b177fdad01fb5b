import AskSql.Text.Case
import AskSql.Text.Numeral

/-!
# Tokens of SQL

What SQL is made of, and why a text is not made of it. Blanks and comments are tokens, too, so
that the lexemes of a text make up all of it.
-/

namespace AskSql.Sql

open Text

/-- The kinds of literals, by what comes before the text. -/
inductive LiteralKind where
  /-- `'…'` -/
  | plain
  /-- `N'…'` -/
  | national
  /-- `X'…'`, or a number that starts with `0x`. -/
  | hex
  /-- `E'…'` -/
  | escaped
  /-- `U&'…'` -/
  | unicode
  /-- `B'…'` -/
  | bytes
  /-- `R'…'` -/
  | raw
  /-- `$$…$$` or `$tag$…$tag$`. -/
  | dollar
  deriving Repr, DecidableEq

/-- A token. -/
inductive Token where
  /-- A white-space character, a line break or a comment. -/
  | blank
  /-- A name or keyword, or a name between quotes with the opening one. -/
  | word (value : Text) (quote : Option Char)
  /-- A numeral. -/
  | number (digits : Text)
  /-- A literal with its text. -/
  | literal (kind : LiteralKind) (value : Text)
  /-- A parameter. -/
  | placeholder (name : Text)
  /-- Punctuation, an operator or a character of no meaning. -/
  | symbol (s : Text)
  deriving Repr, DecidableEq

namespace Token

/-- The end of a statement. -/
def semicolon : Token := .symbol [';']

/-- A blank. -/
def isBlank : Token → Bool
  | .blank => true
  | _ => false

/-- A name or keyword, quoted or not. -/
def isWord : Token → Bool
  | .word _ _ => true
  | _ => false

/-- The keyword that an unquoted word is, if it is one: its upper-case form. -/
def keyword? : Token → Option Text
  | .word value none => some (upper value)
  | _ => none

/-- The token is the keyword `k`, given in upper case. -/
def isKeyword (k : String) (t : Token) : Bool :=
  t.keyword? == some k.toList

/-- The token is the symbol `s`. -/
def isSymbol (s : String) (t : Token) : Bool :=
  t == .symbol s.toList

end Token

/-- A token with the characters that it is written with. -/
structure Lexeme where
  token : Token
  text : Text
  deriving Repr, DecidableEq

/-! ## Faults -/

/-- Why a text is no sequence of tokens. -/
inductive LexicalFault where
  /-- A literal does not end. -/
  | openLiteral
  /-- A quoted name does not end with `close`. -/
  | openName (close : Char)
  /-- A comment does not end. -/
  | openComment
  /-- A literal between `$$` does not end. -/
  | openDollar
  /-- A literal between tags does not end. -/
  | openTag
  /-- A literal with escapes does not end, or an escape in it has no meaning. -/
  | openEscaped
  /-- A literal with code points does not end. -/
  | openUnicode
  /-- The text ends within a code point. -/
  | shortCodePoint
  /-- A code point has a character that is no digit. -/
  | badDigit (c : Char)
  /-- There is no such code point. -/
  | badCodePoint (n : Nat)
  deriving Repr, DecidableEq

/-- The wording. -/
def LexicalFault.message : LexicalFault → Text
  | .openLiteral => "Unterminated string literal".toList
  | .openName close => "Expected close delimiter '".toList ++ close :: "' before EOF.".toList
  | .openComment => "Unexpected EOF while in a multi-line comment".toList
  | .openDollar => "Unterminated dollar-quoted string".toList
  | .openTag => "Unterminated dollar-quoted, expected $".toList
  | .openEscaped => "Unterminated encoded string literal".toList
  | .openUnicode => "Unterminated unicode encoded string literal".toList
  | .shortCodePoint =>
    "Unexpected EOF while parsing hex digit in escaped unicode string.".toList
  | .badDigit c => "Invalid hex digit in escaped unicode string: ".toList ++ [c]
  | .badCodePoint n => "Invalid unicode character: ".toList ++ Nat.toDigits 16 n

/-- A place in a text, counted from one. -/
structure Location where
  line : Nat
  column : Nat
  deriving Repr, DecidableEq

namespace Location

/-- The place after one more character. -/
def advance (l : Location) (c : Char) : Location :=
  if c = '\n' then ⟨l.line + 1, 1⟩ else ⟨l.line, l.column + 1⟩

/-- The place after a text. -/
def after (s : Text) : Location :=
  s.foldl advance ⟨1, 1⟩

end Location

/-- A fault in a text: what comes before its place, and what comes from there on. -/
structure LexicalError where
  fault : LexicalFault
  before : Text
  rest : Text
  deriving Repr, DecidableEq

/-- The place of a fault. -/
def LexicalError.location (e : LexicalError) : Location :=
  .after e.before

/-- The wording. -/
def LexicalError.message (e : LexicalError) : Text :=
  "sql parser error: ".toList ++ e.fault.message ++ " at Line: ".toList ++
    ofNat e.location.line ++ ", Column: ".toList ++ ofNat e.location.column

end AskSql.Sql
