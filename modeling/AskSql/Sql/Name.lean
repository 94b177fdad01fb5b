import AskSql.Sql.Token

/-!
# Names

Names as they are written, with the quotes that open them, and what is left of a written name
without its quotes.
-/

namespace AskSql.Sql

open Text

/-- A name as it is written: its value, and the quote that opens it. -/
structure Name where
  value : Text
  quote : Option Char
  deriving Repr, DecidableEq

namespace Name

/-- A text between quotes, each of its own quotes doubled unless it is one of a pair or comes
after a backslash. -/
def escape (quote : Char) (afterBackslash : Bool) : Text → Text
  | [] => []
  | [c] => if c = quote ∧ !afterBackslash then [c, c] else [c]
  | c :: d :: s =>
    if c = quote then
      if afterBackslash then c :: escape quote true (d :: s)
      else if d = quote then c :: d :: escape quote false s
      else c :: c :: escape quote false (d :: s)
    else c :: escape quote (c == '\\') (d :: s)

/-- The name with its quotes. -/
def text (n : Name) : Text :=
  match n.quote with
  | none => n.value
  | some '[' => '[' :: n.value ++ [']']
  | some q => q :: escape q false n.value ++ [q]

/-- The quotes that names are freed from. -/
def isQuote (c : Char) : Bool :=
  c == '"' || c == '\x60' || c == '[' || c == ']'

/-- A written name without the quotes at both ends. -/
def strip (written : Text) : Text :=
  dropEndWhile isQuote (written.dropWhile isQuote)

/-- The name without the quotes at both ends. -/
def bare (n : Name) : Text :=
  strip n.text

/-- Names with dots between, as they are written. -/
def dottedText (ns : List Name) : Text :=
  join ['.'] (ns.map text)

/-- What comes after the last dot of a written name, quoted or not, without the quotes at both
ends. -/
def lastPart (ns : List Name) : Text :=
  strip (((splitWhere (· == '.') (dottedText ns)).getLast?).getD [])

end Name
end AskSql.Sql
