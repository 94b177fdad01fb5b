import AskSql.Decimal.Shortest
import AskSql.Json.Basic
import AskSql.Text.Numeral

/-!
# Printing JSON

Two layouts of one value: `compact`, without any blank, and `pretty`, with every item and
member on a line of its own. Strings escape the double quote, the backslash and the control
characters below the blank, nothing else. A number with a fraction is written with the fewest
digits that read back, positionally between `1e-5` and `1e16`, and with a signed exponent beyond.
-/

namespace AskSql.Json

open Text

/-! ## Strings -/

/-- The hexadecimal digit of a number below 16. -/
def hexDigit (n : Nat) : Char :=
  Nat.digitChar n

/-- A character as it stands in a string. -/
def escapeChar (c : Char) : Text :=
  if c = '"' then ['\\', '"']
  else if c = '\\' then ['\\', '\\']
  else if c.toNat ≥ 0x20 then [c]
  else if c = '\n' then ['\\', 'n']
  else if c = '\r' then ['\\', 'r']
  else if c = '\t' then ['\\', 't']
  else if c.toNat = 0x08 then ['\\', 'b']
  else if c.toNat = 0x0C then ['\\', 'f']
  else ['\\', 'u', '0', '0', hexDigit (c.toNat / 16), hexDigit (c.toNat % 16)]

/-- A text as a string literal. -/
def quote (s : Text) : Text :=
  '"' :: s.flatMap escapeChar ++ ['"']

/-! ## Numbers -/

/-- The numeral of an integer. -/
def integer : Int → Text
  | .ofNat n => ofNat n
  | .negSucc n => '-' :: ofNat (n + 1)

/-- The decimal `0.ddd… · 10 ^ point`, for a row of digits without zeros at its ends. -/
def decimal (digits : Text) (point : Int) : Text :=
  let n : Int := digits.length
  if n ≤ point ∧ point ≤ 16 then
    digits ++ List.replicate (point - n).toNat '0' ++ ['.', '0']
  else if 0 < point ∧ point ≤ 16 then
    digits.take point.toNat ++ '.' :: digits.drop point.toNat
  else if -5 < point ∧ point ≤ 0 then
    ['0', '.'] ++ List.replicate (-point).toNat '0' ++ digits
  else
    let mantissa := match digits with
      | [] => []
      | [d] => [d]
      | d :: rest => d :: '.' :: rest
    mantissa ++ 'e' :: (if 0 < point then ['+'] else []) ++ integer (point - 1)

/-- A number of the binary64 format. What JSON has no numeral for is `null`. -/
def real : Binary64 → Text
  | .infinite _ => "null".toList
  | .finite negative m e =>
    let size :=
      if m = 0 then "0.0".toList
      else
        let (c, p) := Binary64.shortest m e
        let digits := ofNat c
        decimal digits (digits.length + p)
    if negative then '-' :: size else size

/-- A number. -/
def Number.text : Number → Text
  | .integer n => Json.integer n
  | .real x => Json.real x

/-! ## Layouts -/

mutual

/-- A value without blanks. -/
def compact : Json → Text
  | .null => "null".toList
  | .bool true => "true".toList
  | .bool false => "false".toList
  | .number n => n.text
  | .string s => quote s
  | .array items => '[' :: compactItems items ++ [']']
  | .object members => '\x7b' :: compactMembers members ++ ['\x7d']

/-- The items of an array, with commas between them. -/
def compactItems : List Json → Text
  | [] => []
  | [item] => compact item
  | item :: rest => compact item ++ ',' :: compactItems rest

/-- The members of an object, with commas between them. -/
def compactMembers : List (Text × Json) → Text
  | [] => []
  | [(name, value)] => quote name ++ ':' :: compact value
  | (name, value) :: rest => quote name ++ ':' :: compact value ++ ',' :: compactMembers rest

end

/-- A line break and the indent of a nesting depth, two blanks for each level. -/
def newLine (depth : Nat) : Text :=
  '\n' :: List.replicate (2 * depth) ' '

mutual

/-- A value with every item and member on a line of its own, at a nesting depth. -/
def prettyAt (depth : Nat) : Json → Text
  | .null => "null".toList
  | .bool true => "true".toList
  | .bool false => "false".toList
  | .number n => n.text
  | .string s => quote s
  | .array [] => ['[', ']']
  | .array (item :: rest) =>
    '[' :: newLine (depth + 1) ++ prettyAt (depth + 1) item ++
      prettyItems (depth + 1) rest ++ newLine depth ++ [']']
  | .object [] => ['\x7b', '\x7d']
  | .object ((name, value) :: rest) =>
    '\x7b' :: newLine (depth + 1) ++ quote name ++ ": ".toList ++ prettyAt (depth + 1) value ++
      prettyMembers (depth + 1) rest ++ newLine depth ++ ['\x7d']

/-- The items of an array after the first. -/
def prettyItems (depth : Nat) : List Json → Text
  | [] => []
  | item :: rest => ',' :: newLine depth ++ prettyAt depth item ++ prettyItems depth rest

/-- The members of an object after the first. -/
def prettyMembers (depth : Nat) : List (Text × Json) → Text
  | [] => []
  | (name, value) :: rest =>
    ',' :: newLine depth ++ quote name ++ ": ".toList ++ prettyAt depth value ++
      prettyMembers depth rest

end

/-- A value with every item and member on a line of its own. -/
def pretty (value : Json) : Text :=
  prettyAt 0 value

end AskSql.Json
