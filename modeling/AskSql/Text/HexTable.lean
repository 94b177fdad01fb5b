import AskSql.Text.Basic
import AskSql.Text.Numeral

/-!
# Tables in rows

Long tables of numbers are written as rows of hexadecimal numbers, with dots between the numbers
of an entry and spaces between entries. This module reads them.
-/

namespace AskSql.Text

/-- The number that hexadecimal digits stand for. -/
def hexNumber (digits : Text) : Nat :=
  digits.foldl (fun n d => 16 * n + (hexValue? d).getD 0) 0

/-- The entries of a table, each with its numbers. -/
def hexEntries (rows : List String) : List (List Nat) :=
  rows.flatMap fun row =>
    (splitWhere (· == ' ') row.toList).map fun entry =>
      (splitWhere (· == '.') entry).map hexNumber

end AskSql.Text
