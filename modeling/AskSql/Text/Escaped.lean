import AskSql.Text.Case
import AskSql.Text.Numeral
import AskSql.Text.PrintTable

/-!
# Escaped text

A text as messages show it between double quotes: quotes, backslashes and line breaks behind a
backslash, and by its code each character that would not show.
-/

namespace AskSql.Text

/-- A character that shows nothing of its own, or that changes the one before it. -/
def isHidden (c : Char) : Bool :=
  inRanges unprintableRanges c.toNat || inRanges graphemeExtendRanges c.toNat

/-- A character as it is shown. -/
def escapedChar (c : Char) : Text :=
  if c = '"' then ['\\', '"']
  else if c = '\\' then ['\\', '\\']
  else if c = '\n' then ['\\', 'n']
  else if c = '\r' then ['\\', 'r']
  else if c = '\t' then ['\\', 't']
  else if c = '\x00' then ['\\', '0']
  else if isHidden c then "\\u\x7b".toList ++ Nat.toDigits 16 c.toNat ++ ['\x7d']
  else [c]

/-- A text as it is shown, between double quotes. -/
def escaped (s : Text) : Text :=
  '"' :: s.flatMap escapedChar ++ ['"']

end AskSql.Text
