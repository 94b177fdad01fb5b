import AskSql.Text.Letter

/-!
# Numerals

Unsigned decimal numerals with a bound, and hexadecimal digits.
-/

namespace AskSql.Text

/-- The numeral of `n` in base ten. -/
def ofNat (n : Nat) : Text :=
  Nat.toDigits 10 n

/-- The value of a hexadecimal digit. -/
def hexValue? (c : Char) : Option Nat :=
  if isAsciiDigit c then some (c.toNat - 0x30)
  else if 'a' ≤ c && c ≤ 'f' then some (c.toNat - 0x57)
  else if 'A' ≤ c && c ≤ 'F' then some (c.toNat - 0x37)
  else none

/-- The value of a row of decimal digits that follows the number `n`. -/
def appendDigits (n : Nat) (digits : Text) : Nat :=
  digits.foldl (fun n d => 10 * n + (d.toNat - 0x30)) n

/-- The number that a text of decimal digits stands for, an optional `+` in front of them, if
it is at most `bound`. -/
def unsigned? (bound : Nat) (s : Text) : Option Nat :=
  let digits := match s with
    | '+' :: digits => digits
    | digits => digits
  if digits.isEmpty || !digits.all isAsciiDigit then none
  else
    let n := appendDigits 0 digits
    if n ≤ bound then some n else none

/-- The largest number of 32 bits. -/
def maxUInt32 : Nat := 0xFFFFFFFF

/-- The largest number of 64 bits. -/
def maxUInt64 : Nat := 0xFFFFFFFFFFFFFFFF

end AskSql.Text
