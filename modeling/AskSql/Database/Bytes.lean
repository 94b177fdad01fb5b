import AskSql.Text.Utf8

/-!
# Texts as bytes

A database keeps a text as its bytes and does not ask whether they are UTF-8. Where it has to tell
characters apart, it goes by the first byte of each: one from `0xC0` on has all continuation bytes
behind it with it, and any other byte stands alone.
-/

namespace AskSql.Database

open Text

/-- The bytes of a text. -/
def bytesOf (s : Text) : List UInt8 :=
  (s.flatMap utf8).map UInt8.ofNat

/-- The text that bytes stand for, or the first fault and its place. -/
def textOf (bytes : List UInt8) : Except (Utf8Fault × Nat) Text :=
  ofUtf8 0 (bytes.map UInt8.toNat)

/-! ## Characters -/

/-- A byte within a character. -/
def isContinuation (b : UInt8) : Bool :=
  0x80 ≤ b && b < 0xC0

/-- The bytes of each character. -/
def characters : List UInt8 → List (List UInt8)
  | [] => []
  | b :: bytes =>
    let inside := if 0xC0 ≤ b then bytes.takeWhile isContinuation else []
    (b :: inside) :: characters (bytes.drop inside.length)
termination_by bytes => bytes.length
decreasing_by simp only [List.length_cons, List.length_drop]; omega

/-- What the first byte of a character says of its number. -/
def leadBits (b : UInt8) : Nat :=
  let n := b.toNat
  if n < 0xC0 then n
  else if n < 0xE0 then n % 0x20
  else if n < 0xF0 then n % 0x10
  else if n < 0xF8 then n % 0x08
  else if n < 0xFC then n % 0x04
  else if n < 0xFE then n % 0x02
  else 0

/-- The number of a character. What is no number of a character is read as the one of the
replacement character. -/
def codePointOf : List UInt8 → Nat
  | [] => 0
  | [b] => if b < 0xC0 then b.toNat else 0xFFFD
  | b :: inside =>
    let n := inside.foldl (fun n c => (0x40 * n + c.toNat % 0x40) % 0x100000000) (leadBits b)
    if n < 0x80 ∨ (0xD800 ≤ n ∧ n < 0xE000) ∨ n = 0xFFFE ∨ n = 0xFFFF then 0xFFFD else n

/-- A text by the numbers of its characters. -/
def readText (bytes : List UInt8) : Text :=
  (characters bytes).map fun c =>
    let n := codePointOf c
    if n < 0x110000 then Char.ofNat n else '\uFFFD'

/-! ## Case -/

/-- An ASCII letter in lower case; other bytes stay as they are. -/
def lowerByte (b : UInt8) : UInt8 :=
  if 0x41 ≤ b && b ≤ 0x5A then b + 0x20 else b

/-- An ASCII letter in upper case; other bytes stay as they are. -/
def upperByte (b : UInt8) : UInt8 :=
  if 0x61 ≤ b && b ≤ 0x7A then b - 0x20 else b

end AskSql.Database
