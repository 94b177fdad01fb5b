import AskSql.Database.Token
import AskSql.Database.Value
import AskSql.Decimal.Shortest

/-!
# Numbers and texts

How numbers are read from texts, and how they are written as texts. A text may be a number as a
whole, blanks around it left out, or begin with one. A real is written with fifteen digits at
most, those behind them rounded half up, and always with a point.
-/

namespace AskSql.Database

open Text

/-! ## Reals and integers -/

/-- The number nearest to `n · 10 ^ e`. Beyond any number that is an infinity, close to zero
it is zero. -/
def scaled (n : Nat) (e : Int) : Binary64 :=
  if n = 0 then .zero
  else if e > 400 then .infinite false
  else if 0 ≤ e then .ofQuotient false (n * Nat.pow 10 e.toNat) 1
  else if -e > 400 + (Nat.toDigits 10 n).length then .zero
  else .ofQuotient false n (Nat.pow 10 (-e).toNat)

/-- The real nearest to an integer. -/
def realOf : Int → Binary64
  | .ofNat n => .ofNat n
  | .negSucc n => (Binary64.ofNat (n + 1)).neg

/-- An integer as near to `n` as one of 64 bits can be. -/
def clamped (n : Int) : Int :=
  max Value.minInteger (min Value.maxInteger n)

/-- A real without its fraction, as near as an integer of 64 bits can be. -/
def truncated : Binary64 → Int
  | .infinite negative => if negative then Value.minInteger else Value.maxInteger
  | .finite negative m e =>
    let (num, den) := Binary64.quotient m e
    clamped (if negative then -(num / den : Nat) else (num / den : Nat))

/-- The integer that a real is, if it is one of 64 bits and not the least or the greatest. -/
def integral? : Binary64 → Option Int
  | .infinite _ => none
  | .finite negative m e =>
    let (num, den) := Value.fraction negative m e
    if num % den = 0 then
      let n := num / den
      if Value.minInteger < n ∧ n < Value.maxInteger then some n else none
    else none

/-! ## Reading -/

/-- The number at the start of a text. -/
structure Numeral where
  negative : Bool
  whole : Text
  /-- There is a point. -/
  pointed : Bool
  fraction : Text
  /-- There is the mark of an exponent. -/
  marked : Bool
  exponent : Option Int
  /-- What follows, without the blanks in front of it. -/
  rest : Text

/-- The number at the start of a text, blanks in front of it left out. -/
def Numeral.ofText (s : Text) : Numeral :=
  let s := s.dropWhile isWideSpace
  let (negative, s) := match s with
    | '-' :: s => (true, s)
    | '+' :: s => (false, s)
    | s => (false, s)
  let (whole, s) := s.span isAsciiDigit
  let (pointed, s) := match s with
    | '.' :: s => (true, s)
    | s => (false, s)
  let (fraction, s) := if pointed then s.span isAsciiDigit else ([], s)
  let (marked, s) := match s with
    | 'e' :: s | 'E' :: s => (true, s)
    | s => (false, s)
  let (minus, s) := match marked, s with
    | true, '-' :: s => (true, s)
    | true, '+' :: s => (false, s)
    | _, s => (false, s)
  let (digits, s) := if marked then s.span isAsciiDigit else ([], s)
  let size : Int := appendDigits 0 (digits.take 6)
  { negative, whole, pointed, fraction, marked
    exponent := if digits.isEmpty then none else some (if minus then -size else size)
    rest := s.dropWhile isWideSpace }

namespace Numeral

/-- There are digits besides those of the exponent. -/
def hasDigits (n : Numeral) : Bool :=
  !(n.whole.isEmpty && n.fraction.isEmpty)

/-- The exponent is not left out where it is announced. -/
def isSound (n : Numeral) : Bool :=
  !n.marked || n.exponent.isSome

/-- The number is the whole text. -/
def isWhole (n : Numeral) : Bool :=
  n.rest.isEmpty && n.hasDigits && n.isSound

/-- The number is written as a real, whatever follows it. -/
def isReal (n : Numeral) : Bool :=
  n.hasDigits && (n.pointed || n.marked) && (n.isSound || (n.pointed && n.marked))

/-- The number as a real. -/
def toReal (n : Numeral) : Binary64 :=
  let size := scaled (appendDigits 0 (n.whole ++ n.fraction))
    (n.exponent.getD 0 - n.fraction.length)
  if n.negative then size.neg else size

/-- The digits in front of a point, as a number. -/
def toInt (n : Numeral) : Int :=
  let size : Int := appendDigits 0 n.whole
  if n.negative then -size else size

/-- The number as a value: an integer if it is written as one and has 64 bits. -/
def toValue (n : Numeral) : Value :=
  if !n.pointed && !n.marked && Value.isInteger64 n.toInt then .integer n.toInt
  else .real n.toReal

end Numeral

/-- A text that is a number, as the number. -/
def numberOf? (s : Text) : Option Value :=
  let n := Numeral.ofText s
  if n.isWhole then some n.toValue else none

/-- The number that a text begins with, as it is counted with; zero if there is none. -/
def numberAtStart (s : Text) : Value :=
  let n := Numeral.ofText s
  if n.isWhole then n.toValue
  else if n.isReal then .real n.toReal
  else if Value.isInteger64 n.toInt then .integer n.toInt
  else .real n.toReal

/-- The bytes of a row of pairs of hexadecimal digits. -/
def bytes? : Text → Option (List UInt8)
  | [] => some []
  | [_] => none
  | a :: b :: s => do
    let high ← hexValue? a
    let low ← hexValue? b
    let rest ← bytes? s
    some (UInt8.ofNat (16 * high + low) :: rest)

/-! ## Writing -/

/-- The numeral of an integer. -/
def integerText : Int → Text
  | .ofNat n => ofNat n
  | .negSucc n => '-' :: ofNat (n + 1)

/-- The number of digits that a real is written with. -/
def realDigits : Nat := 15

/-- The digits of a positive quotient and the power of ten of the first one: rounded half up,
without zeros at the end. -/
def digitsOf (num den : Nat) : Text × Int :=
  let k := Binary64.decimalExponent num den
  let shift := (realDigits : Int) - k
  let (n, d) := if 0 ≤ shift then (num * Nat.pow 10 shift.toNat, den)
    else (num, den * Nat.pow 10 (-shift).toNat)
  let c := (2 * n + d) / (2 * d)
  let (c, k) := if c = Nat.pow 10 realDigits then (c / 10, k + 1) else (c, k)
  (dropEndWhile (· == '0') (ofNat c), k - 1)

/-- Some digits with at least one among them. -/
def orZero (digits : Text) : Text :=
  if digits.isEmpty then ['0'] else digits

/-- A positive real in digits, of which the first counts `10 ^ e`. -/
def positional (digits : Text) (e : Int) : Text :=
  if 0 ≤ e then
    let n := e.toNat + 1
    digits.take n ++ List.replicate (n - digits.length) '0' ++ '.' :: orZero (digits.drop n)
  else '0' :: '.' :: List.replicate (-e - 1).toNat '0' ++ digits

/-- A positive real with an exponent. -/
def exponential (digits : Text) (e : Int) : Text :=
  let size := ofNat e.natAbs
  digits.take 1 ++ '.' :: orZero (digits.drop 1) ++ 'e' :: (if e < 0 then '-' else '+') ::
    (if size.length < 2 then '0' :: size else size)

/-- A real as a text. -/
def realText : Binary64 → Text
  | .infinite negative => if negative then "-Inf".toList else "Inf".toList
  | .finite negative m e =>
    if m = 0 then "0.0".toList
    else
      let (num, den) := Binary64.quotient m e
      let (digits, k) := digitsOf num den
      let size := if k < -4 || 14 < k then exponential digits k else positional digits k
      if negative then '-' :: size else size

namespace Value

/-- The value as a text to be read, if it is not a null. -/
def text? : Value → Option Text
  | .null => none
  | .integer n => some (integerText n)
  | .real x => some (realText x)
  | .text s => some s
  | .garbled bytes | .blob bytes => some (readText bytes)

/-- The bytes of the value as a text, if it is not a null. -/
def bytes? : Value → Option (List UInt8)
  | .garbled bytes | .blob bytes => some bytes
  | v => v.text?.map bytesOf

/-- The value as a number, if it is not a null. -/
def number? : Value → Option Value
  | .null => none
  | .text s => some (numberAtStart s)
  | .garbled bytes | .blob bytes => some (numberAtStart (readText bytes))
  | v => some v

/-- The value as a real; a null is zero. -/
def toReal (v : Value) : Binary64 :=
  match v with
  | .null => .zero
  | .integer n => realOf n
  | .real x => x
  | .text s => (Numeral.ofText s).toReal
  | .garbled bytes | .blob bytes => (Numeral.ofText (readText bytes)).toReal

/-- The value as an integer; a null is zero. -/
def toInt (v : Value) : Int :=
  match v with
  | .null => 0
  | .integer n => n
  | .real x => truncated x
  | .text s => clamped (Numeral.ofText s).toInt
  | .garbled bytes | .blob bytes => clamped (Numeral.ofText (readText bytes)).toInt

/-- Whether the value is true, if it is not a null. -/
def truth? (v : Value) : Option Bool :=
  match v with
  | .null => none
  | .integer n => some (n != 0)
  | v => some !v.toReal.isZero

/-- The value is true. -/
def isTrue (v : Value) : Bool :=
  v.truth? == some true

end Value
end AskSql.Database
