/-!
# Binary64 numbers

The numbers of the binary64 format as pairs of a significand and a power of two, and the
arithmetic on them: rounding a quotient of naturals, sum, product and quotient. Every rounding
goes to the nearest number, a half to the even significand.
-/

namespace AskSql

/-- A number of the binary64 format, not-a-number excepted. A finite number is
`significand · 2 ^ exponent`, with `significand < 2 ^ 53` and `exponent ≥ -1074`. -/
inductive Binary64 where
  | finite (negative : Bool) (significand : Nat) (exponent : Int)
  | infinite (negative : Bool)
  deriving Repr, DecidableEq

namespace Binary64

/-- The smallest exponent. -/
def minExponent : Int := -1074

/-- The largest exponent of a finite number. -/
def maxExponent : Int := 971

/-- Zero. -/
def zero : Binary64 := .finite false 0 minExponent

/-- `num / den` as a quotient by `2 ^ e`: numerator and denominator. -/
def scaled (num den : Nat) (e : Int) : Nat × Nat :=
  if 0 ≤ e then (num, den <<< e.toNat) else (num <<< (-e).toNat, den)

/-- The quotient of two naturals, rounded to the nearest natural, a half to the even one. -/
def roundQuotient (num den : Nat) : Nat :=
  let q := num / den
  let r := num % den
  if 2 * r > den || (2 * r == den && q % 2 == 1) then q + 1 else q

/-- The exponent for `num / den`: its significand has 53 bits there, or fewer if no smaller
exponent is left. -/
def exponentFor (num den : Nat) : Int :=
  let guess := max minExponent ((Nat.log2 num : Int) - (Nat.log2 den : Int) - 53)
  let (n, d) := scaled num den guess
  if n ≥ d <<< 53 then guess + 1 else guess

/-- The number nearest to `num / den`. -/
def ofQuotient (negative : Bool) (num den : Nat) : Binary64 :=
  if num = 0 then .finite negative 0 minExponent
  else
    let e := exponentFor num den
    let (n, d) := scaled num den e
    let m := roundQuotient n d
    let (m, e) := if m = 1 <<< 53 then (1 <<< 52, e + 1) else (m, e)
    if e > maxExponent then .infinite negative else .finite negative m e

/-- The number nearest to a natural. -/
def ofNat (n : Nat) : Binary64 :=
  ofQuotient false n 1

/-- The sign is negative. -/
def isNegative : Binary64 → Bool
  | .finite negative _ _ => negative
  | .infinite negative => negative

/-- The number with the other sign. -/
def neg : Binary64 → Binary64
  | .finite negative m e => .finite (!negative) m e
  | .infinite negative => .infinite (!negative)

/-- Zero, whatever its sign. -/
def isZero : Binary64 → Bool
  | .finite _ m _ => m == 0
  | .infinite _ => false

/-- The size of a finite number as a quotient of naturals. -/
def quotient (m : Nat) (e : Int) : Nat × Nat :=
  if 0 ≤ e then (m <<< e.toNat, 1) else (m, 1 <<< (-e).toNat)

/-- The product of two numbers, rounded, if there is one. -/
def mul : Binary64 → Binary64 → Binary64
  | .finite s m e, .finite t k f =>
    let (n, d) := quotient m e
    let (n', d') := quotient k f
    ofQuotient (s != t) (n * n') (d * d')
  | x, y => .infinite (x.isNegative != y.isNegative)

/-- The quotient of two numbers, rounded, if there is one. -/
def div : Binary64 → Binary64 → Binary64
  | .finite s m e, .finite t k f =>
    let (n, d) := quotient m e
    let (n', d') := quotient k f
    ofQuotient (s != t) (n * d') (d * n')
  | .finite s _ _, .infinite t => .finite (s != t) 0 minExponent
  | .infinite s, y => .infinite (s != y.isNegative)

/-- The sum of two numbers, rounded; none of two infinities of different signs. -/
def add? : Binary64 → Binary64 → Option Binary64
  | .finite s m e, .finite t k f =>
    let (n, d) := quotient m e
    let (n', d') := quotient k f
    let signed := fun (negative : Bool) (n : Nat) => if negative then -(n : Int) else (n : Int)
    let sum := signed s (n * d') + signed t (n' * d)
    some (ofQuotient (if sum = 0 then s && t else decide (sum < 0)) sum.natAbs (d * d'))
  | .finite _ _ _, y => some y
  | x, .finite _ _ _ => some x
  | .infinite s, .infinite t => if s = t then some (.infinite s) else none

/-- The product of two numbers, rounded; none of an infinity and zero. -/
def mul? (x y : Binary64) : Option Binary64 :=
  match x, y with
  | .infinite _, .finite _ 0 _ => none
  | .finite _ 0 _, .infinite _ => none
  | x, y => some (x.mul y)

/-- The quotient of a number by another one that is not zero, rounded; none of two infinities. -/
def div? (x y : Binary64) : Option Binary64 :=
  match x, y with
  | .infinite _, .infinite _ => none
  | x, y => some (x.div y)

end Binary64
end AskSql
