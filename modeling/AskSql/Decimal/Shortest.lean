import AskSql.Decimal.Binary64

/-!
# Shortest decimals

The decimal with the fewest digits that reads back as a given binary64 number, and of those
the one nearest to it. The reals that read back as `m · 2 ^ e` form an interval around it,
whose ends belong to it if `m` is even. For one digit, two digits and so on, the two decimals
next to the number are tested against that interval; the first hit wins.
-/

namespace AskSql.Binary64

/-- The reals that are rounded to a number, in units of a quarter of its last place: from
`low` to `high` around `value`, ends included or not. -/
structure Interval where
  low : Nat
  value : Nat
  high : Nat
  closed : Bool

/-- The interval of `m · 2 ^ e`, in units of `2 ^ (e - 2)`. Below a power of two the numbers
lie twice as close. -/
def Interval.around (m : Nat) (e : Int) : Interval :=
  { low := if m = 1 <<< 52 ∧ minExponent < e then 4 * m - 1 else 4 * m - 2
    value := 4 * m
    high := 4 * m + 2
    closed := m % 2 == 0 }

/-- The least `j ≥ start` with `num · 10 ^ (j + 1) ≥ den`, at most `fuel` steps away. -/
def leadingZeros (num den : Nat) : (fuel start : Nat) → Nat
  | 0, start => start
  | fuel + 1, start =>
    if num * Nat.pow 10 (start + 1) ≥ den then start else leadingZeros num den fuel (start + 1)

/-- The `k` with `10 ^ (k - 1) ≤ num / den < 10 ^ k`. -/
def decimalExponent (num den : Nat) : Int :=
  if num ≥ den then ((Nat.toDigits 10 (num / den)).length : Int)
  else -(leadingZeros num den 400 0 : Int)

/-- The multiple `c · 10 ^ p` nearest to the value that lies in the interval, if one of the
two next to the value does. Here `unitNum / unitDen` is the unit of the interval. -/
def Interval.multiple? (i : Interval) (unitNum unitDen : Nat) (p : Int) : Option Nat :=
  let scale := if 0 ≤ p then (unitNum, unitDen * Nat.pow 10 p.toNat)
    else (unitNum * Nat.pow 10 (-p).toNat, unitDen)
  let value := i.value * scale.1
  let c := value / scale.2
  let inside := fun c =>
    let point := c * scale.2
    let low := i.low * scale.1
    let high := i.high * scale.1
    if i.closed then low ≤ point && point ≤ high else low < point && point < high
  let below := value - c * scale.2
  let above := (c + 1) * scale.2 - value
  match inside c, inside (c + 1) with
  | true, true =>
    if below < above || (below == above && c % 2 == 0) then some c else some (c + 1)
  | true, false => some c
  | false, true => some (c + 1)
  | false, false => none

/-- The first grid with a multiple in the interval, from `digits` digits on. -/
def Interval.search (i : Interval) (unitNum unitDen : Nat) (k : Int) :
    (fuel digits : Nat) → Nat × Int
  | 0, _ => (0, 0)
  | fuel + 1, digits =>
    match i.multiple? unitNum unitDen (k - digits) with
    | some c => (c, k - digits)
    | none => i.search unitNum unitDen k fuel (digits + 1)

/-- A row of digits and a power of ten, without zeros at the end of the row. -/
def stripZeros : (fuel c : Nat) → Int → Nat × Int
  | 0, c, p => (c, p)
  | fuel + 1, c, p => if c % 10 = 0 ∧ c ≠ 0 then stripZeros fuel (c / 10) (p + 1) else (c, p)

/-- The digits `c` and the power `p` of the shortest decimal `c · 10 ^ p` that reads back as
the positive number `m · 2 ^ e`. Seventeen digits always suffice. -/
def shortest (m : Nat) (e : Int) : Nat × Int :=
  let (unitNum, unitDen) := quotient 1 (e - 2)
  let k := decimalExponent (4 * m * unitNum) unitDen
  let (c, p) := (Interval.around m e).search unitNum unitDen k 18 1
  stripZeros 20 c p

end AskSql.Binary64
