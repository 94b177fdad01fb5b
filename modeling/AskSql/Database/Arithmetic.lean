import AskSql.Database.Affinity
import AskSql.Database.Syntax

/-!
# Operators on values

What operators make of values. A null among the operands makes a null. Integers have 64 bits;
where a sum, a product or a quotient has more, it is a real. What is no number at all, such as a
quotient by zero, is a null.
-/

namespace AskSql.Database

/-! ## Integers of 64 bits -/

/-- The integer of 64 bits whose bits are the last ones of `n`. -/
def wrapped (n : Int) : Int :=
  n.bmod 0x10000000000000000

/-- The 64 bits of an integer as a natural. -/
def bits (n : Int) : Nat :=
  (n % 0x10000000000000000).toNat

/-- An integer with its bits moved to the left, or to the right if `places` is negative. Bits
that come in on the left are the sign. -/
def shifted (n places : Int) : Int :=
  if places < 0 then
    let places := (-places).toNat
    if 64 ≤ places then (if n < 0 then -1 else 0) else n >>> places
  else if 64 ≤ places then 0
  else wrapped (n * ((1 <<< places.toNat : Nat) : Int))

/-! ## Computing -/

namespace Arithmetic

/-- What an operator makes of two integers, where that is an integer of 64 bits. -/
def onIntegers? (op : Arithmetic) (a b : Int) : Option Int :=
  let bounded := fun n => if Value.isInteger64 n then some n else none
  match op with
  | .add => bounded (a + b)
  | .subtract => bounded (a - b)
  | .multiply => bounded (a * b)
  | .divide => bounded (a.tdiv b)
  | _ => none

/-- What an operator makes of two reals, where that is a number. -/
def onReals? (op : Arithmetic) (x y : Binary64) : Option Binary64 :=
  match op with
  | .add => x.add? y
  | .subtract => x.add? y.neg
  | .multiply => x.mul? y
  | .divide => if y.isZero then none else x.div? y
  | _ => none

/-- What an operator of the four basic kinds makes of two values. -/
def onNumbers (op : Arithmetic) (v w : Value) : Value :=
  let onReals := fun (_ : Unit) =>
    ((op.onReals? v.toReal w.toReal).map Value.real).getD .null
  match v.number?, w.number? with
  | some (.integer a), some (.integer b) =>
    if op = .divide ∧ b = 0 then .null
    else
      match op.onIntegers? a b with
      | some n => .integer n
      | none => onReals ()
  | some _, some _ => onReals ()
  | _, _ => .null

/-- The remainder of two values, with the sign of the first; it is a real where one of them
is. -/
def remainderOf (v w : Value) : Value :=
  let divisor := w.toInt
  if divisor = 0 then .null
  else
    let n := v.toInt.tmod divisor
    match v.number?, w.number? with
    | some (.integer _), some (.integer _) => .integer n
    | _, _ => .real (realOf n)

/-- What an operator makes of two values. -/
def apply (op : Arithmetic) (v w : Value) : Value :=
  if v.isNull || w.isNull then .null
  else
    match op with
    | .add | .subtract | .multiply | .divide => op.onNumbers v w
    | .remainder => remainderOf v w
    | .bitAnd => .integer (wrapped (bits v.toInt &&& bits w.toInt : Nat))
    | .bitOr => .integer (wrapped (bits v.toInt ||| bits w.toInt : Nat))
    | .shiftLeft => .integer (shifted v.toInt w.toInt)
    | .shiftRight => .integer (shifted v.toInt (-w.toInt))
    | .concat => .ofBytes ((v.bytes?).getD [] ++ (w.bytes?).getD [])

end Arithmetic

/-- What a sign makes of a value. -/
def Sign.apply (s : Sign) (v : Value) : Value :=
  if v.isNull then .null
  else
    match s with
    | .plus => v
    | .minus => Arithmetic.onNumbers .subtract (.integer 0) v
    | .complement => .integer (wrapped (-v.toInt - 1))
    | .not => Value.ofBool !v.isTrue

/-! ## Comparing -/

/-- Whether two values in an order are as a comparison has it. -/
def Comparison.accepts (c : Comparison) (o : Ordering) : Bool :=
  match c with
  | .equal | .same => o == .eq
  | .differ | .notSame => o != .eq
  | .less => o == .lt
  | .atMost => o != .gt
  | .greater => o == .gt
  | .atLeast => o != .lt

/-- What a comparison makes of two values. -/
def Comparison.apply (c : Comparison) (collation : Collation) (v w : Value) : Value :=
  let knowsNull := c == .same || c == .notSame
  if !knowsNull && (v.isNull || w.isNull) then .null
  else Value.ofBool (c.accepts (v.compare collation w))

/-- Both of two values are true, as far as that is known. -/
def bothTrue (v w : Value) : Value :=
  match v.truth?, w.truth? with
  | some false, _ | _, some false => .integer 0
  | some true, some true => .integer 1
  | _, _ => .null

/-- One of two values is true, as far as that is known. -/
def eitherTrue (v w : Value) : Value :=
  match v.truth?, w.truth? with
  | some true, _ | _, some true => .integer 1
  | some false, some false => .integer 0
  | _, _ => .null

/-! ## Patterns -/

/-- A text without its first characters, once for each number of them. -/
def endings : Text → List Text
  | [] => [[]]
  | c :: s => (c :: s) :: endings s

/-- A text fits a pattern in which `%` stands for any characters and `_` for one; after the
character `escape` each of them stands for itself. The case of ASCII letters does not count. -/
def isLike (escape : Option Char) : (pattern : Text) → Text → Bool
  | [], s => s.isEmpty
  | c :: p, s =>
    if some c = escape then
      match p, s with
      | d :: p, x :: s => d.toLower == x.toLower && isLike escape p s
      | _, _ => false
    else if c = '%' then (endings s).any (isLike escape p)
    else
      match s with
      | x :: s => (c == '_' || c.toLower == x.toLower) && isLike escape p s
      | [] => false

/-- A character is in a set, whose members are given up to a closing bracket; a hyphen stands
between the ends of a range. Whether it is, and what follows the bracket. -/
def isInSet? (x : Char) : (before : Option Char) → (found : Bool) → Text → Option (Bool × Text)
  | _, _, [] => none
  | before, found, c :: s =>
    if c = ']' then some (found, s)
    else
      match before, s with
      | some low, d :: s' =>
        if c = '-' ∧ d ≠ ']' then isInSet? x none (found || (low ≤ x && x ≤ d)) s'
        else isInSet? x (some c) (found || x == c) (d :: s')
      | _, s => isInSet? x (some c) (found || x == c) s

/-- What follows a set, if the character is in it, or out of it where the set begins with `^`. -/
def passSet? (x : Char) (s : Text) : Option Text :=
  let (negated, s) := match s with
    | '^' :: s => (true, s)
    | s => (false, s)
  let result := match s with
    | ']' :: s => isInSet? x none (x == ']') s
    | s => isInSet? x none false s
  match result with
  | some (found, rest) => if found != negated then some rest else none
  | none => none

/-- A text fits a pattern in which `*` stands for any characters, `?` for one, and a set between
brackets for one of its members; the pattern has at most `fuel` characters. -/
def isGlob : (fuel : Nat) → (pattern : Text) → Text → Bool
  | 0, _, s => s.isEmpty
  | fuel + 1, p, s =>
    match p, s with
    | [], s => s.isEmpty
    | '*' :: p, s => (endings s).any (isGlob fuel p)
    | _ :: _, [] => false
    | '?' :: p, _ :: s => isGlob fuel p s
    | '[' :: p, x :: s =>
      match passSet? x p with
      | some p => isGlob fuel p s
      | none => false
    | c :: p, x :: s => c == x && isGlob fuel p s

end AskSql.Database
