import AskSql.Database.Affinity
import AskSql.Database.Arithmetic
import AskSql.Database.Reader

/-!
# Aggregates

What functions make of the values of many rows. Nulls do not count. A sum of integers is an
integer; a sum in which a real occurs is a real, with what rounding takes away added in the
end.
-/

namespace AskSql.Database

open Text

/-- A function of many rows, each of which gives it some values. -/
structure Aggregation where
  /-- The least number of arguments. -/
  least : Nat
  /-- The greatest number of arguments. -/
  most : Nat
  /-- Whether the function looks for the least value, or for the greatest. -/
  extreme : Option Ordering := none
  apply : Collation → List (List Value) → Except StoreError Value

namespace Aggregation

/-- The first values of some rows that are no nulls. -/
def known (rows : List (List Value)) : List Value :=
  (rows.map (·.headD .null)).filter (!·.isNull)

/-! ## Sums -/

/-- A sum of reals, with what rounding has taken away. -/
structure RealSum where
  sum : Binary64 := .zero
  lost : Binary64 := .zero

/-- One number is greater than another, their signs left out. -/
def isLonger (x y : Binary64) : Bool :=
  let size := fun (x : Binary64) => if x.isNegative then x.neg else x
  (Value.real (size y)).compare .binary (.real (size x)) == .lt

/-- A sum with one more number. -/
def RealSum.add (s : RealSum) (x : Binary64) : RealSum :=
  let minus := fun (a b : Binary64) => (a.add? b.neg).getD .zero
  let plus := fun (a b : Binary64) => (a.add? b).getD .zero
  let t := plus s.sum x
  let gone := if isLonger s.sum x then plus (minus s.sum t) x else plus (minus x t) s.sum
  ⟨t, plus s.lost gone⟩

/-- The value of a sum. -/
def RealSum.total (s : RealSum) : Binary64 :=
  match s.sum with
  | .infinite _ => s.sum
  | x => (x.add? s.lost).getD .zero

/-- The sum of some values as a real. -/
def realSum (vs : List Value) : Binary64 :=
  (vs.foldl (fun (s : RealSum) v => s.add ((v.number?).getD .null).toReal) {}).total

/-- The sum of some numbers as an integer, if all of them are integers. -/
def integerSum? : List Value → Option Int
  | [] => some 0
  | v :: vs =>
    match Affinity.asNumber v with
    | .integer n => (integerSum? vs).map (n + ·)
    | _ => none

/-- The sum of some values. -/
def sum (vs : List Value) : Except StoreError Value :=
  if vs.isEmpty then .ok .null
  else
    match integerSum? vs with
    | some n =>
      if Value.isInteger64 n then .ok (.integer n)
      else .error (fault "integer overflow".toList)
    | none => .ok (.real (realSum vs))

/-- The mean of some values. -/
def mean (vs : List Value) : Value :=
  if vs.isEmpty then .null
  else
    let total := match integerSum? vs with
      | some n => if Value.isInteger64 n then realOf n else realSum vs
      | none => realSum vs
    ((total.div? (.ofNat vs.length)).map Value.real).getD .null

/-! ## Extremes and texts -/

/-- The first value that comes before all others, or after them. -/
def best (order : Ordering) (c : Collation) : List Value → Value
  | [] => .null
  | v :: vs => vs.foldl (fun best w => if w.compare c best == order then w else best) v

/-- The texts of some rows put together, each after the separator that its row gives. -/
def joined (separator : List Value → List UInt8) (rows : List (List Value)) : Value :=
  match rows.filter fun r => !(r.headD .null).isNull with
  | [] => .null
  | r :: rs =>
    let text := fun (r : List Value) => ((r.headD .null).bytes?).getD []
    .ofBytes (text r ++ rs.flatMap fun r => separator r ++ text r)

/-- The separator in the second value of a row. -/
def givenSeparator (r : List Value) : List UInt8 :=
  ((r[1]?).bind Value.bytes?).getD []

/-- The number of rows whose value is no null. -/
def count (rows : List (List Value)) : Value :=
  .integer (rows.filter fun r => r.isEmpty || !(r.headD .null).isNull).length

/-- The separator of a row that may give one. -/
def separator (r : List Value) : List UInt8 :=
  if r.length < 2 then bytesOf [','] else givenSeparator r

/-! ## The table -/

/-- An aggregate that takes `least` to `most` arguments. -/
def plain (least most : Nat) (f : List (List Value) → Value) : Aggregation :=
  { least, most, apply := fun _ rows => .ok (f rows) }

/-- An aggregate that looks for an extreme. -/
def ofExtreme (order : Ordering) : Aggregation :=
  { least := 1, most := 1, extreme := some order
    apply := fun c rows => .ok (best order c (known rows)) }

/-- The functions by name. -/
def table : List (String × Aggregation) :=
  [("avg", plain 1 1 fun rows => mean (known rows)),
   ("count", plain 0 1 count),
   ("group_concat", plain 1 2 (joined separator)),
   ("max", ofExtreme .gt),
   ("min", ofExtreme .lt),
   ("string_agg", plain 2 2 (joined givenSeparator)),
   ("sum", { least := 1, most := 1, apply := fun _ rows => sum (known rows) }),
   ("total", plain 1 1 fun rows => .real (realSum (known rows)))]

/-- The function of a name, whatever its case, called with `n` arguments; with more than one,
the least and the greatest are functions of one row. -/
def ofName? (name : Text) (n : Nat) : Option Aggregation :=
  let name := name.map Char.toLower
  match (table.find? fun entry => entry.1.toList == name).map (·.2) with
  | some a => if a.extreme.isSome && n != 1 then none else some a
  | none => none

end Aggregation
end AskSql.Database
