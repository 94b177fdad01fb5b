import AskSql.Database.Bytes
import AskSql.Json.Basic

/-!
# Values of a database

The values that tables hold, by storage class. Values are ordered by class first: nulls, numbers,
texts, blobs. Integers and reals are compared as the numbers that they are; texts are compared
under a collation.

A text need not be UTF-8, for it may come from the bytes of a blob. Such a text is a value like any
other, until it is to be decoded (`Value.decode`).
-/

namespace AskSql.Database

open Text

/-- A value. -/
inductive Value where
  | null
  | integer (n : Int)
  | real (x : Binary64)
  | text (s : Text)
  /-- A text whose bytes are no UTF-8. -/
  | garbled (bytes : List UInt8)
  | blob (bytes : List UInt8)
  deriving Repr, DecidableEq

/-- What counts as a difference between texts. -/
inductive Collation where
  | binary
  /-- The case of ASCII letters does not count. -/
  | nocase
  /-- Blanks at the end do not count. -/
  | rtrim
  deriving Repr, DecidableEq

namespace Collation

/-- The collation of a name, whatever its case. -/
def ofName? (name : Text) : Option Collation :=
  match String.ofList (name.map Char.toUpper) with
  | "BINARY" => some .binary
  | "NOCASE" => some .nocase
  | "RTRIM" => some .rtrim
  | _ => none

/-- What counts of a text. -/
def key : Collation → Text → Text
  | .binary, s => s
  | .nocase, s => s.map Char.toLower
  | .rtrim, s => dropEndWhile (· == ' ') s

/-- What counts of the bytes of a text. -/
def keyBytes : Collation → List UInt8 → List UInt8
  | .binary, bytes => bytes
  | .nocase, bytes => bytes.map lowerByte
  | .rtrim, bytes => (bytes.reverse.dropWhile (· == 0x20)).reverse

end Collation

/-- All numbers of a list together. -/
def sumOf (ns : List Nat) : Nat :=
  ns.foldr (· + ·) 0

/-- The order of two things, by which comes before which. -/
def orderBy {α : Type} (before : α → α → Bool) (a b : α) : Ordering :=
  if before a b then .lt else if before b a then .gt else .eq

namespace Value

/-- The value as it stands in a row, or what is wrong with the bytes of a text. The bytes of a
blob are numbers. No number stands for an infinity, which is decoded as a null. -/
def decode : Value → Except (Utf8Fault × Nat) Json
  | .null => .ok .null
  | .integer n => .ok (.number (.integer n))
  | .real (.infinite _) => .ok .null
  | .real x => .ok (.number (.real x))
  | .text s => .ok (.string s)
  | .garbled bytes => (textOf bytes).map .string
  | .blob bytes => .ok (.array (bytes.map fun b => .natural b.toNat))

/-- A text or a null. -/
def ofText? : Option Text → Value
  | some s => .text s
  | none => .null

/-- The text of some bytes, be they UTF-8 or not. -/
def ofBytes (bytes : List UInt8) : Value :=
  match textOf bytes with
  | .ok s => .text s
  | .error _ => .garbled bytes

/-- The bytes of a text. -/
def textBytes? : Value → Option (List UInt8)
  | .text s => some (bytesOf s)
  | .garbled bytes => some bytes
  | _ => none

/-- True is one, false is zero. -/
def ofBool (b : Bool) : Value :=
  .integer (if b then 1 else 0)

/-- The least integer. -/
def minInteger : Int := -0x8000000000000000

/-- The greatest integer. -/
def maxInteger : Int := 0x7FFFFFFFFFFFFFFF

/-- The number is one of 64 bits. -/
def isInteger64 (n : Int) : Bool :=
  decide (minInteger ≤ n) && decide (n ≤ maxInteger)

/-! ## Order -/

/-- The place of a value's class in the order. -/
def rank : Value → Nat
  | .null => 0
  | .integer _ => 1
  | .real _ => 1
  | .text _ | .garbled _ => 2
  | .blob _ => 3

/-- A finite number as a quotient of an integer and a positive natural. -/
def fraction (negative : Bool) (m : Nat) (e : Int) : Int × Nat :=
  let (num, den) := Binary64.quotient m e
  (if negative then -(num : Int) else num, den)

/-- A number as a fraction; an infinity as a sign alone. -/
def magnitude : Value → Option (Bool ⊕ (Int × Nat))
  | .integer n => some (.inr (n, 1))
  | .real (.finite negative m e) => some (.inr (fraction negative m e))
  | .real (.infinite negative) => some (.inl negative)
  | _ => none

/-- One number is smaller than another. -/
def smaller : Bool ⊕ (Int × Nat) → Bool ⊕ (Int × Nat) → Bool
  | .inl a, .inl b => a && !b
  | .inl a, .inr _ => a
  | .inr _, .inl b => !b
  | .inr (a, b), .inr (c, d) => a * d < c * b

/-- The order of two values. -/
def compare (c : Collation) (v w : Value) : Ordering :=
  match v, w with
  | .text s, .text t => orderBy (fun a b => decide (a < b)) (c.key s) (c.key t)
  | .blob a, .blob b => orderBy (fun a b => decide (a < b)) a b
  | v, w =>
    match v.textBytes?, w.textBytes?, magnitude v, magnitude w with
    | some a, some b, _, _ => orderBy (fun a b => decide (a < b)) (c.keyBytes a) (c.keyBytes b)
    | _, _, some x, some y => orderBy smaller x y
    | _, _, _, _ => orderBy (fun a b => decide (a < b)) v.rank w.rank

/-- The value is a null. -/
def isNull (v : Value) : Bool :=
  v == .null

/-- Two values are the same, nulls included. -/
def same (c : Collation) (v w : Value) : Bool :=
  v.compare c w == .eq

end Value

/-- How values at one place of a row are ordered. -/
structure Direction where
  collation : Collation := .binary
  descending : Bool := false
  /-- Nulls come after all other values. -/
  nullsLast : Bool := false
  deriving Repr, DecidableEq

/-- The order of two values. -/
def Direction.compare (d : Direction) (v w : Value) : Ordering :=
  if v.isNull != w.isNull then
    if d.nullsLast == v.isNull then .gt else .lt
  else
    let order := v.compare d.collation w
    if d.descending then order.swap else order

/-- The order of two rows of values, of which the first difference decides. -/
def compareRows : List Direction → List Value → List Value → Ordering
  | d :: ds, v :: vs, w :: ws => (d.compare v w).then (compareRows ds vs ws)
  | _, _, _ => .eq

end AskSql.Database
