import AskSql.Text.Numeral

/-!
# Addresses in numbers

Hosts that are named by a number of 32 bits or of 128 bits. The shorter ones are written as up to
four numbers with dots between them, of which the last fills what the others leave; the longer
ones as eight numbers in base sixteen with colons between them, where `::` stands for zeros.
-/

namespace AskSql.Url

open Text

/-! ## Numbers with dots -/

/-- The number that a part stands for: in base sixteen after `0x`, in base eight after `0`, else
in base ten. -/
def dottedNumber? (s : Text) : Option Nat :=
  let (base, digits) := match s with
    | '0' :: 'x' :: digits => (16, digits)
    | '0' :: 'X' :: digits => (16, digits)
    | '0' :: c :: digits => (8, c :: digits)
    | digits => (10, digits)
  if s.isEmpty then none
  else
    digits.foldl
      (fun n? c => do
        let n ← n?
        let d ← hexValue? c
        if d < base then some (base * n + d) else none)
      (some 0)

/-- A domain is meant as an address: its last part is a number. -/
def endsInNumber (parts : List Text) : Bool :=
  let last := match parts.reverse with
    | [] :: last :: _ => last
    | last :: _ => last
    | [] => []
  !last.isEmpty && (last.all isAsciiDigit || (dottedNumber? last).isSome)

/-- The number of an address, from its parts: all but the last one are bytes. -/
def dotted? (parts : List Text) : Option Nat := do
  let parts := match parts.reverse with
    | [] :: parts => parts.reverse
    | parts => parts.reverse
  if 4 < parts.length then none
  else
    let numbers ← parts.mapM dottedNumber?
    match numbers.reverse with
    | [] => none
    | last :: bytes =>
      let room := 0x100000000 >>> (8 * bytes.length)
      if last < room ∧ bytes.all (· ≤ 0xFF) then
        some (bytes.reverse.foldl (fun n byte => 0x100 * n + byte) 0 * room + last)
      else none

/-- An address as four bytes with dots between them. -/
def dottedText (n : Nat) : Text :=
  join ['.'] ([n >>> 24, n >>> 16 % 0x100, n >>> 8 % 0x100, n % 0x100].map ofNat)

/-! ## Numbers with colons -/

/-- A byte in base ten, without zeros in front of it. -/
def plainByte? (s : Text) : Option Nat :=
  match s with
  | ['0'] => some 0
  | '0' :: _ => none
  | '+' :: _ => none
  | s => unsigned? 0xFF s

/-- The number of a piece. -/
def piece? (s : Text) : Option Nat :=
  if !s.isEmpty && s.length ≤ 4 && s.all (fun c => (hexValue? c).isSome) then
    some (s.foldl (fun n c => 16 * n + (hexValue? c).getD 0) 0)
  else none

/-- The numbers of some pieces. The last one may be written as four bytes with dots, which stand
for two numbers. -/
def pieces? : List Text → Option (List Nat)
  | [] => some []
  | [s] =>
    match piece? s with
    | some n => some [n]
    | none => do
      match ← (splitWhere (· == '.') s).mapM plainByte? with
      | [a, b, c, d] => some [0x100 * a + b, 0x100 * c + d]
      | _ => none
  | s :: rest => do
    let n ← piece? s
    let ns ← pieces? rest
    some (n :: ns)

/-- The part before the first `::` and the part after it. -/
def splitAtGap? : Text → Option (Text × Text)
  | [] => none
  | ':' :: ':' :: s => some ([], s)
  | c :: s => (splitAtGap? s).map fun (before, after) => (c :: before, after)

/-- The pieces between colons, none if there is nothing at all. -/
def colonPieces (s : Text) : List Text :=
  if s.isEmpty then [] else splitWhere (· == ':') s

/-- The eight numbers of an address. -/
def colons? (s : Text) : Option (List Nat) := do
  match splitAtGap? s with
  | none =>
    let ns ← pieces? (colonPieces s)
    if ns.length = 8 then some ns else none
  | some (before, after) =>
    let start ← (colonPieces before).mapM piece?
    let rest ← pieces? (colonPieces after)
    if start.length + rest.length < 8 then
      some (start ++ List.replicate (8 - start.length - rest.length) 0 ++ rest)
    else none

/-- The number of zeros at the start of some numbers. -/
def zerosAtStart (ns : List Nat) : Nat :=
  (ns.takeWhile (· == 0)).length

/-- The length of the longest run of zeros. -/
def longestZeros : List Nat → Nat
  | [] => 0
  | n :: ns => max (zerosAtStart (n :: ns)) (longestZeros ns)

/-- The numbers before the first run of `count` zeros. -/
def beforeZeros (count : Nat) : List Nat → List Nat
  | [] => []
  | n :: ns => if zerosAtStart (n :: ns) = count then [] else n :: beforeZeros count ns

/-- An address as numbers with colons between them. The first of its longest runs of zeros is
left out, unless it is a single one. -/
def colonText (ns : List Nat) : Text :=
  let numbers := fun ns : List Nat => join [':'] (ns.map (Nat.toDigits 16))
  let count := longestZeros ns
  if count < 2 then numbers ns
  else
    let before := beforeZeros count ns
    numbers before ++ [':', ':'] ++ numbers (ns.drop (before.length + count))

end AskSql.Url
