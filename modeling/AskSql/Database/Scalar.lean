import AskSql.Database.Arithmetic
import AskSql.Database.Reader

/-!
# Functions of values

The functions that statements call on the values of one row: by name, with the numbers of
arguments that they take. Most of them make a null of a null.
-/

namespace AskSql.Database

open Text

/-- A function of values. Texts are compared under the collation of the call. -/
structure Scalar where
  /-- The least number of arguments. -/
  least : Nat
  /-- The greatest number of arguments, if there is one. -/
  most : Option Nat
  apply : Collation → List Value → Except StoreError Value

namespace Scalar

/-- The function takes `n` arguments. -/
def takes (s : Scalar) (n : Nat) : Bool :=
  s.least ≤ n && (s.most.map fun m => decide (n ≤ m)).getD true

/-! ## Numbers -/

/-- The size of a number. -/
def abs : Value → Except StoreError Value
  | .null => .ok .null
  | .integer n =>
    if n = Value.minInteger then .error (fault "integer overflow".toList)
    else .ok (.integer n.natAbs)
  | v =>
    let x := v.toReal
    .ok (.real (if x.isNegative && !x.isZero then x.neg else x))

/-- The sign of a number; a null for what is none. -/
def sign (v : Value) : Value :=
  let known := match v with
    | .text s => numberOf? s
    | .integer _ | .real _ => some v
    | _ => none
  (known.map fun n => Value.integer (match n.compare .binary (.integer 0) with
    | .lt => -1
    | .eq => 0
    | .gt => 1)).getD .null

/-- The size `num / den` with `places` digits behind the point, a half rounded up. -/
def roundedQuotient (num den places : Nat) : Binary64 :=
  let scale := Nat.pow 10 places
  .ofQuotient false ((2 * num * scale + den) / (2 * den)) scale

/-- A real with `places` digits behind the point. One without a fraction stays as it is. -/
def rounded (x : Binary64) (places : Nat) : Binary64 :=
  match x with
  | .infinite _ => x
  | .finite negative m e =>
    let (num, den) := Binary64.quotient m e
    if num ≥ 4503599627370496 * den then x
    else
      let size := roundedQuotient num den places
      if negative && !(size.isZero && places == 0) then size.neg else size

/-- The last 32 bits of an integer, with a sign. -/
def narrowed (n : Int) : Int :=
  (n + 0x80000000) % 0x100000000 - 0x80000000

/-- A value as an integer of 32 bits. -/
def small (v : Value) : Int :=
  narrowed v.toInt

/-- A number rounded. -/
def round (v places : Value) : Value :=
  if v.isNull || places.isNull then .null
  else .real (rounded v.toReal (max 0 (min 30 (small places))).toNat)

/-! ## Texts -/

/-- A text up to its first zero character. -/
def upToZero (s : Text) : Text :=
  s.takeWhile (· != '\x00')

/-- What a function of the bytes of a text makes of a value. -/
def onBytes (f : List UInt8 → Value) (v : Value) : Value :=
  (v.bytes?.map f).getD .null

/-- Bytes up to the first zero. -/
def bytesUpToZero (bytes : List UInt8) : List UInt8 :=
  bytes.takeWhile (· != 0)

/-- The part of a list that begins at place `start`, where places count from one and negative
ones from the end, and has `count` elements, or that many before it. -/
def part {α : Type} (start : Int) (count : Option Int) (xs : List α) : List α :=
  let n : Int := xs.length
  let backward := (count.getD 0) < 0
  let size : Int := (count.map fun c => (c.natAbs : Int)).getD (n + start.natAbs + 1)
  let (start, size) :=
    if start < 0 then
      if start + n < 0 then (0, max 0 (size + (start + n))) else (start + n, size)
    else if 0 < start then (start - 1, size)
    else (0, if 0 < size then size - 1 else size)
  let (start, size) :=
    if backward then
      if start - size < 0 then (0, size + (start - size)) else (start - size, size)
    else (start, size)
  (xs.drop start.toNat).take size.toNat

/-- A part of a text or a blob. -/
def substring : List Value → Value
  | v :: start :: more =>
    let count := more.head?
    if v.isNull || start.isNull || (count.map Value.isNull).getD false then .null
    else
      match v with
      | .blob [] => .null
      | .blob bytes => .blob (part (small start) (count.map small) bytes)
      | v =>
        onBytes (fun bytes =>
          .ofBytes (part (small start) (count.map small) (characters bytes)).flatten) v
  | _ => .null

/-- The number of elements in front of the first occurrence of `needle`. -/
def position? {α : Type} [BEq α] (needle : List α) : (passed : Nat) → List α → Option Nat
  | passed, [] => if needle.isEmpty then some passed else none
  | passed, x :: xs =>
    if needle.isPrefixOf (x :: xs) then some passed else position? needle (passed + 1) xs

/-- The number of characters in front of the first occurrence of `needle` in a text. No occurrence
begins `inside` of a character. -/
def positionInText? (needle : List UInt8) :
    (passed : Nat) → (inside : Bool) → List UInt8 → Option Nat
  | passed, _, [] => if needle.isEmpty then some passed else none
  | passed, inside, b :: bytes =>
    if inside && isContinuation b then positionInText? needle passed true bytes
    else if needle.isPrefixOf (b :: bytes) then some passed
    else positionInText? needle (passed + 1) true bytes

/-- The place of one value in another, counted from one. -/
def place (v w : Value) : Value :=
  let found := fun (n : Option Nat) => Value.integer ((n.map fun n => (n : Int) + 1).getD 0)
  match v, w with
  | .null, _ | _, .null => .null
  | .blob a, .blob b => found (position? b 0 a)
  | v, w => found (positionInText? ((w.bytes?).getD []) 0 false ((v.bytes?).getD []))

/-- Bytes without some pieces at their start, of which there are at most `fuel`. -/
def stripped {α : Type} [BEq α] (pieces : List (List α)) : (fuel : Nat) → List α → List α
  | 0, xs => xs
  | fuel + 1, xs =>
    match pieces.find? (·.isPrefixOf xs) with
    | some piece => stripped pieces fuel (xs.drop piece.length)
    | none => xs

/-- A text without some characters at its start or its end. -/
def trimmed (atStart atEnd : Bool) (args : List Value) : Value :=
  let inside := match args[1]? with
    | none => some (bytesOf [' '])
    | some cs => cs.bytes?
  match inside with
  | none => .null
  | some cs =>
    let cs := characters (bytesUpToZero cs)
    onBytes (fun s =>
      let s := if atStart then stripped cs s.length s else s
      .ofBytes (if atEnd then (stripped (cs.map List.reverse) s.length s.reverse).reverse else s))
      (args.headD .null)

/-- Every occurrence of the non-empty list `needle` replaced, from the left and without overlaps;
the first `skip` elements are the rest of an occurrence. -/
def replacing {α : Type} [BEq α] (needle sub : List α) : (skip : Nat) → List α → List α
  | _, [] => []
  | skip + 1, _ :: xs => replacing needle sub skip xs
  | 0, x :: xs =>
    if needle.isPrefixOf (x :: xs) then sub ++ replacing needle sub (needle.length - 1) xs
    else x :: replacing needle sub 0 xs

/-- Every occurrence of one text in another replaced. -/
def replaced : List Value → Value
  | [v, needle, sub] =>
    match v.bytes?, needle.bytes?, sub.bytes? with
    | some s, some n, some t => .ofBytes (if n.isEmpty then s else replacing n t 0 s)
    | _, _, _ => .null
  | _ => .null

/-- The number of characters of a value, or of bytes of a blob. -/
def length : Value → Value
  | .blob bytes => .integer bytes.length
  | v => onBytes (fun s => .integer (characters (bytesUpToZero s)).length) v

/-- A hexadecimal digit. -/
def hexDigit (n : Nat) : Char :=
  Char.ofNat (if n < 10 then 0x30 + n else 0x37 + n)

/-- Bytes as hexadecimal digits. -/
def hexText (bytes : List UInt8) : Text :=
  bytes.flatMap fun b => [hexDigit (b.toNat / 16), hexDigit (b.toNat % 16)]

/-- The bytes that pairs of hexadecimal digits stand for, with some characters between the
pairs. -/
def pairedBytes? (between : Text) : Text → Option (List UInt8)
  | [] => some []
  | c :: s =>
    match hexValue? c, s with
    | none, s => if between.contains c then pairedBytes? between s else none
    | some _, [] => none
    | some m, d :: s =>
      match hexValue? d with
      | some n => (pairedBytes? between s).map (UInt8.ofNat (16 * m + n) :: ·)
      | none => none

/-- The bytes that hexadecimal digits stand for, in pairs, between which some characters may
stand. -/
def unhexed (args : List Value) : Value :=
  let between := match args[1]? with
    | none => some []
    | some cs => cs.text?
  match between, (args.headD .null).text? with
  | some cs, some s => ((pairedBytes? cs s).map Value.blob).getD .null
  | _, _ => .null

/-- The value as it is written in a statement. -/
def quoted : Value → Value
  | .null => .text "NULL".toList
  | .real (.infinite negative) =>
    .text (if negative then "-9.0e+999".toList else "9.0e+999".toList)
  | .blob bytes => .text ("X\x27".toList ++ hexText bytes ++ ['\x27'])
  | v =>
    match v.textBytes? with
    | none => .ofText? v.text?
    | some bytes =>
      .ofBytes (0x27 :: (bytesUpToZero bytes).flatMap (fun b => if b = 0x27 then [b, b] else [b]) ++
        [0x27])

/-- The name of the class of a value. -/
def className : Value → Text
  | .null => "null".toList
  | .integer _ => "integer".toList
  | .real _ => "real".toList
  | .text _ | .garbled _ => "text".toList
  | .blob _ => "blob".toList

/-- The sound of a letter. -/
def sound? (c : Char) : Option Char :=
  let groups := [("BFPV", '1'), ("CGJKQSXZ", '2'), ("DT", '3'), ("L", '4'), ("MN", '5'),
    ("R", '6')]
  (groups.find? fun g => g.1.toList.contains c.toUpper).map (·.2)

/-- The sounds of a text that differ from the one before; `H` and `W` are passed over. -/
def sounds : (before : Option Char) → Text → Text
  | _, [] => []
  | before, c :: s =>
    if !isAsciiLetter c then sounds none s
    else
      match sound? c with
      | some d => if some d = before then sounds before s else d :: sounds (some d) s
      | none => if c.toUpper == 'H' || c.toUpper == 'W' then sounds before s else sounds none s

/-- How a word sounds: its first letter and three digits. -/
def soundex (v : Value) : Value :=
  match ((v.text?).getD []).dropWhile (!isAsciiLetter ·) with
  | [] => .text "?000".toList
  | c :: s =>
    .text ((c.toUpper :: sounds (sound? c) s ++ "000".toList).take 4)

/-- Texts put together, nulls left out. -/
def concatenated (separator : List UInt8) (args : List Value) : Value :=
  .ofBytes (List.intercalate separator (args.filterMap Value.bytes?))

/-- The text of characters by their numbers. -/
def ofCodePoints (args : List Value) : Value :=
  .ofBytes (args.flatMap fun v =>
    let n := v.toInt
    let n := if 0 ≤ n ∧ n < 0x110000 then n.toNat else 0xFFFD
    (utf8Of n).map UInt8.ofNat)

/-- The number of the first character of a text, unless that is empty. -/
def firstCodePoint (bytes : List UInt8) : Value :=
  ((characters (bytesUpToZero bytes)).head?.map fun c => Value.integer (codePointOf c)).getD .null

/-! ## Choices -/

/-- The first value that is not a null. -/
def firstKnown (args : List Value) : Value :=
  (args.find? (!·.isNull)).getD .null

/-- The least of some values, the last of equal ones, or else the greatest, the first of equal
ones; a null if there is one among them. -/
def extreme (least : Bool) (c : Collation) : List Value → Value
  | [] => .null
  | v :: vs =>
    if (v :: vs).any Value.isNull then .null
    else
      vs.foldl (fun best w =>
        let better := if least then w.compare c best != .gt else w.compare c best == .gt
        if better then w else best) v

/-- A blob of zeros. -/
def zeros (v : Value) : Except StoreError Value :=
  if 1000000000 < v.toInt then .error (.database 18 "string or blob too big".toList)
  else .ok (.blob (List.replicate v.toInt.toNat 0))

/-! ## The table -/

/-- A function of one value. -/
def ofOne (f : Value → Value) : Scalar :=
  ⟨1, some 1, fun _ args => .ok (f (args.headD .null))⟩

/-- A function of two values. -/
def ofTwo (f : Value → Value → Value) : Scalar :=
  ⟨2, some 2, fun _ args => .ok (f (args.headD .null) ((args[1]?).getD .null))⟩

/-- A function of a list of values. -/
def ofList (least : Nat) (most : Option Nat) (f : List Value → Value) : Scalar :=
  ⟨least, most, fun _ args => .ok (f args)⟩

/-- The functions by name. -/
def table : List (String × Scalar) :=
  [("abs", ⟨1, some 1, fun _ args => abs (args.headD .null)⟩),
   ("changes", ofList 0 (some 0) fun _ => .integer 0),
   ("char", ofList 0 none ofCodePoints),
   ("coalesce", ofList 2 none firstKnown),
   ("concat", ofList 1 none (concatenated [])),
   ("concat_ws", ofList 2 none fun args =>
      onBytes (fun s => concatenated s args.tail) (args.headD .null)),
   ("current_date", ofList 0 (some 0) fun _ => .text "1970-01-01".toList),
   ("current_time", ofList 0 (some 0) fun _ => .text "00:00:00".toList),
   ("current_timestamp", ofList 0 (some 0) fun _ => .text "1970-01-01 00:00:00".toList),
   ("glob", ofTwo fun p v =>
      match p.text?, v.text? with
      | some p, some s => Value.ofBool (isGlob p.length (upToZero p) (upToZero s))
      | _, _ => .null),
   ("hex", ofOne fun v => .text (hexText (v.bytes?.getD []))),
   ("ifnull", ofList 2 (some 2) firstKnown),
   ("iif", ofList 3 (some 3) fun args =>
      ((if (args.headD .null).isTrue then args[1]? else args[2]?)).getD .null),
   ("instr", ofTwo place),
   ("last_insert_rowid", ofList 0 (some 0) fun _ => .integer 0),
   ("length", ofOne length),
   ("like", ofList 2 (some 3) fun args =>
      match (args.headD .null).text?, (args[1]?).bind Value.text? with
      | some p, some s =>
        let escape := ((args[2]?).bind Value.text?).bind List.head?
        Value.ofBool (isLike escape (upToZero p) (upToZero s))
      | _, _ => .null),
   ("likelihood", ofTwo fun v _ => v),
   ("likely", ofOne id),
   ("lower", ofOne (onBytes fun s => .ofBytes (s.map lowerByte))),
   ("ltrim", ofList 1 (some 2) (trimmed true false)),
   ("max", ⟨1, none, fun c args => .ok (extreme false c args)⟩),
   ("min", ⟨1, none, fun c args => .ok (extreme true c args)⟩),
   ("nullif", ⟨2, some 2, fun c args =>
      let v := args.headD .null
      .ok (if v.same c ((args[1]?).getD .null) then .null else v)⟩),
   ("octet_length", ofOne (onBytes fun s => .integer s.length)),
   ("quote", ofOne quoted),
   ("random", ofList 0 (some 0) fun _ => .integer 0),
   ("replace", ofList 3 (some 3) replaced),
   ("round", ofList 1 (some 2) fun args => round (args.headD .null)
      ((args[1]?).getD (.integer 0))),
   ("rtrim", ofList 1 (some 2) (trimmed false true)),
   ("sign", ofOne sign),
   ("soundex", ofOne soundex),
   ("sqlite_version", ofList 0 (some 0) fun _ => .text "3.46.0".toList),
   ("substr", ofList 2 (some 3) substring),
   ("substring", ofList 2 (some 3) substring),
   ("total_changes", ofList 0 (some 0) fun _ => .integer 0),
   ("trim", ofList 1 (some 2) (trimmed true true)),
   ("typeof", ofOne fun v => .text (className v)),
   ("unhex", ofList 1 (some 2) unhexed),
   ("unicode", ofOne (onBytes firstCodePoint)),
   ("unlikely", ofOne id),
   ("upper", ofOne (onBytes fun s => .ofBytes (s.map upperByte))),
   ("zeroblob", ⟨1, some 1, fun _ args => zeros (args.headD .null)⟩)]

/-- The function of a name, whatever its case. -/
def ofName? (name : Text) : Option Scalar :=
  let name := name.map Char.toLower
  (table.find? fun entry => entry.1.toList == name).map (·.2)

end Scalar
end AskSql.Database
