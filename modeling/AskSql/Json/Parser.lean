import AskSql.Json.Basic
import AskSql.Text.Numeral

/-!
# Reading JSON

A JSON text is first read as a `Document`, which keeps what only some readers refuse: numerals
stay digits, and a string with an unpaired surrogate is a string without a value. Readers of
a `Document` then take from it what they need: `Document.record?` the fields of a record,
`Document.toJson?` the whole value.

Of a number's digits, the leading ones that fit into 64 bits count; a power of ten makes up for
the places of the others.
-/

namespace AskSql.Json

open Text

/-- A numeral: its sign, the digits before the point, those after it and the exponent. -/
structure Numeral where
  negative : Bool
  whole : Text
  fraction : Text
  /-- The sign of the exponent is negative, and its digits. -/
  exponent : Option (Bool × Text)
  deriving Repr, DecidableEq

/-- A JSON text, read but not evaluated. -/
inductive Document where
  | null
  | bool (b : Bool)
  | number (n : Numeral)
  /-- A string. It has no value if a surrogate in it is unpaired. -/
  | string (s : Option Text)
  | array (items : List Document)
  | object (members : List (Option Text × Document))
  deriving Repr

/-! ## Leaves -/

/-- The blanks of JSON. -/
def isSpace (c : Char) : Bool :=
  c == ' ' || c == '\t' || c == '\n' || c == '\r'

/-- A text without the blanks before it. -/
def skipSpace (s : Text) : Text :=
  s.dropWhile isSpace

/-- The number that four hexadecimal digits stand for. -/
def hex4? (a b c d : Char) : Option Nat := do
  let a ← hexValue? a
  let b ← hexValue? b
  let c ← hexValue? c
  let d ← hexValue? d
  some (((a * 16 + b) * 16 + c) * 16 + d)

/-- The character of a one-letter escape. -/
def escaped? (c : Char) : Option Char :=
  if c = '"' ∨ c = '\\' ∨ c = '/' then some c
  else if c = 'b' then some '\x08'
  else if c = 'f' then some '\x0C'
  else if c = 'n' then some '\n'
  else if c = 'r' then some '\r'
  else if c = 't' then some '\t'
  else none

/-- What a string is written with: characters, and UTF-16 code units by number. -/
inductive StringPart where
  | char (c : Char)
  | unit (n : Nat)

/-- The parts of a string after its opening quote, and the text after the closing quote. -/
def stringParts? : Text → Option (List StringPart × Text)
  | [] => none
  | '\\' :: 'u' :: a :: b :: c :: d :: s =>
    match hex4? a b c d with
    | none => none
    | some n => (stringParts? s).map fun (parts, s) => (.unit n :: parts, s)
  | '\\' :: c :: s =>
    match escaped? c with
    | none => none
    | some c => (stringParts? s).map fun (parts, s) => (.char c :: parts, s)
  | c :: s =>
    if c = '"' then some ([], s)
    else if c.toNat < 0x20 ∨ c = '\\' then none
    else (stringParts? s).map fun (parts, s) => (.char c :: parts, s)

/-- The code unit is the first of a surrogate pair. -/
def isHighSurrogate (n : Nat) : Bool :=
  0xD800 ≤ n && n < 0xDC00

/-- The code unit is the second of a surrogate pair. -/
def isLowSurrogate (n : Nat) : Bool :=
  0xDC00 ≤ n && n < 0xE000

/-- The text that the parts of a string stand for, if every surrogate has its partner. -/
def joinParts? : List StringPart → Option Text
  | [] => some []
  | .char c :: parts => (joinParts? parts).map (c :: ·)
  | .unit n :: .unit k :: parts =>
    if isHighSurrogate n && isLowSurrogate k then
      (joinParts? parts).map (Char.ofNat (0x10000 + (n - 0xD800) * 0x400 + (k - 0xDC00)) :: ·)
    else if isHighSurrogate n || isLowSurrogate n then none
    else (joinParts? (.unit k :: parts)).map (Char.ofNat n :: ·)
  | .unit n :: parts =>
    if isHighSurrogate n || isLowSurrogate n then none
    else (joinParts? parts).map (Char.ofNat n :: ·)

/-- The rest of a string after its opening quote, and the text after the closing quote. -/
def stringRest? (s : Text) : Option (Option Text × Text) :=
  (stringParts? s).map fun (parts, s) => (joinParts? parts, s)

/-- The exponent at the start of a text, if there is one, and the text after it. -/
def exponent? : Text → Option (Option (Bool × Text) × Text)
  | c :: s =>
    if c = 'e' ∨ c = 'E' then
      let (negative, s) := match s with
        | '-' :: s => (true, s)
        | '+' :: s => (false, s)
        | s => (false, s)
      match s.span isAsciiDigit with
      | ([], _) => none
      | (digits, s) => some (some (negative, digits), s)
    else some (none, c :: s)
  | [] => some (none, [])

/-- The numeral at the start of a text, and the text after it. -/
def numeral? (s : Text) : Option (Numeral × Text) :=
  let (negative, s) := match s with
    | '-' :: s => (true, s)
    | s => (false, s)
  match s.span isAsciiDigit with
  | ([], _) => none
  | (whole, s) =>
    if whole.length > 1 ∧ whole.head? = some '0' then none
    else
      match s with
      | '.' :: s =>
        match s.span isAsciiDigit with
        | ([], _) => none
        | (fraction, s) =>
          (exponent? s).map fun (e, s) => (⟨negative, whole, fraction, e⟩, s)
      | s => (exponent? s).map fun (e, s) => (⟨negative, whole, [], e⟩, s)

/-! ## Documents -/

mutual

/-- The value at the start of a text, and the text after it. -/
def value? : (fuel : Nat) → Text → Option (Document × Text)
  | 0, _ => none
  | fuel + 1, s =>
    match skipSpace s with
    | [] => none
    | c :: s =>
      if c = '"' then (stringRest? s).map fun (v, s) => (.string v, s)
      else if c = '[' then
        match skipSpace s with
        | ']' :: s => some (.array [], s)
        | s => (items? fuel s).map fun (items, s) => (.array items, s)
      else if c = '\x7b' then
        match skipSpace s with
        | '\x7d' :: s => some (.object [], s)
        | s => (members? fuel s).map fun (members, s) => (.object members, s)
      else
        match dropPrefix? "null".toList (c :: s) with
        | some s => some (.null, s)
        | none =>
          match dropPrefix? "true".toList (c :: s) with
          | some s => some (.bool true, s)
          | none =>
            match dropPrefix? "false".toList (c :: s) with
            | some s => some (.bool false, s)
            | none => (numeral? (c :: s)).map fun (n, s) => (.number n, s)

/-- The items of an array up to its closing bracket, and the text after that. -/
def items? : (fuel : Nat) → Text → Option (List Document × Text)
  | 0, _ => none
  | fuel + 1, s =>
    match value? fuel s with
    | none => none
    | some (item, s) =>
      match skipSpace s with
      | ']' :: s => some ([item], s)
      | ',' :: s => (items? fuel s).map fun (items, s) => (item :: items, s)
      | _ => none

/-- The members of an object up to its closing brace, and the text after that. -/
def members? : (fuel : Nat) → Text → Option (List (Option Text × Document) × Text)
  | 0, _ => none
  | fuel + 1, s =>
    match skipSpace s with
    | '"' :: s =>
      match stringRest? s with
      | none => none
      | some (name, s) =>
        match skipSpace s with
        | ':' :: s =>
          match value? fuel s with
          | none => none
          | some (value, s) =>
            match skipSpace s with
            | '\x7d' :: s => some ([(name, value)], s)
            | ',' :: s =>
              (members? fuel s).map fun (members, s) => ((name, value) :: members, s)
            | _ => none
        | _ => none
    | _ => none

end

/-- The document that a whole text stands for. Every call reads a character or is made by one
that does, so the calls are fewer than twice the characters. -/
def Document.parse? (s : Text) : Option Document :=
  match value? (2 * s.length + 2) s with
  | some (d, rest) => if (skipSpace rest).isEmpty then some d else none
  | none => none

/-! ## Records -/

/-- A text. -/
def Document.text? : Document → Option Text
  | .string s => s
  | _ => none

/-- A text, or nothing where `null` stands. -/
def Document.optionalText? : Document → Option (Option Text)
  | .null => some none
  | d => d.text?.map some

/-- The items of an array. -/
def Document.items? : Document → Option (List Document)
  | .array items => some items
  | _ => none

/-- The members of an object have values as names, and no known name is repeated. -/
def membersFit (known : List Text) (members : List (Option Text × Document)) : Bool :=
  members.all (·.1.isSome) &&
    known.all fun name => (members.filter (·.1 == some name)).length ≤ 1

/-- The fields of a record, in the order of their names, where they are present. A record is
an object, whose other members are passed over, or an array of its fields in order, of which
the first `required` may not be missing. -/
def Document.record? (names : List Text) (required : Nat) :
    Document → Option (List (Option Document))
  | .object members =>
    if membersFit names members then
      some (names.map fun name => (members.find? (·.1 == some name)).map (·.2))
    else none
  | .array items =>
    if required ≤ items.length ∧ items.length ≤ names.length then
      some (items.map some ++ List.replicate (names.length - items.length) none)
    else none
  | _ => none

/-! ## Numbers -/

/-- The leading digits that fit into 64 bits after the number `n`: the number with them
appended, and how many they are. -/
def absorb (n : Nat) : Text → Nat × Nat
  | [] => (n, 0)
  | d :: digits =>
    let next := appendDigits n [d]
    if next ≤ maxUInt64 then
      let (n, count) := absorb next digits
      (n, count + 1)
    else (n, 0)

/-- `x` with the point moved by `exponent` places, at most 308 places at a time. Too large
numbers have no value. -/
def scale? (x : Binary64) : (fuel : Nat) → (exponent : Int) → Option Binary64
  | 0, _ => some x
  | fuel + 1, exponent =>
    if exponent.natAbs ≤ 308 then
      let power := Binary64.ofNat (Nat.pow 10 exponent.natAbs)
      if 0 ≤ exponent then
        match x.mul power with
        | .infinite _ => none
        | y => some y
      else some (x.div power)
    else if x.isZero then some x
    else if 0 ≤ exponent then none
    else scale? (x.div (Binary64.ofNat (Nat.pow 10 308))) fuel (exponent + 308)

/-- The largest exponent that is read digit by digit. -/
def maxExponentDigits : Nat := 0x7FFFFFFF

/-- The number that a significand and a numeral's exponent stand for. -/
def Numeral.real? (n : Numeral) (significand : Nat) (places : Int) : Option Binary64 :=
  let sign := fun x : Binary64 => if n.negative then x.neg else x
  match n.exponent with
  | none => (scale? (Binary64.ofNat significand) 4 places).map sign
  | some (negative, digits) =>
    let e := appendDigits 0 digits
    if e > maxExponentDigits then
      if significand ≠ 0 ∧ !negative then none else some (sign Binary64.zero)
    else
      let places := if negative then places - e else places + e
      (scale? (Binary64.ofNat significand) 4 places).map sign

/-- The number that a numeral stands for: an integer of 64 bits where it is one, a binary64
number otherwise. -/
def Numeral.toNumber? (n : Numeral) : Option Number :=
  let (whole, wholeCount) := absorb 0 n.whole
  let missing := n.whole.length - wholeCount
  if n.fraction.isEmpty ∧ n.exponent.isNone ∧ missing = 0 then
    if !n.negative then some (.integer whole)
    else if 0 < whole ∧ whole ≤ 1 <<< 63 then some (.integer (-whole))
    else some (.real (Binary64.ofNat whole).neg)
  else
    let (significand, fractionCount) := absorb whole n.fraction
    (n.real? significand ((missing : Int) - fractionCount)).map .real

mutual

/-- The value of a document, if all its strings and numbers have one. -/
def Document.toJson? : Document → Option Json
  | .null => some .null
  | .bool b => some (.bool b)
  | .number n => n.toNumber?.map .number
  | .string s => s.map .string
  | .array items => (itemsToJson? items).map .array
  | .object members => (membersToJson? members).map .object

/-- The values of the items. -/
def itemsToJson? : List Document → Option (List Json)
  | [] => some []
  | item :: rest => do some ((← item.toJson?) :: (← itemsToJson? rest))

/-- The values of the members. -/
def membersToJson? : List (Option Text × Document) → Option (List (Text × Json))
  | [] => some []
  | (name, value) :: rest => do
    some ((← name, ← value.toJson?) :: (← membersToJson? rest))

end

end AskSql.Json
