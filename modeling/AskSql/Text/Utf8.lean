import AskSql.Text.Numeral

/-!
# UTF-8

Texts as bytes and back. Where bytes stand for no text, the first of them that cannot be read is
told, with the number of bytes that are wrong together; `ofUtf8Lossy` puts a replacement
character there and goes on.
-/

namespace AskSql.Text

/-- The bytes of a code point in UTF-8. -/
def utf8Of (n : Nat) : List Nat :=
  if n < 0x80 then [n]
  else if n < 0x800 then [0xC0 + n / 0x40, 0x80 + n % 0x40]
  else if n < 0x10000 then [0xE0 + n / 0x1000, 0x80 + n / 0x40 % 0x40, 0x80 + n % 0x40]
  else
    [0xF0 + n / 0x40000, 0x80 + n / 0x1000 % 0x40, 0x80 + n / 0x40 % 0x40, 0x80 + n % 0x40]

/-- The bytes of a character in UTF-8. -/
def utf8 (c : Char) : List Nat :=
  utf8Of c.toNat

/-- Why no character starts at a byte. -/
inductive Utf8Fault where
  /-- The first `length` bytes start no character. -/
  | invalid (length : Nat)
  /-- The bytes end within a character. -/
  | incomplete
  deriving Repr, DecidableEq

/-- The number that `count` continuation bytes add to `n`, and the bytes read then, if `read`
were before. The next byte has to lie between `low` and `high`. -/
def continuation (n low high : Nat) :
    (count read : Nat) → List Nat → Except Utf8Fault (Nat × Nat)
  | 0, read, _ => .ok (n, read)
  | _ + 1, _, [] => .error .incomplete
  | count + 1, read, b :: rest =>
    if low ≤ b ∧ b ≤ high then continuation (0x40 * n + b % 0x40) 0x80 0xBF count (read + 1) rest
    else .error (.invalid read)

/-- The number of continuation bytes after `b`, and the bounds of the first of them. -/
def continuationAfter? (b : Nat) : Option (Nat × Nat × Nat) :=
  if b < 0xC2 then none
  else if b ≤ 0xDF then some (1, 0x80, 0xBF)
  else if b = 0xE0 then some (2, 0xA0, 0xBF)
  else if b = 0xED then some (2, 0x80, 0x9F)
  else if b ≤ 0xEF then some (2, 0x80, 0xBF)
  else if b = 0xF0 then some (3, 0x90, 0xBF)
  else if b ≤ 0xF3 then some (3, 0x80, 0xBF)
  else if b = 0xF4 then some (3, 0x80, 0x8F)
  else none

/-- The character at the start of some bytes, and the number of its bytes. -/
def characterAt (b : Nat) (rest : List Nat) : Except Utf8Fault (Char × Nat) :=
  if b < 0x80 then .ok (Char.ofNat b, 1)
  else
    match continuationAfter? b with
    | none => .error (.invalid 1)
    | some (count, low, high) =>
      (continuation (b % (1 <<< (6 - count))) low high count 1 rest).map
        fun (n, read) => (Char.ofNat n, read)

/-- The text that bytes stand for, or the first fault and its place. -/
def ofUtf8 (index : Nat) : List Nat → Except (Utf8Fault × Nat) Text
  | [] => .ok []
  | b :: rest =>
    match characterAt b rest with
    | .error fault => .error (fault, index)
    | .ok (c, n) => (ofUtf8 (index + n) (rest.drop (n - 1))).map (c :: ·)
termination_by bytes => bytes.length
decreasing_by simp only [List.length_cons, List.length_drop]; omega

/-- The text that bytes stand for, with a replacement character for every fault. -/
def ofUtf8Lossy : List Nat → Text
  | [] => []
  | b :: rest =>
    match characterAt b rest with
    | .error .incomplete => ['\uFFFD']
    | .error (.invalid n) => '\uFFFD' :: ofUtf8Lossy (rest.drop (n - 1))
    | .ok (c, n) => c :: ofUtf8Lossy (rest.drop (n - 1))
termination_by bytes => bytes.length
decreasing_by all_goals (simp only [List.length_cons, List.length_drop]; omega)

/-- The wording of a fault at a place. -/
def Utf8Fault.message (fault : Utf8Fault) (index : Nat) : Text :=
  match fault with
  | .invalid n =>
    "invalid utf-8 sequence of ".toList ++ ofNat n ++ " bytes from index ".toList ++ ofNat index
  | .incomplete => "incomplete utf-8 byte sequence from index ".toList ++ ofNat index

/-- The bytes of a text in which `%` and two hexadecimal digits stand for a byte. -/
def percentDecoded : Text → List Nat
  | [] => []
  | '%' :: a :: b :: s =>
    match hexValue? a, hexValue? b with
    | some high, some low => (16 * high + low) :: percentDecoded s
    | _, _ => utf8 '%' ++ percentDecoded (a :: b :: s)
  | c :: s => utf8 c ++ percentDecoded s

end AskSql.Text
