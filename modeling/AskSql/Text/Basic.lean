/-!
# Text

A text is a list of characters. This module holds what the rest of the library asks of a
text: where it is blank, what remains of it trimmed, whether another text occurs in it, what
it becomes when every occurrence is replaced, and its pieces between separators.
-/

namespace AskSql

/-- A text, character by character. -/
abbrev Text := List Char

namespace Text

/-! ## Blanks -/

/-- The characters with the Unicode property White_Space. -/
def isBlank (c : Char) : Bool :=
  let n := c.toNat
  (0x09 ≤ n && n ≤ 0x0D) || n == 0x20 || n == 0x85 || n == 0xA0 || n == 0x1680 ||
    (0x2000 ≤ n && n ≤ 0x200A) || n == 0x2028 || n == 0x2029 || n == 0x202F || n == 0x205F ||
    n == 0x3000

/-- Nothing but blanks. -/
def isBlankText (s : Text) : Bool :=
  s.all isBlank

/-- `s` without the characters at its end that satisfy `p`. -/
def dropEndWhile (p : Char → Bool) (s : Text) : Text :=
  (s.reverse.dropWhile p).reverse

/-- `s` without the blanks before it. -/
def trimStart (s : Text) : Text :=
  s.dropWhile isBlank

/-- `s` without the blanks after it. -/
def trimEnd (s : Text) : Text :=
  dropEndWhile isBlank s

/-- `s` without the blanks on both sides. -/
def trim (s : Text) : Text :=
  trimEnd (trimStart s)

/-! ## Occurrences -/

/-- What follows `p` at the start of `s`. -/
def dropPrefix? (p s : Text) : Option Text :=
  if p.isPrefixOf s then some (s.drop p.length) else none

/-- What precedes `p` at the end of `s`. -/
def dropSuffix? (p s : Text) : Option Text :=
  if p.isSuffixOf s then some (s.take (s.length - p.length)) else none

/-- `needle` is found somewhere in the text. -/
def occursIn (needle : Text) : Text → Bool
  | [] => needle.isEmpty
  | c :: s => needle.isPrefixOf (c :: s) || occursIn needle s

/-- Every occurrence of `needle` becomes `sub`, from the left and without overlaps. While
`skip` characters of an occurrence are left, they are passed over. -/
def replaceFrom (needle sub : Text) : (skip : Nat) → Text → Text
  | _, [] => []
  | skip + 1, _ :: s => replaceFrom needle sub skip s
  | 0, c :: s =>
    if needle.isPrefixOf (c :: s) then sub ++ replaceFrom needle sub (needle.length - 1) s
    else c :: replaceFrom needle sub 0 s

/-- Every occurrence of the non-empty text `needle` in `s` becomes `sub`, from the left and
without overlaps. -/
def replaceAll (needle sub s : Text) : Text :=
  replaceFrom needle sub 0 s

/-! ## Pieces -/

/-- The pieces of a text between the characters that satisfy `p`. There is one piece more
than there are such characters. -/
def splitWhere (p : Char → Bool) : Text → List Text
  | [] => [[]]
  | c :: s =>
    if p c then [] :: splitWhere p s
    else match splitWhere p s with
      | [] => [[c]]
      | piece :: pieces => (c :: piece) :: pieces

/-- The lines of a text, without the line breaks. -/
def lines (s : Text) : List Text :=
  splitWhere (· == '\n') s

/-- The texts in order, with `separator` between them. -/
def join (separator : Text) : List Text → Text
  | [] => []
  | [s] => s
  | s :: rest => s ++ separator ++ join separator rest

/-- The part before the first `c` and the part after it. -/
def breakAt? (c : Char) : Text → Option (Text × Text)
  | [] => none
  | d :: s =>
    if d == c then some ([], s)
    else (breakAt? c s).map fun (before, after) => (d :: before, after)

/-! ## Comparison -/

/-- Equality up to the case of ASCII letters. -/
def equalsIgnoringCase (a b : Text) : Bool :=
  a.map Char.toLower == b.map Char.toLower

/-- `xs` without the elements that occurred before. -/
def distinct : List Text → List Text
  | [] => []
  | x :: xs => x :: (distinct xs).filter (· != x)

end Text
end AskSql
