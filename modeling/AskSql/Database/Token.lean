import AskSql.Text.Numeral
import AskSql.Text.Utf8

/-!
# Pieces of statements

A statement is cut into pieces: tokens with the characters that they are written with and the
blanks and comments after them, so that any part of a statement can be given back as it is
written. Where no token starts, the last piece is a wrong one: it holds the characters that a
message about it shows.
-/

namespace AskSql.Database

open Text

/-- A token. -/
inductive Token where
  /-- A word: a keyword or a name. -/
  | word (text : Text)
  /-- A name between quotes. -/
  | quoted (name : Text) (quote : Char)
  /-- A text between apostrophes. -/
  | text (value : Text)
  /-- The hexadecimal digits of a blob. -/
  | blob (digits : Text)
  | numeral (text : Text)
  /-- A value that is given beside the statement. -/
  | parameter (text : Text)
  | symbol (text : Text)
  /-- No token. -/
  | wrong
  deriving Repr, DecidableEq

/-- A token, its characters, and the blanks and comments after it. -/
structure Piece where
  token : Token
  text : Text
  gap : Text
  deriving Repr, DecidableEq

namespace Token

/-- The token is the keyword `k`, given in upper case. -/
def isKeyword (t : Token) (k : String) : Bool :=
  match t with
  | .word w => w.map Char.toUpper == k.toList
  | _ => false

/-- The token is one of the keywords `ks`. -/
def isAmong (t : Token) (ks : List String) : Bool :=
  match t with
  | .word w =>
    let upper := w.map Char.toUpper
    ks.any (·.toList == upper)
  | _ => false

/-- The token is the symbol `s`. -/
def isSymbol (t : Token) (s : String) : Bool :=
  t == .symbol s.toList

end Token

/-! ## Characters -/

/-- A blank. -/
def isSpace (c : Char) : Bool :=
  c == ' ' || c == '\t' || c == '\n' || c == '\x0c' || c == '\r'

/-- A blank, or the vertical tab, which no statement holds. -/
def isWideSpace (c : Char) : Bool :=
  isSpace c || c == '\x0b'

/-- A character that names are made of. -/
def isNamePart (c : Char) : Bool :=
  isAsciiLetter c || isAsciiDigit c || c == '_' || c == '$' || 0x80 ≤ c.toNat

/-- A character that names begin with. -/
def isNameStart (c : Char) : Bool :=
  isAsciiLetter c || c == '_' || 0x80 ≤ c.toNat

/-- A hexadecimal digit. -/
def isHexDigit (c : Char) : Bool :=
  (hexValue? c).isSome

/-! ## Blanks and comments -/

/-- The number of characters of a comment between `/*` and `*/`, the end of the text included,
when `n` of them have been passed. -/
def blockComment (n : Nat) : Text → Nat
  | [] => n
  | '*' :: '/' :: _ => n + 2
  | _ :: s => blockComment (n + 1) s

/-- The number of blanks and characters of comments at the start of a text, of at most `fuel`
blanks and comments. -/
def gapLength : (fuel : Nat) → Text → Nat
  | 0, _ => 0
  | fuel + 1, s =>
    match s with
    | '-' :: '-' :: rest =>
      let n := 2 + (rest.takeWhile (· != '\n')).length
      n + gapLength fuel (s.drop n)
    | '/' :: '*' :: c :: rest =>
      let n := blockComment 2 (c :: rest)
      n + gapLength fuel (s.drop n)
    | c :: rest =>
      if isSpace c || c == '\uFEFF' then 1 + gapLength fuel rest else 0
    | [] => 0

/-! ## Tokens -/

/-- What stands before the closing `quote`, where two of them are one that is meant, and the
number of characters up to it; nothing if it is missing. -/
def quotedValue? (quote : Char) (n : Nat) : Text → Option (Text × Nat)
  | [] => none
  | c :: s =>
    if c = quote then
      match s with
      | d :: s =>
        if d = quote then
          (quotedValue? quote (n + 2) s).map fun (value, n) => (quote :: value, n)
        else some ([], n + 1)
      | [] => some ([], n + 1)
    else (quotedValue? quote (n + 1) s).map fun (value, n) => (c :: value, n)

/-- The number of digits at the start of a text, low lines among them. -/
def digitsLength (isDigit : Char → Bool) (s : Text) : Nat :=
  (s.takeWhile fun c => isDigit c || c == '_').length

/-- The number of characters of an exponent. -/
def exponentLength : Text → Nat
  | e :: s =>
    let sign := match s with
      | '+' :: _ | '-' :: _ => 1
      | _ => 0
    match s.drop sign with
    | d :: _ =>
      if (e == 'e' || e == 'E') && isAsciiDigit d then
        1 + sign + digitsLength isAsciiDigit (s.drop sign)
      else 0
    | [] => 0
  | [] => 0

/-- The number of characters of a numeral. -/
def numeralLength (s : Text) : Nat :=
  let hex := match s with
    | '0' :: x :: c :: _ => (x == 'x' || x == 'X') && isHexDigit c
    | _ => false
  if hex then 2 + digitsLength isHexDigit (s.drop 2)
  else
    let whole := digitsLength isAsciiDigit s
    let fraction := match s.drop whole with
      | '.' :: rest => 1 + digitsLength isAsciiDigit rest
      | _ => 0
    whole + fraction + exponentLength (s.drop (whole + fraction))

/-- The number of characters of a parameter's name after its mark, and whether it is one. -/
def parameterLength : (fuel : Nat) → Text → (named : Bool) → Nat × Bool
  | 0, _, named => (0, named)
  | fuel + 1, s, named =>
    match s with
    | ':' :: ':' :: rest =>
      let (n, ok) := parameterLength fuel rest named
      (n + 2, ok)
    | '(' :: rest =>
      if named then
        let inside := rest.takeWhile fun c => !isWideSpace c && c != ')'
        match rest.drop inside.length with
        | ')' :: _ => (inside.length + 2, true)
        | _ => (inside.length + 1, false)
      else (0, false)
    | c :: rest =>
      if isNamePart c then
        let (n, ok) := parameterLength fuel rest true
        (n + 1, ok)
      else (0, named)
    | [] => (0, named)

/-- A symbol of the first `n` characters. -/
def symbolOf (n : Nat) (s : Text) : Token × Nat :=
  (.symbol (s.take n), n)

/-- The token at the start of a text that is not empty, and the number of its characters. -/
def tokenAt (c : Char) (rest : Text) : Token × Nat :=
  let s := c :: rest
  let starts := fun p : String => p.toList.isPrefixOf s
  let quoted := fun (make : Text → Token) =>
    match quotedValue? c 1 rest with
    | some (value, n) => (make value, n)
    | none => (.wrong, s.length)
  if c == '\x27' then quoted .text
  else if c == '"' || c == '\x60' then quoted (.quoted · c)
  else if c == '[' then
    match breakAt? ']' rest with
    | some (name, _) => (.quoted name '[', name.length + 2)
    | none => (.wrong, s.length)
  else if isAsciiDigit c || (c == '.' && (rest.head?.map isAsciiDigit).getD false) then
    let n := numeralLength s
    let stray := ((s.drop n).takeWhile isNamePart).length
    if stray = 0 then (.numeral (s.take n), n) else (.wrong, n + stray)
  else if (c == 'x' || c == 'X') && rest.head? == some '\x27' then
    let digits := (rest.drop 1).takeWhile isHexDigit
    if (rest.drop (digits.length + 1)).head? == some '\x27' && digits.length % 2 == 0 then
      (.blob digits, digits.length + 3)
    else
      let inside := ((rest.drop 1).takeWhile (· != '\x27')).length
      (.wrong, min s.length (inside + 3))
  else if isNameStart c then
    let name := c :: rest.takeWhile isNamePart
    (.word name, name.length)
  else if c == '?' then
    let name := c :: rest.takeWhile isAsciiDigit
    (.parameter name, name.length)
  else if c == '$' || c == '@' || c == '#' || c == ':' then
    let (n, ok) := parameterLength rest.length rest false
    (if ok then .parameter (s.take (n + 1)) else .wrong, n + 1)
  else if starts "->>" then symbolOf 3 s
  else if ["->", "==", "<=", "<>", "<<", ">=", ">>", "!=", "||"].any starts then symbolOf 2 s
  else if ['-', '(', ')', ';', '+', '*', '/', '%', '=', '<', '>', '|', ',', '&', '~',
      '.'].contains c then
    symbolOf 1 s
  else (.wrong, 1)

/-- The pieces of a text of at most `fuel` tokens, up to the first wrong one. -/
def piecesFrom : (fuel : Nat) → Text → List Piece
  | 0, _ => []
  | fuel + 1, s =>
    match s with
    | [] => []
    | c :: rest =>
      let (token, n) := tokenAt c rest
      let after := s.drop n
      let gap := gapLength after.length after
      let piece : Piece := ⟨token, s.take n, after.take gap⟩
      if token = .wrong then [piece] else piece :: piecesFrom fuel (after.drop gap)

/-- The pieces of a text, up to the first wrong one. A zero character ends a text. -/
def pieces (s : Text) : List Piece :=
  let s := s.takeWhile (· != '\x00')
  piecesFrom s.length (s.drop (gapLength s.length s))

namespace Piece

/-- Some pieces as they are written, without what follows the last one. -/
def written : List Piece → Text
  | [] => []
  | [p] => p.text
  | p :: ps => p.text ++ p.gap ++ written ps

/-- Some pieces as they are written, with what follows the last one. -/
def writtenWithGap (ps : List Piece) : Text :=
  ps.flatMap fun p => p.text ++ p.gap

/-- Some pieces as they are written, with the comments that follow, but without blanks around
them. -/
def span (ps : List Piece) : Text :=
  dropEndWhile isWideSpace (writtenWithGap ps)

end Piece
end AskSql.Database
