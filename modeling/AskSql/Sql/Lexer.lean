import AskSql.Sql.Dialect
import AskSql.Sql.Token

/-!
# Lexing SQL

`lexemes` takes a text apart into tokens, each with the characters it is written with, and
`tokenize` keeps the tokens. Every step looks at the text from one character on and says which
token starts there and how many characters after the first one belong to it; a fault says how
many characters after the first one it lies. So the lexemes cover the text without gaps,
whatever the steps decide.
-/

namespace AskSql.Sql

open Text

/-- The rest of a token: its value, and the number of characters it takes. -/
abbrev Rest (α : Type) := α × Nat

/-- One more character in front, which takes `n` characters. -/
def Rest.cons (c : Char) (n : Nat) (r : Rest Text) : Rest Text :=
  (c :: r.1, r.2 + n)

/-! ## Literals and quoted names -/

/-- The character that a backslash in front of `c` makes of it. -/
def unescaped (c : Char) : Char :=
  if c = '0' then '\x00'
  else if c = 'a' then '\x07'
  else if c = 'b' then '\x08'
  else if c = 'f' then '\x0C'
  else if c = 'n' then '\n'
  else if c = 'r' then '\r'
  else if c = 't' then '\t'
  else if c = 'Z' then '\x1A'
  else c

/-- The rest of a text between quotes, closing quote included. A doubled quote stands for one,
and a backslash escapes if `escapes` says so. -/
def quotedRest? (quote : Char) (escapes : Bool) : Text → Option (Rest Text)
  | [] => none
  | [c] => if c = quote then some ([], 1) else none
  | c :: d :: s =>
    if c = quote then
      if d = quote then (quotedRest? quote escapes s).map (Rest.cons quote 2) else some ([], 1)
    else if escapes && c = '\\' then
      (quotedRest? quote escapes s).map (Rest.cons (unescaped d) 2)
    else (quotedRest? quote escapes (d :: s)).map (Rest.cons c 1)

/-- The rest of a text between tripled quotes, closing quotes included. -/
def tripledRest? (quote : Char) : Text → Option (Rest Text)
  | [] => none
  | c :: s =>
    if [quote, quote, quote].isPrefixOf (c :: s) then some ([], 3)
    else (tripledRest? quote s).map (Rest.cons c 1)

/-- The rest of a text up to and including `close`. -/
def restUntil? (close : Text) : Text → Option (Rest Text)
  | [] => if close.isEmpty then some ([], 0) else none
  | c :: s =>
    if close.isPrefixOf (c :: s) then some ([], close.length)
    else (restUntil? close s).map (Rest.cons c 1)

/-- The value of at most `count` leading digits in base `base`, and how many there are. -/
def leadingDigits (base : Nat) : (count : Nat) → Text → Nat → Nat × Nat
  | 0, _, n => (n, 0)
  | _, [], n => (n, 0)
  | count + 1, c :: s, n =>
    match hexValue? c with
    | some d =>
      if d < base then
        let (n, k) := leadingDigits base count s (base * n + d)
        (n, k + 1)
      else (n, 0)
    | none => (n, 0)

/-- The character with a code point, if there is one. -/
def codePoint? (n : Nat) : Option Char :=
  if n.isValidChar then some (Char.ofNat n) else none

/-- The character of a code point written with exactly `count` hexadecimal digits, the first of
which may be a plus sign. -/
def fixedCodePoint? (count : Nat) (s : Text) : Option (Rest Char) :=
  let digits := s.take count
  let (plus, digits) := match digits with
    | '+' :: digits => (1, digits)
    | digits => (0, digits)
  let (n, k) := leadingDigits 16 count digits 0
  if k = 0 ∨ k + plus ≠ count then none else (codePoint? n).map (·, count)

/-- The character of the byte `n`, which only the lower half of the bytes has. -/
def byteChar? (n : Nat) : Option Char :=
  if n % 0x100 < 0x80 then some (Char.ofNat (n % 0x100)) else none

/-- The character that the escape after a backslash stands for. -/
def escapeAt? : Text → Option (Rest Char)
  | [] => none
  | c :: s =>
    if c = 'u' then (fixedCodePoint? 4 s).map fun (c, n) => (c, n + 1)
    else if c = 'U' then (fixedCodePoint? 8 s).map fun (c, n) => (c, n + 1)
    else if c = 'x' then
      let (n, k) := leadingDigits 16 2 s 0
      if k = 0 then some ('x', 1) else (byteChar? n).map (·, k + 1)
    else if '0' ≤ c && c ≤ '7' then
      let (n, k) := leadingDigits 8 3 (c :: s) 0
      (byteChar? n).map (·, k)
    else if c ∈ ['b', 'f', 'n', 'r', 't'] then some (unescaped c, 1)
    else some (c, 1)

/-- The rest of a literal with escapes, closing quote included. No escape may stand for the
null character. -/
def escapedRest? : Text → Option (Rest Text)
  | [] => none
  | [c] => if c = '\x27' then some ([], 1) else none
  | c :: d :: s =>
    if c = '\x27' then
      if d = '\x27' then (escapedRest? s).map (Rest.cons '\x27' 2) else some ([], 1)
    else if c = '\\' then
      match escapeAt? (d :: s) with
      | none => none
      | some (e, n) =>
        if e = '\x00' then none
        else (escapedRest? ((d :: s).drop n)).map (Rest.cons e (n + 1))
    else (escapedRest? (d :: s)).map (Rest.cons c 1)
termination_by s => s.length
decreasing_by all_goals (simp only [List.length_cons, List.length_drop]; omega)

/-- The character of a code point written with `count` more digits, after the digits of `n`. -/
def codePointRest (n : Nat) : (count : Nat) → Text → Except (LexicalFault × Nat) (Rest Char)
  | 0, _ =>
    match codePoint? n with
    | some c => .ok (c, 0)
    | none => .error (.badCodePoint n, 0)
  | _ + 1, [] => .error (.shortCodePoint, 0)
  | count + 1, c :: s =>
    match hexValue? c with
    | none => .error (.badDigit c, 1)
    | some d =>
      match codePointRest (16 * n + d) count s with
      | .ok (c, k) => .ok (c, k + 1)
      | .error (fault, k) => .error (fault, k + 1)

/-- A rest or a fault, after `n` more characters. -/
def after (n : Nat) (c : Char) :
    Except (LexicalFault × Nat) (Rest Text) → Except (LexicalFault × Nat) (Rest Text)
  | .ok r => .ok (r.cons c n)
  | .error (fault, k) => .error (fault, k + n)

/-- The rest of a literal with code points, closing quote included. -/
def unicodeRest : Text → Except (LexicalFault × Nat) (Rest Text)
  | [] => .error (.openUnicode, 0)
  | [c] =>
    if c = '\x27' then .ok ([], 1)
    else if c = '\\' then .error (.shortCodePoint, 1)
    else .error (.openUnicode, 1)
  | c :: d :: s =>
    if c = '\x27' then
      if d = '\x27' then after 2 '\x27' (unicodeRest s) else .ok ([], 1)
    else if c = '\\' then
      if d = '\\' then after 2 '\\' (unicodeRest s)
      else
        let (skip, count) := if d = '+' then (2, 6) else (1, 4)
        match codePointRest 0 count ((d :: s).drop (skip - 1)) with
        | .error (fault, k) => .error (fault, k + skip)
        | .ok (e, k) => after (k + skip) e (unicodeRest ((d :: s).drop (skip - 1 + k)))
    else after 1 c (unicodeRest (d :: s))
termination_by s => s.length
decreasing_by all_goals (simp only [List.length_cons, List.length_drop]; omega)

/-! ## Comments -/

/-- The rest of a comment in which `depth + 1` comments are open. -/
def commentRest? (nested : Bool) : (depth : Nat) → Text → Option Nat
  | _, [] => none
  | _, [_] => none
  | depth, c :: d :: s =>
    if c = '/' ∧ d = '*' ∧ nested then (commentRest? nested (depth + 1) s).map (· + 2)
    else if c = '*' ∧ d = '/' then
      match depth with
      | 0 => some 2
      | depth + 1 => (commentRest? nested depth s).map (· + 2)
    else (commentRest? nested depth (d :: s)).map (· + 1)

/-- The rest of a comment that ends with its line, line break included. -/
def lineCommentRest (s : Text) : Nat :=
  let n := (s.takeWhile (· != '\n')).length
  if n < s.length then n + 1 else n

/-! ## Numbers -/

/-- The exponent at the start of a text. -/
def exponent (s : Text) : Text :=
  match s with
  | [] => []
  | e :: rest =>
    if e = 'e' ∨ e = 'E' then
      let (sign, digits) := match rest with
        | '+' :: digits => (['+'], digits)
        | '-' :: digits => (['-'], digits)
        | digits => ([], digits)
      match digits.takeWhile isAsciiDigit with
      | [] => []
      | digits => e :: sign ++ digits
    else []

/-- The number or dot at the start of a text, and the number of its characters. -/
def numberAt (s : Text) : Token × Nat :=
  let whole := s.takeWhile isAsciiDigit
  let rest := s.drop whole.length
  if whole = ['0'] ∧ rest.head? = some 'x' then
    let digits := (rest.drop 1).takeWhile isHexDigit
    (.literal .hex digits, 2 + digits.length)
  else
    let dot := if rest.head? = some '.' then ['.'] else []
    let fraction := (rest.drop dot.length).takeWhile isAsciiDigit
    let mantissa := whole ++ dot ++ fraction
    if mantissa = ['.'] then (.symbol ['.'], 1)
    else
      let digits := mantissa ++ exponent (s.drop mantissa.length)
      let mark := if (s.drop digits.length).head? = some 'L' then 1 else 0
      (.number digits, digits.length + mark)

/-! ## Operators -/

/-- The operators of more than one character, a longer one before its beginnings. -/
def operators : List Text :=
  ["->>".toList, "->".toList, "||/".toList, "||".toList, "|/".toList, "=>".toList, "==".toList,
   "!=".toList, "!!".toList, "!~~*".toList, "!~~".toList, "!~*".toList, "!~".toList,
   "<=>".toList, "<=".toList, "<>".toList, "<<".toList, "<@".toList, ">=".toList, ">>".toList,
   "::".toList, ":=".toList, "&&".toList, "^@".toList, "~~*".toList, "~~".toList, "~*".toList,
   "#-".toList, "#>>".toList, "#>".toList, "@>".toList, "@?".toList]

/-- The operator at the start of a text. -/
def operatorAt? (d : Dialect) (s : Text) : Option Text :=
  if d.doubleSlash && "//".toList.isPrefixOf s then some "//".toList
  else operators.find? (·.isPrefixOf s)

/-! ## Tokens -/

/-- What starts at a character: a token with the number of characters after the first one, or
a fault with its distance from the first one. -/
abbrev Step := Except (LexicalFault × Nat) (Token × Nat)

/-- A literal whose text starts after `opening` more characters; a missing end is found
`place` characters after the first one. -/
def literalStep (kind : LiteralKind) (opening place : Nat) : Option (Rest Text) → Step
  | some (value, n) => .ok (.literal kind value, opening + n)
  | none => .error (.openLiteral, place)

/-- A name that starts with `start`. -/
def nameStep (d : Dialect) (start : Text) (s : Text) : Step :=
  let rest := s.takeWhile d.continuesName
  .ok (.word (start ++ rest) none, start.length - 1 + rest.length)

/-- A literal with the prefix `R`, whose quotes may be tripled. -/
def rawStep (quote : Char) (s : Text) : Step :=
  match s with
  | a :: b :: rest =>
    if a = quote ∧ b = quote then literalStep .raw 3 4 (tripledRest? quote rest)
    else if a = quote then .ok (.literal .raw [], 2)
    else literalStep .raw 1 2 (quotedRest? quote false s)
  | [a] =>
    if a = quote then .ok (.literal .raw [], 2)
    else literalStep .raw 1 2 (quotedRest? quote false s)
  | [] => .error (.openLiteral, 2)

/-- A word or the literal that it is the prefix of. -/
def prefixedStep (d : Dialect) (c : Char) (s : Text) : Step :=
  match s with
  | '\x27' :: rest =>
    if c = 'N' ∨ c = 'n' then literalStep .national 1 1 (quotedRest? '\x27' false rest)
    else if c = 'X' ∨ c = 'x' then literalStep .hex 1 1 (quotedRest? '\x27' true rest)
    else if !d.prefixedLiterals then nameStep d [c] s
    else if c = 'B' ∨ c = 'b' then literalStep .bytes 1 1 (quotedRest? '\x27' false rest)
    else if c = 'R' ∨ c = 'r' then rawStep '\x27' rest
    else if c = 'E' ∨ c = 'e' then
      match escapedRest? rest with
      | some (value, n) => .ok (.literal .escaped value, 1 + n)
      | none => .error (.openEscaped, 0)
    else nameStep d [c] s
  | '"' :: rest =>
    if !d.prefixedLiterals then nameStep d [c] s
    else if c = 'B' ∨ c = 'b' then literalStep .bytes 1 1 (quotedRest? '"' false rest)
    else if c = 'R' ∨ c = 'r' then rawStep '"' rest
    else nameStep d [c] s
  | '&' :: '\x27' :: rest =>
    if d.prefixedLiterals ∧ (c = 'U' ∨ c = 'u') then
      match unicodeRest rest with
      | .ok (value, n) => .ok (.literal .unicode value, 2 + n)
      | .error (fault, k) => .error (fault, 3 + k)
    else nameStep d [c] s
  | _ => nameStep d [c] s

/-- What starts with a dollar sign. -/
def dollarStep (d : Dialect) (s : Text) : Step :=
  let isTagChar := fun c => isLetter c || isNumeric c || c == '_'
  if !d.dollarLiterals then
    let name := s.takeWhile fun c => isTagChar c || c == '$'
    .ok (.placeholder ('$' :: name), name.length)
  else
    match s with
    | '$' :: rest =>
      match restUntil? ['$', '$'] rest with
      | some (value, n) => .ok (.literal .dollar value, 1 + n)
      | none => .error (.openDollar, 1 + s.length)
    | _ =>
      let tag := s.takeWhile isTagChar
      match s.drop tag.length with
      | '$' :: rest =>
        match restUntil? ('$' :: tag ++ ['$']) rest with
        | some (value, n) => .ok (.literal .dollar value, tag.length + 1 + n)
        | none => .error (.openTag, 1 + s.length)
      | _ => .ok (.placeholder ('$' :: tag), tag.length)

/-- What starts with `@` or `#`, where names start so: the character after it belongs to the
name, whatever it is, unless it ends the word. -/
def sigilStep (d : Dialect) (c : Char) (s : Text) : Step :=
  match s with
  | [] => .ok (.symbol [c], 0)
  | e :: rest =>
    if !d.startsName c || e == ' ' ||
        (c == '@' && (e == '\x27' || e == '"' || e == '\x60')) then
      .ok (.symbol [c], 0)
    else if c = '@' ∧ e = '@' then
      match rest with
      | [] => .ok (.symbol ['@', '@'], 1)
      | f :: rest =>
        if f = ' ' then .ok (.symbol ['@', '@'], 1) else nameStep d ['@', '@', f] rest
    else nameStep d [c, e] rest

/-- The token that starts with `c`, or the fault there. -/
def step (d : Dialect) (c : Char) (s : Text) : Step :=
  if c = ' ' ∨ c = '\t' ∨ c = '\n' then .ok (.blank, 0)
  else if c = '\r' then .ok (.blank, if s.head? = some '\n' then 1 else 0)
  else if "NXBREUnxbreu".toList.contains c then prefixedStep d c s
  else if c = '\x27' then literalStep .plain 0 0 (quotedRest? '\x27' false s)
  else
    match d.closingQuote? c with
    | some close =>
      match quotedRest? close false s with
      | some (value, n) => .ok (.word value (some c), n)
      | none => .error (.openName close, 0)
    | none =>
      if isAsciiDigit c ∨ c = '.' then
        let (token, n) := numberAt (c :: s)
        .ok (token, n - 1)
      else if c = '-' ∧ s.head? = some '-' then .ok (.blank, 1 + lineCommentRest (s.drop 1))
      else if c = '/' ∧ s.head? = some '*' then
        match commentRest? d.nestedComments 0 (s.drop 1) with
        | some n => .ok (.blank, 1 + n)
        | none => .error (.openComment, 1 + s.length)
      else
        match operatorAt? d (c :: s) with
        | some operator => .ok (.symbol operator, operator.length - 1)
        | none =>
          if c = '@' ∨ c = '#' then sigilStep d c s
          else if c = '?' then
            let digits := s.takeWhile isNumeric
            .ok (.placeholder (c :: digits), digits.length)
          else if d.startsName c then nameStep d [c] s
          else if c = '$' then dollarStep d s
          else if Text.isBlank c then .ok (.blank, 0)
          else .ok (.symbol [c], 0)

/-- The lexemes of a text that starts after `offset` characters, or the fault with its distance
from the start. -/
def lexemesFrom (d : Dialect) (offset : Nat) :
    Text → Except (LexicalFault × Nat) (List Lexeme)
  | [] => .ok []
  | c :: s =>
    match step d c s with
    | .error (fault, n) => .error (fault, offset + n)
    | .ok (token, n) =>
      match lexemesFrom d (offset + n + 1) (s.drop n) with
      | .error e => .error e
      | .ok lexemes => .ok (⟨token, c :: s.take n⟩ :: lexemes)
termination_by s => s.length
decreasing_by simp only [List.length_cons, List.length_drop]; omega

/-- The lexemes of a text, or where and why it has none. -/
def lexemes (d : Dialect) (s : Text) : Except LexicalError (List Lexeme) :=
  match lexemesFrom d 0 s with
  | .ok lexemes => .ok lexemes
  | .error (fault, n) => .error ⟨fault, s.take n, s.drop n⟩

/-- The tokens of a text, or where and why it has none. -/
def tokenize (d : Dialect) (s : Text) : Except LexicalError (List Token) :=
  match lexemes d s with
  | .ok lexemes => .ok (lexemes.map (·.token))
  | .error e => .error e

end AskSql.Sql
