import AskSql.Text.Letter

/-!
# Quoted names

Names in schema text and in composed statements. A plain identifier is written as it is, any
other name between double quotes with its own quotes doubled. Readers of schema text look for
structure outside the quotes only: `unquoted` keeps the characters there, and the other
scanners of this module stop at nothing else.
-/

namespace AskSql.Text

/-- A letter or `_` of ASCII. -/
def isIdentifierStart (c : Char) : Bool :=
  isAsciiLetter c || c == '_'

/-- A letter, a digit or `_` of ASCII. -/
def isIdentifierPart (c : Char) : Bool :=
  isAsciiLetter c || isAsciiDigit c || c == '_'

/-- A name that needs no quotes. -/
def isPlainIdentifier : Text → Bool
  | [] => false
  | c :: s => isIdentifierStart c && (c :: s).all isIdentifierPart

/-- A text with every double quote doubled. -/
def doubleQuotes : Text → Text
  | [] => []
  | c :: s => if c = '"' then '"' :: '"' :: doubleQuotes s else c :: doubleQuotes s

/-- A name as it is written: bare if it is a plain identifier, between double quotes
otherwise. -/
def quoteIdentifier (name : Text) : Text :=
  if isPlainIdentifier name then name else '"' :: doubleQuotes name ++ ['"']

/-- A text with every pair of double quotes collapsed into one, from the left. -/
def collapseQuotes : Text → Text
  | '"' :: '"' :: s => '"' :: collapseQuotes s
  | c :: s => c :: collapseQuotes s
  | [] => []

/-- The name that a written name stands for: surrounding blanks go, and if quotes surround
the rest, they go too and the doubled quotes between them collapse. -/
def unquote (written : Text) : Text :=
  match trim written with
  | '"' :: s =>
    match s.getLast? with
    | some '"' => collapseQuotes s.dropLast
    | _ => '"' :: s
  | s => s

/-! ## Scanning outside quotes -/

/-- The characters outside double quotes, if the text starts inside quotes or not as `inside`
tells. The quotes themselves count as inside. -/
def unquotedFrom (inside : Bool) : Text → Text
  | [] => []
  | c :: s =>
    if c = '"' then unquotedFrom (!inside) s
    else if inside then unquotedFrom inside s
    else c :: unquotedFrom inside s

/-- The characters outside double quotes. -/
def unquoted (s : Text) : Text :=
  unquotedFrom false s

/-- The text before the first unquoted character that satisfies `p`, and the text from that
character on. -/
def spanUnquoted (p : Char → Bool) (inside : Bool) : Text → Text × Text
  | [] => ([], [])
  | c :: s =>
    if !inside && c != '"' && p c then ([], c :: s)
    else
      let (before, rest) := spanUnquoted p (if c = '"' then !inside else inside) s
      (c :: before, rest)

/-- The text before the first unquoted character that satisfies `p` and the text after it, if
there is one. -/
def breakUnquoted? (p : Char → Bool) (s : Text) : Option (Text × Text) :=
  match spanUnquoted p false s with
  | (_, []) => none
  | (before, _ :: after) => some (before, after)

/-- The text before the last unquoted `c`, if there is one. -/
def beforeLastUnquoted? (c : Char) (inside : Bool) : Text → Option Text
  | [] => none
  | d :: s =>
    match beforeLastUnquoted? c (if d = '"' then !inside else inside) s with
    | some before => some (d :: before)
    | none => if !inside && d != '"' && d == c then some [] else none

/-- The pieces of a text between unquoted separators. -/
def splitUnquotedFrom (separator : Char) (inside : Bool) : Text → List Text
  | [] => [[]]
  | c :: s =>
    if !inside && c != '"' && c == separator then [] :: splitUnquotedFrom separator inside s
    else match splitUnquotedFrom separator (if c = '"' then !inside else inside) s with
      | [] => [[c]]
      | piece :: pieces => (c :: piece) :: pieces

/-- The pieces of a text between unquoted separators. -/
def splitUnquoted (separator : Char) (s : Text) : List Text :=
  splitUnquotedFrom separator false s

/-- The text up to the `)` that closes the last of `depth + 1` open parentheses, counting
unquoted parentheses only, or all of it if nothing closes them. -/
def enclosedFrom (inside : Bool) : (depth : Nat) → Text → Text
  | _, [] => []
  | depth, c :: s =>
    if c = '"' then c :: enclosedFrom (!inside) depth s
    else if inside then c :: enclosedFrom inside depth s
    else if c = '(' then c :: enclosedFrom inside (depth + 1) s
    else if c = ')' then
      match depth with
      | 0 => []
      | depth + 1 => c :: enclosedFrom inside depth s
    else c :: enclosedFrom inside depth s

/-- What an already opened parenthesis encloses: everything up to the matching unquoted `)`,
or all of the text if there is none. -/
def enclosedBody (s : Text) : Text :=
  enclosedFrom false 0 s

end AskSql.Text
