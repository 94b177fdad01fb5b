import AskSql.Text.Letter
import AskSql.Text.Basic

/-!
# Variables

The variables of a process, and the file that adds to them. The file defines a variable a line:
a name, `=`, and a value with quotes, escapes and references to other variables; a value between
quotes may go on over several lines. A variable that is set keeps its value, and the reading ends
at the first line that makes no sense.
-/

namespace AskSql

open Text

/-- Variables by name, an earlier one before a later one of its name. -/
abbrev Variables := List (Text × Text)

namespace Variables

/-! ## Lines -/

/-- What the next character of a line stands in. -/
inductive Position where
  | plain
  | blank
  | escape
  | strong
  | strongEscape
  | weak
  | weakEscape
  deriving Repr, DecidableEq

/-- The position after a character, or none if it starts a comment. -/
def Position.next? (p : Position) (c : Char) : Option Position :=
  let opening :=
    if c = '\\' then Position.escape
    else if c = '"' then .weak
    else if c = '\x27' then .strong
    else .plain
  match p with
  | .plain => some (if isBlank c && c != '\n' && c != '\r' then .blank else opening)
  | .blank => if c = '#' then none else some opening
  | .escape => some .plain
  | .strong => some (if c = '\\' then .strongEscape else if c = '\x27' then .plain else .strong)
  | .strongEscape => some .strong
  | .weak => some (if c = '\\' then .weakEscape else if c = '"' then .plain else .weak)
  | .weakEscape => some .weak

/-- The position after a text, or the part of it before a comment. -/
def scan (p : Position) : Text → Except Text Position
  | [] => .ok p
  | c :: s =>
    match p.next? c with
    | none => .error []
    | some q =>
      match scan q s with
      | .ok q => .ok q
      | .error before => .error (c :: before)

/-- The lines of a text with their line breaks. -/
def brokenLines : Text → List Text
  | [] => []
  | c :: s =>
    if c = '\n' then [c] :: brokenLines s
    else
      match s, brokenLines s with
      | [], _ => [[c]]
      | _, [] => [[c]]
      | _, l :: ls => (c :: l) :: ls

/-- A text without a line break at its end. -/
def chomp (s : Text) : Text :=
  match dropSuffix? ['\n'] s with
  | none => s
  | some s => (dropSuffix? ['\r'] s).getD s

/-- The next definition or comment of a text given by its lines, and the lines after it. There
is none if the text ends within quotes or blanks. -/
def definition? (p : Position) (before : Text) : List Text → Option (Text × List Text)
  | [] => none
  | line :: rest =>
    if (trimStart (before ++ line)).head? = some '#' then some ([], rest)
    else
      match scan p line with
      | .error start => some (before ++ start, rest)
      | .ok .plain => some (chomp (before ++ line), rest)
      | .ok q => definition? q (before ++ line) rest

/-! ## Values -/

/-- What a value is read as at some place. -/
inductive Mode where
  | bare
  | strong
  | weak
  | escape (weak : Bool)
  /-- After the value: only blanks and a comment may follow. -/
  | ended
  /-- The name of a variable after a dollar sign. -/
  | reference (weak : Bool) (name : Text)
  /-- The name of a variable between braces. -/
  | enclosed (weak : Bool) (name : Text)
  deriving Repr, DecidableEq

/-- Reading on within quotes or outside of them. -/
def Mode.back (weak : Bool) : Mode :=
  if weak then .weak else .bare

variable (vars : Variables)

/-- The value of a variable, which may be unset. -/
def valueOf (name : Text) : Text :=
  (List.lookup name vars).getD []

/-- The value that a text stands for from a place on. -/
def valueFrom? : Mode → Text → Option Text
  | .bare, [] => some []
  | .escape false, [] => some []
  | .ended, [] => some []
  | .reference false name, [] => some (valueOf vars name)
  | _, [] => none
  | .ended, c :: s =>
    if c = ' ' ∨ c = '\t' then valueFrom? .ended s
    else if c = '#' then some []
    else none
  | .escape weak, c :: s =>
    if c ∈ ['\\', '\x27', '"', '$', ' '] then (valueFrom? (.back weak) s).map (c :: ·)
    else if c = 'n' then (valueFrom? (.back weak) s).map ('\n' :: ·)
    else none
  | .strong, c :: s =>
    if c = '\x27' then valueFrom? .bare s else (valueFrom? .strong s).map (c :: ·)
  | .reference weak name, c :: s =>
    if isLetter c || isNumeric c then valueFrom? (.reference weak (name ++ [c])) s
    else if c = '\x7b' ∧ name.isEmpty then valueFrom? (.enclosed weak []) s
    else
      let value := valueOf vars name
      if c = '$' then (valueFrom? (.reference weak []) s).map (value ++ ·)
      else (valueFrom? (.back weak) s).map fun rest => value ++ c :: rest
  | .enclosed weak name, c :: s =>
    if c = '\x7d' then (valueFrom? (.back weak) s).map (valueOf vars name ++ ·)
    else valueFrom? (.enclosed weak (name ++ [c])) s
  | .weak, c :: s =>
    if c = '$' then valueFrom? (.reference true []) s
    else if c = '"' then valueFrom? .bare s
    else if c = '\\' then valueFrom? (.escape true) s
    else (valueFrom? .weak s).map (c :: ·)
  | .bare, c :: s =>
    if c = '$' then valueFrom? (.reference false []) s
    else if c = '\x27' then valueFrom? .strong s
    else if c = '"' then valueFrom? .weak s
    else if c = '\\' then valueFrom? (.escape false) s
    else if c = ' ' ∨ c = '\t' then valueFrom? .ended s
    else (valueFrom? .bare s).map (c :: ·)

/-! ## Definitions -/

/-- The name at the start of a text. -/
def name? (s : Text) : Option (Text × Text) :=
  match s with
  | [] => none
  | c :: _ =>
    if isAsciiLetter c || c == '_' then
      let name := s.takeWhile fun c => isAsciiLetter c || isAsciiDigit c || c == '_' || c == '.'
      some (name, trimStart (s.drop name.length))
    else none

/-- What follows the name of a definition: the name itself, or the one after `export`, and the
text after `=`. -/
def nameAndRest? (s : Text) : Option (Text × Text) := do
  let (name, rest) ← name? s
  match rest with
  | '=' :: value => some (name, value)
  | rest =>
    if name = "export".toList then
      match ← name? rest with
      | (name, '=' :: value) => some (name, value)
      | _ => none
    else none

/-- The variables with the definition of a line, if it holds one and its name is not set. -/
def define? (line : Text) : Option Variables :=
  let line := trimStart (trimEnd line)
  if line.isEmpty || line.head? == some '#' then some vars
  else do
    let (name, rest) ← nameAndRest? line
    let rest := trimStart rest
    let value ←
      if rest.isEmpty || rest.head? == some '#' then some []
      else valueFrom? vars .bare rest
    some (if (List.lookup name vars).isSome then vars else vars ++ [(name, value)])

/-- The variables with the definitions of at most `fuel` lines. -/
def defineLines : (fuel : Nat) → Variables → List Text → Variables
  | 0, vars, _ => vars
  | _, vars, [] => vars
  | fuel + 1, vars, lines =>
    match definition? .plain [] lines with
    | none => vars
    | some (line, rest) =>
      match vars.define? line with
      | none => vars
      | some vars => defineLines fuel vars rest

/-- The variables with the definitions of a file. -/
def withFile (content : Text) : Variables :=
  let lines := brokenLines ((dropPrefix? ['\uFEFF'] content).getD content)
  defineLines lines.length vars lines

end Variables
end AskSql
