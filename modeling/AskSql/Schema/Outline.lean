import AskSql.Schema.Basic
import AskSql.Text.Quoted

/-!
# Outlines of schema text

What can be read back from annotated schema text, whoever wrote it: the tables with their
columns, the primary-key marks and the first target of each foreign key.

* A table starts where a line starts with a name, a blank and `(`. It ends at the matching
  `)`, or at the end of the text.
* The first word of a column line is the name of the column; commas at the end of the line do
  not count.
* The annotations of a column stand between the first `[` and the last `]` of its line,
  separated by commas. `PK` marks a primary key, `FK->` a foreign key, of whose targets,
  separated by `|`, the first one counts.

Nothing between double quotes is structure. The reader never fails: what is no table and no
column is passed over.
-/

namespace AskSql.Outline

/-- A column as read from schema text. -/
structure Column where
  name : Text
  primaryKey : Bool
  foreignKey : Option ForeignKeyTarget
  deriving Repr, DecidableEq

/-- A table as read from schema text. -/
structure Table where
  name : Text
  columns : List Column
  deriving Repr, DecidableEq

open Text

/-! ## Headers -/

/-- The rest of a quoted name, closing quote included, and the text after it. A doubled quote
is part of the name; a line break is not. -/
def quotedName? : Text → Option (Text × Text)
  | '"' :: '"' :: s => (quotedName? s).map fun (name, rest) => ('"' :: '"' :: name, rest)
  | c :: s =>
    if c = '"' then some (['"'], s)
    else if c = '\n' then none
    else (quotedName? s).map fun (name, rest) => (c :: name, rest)
  | [] => none

/-- The characters that a bare table name is made of. -/
def isBareNameChar (c : Char) : Bool :=
  !(isBlank c || c == '(' || c == ')' || c == '[' || c == ']' || c == ',' || c == '"')

/-- The name at the start of a text, as written, and the text after it. -/
def headerName? : Text → Option (Text × Text)
  | '"' :: s => (quotedName? s).map fun (name, rest) => ('"' :: name, rest)
  | s =>
    match s.span isBareNameChar with
    | ([], _) => none
    | (name, rest) => some (name, rest)

/-- A table header at the start of a text: the name, as written, and the text after the
opening parenthesis. -/
def headerAt? (s : Text) : Option (Text × Text) :=
  match headerName? s with
  | some (name, ' ' :: '(' :: rest) => some (name, rest)
  | _ => none

/-- The text from the start of each line but the first on. -/
def afterLineBreaks : Text → List Text
  | [] => []
  | c :: s => if c = '\n' then s :: afterLineBreaks s else afterLineBreaks s

/-- The text from the start of each line on. -/
def lineStarts (s : Text) : List Text :=
  s :: afterLineBreaks s

/-- The table headers of a text. -/
def headers (s : Text) : List (Text × Text) :=
  (lineStarts s).filterMap headerAt?

/-! ## Columns -/

/-- A target written as `table.column`, split at the first unquoted dot. Both parts have to
name something. -/
def target? (written : Text) : Option ForeignKeyTarget :=
  match breakUnquoted? (· == '.') (trim written) with
  | none => none
  | some (table, column) =>
    let target : ForeignKeyTarget := ⟨unquote table, unquote column⟩
    if target.table.isEmpty || target.column.isEmpty then none else some target

/-- The column with one more annotation taken into account. -/
def Column.annotate (c : Column) (mark : Text) : Column :=
  if mark = "PK".toList then { c with primaryKey := true }
  else
    match dropPrefix? "FK->".toList mark with
    | some targets => { c with foreignKey := (splitUnquoted '|' targets).head?.bind target? }
    | none => c

/-- The definition on a column line and its annotations. -/
def splitAnnotations (line : Text) : Text × Text :=
  match breakUnquoted? (· == '[') line with
  | none => (line, [])
  | some (definition, rest) =>
    match beforeLastUnquoted? ']' false rest with
    | some annotations => (definition, annotations)
    | none => (line, [])

/-- A column line without the blanks around it and the commas at its end. -/
def stripColumnLine (line : Text) : Text :=
  trimEnd (dropEndWhile (· == ',') (trim line))

/-- The column on a line, if the line names one. -/
def column? (line : Text) : Option Column :=
  let (definition, annotations) := splitAnnotations (stripColumnLine line)
  match trimStart definition with
  | [] => none
  | definition =>
    let column : Column := ⟨unquote (spanUnquoted isBlank false definition).1, false, none⟩
    some (((splitUnquoted ',' annotations).map trim).foldl Column.annotate column)

/-! ## Tables -/

/-- The columns in the body of a table. -/
def columns (body : Text) : List Column :=
  (lines body).filterMap column?

/-- All tables that a text declares, in order of appearance. -/
def tables (s : Text) : List Table :=
  (headers s).map fun (name, rest) => ⟨unquote name, columns (enclosedBody rest)⟩

/-- The names of all tables that a text declares, in order of appearance, each once. -/
def tableNames (s : Text) : List Text :=
  distinct ((headers s).map fun (name, _) => unquote name)

end AskSql.Outline
