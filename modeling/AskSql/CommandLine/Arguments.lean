import AskSql.Text.Basic

/-!
# Arguments

The words after the name of the program, as a command or as the reason why they are none. A
switch has a long name and a letter; its value follows as the next word, after `=`, or right
after the letter. Letters of switches without a value may share a word. A value that starts like
a switch has to be part of the same word, and after `--` no word is a switch any more.
-/

namespace AskSql.CommandLine

open Text

/-! ## Switches -/

/-- What follows a switch. -/
inductive Operand where
  | nothing
  | text
  /-- A path, which is never empty. -/
  | path
  deriving Repr, DecidableEq

/-- A switch of a command. -/
structure Switch where
  letter : Char
  name : String
  operand : Operand
  deriving Repr, DecidableEq

namespace Switch

/-- The path of a file with schema text. -/
def schemaFile : Switch := ⟨'s', "schema-file", .path⟩

/-- The connection string of the database. -/
def databaseUrl : Switch := ⟨'d', "database-url", .text⟩

/-- The path of a file to write to. -/
def output : Switch := ⟨'o', "output", .path⟩

/-- Text instead of JSON. -/
def text : Switch := ⟨'t', "text", .nothing⟩

end Switch

/-- Why arguments are no command. -/
inductive Stop where
  /-- They ask for help, or for the version. -/
  | help
  | misuse
  deriving Repr, DecidableEq

/-- What the arguments of a command hold. -/
structure Arguments where
  words : List Text := []
  /-- The values of the switches that are there, by letter. -/
  values : List (Char × Text) := []
  deriving Repr, DecidableEq

namespace Arguments

/-- The value of a switch, if it is there. -/
def value? (a : Arguments) (s : Switch) : Option Text :=
  a.values.lookup s.letter

/-- The arguments with a switch, which may not be there already. -/
def give (a : Arguments) (s : Switch) (value : Text) : Except Stop Arguments :=
  if (a.value? s).isSome || (s.operand == .path && value.isEmpty) then .error .misuse
  else .ok { a with values := a.values ++ [(s.letter, value)] }

/-- The arguments with a word, if they have room for it. -/
def addWord (a : Arguments) (room : Nat) (word : Text) : Except Stop Arguments :=
  if a.words.length < room then .ok { a with words := a.words ++ [word] } else .error .misuse

/-- The arguments with a row of words. -/
def addWords (a : Arguments) (room : Nat) : List Text → Except Stop Arguments
  | [] => .ok a
  | word :: rest =>
    match a.addWord room word with
    | .ok a => a.addWords room rest
    | .error e => .error e

/-- A word that is taken for a switch. -/
def looksLikeSwitch : Text → Bool
  | '-' :: _ :: _ => true
  | _ => false

variable (switches : List Switch)

/-- The arguments with the switches of a row of letters, and the switch that waits for its
value, if the last one does. -/
def letters (a : Arguments) : Text → Except Stop (Arguments × Option Switch)
  | [] => .ok (a, none)
  | c :: cs =>
    if c = 'h' then .error .help
    else
      match switches.find? (·.letter == c) with
      | none => .error .misuse
      | some s =>
        if s.operand = .nothing then
          match a.give s [] with
          | .ok a => letters a cs
          | .error e => .error e
        else
          match cs with
          | [] => .ok (a, some s)
          | '=' :: value => (a.give s value).map (·, none)
          | value => (a.give s value).map (·, none)

/-- The arguments with a switch by its long name, and the switch if it waits for its value. -/
def longName (a : Arguments) (s : Text) : Except Stop (Arguments × Option Switch) :=
  let (name, value) :=
    match breakAt? '=' s with
    | some (name, value) => (name, some value)
    | none => (s, none)
  if name = "help".toList then .error (if value.isNone then .help else .misuse)
  else
    match switches.find? (·.name.toList == name), value with
    | none, _ => .error .misuse
    | some s, none =>
      if s.operand = .nothing then (a.give s []).map (·, none) else .ok (a, some s)
    | some s, some value =>
      if s.operand = .nothing then .error .misuse else (a.give s value).map (·, none)

/-- The arguments with a row of further words, `room` of which may be no switch. -/
def read (room : Nat) : Arguments → List Text → Except Stop Arguments
  | a, [] => .ok a
  | a, word :: rest =>
    if word = "--".toList then a.addWords room rest
    else if looksLikeSwitch word then
      let reading :=
        match dropPrefix? "--".toList word with
        | some name => longName switches a name
        | none => letters switches a (word.drop 1)
      match reading with
      | .error e => .error e
      | .ok (a, none) => read room a rest
      | .ok (a, some s) =>
        match rest with
        | [] => .error .misuse
        | value :: rest =>
          if looksLikeSwitch value then .error .misuse
          else
            match a.give s value with
            | .ok a => read room a rest
            | .error e => .error e
    else
      match a.addWord room word with
      | .ok a => read room a rest
      | .error e => .error e

end Arguments

/-! ## Commands -/

/-- A request in plain words, and what it is about. -/
structure Question where
  text : Text
  schemaFile : Option Text
  databaseUrl : Option Text
  deriving Repr, DecidableEq

/-- How the schema of a database is to be told. -/
structure SchemaOptions where
  output : Option Text
  asText : Bool
  databaseUrl : Option Text
  deriving Repr, DecidableEq

/-- A command. -/
inductive Command where
  | convert (q : Question)
  | execute (q : Question)
  | schema (o : SchemaOptions)
  | health
  deriving Repr, DecidableEq

namespace Command

/-- The names of all commands. -/
def names : List Text :=
  ["convert", "execute", "schema", "health"].map String.toList

/-- The request in the arguments of a command. -/
def question (args : List Text) : Except Stop Question := do
  let a ← Arguments.read [.schemaFile, .databaseUrl] 1 {} args
  match a.words with
  | [text] => .ok ⟨text, a.value? .schemaFile, a.value? .databaseUrl⟩
  | _ => .error .misuse

/-- The options in the arguments of a command that tells the schema. -/
def schemaOptions (args : List Text) : Except Stop SchemaOptions := do
  let a ← Arguments.read [.output, .text, .databaseUrl] 0 {} args
  let asText := (a.value? .text).isSome
  if asText && (a.value? .output).isSome then .error .misuse
  else .ok ⟨a.value? .output, asText, a.value? .databaseUrl⟩

/-- What a word in place of a command stops at. -/
def stopAt : Text → Stop
  | '-' :: 'h' :: _ => .help
  | '-' :: 'V' :: _ => .help
  | word => if word ∈ ["--help".toList, "--version".toList] then .help else .misuse

/-- The command that some words make. -/
def parse : List Text → Except Stop Command
  | [] => .error .misuse
  | word :: args =>
    match String.ofList word with
    | "convert" => (question args).map .convert
    | "execute" => (question args).map .execute
    | "schema" => (schemaOptions args).map .schema
    | "health" => (Arguments.read [] 0 {} args).map fun _ => .health
    | "help" =>
      match args with
      | [] => .error .help
      | [topic] =>
        .error (if topic ∈ "help".toList :: names then .help else .misuse)
      | _ => .error .misuse
    | _ => .error (stopAt word)

end Command
end AskSql.CommandLine
