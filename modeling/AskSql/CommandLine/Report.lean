import AskSql.CommandLine.Arguments
import AskSql.CommandLine.Files
import AskSql.CommandLine.Variables
import AskSql.Service.Basic

/-!
# Reports

What a command prints, which file it writes, and how it ends. A command finds its variables and
files in a world, which also answers the requests to providers. Remarks on the way are printed
line by line, each after its level. A failure is told as the last line: its cause, and the causes
behind it. A panic ends a command as well, and nothing is told of it on the standard output.
-/

namespace AskSql.CommandLine

open Text

/-- What surrounds a command. -/
structure World where
  environment : Variables
  files : Files
  endpoint : Endpoint
  /-- What the parser says of a text that is no SQL. -/
  wording : Sql.Wording

/-- What a command has done. -/
structure Report where
  /-- Everything printed. -/
  output : Text := []
  /-- The file written, by path, and its content. -/
  written : Option (Text × Text) := none
  exitCode : Nat := 0
  deriving Repr, DecidableEq

/-- What ends the work of a command before its time. -/
inductive Failure where
  /-- A cause, and the causes behind it. -/
  | causes (chain : List Text)
  | panic
  deriving Repr, DecidableEq

/-- The work of a command: it reports while it runs, and may fail. -/
abbrev Work := ExceptT Failure (StateM Report)

namespace Work

/-- Prints a text. -/
def print (s : Text) : Work Unit :=
  modify fun r => { r with output := r.output ++ s }

/-- Prints a line. -/
def printLine (s : Text) : Work Unit :=
  print (s ++ ['\n'])

/-- A remark as it is printed. Control characters that a terminal would act on are written by
their code. -/
def remark (s : Text) : Text :=
  s.flatMap fun c =>
    let n := c.toNat
    if n = 0x1B ∨ n = 0x07 ∨ n = 0x08 ∨ n = 0x0C ∨ n = 0x7F then
      '\\' :: 'x' :: hexByte n
    else if 0x80 ≤ n ∧ n ≤ 0x9F then "\\u\x7b".toList ++ hexByte n ++ ['\x7d']
    else [c]
where
  /-- Two hexadecimal digits. -/
  hexByte (n : Nat) : Text := [Nat.digitChar (n / 16), Nat.digitChar (n % 16)]

/-- Prints a remark on what has been done. -/
def inform (s : Text) : Work Unit :=
  printLine (" INFO ".toList ++ remark s)

/-- Prints a remark on what went wrong. -/
def warn (s : Text) : Work Unit :=
  printLine (" WARN ".toList ++ remark s)

/-- Fails with a cause, and the causes behind it. -/
def fail {α : Type} (chain : List Text) : Work α :=
  throw (.causes chain)

/-- The value of a step, or its failure with a cause in front. -/
def orFail {ε α : Type} (cause : Text) (chain : ε → List Text) : Except ε α → Work α
  | .ok a => pure a
  | .error e => fail (cause :: chain e)

/-- The value of a program, with a store and a provider to answer its calls. -/
def ofProgram {α : Type} (store : PartialStore) (endpoint : Endpoint) (p : Program α) : Work α :=
  match p.run? (store.answers? endpoint) with
  | some e => pure e.value
  | none => throw .panic

/-- The report of some work. -/
def report (work : Work Unit) : Report :=
  match work.run.run {} with
  | (.ok (), r) => r
  | (.error (.causes chain), r) =>
    { r with
      output := r.output ++ "ERROR ".toList ++
        remark ("Command execution failed: ".toList ++ join ": ".toList chain) ++ ['\n']
      exitCode := 1 }
  | (.error .panic, r) => { r with exitCode := 101 }

end Work

open Work

/-! ## Opening -/

/-- What is told where no database is named. -/
def missingUrl : Text :=
  "Missing database URL, either set the `DATABASE_URL` environment variable, ".toList ++
    "or specify it manually via --database-url [URL]".toList

/-- The variables of a world, with those that its file of variables adds. -/
def World.allVariables (w : World) : Variables :=
  match w.files.read ".env".toList with
  | .ok content => w.environment.withFile content
  | .error _ => w.environment

/-- A store, and the strategy that requests about it follow. -/
def openStore (w : World) (url : Option Text) : Work (Strategy × PartialStore) := do
  let lookup := fun name => w.allVariables.lookup name
  match url.or (lookup "DATABASE_URL".toList) with
  | none => fail [missingUrl]
  | some url =>
    match Config.warning? lookup with
    | some warning => warn warning
    | none => pure ()
    let config ← orFail "Failed to read configuration".toList
      (fun e => [ConfigError.message e]) (Config.load lookup)
    let connection ← orFail "Failed to connect to database".toList StoreError.chain
      (connect w.files.place url)
    return (.ofConfig config, connection.toStore w.wording)

/-- The schema text in a file, if one is named. -/
def schemaText (w : World) : Option Text → Work (Option Text)
  | none => pure none
  | some path => do
    let content ← orFail ("Failed to read schema file ".toList ++ path)
      (fun e => [FileError.message e]) (w.files.read path)
    return some content

/-! ## Commands -/

/-- What keeps a provider from answering, unless there is none to ask. -/
def remarkOn : Option GenerationError → Option Text
  | none => none
  | some (.completion (.unconfigured _)) => none
  | some e => some ("Generation failed, using heuristic: ".toList ++ e.message)

/-- SQL for a question, with a remark if no provider gave it. -/
def generated (w : World) (q : Question) : Work (Option Generated × PartialStore) := do
  let (strategy, store) ← openStore w q.databaseUrl
  let schemaText ← schemaText w q.schemaFile
  let g ← ofProgram store w.endpoint (Service.generation? strategy ⟨some q.text, schemaText⟩)
  match remarkOn (g.bind (·.failure)) with
  | some remark => warn remark
  | none => pure ()
  return (g, store)

/-- Prints SQL for a question. -/
def tellQuery (w : World) (q : Question) : Work Unit := do
  let (g, _) ← generated w q
  let response := Service.conversion g
  printLine response.body.toJson.pretty
  match response.status, response.body.explanation with
  | .badRequest, _ => fail ["Request rejected".toList]
  | .ok, some explanation => inform explanation
  | .ok, none => pure ()

/-- Tells the response to a question that was executed. -/
def tellResponse (response : Response DataResponse) : Work Unit := do
  match response.status, response.body.error with
  | .ok, some e => warn e
  | _, _ => pure ()
  printLine response.body.toJson.pretty
  match response.status, response.body.error, response.body.success with
  | .badRequest, _, _ => fail ["Request rejected".toList]
  | .ok, some e, false => fail ["Query was not executed successfully: ".toList ++ e]
  | .ok, _, _ => inform (Text.ofNat response.body.rowCount ++ " rows returned".toList)

/-- Prints SQL for a question, and its result. -/
def tellResult (w : World) (q : Question) : Work Unit := do
  let (g, store) ← generated w q
  tellResponse (← ofProgram store w.endpoint (Service.execution g))

/-- The files once the directory of a file is there. -/
def directoryMade (w : World) (path : Text) : Work Files :=
  match (Files.parent? path).filter (!·.isEmpty) with
  | none => pure w.files
  | some directory =>
    orFail ("Failed to create ".toList ++ directory) (fun e => [FileError.message e])
      (w.files.makeDirectories directory.length directory)

/-- Writes a text to a file, in a directory that is made if it is not there. -/
def write (w : World) (path content : Text) : Work Unit := do
  let files ← directoryMade w path
  match files.writeFault? path with
  | some e => fail ["Failed to write schema".toList, e.message]
  | none => modify fun r => { r with written := some (path, content) }

/-- Tells the schema of a database. -/
def tellSchema (w : World) (o : SchemaOptions) : Work Unit := do
  let (_, store) ← openStore w o.databaseUrl
  let response ← orFail "Failed to introspect database".toList IntrospectionError.chain
    (← ofProgram store w.endpoint Service.telling)
  if o.asText then print response.text
  else
    let json := response.toJson.pretty
    match o.output with
    | none => printLine json
    | some path =>
      write w path json
      inform ("Schema of ".toList ++ Text.ofNat response.tableCount ++
        " tables written to ".toList ++ path)

/-- Carries out a command. -/
def Command.work (w : World) : Command → Work Unit
  | .convert q => tellQuery w q
  | .execute q => tellResult w q
  | .schema o => tellSchema w o
  | .health => printLine Service.healthMessage

/-! ## Running -/

/-- How the program is called. -/
def usage : Text :=
  "Turn natural-language requests into SQL

Usage: asksql <COMMAND>

Commands:
  convert <TEXT> [-s FILE] [-d URL]   Convert a request into SQL
  execute <TEXT> [-s FILE] [-d URL]   Convert a request into SQL and run it, read-only
  schema [-o FILE | -t] [-d URL]      Introspect the database schema
  health                              Check that the tool is operational
".toList

/-- The report of the program on the words it is called with. What is wrong with the words is
not told on the standard output. -/
def run (w : World) (args : List Text) : Report :=
  match Command.parse args with
  | .ok c => (c.work w).report
  | .error .help => { output := usage }
  | .error .misuse => { exitCode := 2 }

end AskSql.CommandLine
