import AskSql.CommandLine.Report
import AskSql.Database.Script

/-!
# The program

Reads the variables and files that a command looks at, runs the command on them, and does what
its report says. No provider can be reached from here, so that requests are answered by the
composer, and nothing more is said of a text that is no SQL than that it is none.
-/

namespace AskSql

open CommandLine

/-- A path and those above it. -/
def pathsTo : (depth : Nat) → Text → List Text
  | 0, _ => []
  | depth + 1, path =>
    if path.isEmpty then []
    else path :: pathsTo depth ((Files.parent? path).getD [])

/-- The paths that the arguments of a command may name. -/
def paths (args : List Text) : List Text :=
  let named :=
    match Command.parse args with
    | .ok (.convert q) | .ok (.execute q) => q.schemaFile
    | .ok (.schema o) => o.output
    | _ => none
  (named.map fun path => pathsTo path.length path).getD []

/-- The connection strings that a command may use. -/
def urls (args : List Text) (vars : Variables) : List Text :=
  let given :=
    match Command.parse args with
    | .ok (.convert q) | .ok (.execute q) => q.databaseUrl
    | .ok (.schema o) => o.databaseUrl
    | _ => none
  given.toList ++ (vars.filter (·.1 == "DATABASE_URL".toList)).map (·.2)

/-- The file of a connection string and the places above it, if it has one. -/
def databasePaths (url : Text) : List Text :=
  match (Address.parse url).bind Address.opening with
  | .ok o => if o.inMemory then [] else pathsTo o.file.length o.file
  | .error _ => []

/-- The names that a command or the file of variables may look up. -/
def variableNames (content : Text) : List Text :=
  ["DATABASE_URL", "LLM_PROVIDER", "LLM_TIMEOUT_SECS", "OPENAI_API_KEY", "OPENAI_MODEL",
    "OPENAI_BASE_URL", "GEMINI_API_KEY", "GEMINI_MODEL", "GEMINI_BASE_URL"].map String.toList ++
  Text.splitWhere (fun c => !(Text.isIdentifierPart c || c == '.')) content

/-- What the bytes of a file are. -/
def fileOf (bytes : ByteArray) : File :=
  match String.fromUTF8? bytes with
  | none => .binary
  | some content =>
    match Database.ofScript? content.toList with
    | some db => .database db
    | none => .text content.toList

/-- What a path leads to in the file system, if there is something that can be read. -/
def readFile (path : Text) : IO (Option (Text × File)) := do
  try
    let place ← IO.FS.realPath (String.ofList path)
    if ← place.isDir then return some (path, .directory)
    else return some (path, fileOf (← IO.FS.readBinFile place))
  catch _ => return none

/-- The files at some paths. -/
def readFiles (names : List Text) : IO Files :=
  names.filterMapM readFile

/-- The values of some variables of the process. -/
def readVariables (names : List Text) : IO Variables :=
  names.filterMapM fun name => do
    if name.isEmpty then return none
    return (← IO.getEnv (String.ofList name)).map fun value => (name, value.toList)

/-- The world of a command. -/
def readWorld (args : List Text) : IO World := do
  let named ← readFiles (".env".toList :: paths args)
  let content := (Files.read named ".env".toList).toOption.getD []
  let vars ← readVariables (variableNames content)
  let all := vars.withFile content
  let databases ← readFiles ((urls args all).flatMap databasePaths)
  return ⟨vars, named ++ databases, fun _ => .unreachable, fun _ => []⟩

/-- Writes what a report says. -/
def writeFile (path content : Text) : IO Unit := do
  match (Files.parent? path).filter (!·.isEmpty) with
  | some directory => IO.FS.createDirAll (String.ofList directory)
  | none => pure ()
  IO.FS.writeFile (String.ofList path) (String.ofList content)

end AskSql

/-- Runs the program on the words it is called with. -/
def main (args : List String) : IO UInt32 := do
  let words := args.map String.toList
  let report := AskSql.CommandLine.run (← AskSql.readWorld words) words
  match report.written with
  | some (path, content) => AskSql.writeFile path content
  | none => pure ()
  IO.print (String.ofList report.output)
  return UInt32.ofNat report.exitCode
