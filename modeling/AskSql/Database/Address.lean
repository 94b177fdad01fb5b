import AskSql.Database.Connection
import AskSql.Database.FileName
import AskSql.Text.Escaped

/-!
# Connection strings

What the connection string of a database says: the file, percent-decoded, and after a question
mark how it is to be opened. A database without a file, or one that is asked to be in memory,
is new with each connection. A file that holds something else connects as well; statements find
out later.
-/

namespace AskSql

open Text

/-- What has a path of its own. -/
inductive File where
  | text (content : Text)
  | database (db : Database)
  /-- Bytes that are neither. -/
  | binary
  | directory
  deriving Repr, DecidableEq

/-- What a path leads to. -/
inductive Place where
  | file (f : File)
  /-- Nothing yet, in a directory that is there. -/
  | free
  /-- Nothing, and no directory for it. -/
  | nowhere
  /-- Something on the way is no directory. -/
  | blocked
  deriving Repr, DecidableEq

/-- What a connection string says. -/
structure Address where
  file : Text
  /-- The database is in memory. -/
  inMemory : Bool := false
  access : Access := .write
  /-- Nothing else changes the file. -/
  isImmutable : Bool := false
  /-- The way of the system to files, by name. -/
  fileSystem : Option Text := none
  deriving Repr, DecidableEq

namespace Address

/-! ## Reading -/

/-- A text without the non-empty text `p` in front, as often as it is there. -/
def dropRepeated (p : Text) : (fuel : Nat) → Text → Text
  | 0, s => s
  | fuel + 1, s =>
    match dropPrefix? p s with
    | some rest => dropRepeated p fuel rest
    | none => s

/-- A connection string without the kind of database. -/
def withoutKind (url : Text) : Text :=
  let s := dropRepeated "sqlite://".toList url.length url
  dropRepeated "sqlite:".toList s.length s

/-- A value that a setting does not take. -/
def unknownValue (setting : String) (value : Text) : StoreError :=
  .settings ("unknown value ".toList ++ escaped value ++ " for `".toList ++ setting.toList ++
    ['\x60'])

/-- The name and the value of a setting. -/
def settingOf (s : Text) : Text × Text :=
  let decoded := fun (s : Text) =>
    ofUtf8Lossy (percentDecoded (s.map fun c => if c = '+' then ' ' else c))
  match breakAt? '=' s with
  | some (name, value) => (decoded name, decoded value)
  | none => (decoded s, [])

/-- The address with a setting. -/
def set (a : Address) (name value : Text) : Except StoreError Address :=
  match String.ofList name with
  | "mode" =>
    match String.ofList value with
    | "ro" => .ok { a with access := .read }
    | "rw" => .ok a
    | "rwc" => .ok (if a.access = .read then a else { a with access := .create })
    | "memory" => .ok { a with inMemory := true }
    | _ => .error (unknownValue "mode" value)
  | "cache" =>
    match String.ofList value with
    | "private" | "shared" => .ok a
    | _ => .error (unknownValue "cache" value)
  | "immutable" =>
    match String.ofList value with
    | "true" | "1" => .ok { a with isImmutable := true }
    | "false" | "0" => .ok { a with isImmutable := false }
    | _ => .error (unknownValue "immutable" value)
  | "vfs" => .ok { a with fileSystem := some value }
  | _ =>
    .error (.settings ("unknown query parameter `".toList ++ name ++
      "` while parsing connection URL".toList))

/-- The address with all settings of a list. -/
def setAll (a : Address) : List Text → Except StoreError Address
  | [] => .ok a
  | s :: rest =>
    if s.isEmpty then a.setAll rest
    else
      match a.set (settingOf s).1 (settingOf s).2 with
      | .ok a => a.setAll rest
      | .error e => .error e

/-- The address in a connection string. -/
def parse (url : Text) : Except StoreError Address :=
  let s := withoutKind url
  let (written, settings) := (breakAt? '?' s).getD (s, [])
  match ofUtf8 0 (percentDecoded written) with
  | .error (fault, index) => .error (.settings (fault.message index))
  | .ok file =>
    let a : Address := { file, inMemory := file = ":memory:".toList || file.isEmpty }
    a.setAll (splitWhere (· == '&') settings)

/-! ## Opening -/

/-- How the file of an address is opened. Its name is a URI only where the address says nothing
that would have to be added to it. -/
def opening (a : Address) : Except StoreError Opening :=
  let plain : Opening := { file := a.file, access := a.access, inMemory := a.inMemory }
  if a.isImmutable || a.fileSystem.isSome then
    .ok { plain with
      file := a.file.takeWhile (· != '\x00')
      fileSystem := a.fileSystem.map fun name =>
        (name.map fun c => if c = ' ' then '+' else c).takeWhile (· != '\x00') }
  else if a.file.contains '\x00' then
    .error (.communication "filename passed to SQLite must not contain nul bytes".toList)
  else plain.ofName

/-- The ways to files that there are. -/
def fileSystems : List Text :=
  ["unix", "unix-dotfile", "unix-excl", "unix-none", "memdb"].map String.toList

/-- A connection to what an address leads to. A file with a single byte counts as empty. -/
def connect (a : Address) (find : Text → Place) : Except StoreError Connection := do
  let o ← a.opening
  let cannotOpen := StoreError.database 14 "unable to open database file".toList
  match o.fileSystem.filter fun name => !fileSystems.contains name with
  | some name => .error (.database 1 ("no such vfs: ".toList ++ name))
  | none =>
    if o.inMemory || o.file.isEmpty || o.file == ":memory:".toList ||
        o.fileSystem == some "memdb".toList then
      .ok .fresh
    else
      match find o.file with
      | .file (.database db) => .ok (.live db)
      | .file (.text content) =>
        if (content.flatMap utf8).length < 2 then .ok .fresh else .ok .withoutDatabase
      | .file .binary => .ok .withoutDatabase
      | .file .directory => .error cannotOpen
      | .free => if o.access = .create then .ok .fresh else .error cannotOpen
      | .nowhere => .error cannotOpen
      | .blocked => .error cannotOpen

end Address

/-- A connection to the database of a connection string. -/
def connect (find : Text → Place) (url : Text) : Except StoreError Connection :=
  match DatabaseKind.ofUrl? url with
  | none => .error (.unknownDatabase url)
  | some .sqlite =>
    match Address.parse url with
    | .ok a => a.connect find
    | .error e => .error e
  | some kind => .error (.unsupported kind.name)

end AskSql
