import AskSql.Database.Address

/-!
# Files

The files that commands look at, by path. What a path leads to is told from the paths alone:
whatever lies above a file is a directory. Errors are worded as the system words them.
-/

namespace AskSql

open Text

/-- Files by path from the working directory. -/
abbrev Files := List (Text × File)

/-- Why a file cannot be read or written. -/
inductive FileError where
  | missing
  | exists
  | notDirectory
  | isDirectory
  | notText
  deriving Repr, DecidableEq

/-- The wording. -/
def FileError.message : FileError → Text
  | .missing => "No such file or directory (os error 2)".toList
  | .exists => "File exists (os error 17)".toList
  | .notDirectory => "Not a directory (os error 20)".toList
  | .isDirectory => "Is a directory (os error 21)".toList
  | .notText => "stream did not contain valid UTF-8".toList

namespace Files

/-! ## Places -/

/-- The way to a place, last step first. It begins at the working directory, with steps up from
there, or with `/` at the top of all. -/
abbrev Steps := List Text

/-- A part of a path that names nothing. -/
def isNoStep (part : Text) : Bool :=
  part.isEmpty || part == ['.']

/-- The step up. -/
def stepUp : Text := ['.', '.']

/-- The way to the directory above a place. The top is above itself. -/
def above (steps : Steps) : Steps :=
  match steps with
  | [] => [stepUp]
  | step :: rest =>
    if step = stepUp then stepUp :: steps else if step = ['/'] then steps else rest

/-- The way on, by a part of a path. -/
def onward (steps : Steps) (part : Text) : Steps :=
  if isNoStep part then steps else if part = stepUp then above steps else part :: steps

/-- Where a path begins, and its parts. -/
def start (path : Text) : Steps × List Text :=
  match path with
  | '/' :: rest => ([['/']], splitWhere (· == '/') rest)
  | path => ([], splitWhere (· == '/') path)

/-- The way that a path describes. -/
def stepsOf (path : Text) : Steps :=
  (start path).2.foldl onward (start path).1

/-- What there is at a place: a file with a path, or a directory, which is any place above one
of them. -/
def at? (files : Files) (steps : Steps) : Option File :=
  match files.find? fun entry => stepsOf entry.1 == steps with
  | some entry => some entry.2
  | none =>
    if steps.all (· == stepUp) || steps = [['/']] ||
        files.any fun entry => steps.isSuffixOf (stepsOf entry.1) then some .directory
    else none

/-- The place at the end of a path, from a place on. All places on the way are directories. -/
def follow (files : Files) (steps : Steps) : List Text → Except FileError Steps
  | [] => .ok steps
  | part :: rest =>
    match files.at? steps with
    | none => .error .missing
    | some .directory => files.follow (onward steps part) rest
    | some _ => .error .notDirectory

/-- What a path leads to. -/
def find (files : Files) (path : Text) : Except FileError File :=
  if path.isEmpty then .error .missing
  else
    match files.follow (start path).1 (start path).2 with
    | .error e => .error e
    | .ok steps =>
      match files.at? steps with
      | some file => .ok file
      | none => .error .missing

/-- The place at the end of a path, from a place on, where what is missing can be left again. -/
def followLoosely (files : Files) (steps : Steps) : List Text → Option Steps
  | [] => some steps
  | part :: rest =>
    let isStep := !isNoStep part && part != stepUp
    match files.at? steps with
    | none | some .directory => files.followLoosely (onward steps part) rest
    | some _ => if isStep then none else files.followLoosely (onward steps part) rest

/-- What the path of a database leads to. The path is made plain first: steps up take back what
is before them. -/
def place (files : Files) (path : Text) : Place :=
  match files.followLoosely (start path).1 (start path).2 with
  | none => .blocked
  | some steps =>
    match files.at? steps with
    | some file => .file file
    | none => if files.at? steps.tail = some .directory then .free else .nowhere

/-! ## Paths -/

/-- A path without its last step, if it has one. -/
def parent? (path : Text) : Option Text :=
  let trimmed := fun (parts : List Text) => (parts.reverse.dropWhile isNoStep).reverse
  match splitWhere (· == '/') path with
  | [] => none
  | first :: rest =>
    match trimmed rest with
    | [] => if first.isEmpty then none else some []
    | parts =>
      match trimmed parts.dropLast with
      | [] => some (if first.isEmpty then ['/'] else first)
      | parts => some (join ['/'] (first :: parts))

/-! ## Reading and writing -/

/-- The text in a file. A database is no text, unless nothing has been put into it. -/
def read (files : Files) (path : Text) : Except FileError Text :=
  match files.find path with
  | .ok (.text content) => .ok content
  | .ok (.database db) => if db.entries.isEmpty then .ok [] else .error .notText
  | .ok .binary => .error .notText
  | .ok .directory => .error .isDirectory
  | .error e => .error e

/-- The parts of a path without the slashes at its end. -/
def plainParts (path : Text) : List Text :=
  ((start path).2.reverse.dropWhile List.isEmpty).reverse

/-- The files once a directory is made, in a directory that is there. -/
def makeDirectory (files : Files) (path : Text) : Except FileError Files := do
  let steps ← files.follow (start path).1 (plainParts path)
  match files.at? steps with
  | some _ => .error .exists
  | none => .ok ((path, .directory) :: files)

/-- The files once a directory is there. Where it is missing, it is made, and those above it
before; `depth` bounds their number. -/
def makeDirectories (files : Files) : (depth : Nat) → Text → Except FileError Files
  | 0, _ => .ok files
  | depth + 1, path =>
    let settled := fun (files : Files) (e : FileError) =>
      match files.find path with
      | .ok .directory => .ok files
      | _ => Except.error e
    if path.isEmpty then .ok files
    else
      match files.makeDirectory path with
      | .ok files => .ok files
      | .error .missing => do
        let files ← files.makeDirectories depth ((parent? path).getD [])
        match files.makeDirectory path with
        | .ok files => .ok files
        | .error e => settled files e
      | .error e => settled files e

/-- What keeps a text from being written to a file. -/
def writeFault? (files : Files) (path : Text) : Option FileError :=
  let parts := plainParts path
  match files.follow (start path).1 parts with
  | .error e => some e
  | .ok steps =>
    if parts.length < (start path).2.length then some .isDirectory
    else if files.at? steps = some .directory then some .isDirectory
    else none

end Files
end AskSql
