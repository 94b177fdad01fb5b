import AskSql.Failure
import AskSql.Text.Utf8

/-!
# File names of databases

The name of a file may be written as a URI: after `file:`, percent-encoded, and with settings
behind a question mark. What is written there about the way to open the file is checked against
the way in which it is to be opened anyway.
-/

namespace AskSql

open Text

/-- What may be done with the file of a database. -/
inductive Access where
  | read
  | write
  /-- Write, and make the file if it is missing. -/
  | create
  deriving Repr, DecidableEq

/-- `a` allows no more than `b`. -/
def Access.isWithin : Access → Access → Bool
  | .read, _ => true
  | .write, b => b != .read
  | .create, b => b == .create

/-- How a file is opened. -/
structure Opening where
  file : Text
  access : Access := .write
  /-- There is no file: the database is in memory. -/
  inMemory : Bool := false
  /-- The way of the system to files, by name. -/
  fileSystem : Option Text := none
  deriving Repr, DecidableEq

namespace Opening

/-- A part of a URI, percent-decoded. It ends at the first zero byte. -/
def decoded (s : Text) : Text :=
  ofUtf8Lossy ((percentDecoded s).takeWhile (· != 0))

/-- The part before the first `c` and the part after it, which is empty if there is no `c`. -/
def splitAt (c : Char) (s : Text) : Text × Text :=
  (breakAt? c s).getD (s, [])

/-- A database error that the wording is all of. -/
def refusal (wording : String) (subject : Text) : StoreError :=
  .database 1 (wording.toList ++ subject)

/-- How a file is opened after the setting `mode`. -/
def setMode (o : Opening) (value : Text) : Except StoreError Opening :=
  let allow := fun access : Access =>
    if o.inMemory || access.isWithin o.access then .ok { o with access, inMemory := false }
    else Except.error (StoreError.database 3 ("access mode not allowed: ".toList ++ value))
  match String.ofList value with
  | "ro" => allow .read
  | "rw" => allow .write
  | "rwc" => allow .create
  | "memory" => .ok { o with inMemory := true }
  | _ => .error (refusal "no such access mode: " value)

/-- How a file is opened after a setting of its URI. -/
def set (o : Opening) (name value : Text) : Except StoreError Opening :=
  match String.ofList name with
  | "vfs" => .ok { o with fileSystem := some value }
  | "cache" =>
    if value = "shared".toList ∨ value = "private".toList then .ok o
    else .error (refusal "no such cache mode: " value)
  | "mode" => o.setMode value
  | _ => .ok o

/-- How a file is opened after some settings, each of them with its value. -/
def setAll (o : Opening) : List (Text × Text) → Except StoreError Opening
  | [] => .ok o
  | (name, value) :: rest => do
    let o ← if name.isEmpty then .ok o else o.set name value
    o.setAll rest

/-- How a file is opened whose name may be a URI. -/
def ofName (o : Opening) : Except StoreError Opening :=
  match dropPrefix? "file:".toList o.file with
  | none => .ok o
  | some s => do
    let (authority, s) := match dropPrefix? "//".toList s with
      | some s => s.span (· != '/')
      | none => ([], s)
    if !authority.isEmpty && authority != "localhost".toList then
      .error (refusal "invalid uri authority: " authority)
    else
      let (s, _) := splitAt '#' s
      let (file, settings) := splitAt '?' s
      let settings := (splitWhere (· == '&') settings).map fun setting =>
        let (name, value) := splitAt '=' setting
        (decoded name, decoded value)
      { o with file := decoded file }.setAll settings

end Opening
end AskSql
