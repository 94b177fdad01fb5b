import AskSql.Database.Connection

/-!
# Scripts

A database is kept in a file as the statements that make it, after a line that tells so.
-/

namespace AskSql.Database

/-- The line that the file of a database starts with. -/
def scriptHeader : Text := "-- database\n".toList

/-- The database that the text of a file makes, if it is one. -/
def ofScript? (content : Text) : Option Database :=
  match Text.dropPrefix? scriptHeader content with
  | none => none
  | some sql =>
    match ({} : Database).run sql with
    | (.ok _, db) => some db
    | (.error _, _) => none

end AskSql.Database
