import AskSql.Catalog.Basic
import AskSql.Row
import AskSql.Text.Case

/-!
# Stores

A store has a catalog and answers statements with rows.
-/

namespace AskSql

/-- A relational store. -/
structure Store where
  catalog : Catalog
  /-- All rows that a statement returns. -/
  fetch : Text → Except StoreError (List Row)

namespace Store

/-- A store that has been closed. -/
def closed : Store where
  catalog := ⟨.error .closed, fun _ => .error .closed⟩
  fetch _ := .error .closed

/-- A store that has a catalog and is closed to statements. -/
def ofCatalog (c : Catalog) : Store :=
  { closed with catalog := c }

end Store

/-- A store that may panic when it is asked for a definition. Nothing comes back then. -/
structure PartialStore where
  objects : Except StoreError (List CatalogObject)
  describe? : Text → Option (Except StoreError TableDefinition)
  fetch : Text → Except StoreError (List Row)

/-- The kinds of databases that a connection string may name. -/
inductive DatabaseKind where
  | mySQL
  | postgreSQL
  | sqlite
  deriving Repr, DecidableEq

namespace DatabaseKind

/-- The name of a kind. -/
def name : DatabaseKind → Text
  | .mySQL => "MySQL".toList
  | .postgreSQL => "PostgreSQL".toList
  | .sqlite => "SQLite".toList

/-- The kind that a connection string names at its start, whatever its case. -/
def ofUrl? (url : Text) : Option DatabaseKind :=
  let url := Text.lower url
  if "postgres".toList.isPrefixOf url then some .postgreSQL
  else if "sqlite".toList.isPrefixOf url then some .sqlite
  else if "mysql".toList.isPrefixOf url then some .mySQL
  else none

end DatabaseKind
end AskSql
