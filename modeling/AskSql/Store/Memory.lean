import AskSql.Sql.Statement
import AskSql.Store

/-!
# Stores in memory

A store that answers from what it has been told: a list of objects, a definition for some
names, the rows that every statement returns, and failures to report instead.
-/

namespace AskSql

/-- A table as it is told to a store: by its definition, or by the text that defines it. -/
inductive TableSource where
  | definition (d : TableDefinition)
  | text (ddl : Text)
  deriving Repr, DecidableEq

/-- A store in memory. -/
structure MemoryStore where
  objects : List CatalogObject := []
  tables : List (Text × TableSource) := []
  /-- The kind of database to report as not supported instead of listing objects. -/
  broken : Option Text := none
  rows : List Row := []
  /-- The table to report as missing instead of returning rows. -/
  failure : Option Text := none

namespace MemoryStore

/-- The store with one more object listed. -/
def addObject (m : MemoryStore) (o : CatalogObject) : MemoryStore :=
  { m with objects := m.objects ++ [o] }

/-- The store with a table, in place of an earlier one of that name. The table is listed unless
an object of that name is, or the table is to stay `unlisted`. -/
def addTable (m : MemoryStore) (name : Text) (source : TableSource) (unlisted : Bool) :
    MemoryStore :=
  { m with
    tables := m.tables.filter (·.1 != name) ++ [(name, source)]
    objects :=
      if unlisted || m.objects.any (·.name == name) then m.objects
      else m.objects ++ [⟨name, .table⟩] }

/-- The store without the objects and the table of a name. -/
def drop (m : MemoryStore) (name : Text) : MemoryStore :=
  { m with
    objects := m.objects.filter (·.name != name)
    tables := m.tables.filter (·.1 != name) }

/-- The definition of the table of a name, unless reading it panics. -/
def describe? (m : MemoryStore) (wording : Sql.Wording) (name : Text) :
    Option (Except StoreError TableDefinition) :=
  match m.tables.lookup name with
  | none => some (.error (.missingTable name))
  | some (.definition d) => some (.ok d)
  | some (.text ddl) =>
    match Sql.readTable ddl with
    | .ok d => some (.ok d)
    | .error reason => (reason.error? wording ddl).map fun cause => .error (.definition name cause)

/-- The store that answers from memory. -/
def toStore (m : MemoryStore) (wording : Sql.Wording) : PartialStore where
  objects :=
    match m.broken with
    | some kind => .error (.unsupported kind)
    | none => .ok m.objects
  describe? := m.describe? wording
  fetch _ :=
    match m.failure with
    | some table => .error (.missingTable table)
    | none => .ok m.rows

end MemoryStore
end AskSql
