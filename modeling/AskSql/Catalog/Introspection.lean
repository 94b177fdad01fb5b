import AskSql.Program
import AskSql.Schema.Basic

/-!
# Introspection

A catalog lists the objects of a store and describes its tables. `Introspection.schema` reads the
schema from it: all tables or none, for the first error ends the reading. Only objects of the
kind `table` are described, and a table without columns is left out.

A foreign key belongs to the first column of its name. One that names no target column points
to the primary key of its target, provided that this is a single column of a table that was
read; otherwise the key is left out.
-/

namespace AskSql

/-! ## From definitions to a schema -/

/-- Tables by their names in the catalog, with their definitions. -/
abbrev Definitions := List (Text × TableDefinition)

/-- The target of a foreign key. -/
def Definitions.target? (ds : Definitions) (key : ForeignKey) : Option ForeignKeyTarget :=
  match key.targetColumn with
  | some column => some ⟨key.targetTable, column⟩
  | none =>
    match ds.find? fun d => Text.equalsIgnoringCase d.1 key.targetTable with
    | some (name, ⟨_, _, [primaryKey], _⟩) => some ⟨name, primaryKey⟩
    | _ => none

/-- The targets of the foreign keys that `column` holds. -/
def Definitions.targets (ds : Definitions) (keys : List ForeignKey) (column : Text) :
    List ForeignKeyTarget :=
  (keys.filter (·.column == column)).filterMap ds.target?

/-- The columns of a table; `before` are the names of the columns passed already. -/
def Definitions.columns (ds : Definitions) (d : TableDefinition) (before : List Text) :
    List ColumnDefinition → List Column
  | [] => []
  | c :: rest =>
    { name := c.name
      typeName := c.typeName
      size := c.size
      nullable := c.nullable
      primaryKey := d.primaryKeys.contains c.name
      targets := if before.contains c.name then [] else ds.targets d.foreignKeys c.name } ::
      Definitions.columns ds d (c.name :: before) rest

/-- A table under its name in the catalog. -/
def Definitions.table (ds : Definitions) (name : Text) (d : TableDefinition) : Table :=
  ⟨name, ds.columns d [] d.columns⟩

/-- The schema that the definitions make up. -/
def Definitions.schema (ds : Definitions) : Schema :=
  ⟨ds.map fun (name, d) => ds.table name d⟩

/-! ## Reading -/

namespace Introspection

open Program

/-- Reads the definitions of the tables with columns among some objects, up to the first error. -/
def definitions : List CatalogObject → Program (Except StoreError Definitions)
  | [] => return .ok []
  | o :: rest =>
    if o.kind ≠ .table then definitions rest
    else do
      match ← describe o.name with
      | .error e => return .error e
      | .ok d =>
        match ← definitions rest with
        | .error e => return .error e
        | .ok ds => return .ok (if d.columns.isEmpty then ds else (o.name, d) :: ds)

/-- Reads the schema of a store. -/
def schema : Program (Except IntrospectionError Schema) := do
  match ← objects with
  | .error e => return .error ⟨e⟩
  | .ok objects =>
    match ← definitions objects with
    | .error e => return .error ⟨e⟩
    | .ok ds => return .ok ds.schema

end Introspection

namespace Catalog

variable (c : Catalog)

/-- The definitions that are read from a catalog. -/
def definitions (objects : List CatalogObject) : Except StoreError Definitions :=
  let answers := (Store.ofCatalog c).answers fun _ => .unreachable
  ((Introspection.definitions objects).run answers).value

/-- The schema that is read from a catalog. -/
def introspect : Except IntrospectionError Schema :=
  let answers := (Store.ofCatalog c).answers fun _ => .unreachable
  (Introspection.schema.run answers).value

end Catalog
end AskSql
