import AskSql.Catalog.Definition
import AskSql.Failure

/-!
# Catalogs

What a store tells about itself: the objects that it holds, and the definitions of its tables.
-/

namespace AskSql

/-- The kinds of objects that a catalog lists. -/
inductive ObjectKind where
  | table
  | view
  /-- A table of the store's own. -/
  | systemTable
  | virtualTable
  /-- An index, a trigger or anything else. -/
  | other
  deriving Repr, DecidableEq

/-- An object of a catalog. -/
structure CatalogObject where
  name : Text
  kind : ObjectKind
  deriving Repr, DecidableEq

/-- What a store tells about itself. -/
structure Catalog where
  /-- All objects, in discovery order. -/
  objects : Except StoreError (List CatalogObject)
  /-- The definition of the table of a name. -/
  describe : Text → Except StoreError TableDefinition

end AskSql
