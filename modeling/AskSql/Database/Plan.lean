import AskSql.Database.Route.Basic
import AskSql.Database.Scope

/-!
# Plans

A query whose names have been looked up is a plan: its columns are known, and its rows can be had
for any rows of the queries around it. The sources of a query are origins: tables, or the plans
of queries that stand in their place.

Queries stand inside of expressions, and expressions inside of queries. What looks at either is
handed to the other as an evaluator.
-/

namespace AskSql.Database

/-- A column of a result. -/
structure ResultColumn where
  /-- The name that rows show. -/
  label : Text
  /-- The name under which it is a column of a source. -/
  name : Text
  affinity : Option Affinity := none
  collation : Collation := .binary

/-- A query whose names have been looked up. -/
structure Plan where
  columns : List ResultColumn
  /-- The rows, for what there is around the query. -/
  rows : Frames → Except StoreError (List (List Value))
  /-- The columns of the queries around it that it depends on. -/
  uses : List Spot := []
  /-- The rows are made of groups of rows. -/
  aggregated : Bool := false
  /-- The logarithmic number of rows that it is taken to give. -/
  size : Route.Size := Route.tableRows

/-- A source of rows. -/
structure Origin where
  /-- The rows in their own order, with their numbers behind them if they have any. -/
  rows : Frames → Except StoreError (List (List Value))
  /-- The number of values in a row. -/
  width : Nat
  /-- The logarithmic number of rows that it is taken to have. -/
  size : Route.Size := Route.tableRows
  /-- What its columns prefer, if it is no table. -/
  affinities : List Affinity := []
  /-- The rows are others each time. -/
  changes : Bool := false
  /-- The table with its indexes, if it is one. -/
  table : Option (StoredTable × List IndexShape) := none
  join : Join := {}
  /-- The conditions of the join, where unmatched rows are kept. -/
  tied : List Term := []
  /-- The columns of the queries around that the rows depend on. -/
  uses : List Spot := []

/-- A condition of a join, or two columns that are joined by their common name. -/
structure Tie where
  /-- The number of the source that is joined. -/
  source : Nat
  /-- The rows of it that match nothing, or those that it does not match, are kept. -/
  keeps : Bool
  condition : Expr ⊕ Term

/-- The sources of a query. -/
structure Origins where
  list : List Origin := []
  columns : List ScopeColumn := []
  ties : List Tie := []
  /-- The conditions of queries that have been taken apart into their sources. -/
  conditions : List Term := []
  /-- What such a query is ordered by. -/
  order : List (Term × Direction) := []
  /-- How many rows such a query gives. -/
  limit : Option Term := none

/-- What a query around takes up of a query in its sources. -/
structure Taking where
  /-- The number of the first source. -/
  start : Nat
  /-- A query may be taken apart into its sources. -/
  apart : Bool
  /-- The order of a query that is taken apart is of use. -/
  ordered : Bool
  /-- A query that is ordered may be taken apart. -/
  apartOrdered : Bool
  /-- A query that bounds its rows may be taken apart. -/
  limited : Bool

/-- A query may be taken apart that is ordered in this way and bounded by this number of rows. -/
def Taking.allows (t : Taking) (order : List Order) (limit : Option Expr) : Bool :=
  if !t.apart then false
  else if limit.isSome then t.limited && (order.isEmpty || t.ordered)
  else order.isEmpty || t.apartOrdered

/-- What looks at expressions, queries and sources that stand inside of others. -/
structure Evaluator where
  db : Database
  expr : List Scope → Expr → Except StoreError Term
  query : List Scope → Query → Except StoreError Plan
  /-- The plan of a query with a name, in the scopes that it was named in. -/
  named : List Scope → NamedQuery → Except StoreError Plan
  origins : List Scope → Taking → List Joined → Except StoreError Origins

/-- The columns that are used as they are seen from the query around. -/
def lowered (uses : List Spot) : List Spot :=
  (uses.filter fun s => 0 < s.level).map fun s => { s with level := s.level - 1 }

end AskSql.Database
