import AskSql.Database.Arithmetic
import AskSql.Database.Basic
import AskSql.Database.Route.Basic

/-!
# Terms

An expression whose names have been looked up is a term: it has a value for each row, and what
the choice of a route and the comparison of values need to know about it. The value depends on
the row of the query that the expression stands in, and on those of the queries around it.
-/

namespace AskSql.Database

/-- A row of a query, as the values of each of its sources. -/
abbrev Tuple := List (List Value)

/-- What a query has for an expression: a row, and the rows that aggregates run over. -/
structure Frame where
  row : Tuple := []
  group : List Tuple := []

/-- What there is for an expression: that of its query, and of those around it. -/
abbrev Frames := List Frame

/-- A column of a query around an expression: the query, counted from the innermost one, the
source, and the place in it. -/
structure Spot where
  level : Nat
  source : Nat
  place : Nat
  deriving Repr, DecidableEq

/-- What becomes of a value when it is looked up. -/
abbrev Computed := Frames → Except StoreError Value

/-- An aggregate in an expression. -/
structure Aggregate where
  /-- The name of the function, as it is written. -/
  name : Text
  /-- Whether it looks for the least value, or for the greatest. -/
  extreme : Option Ordering
  collation : Collation
  argument : Computed

/-- What an expression is. -/
inductive Form where
  /-- A column of the innermost query. -/
  | column (source place : Nat)
  | literal (v : Value)
  | other
  deriving Repr, DecidableEq

/-- An expression whose names have been looked up. -/
structure Term where
  value : Computed
  form : Form := .other
  /-- What the value is taken as where it is compared, if that is known. -/
  affinity : Option Affinity := none
  collation : Option Collation := none
  /-- The collation has been asked for. -/
  explicit : Bool := false
  /-- The columns that the value depends on. -/
  uses : List Spot := []
  aggregates : List Aggregate := []
  /-- The name of the column that the expression is. -/
  columnName : Option Text := none
  /-- The bounds that the expression sets where it has to be true. -/
  bounds : List Route.Bound := []
  /-- The sources of the innermost query that have to have a row if the expression is to be true,
  as far as its operators tell. -/
  rowsOf : List Nat := []
  /-- The values of a row, if the expression is one. -/
  parts : List Computed := []

namespace Term

/-- A term of a value that is known. -/
def ofValue (v : Value) : Term where
  value := fun _ => .ok v
  form := .literal v

/-- The sources of the innermost query that a term depends on. -/
def sources (t : Term) : List Nat :=
  ((t.uses.filter (·.level == 0)).map (·.source)).eraseDups

/-- The term depends on no row. -/
def isConstant (t : Term) : Bool :=
  t.uses.isEmpty

/-- The column of a source. -/
def column (source place : Nat) (c : ColumnShape) : Term where
  value := fun frames =>
    .ok (((frames.head?.bind (·.row[source]?)).bind (·[place]?)).getD .null)
  form := .column source place
  affinity := some c.affinity
  collation := some c.collation
  uses := [⟨0, source, place⟩]
  columnName := some c.name
  rowsOf := [source]

/-- A term of a query as one of the query `level` levels inside it. -/
def outward (level : Nat) (t : Term) : Term :=
  if level = 0 then t
  else
    { t with
      value := fun frames => t.value (frames.drop level)
      form := .other
      uses := t.uses.map fun s => { s with level := s.level + level }
      bounds := []
      rowsOf := []
      aggregates := [] }

/-- What a term made of others takes over from them. -/
def made (parts : List Term) (value : Computed) : Term where
  value
  uses := (parts.flatMap (·.uses)).eraseDups
  aggregates := parts.flatMap (·.aggregates)
  collation := (parts.find? (·.explicit)).bind (·.collation)
  explicit := parts.any (·.explicit)

/-- What a term takes over from others if it is null whenever one of them is. -/
def madeOfAll (parts : List Term) (value : Computed) : Term :=
  { made parts value with rowsOf := (parts.flatMap (·.rowsOf)).eraseDups }

/-- The sources that two terms both need a row of. -/
def rowsOfBoth (a b : Term) : List Nat :=
  a.rowsOf.filter b.rowsOf.contains

/-- A condition needs a row of a source. -/
def needsRow (source : Nat) (t : Term) : Bool :=
  t.rowsOf.contains source || t.bounds.any fun b => b.kind == .present && b.source == source

/-- The values of some terms. -/
def values (frames : Frames) : List Term → Except StoreError (List Value)
  | [] => .ok []
  | t :: ts => do
    let v ← t.value frames
    let vs ← values frames ts
    return v :: vs

/-! ## Comparing -/

/-- The collation under which two terms are compared. -/
def collationWith (a b : Term) : Collation :=
  let chosen := if a.explicit then a.collation else if b.explicit then b.collation
    else a.collation.or b.collation
  chosen.getD .binary

/-- What two terms are taken as where they are compared. -/
def affinityWith (a b : Term) : Affinity :=
  match a.affinity, b.affinity with
  | some x, some y => if x.isNumeric || y.isNumeric then .numeric else .blob
  | some x, none => x
  | none, some y => y
  | none, none => .blob

end Term

/-- A value as it is compared. -/
def Affinity.forComparison (a : Affinity) (other v : Value) : Value :=
  match a, v with
  | .blob, v => v
  | .text, .integer _ | .text, .real _ =>
    match other with
    | .text _ | .garbled _ => asText v
    | _ => v
  | .text, v => v
  | _, v => asNumber v

/-- What a comparison makes of two terms. -/
def Comparison.ofTerms (c : Comparison) (a b : Term) : Computed :=
  let affinity := a.affinityWith b
  let collation := a.collationWith b
  fun frames => do
    let v ← a.value frames
    let w ← b.value frames
    return c.apply collation (affinity.forComparison w v) (affinity.forComparison v w)

end AskSql.Database
