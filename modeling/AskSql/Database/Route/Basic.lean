import AskSql.Database.Affinity

/-!
# Routes

What is known about the sources of a query before a route through them is chosen: how many rows
they are taken to have, which indexes lead into them, and which conditions bound their columns.
Sizes and costs are logarithms: ten times the binary one, so that two numbers that are multiplied
are added here.
-/

namespace AskSql.Database.Route

/-! ## Logarithmic sizes -/

/-- A size, as ten times its binary logarithm. -/
abbrev Size := Int

/-- The logarithmic size of a number. -/
def sizeOf (n : Nat) : Size :=
  if n < 2 then 0
  else
    let l := Nat.log2 n
    let top := if 3 ≤ l then n >>> (l - 3) else n <<< (3 - l)
    10 * l + (([0, 2, 3, 5, 6, 7, 8, 9][top % 8]?).getD 0 : Nat)

/-- What is added to the greater of two sizes that differ by less than 32, by their
difference. -/
def surplus : List Nat :=
  [10, 10, 9, 9, 8, 8, 7, 7, 7, 6, 6, 6, 5, 5, 5, 4, 4, 4, 4, 3, 3, 3, 3, 3, 3, 2, 2, 2, 2, 2, 2, 2]

/-- The size of two things together. -/
def sum (a b : Size) : Size :=
  let high := max a b
  let gap := (high - min a b).toNat
  if 49 < gap then high
  else if 31 < gap then high + 1
  else high + ((surplus[gap]?).getD 2 : Nat)

/-- The size of the logarithm of a size. -/
def logOf (n : Size) : Size :=
  if n ≤ 10 then 0 else sizeOf n.toNat - 33

/-- The rows that a table is taken to have. -/
def tableRows : Size := 200

/-! ## What is known -/

/-- How a condition bounds a column. -/
inductive BoundKind where
  | equal
  | null
  /-- One of some values, given by their logarithmic number. -/
  | among (values : Size)
  | above
  | below
  /-- Any value but null. -/
  | present
  deriving Repr, DecidableEq

/-- The kind fixes the value of a column. -/
def BoundKind.isPoint : BoundKind → Bool
  | .equal => true
  | .null => true
  | .among _ => true
  | .above => false
  | .below => false
  | .present => false

/-- A bound that a condition sets to a column of a source. -/
structure Bound where
  source : Nat
  place : Nat
  kind : BoundKind
  /-- The sources that the bound is taken from. -/
  needs : List Nat
  collation : Collation
  /-- What both sides are taken as where they are compared. -/
  affinity : Affinity
  /-- The column is bound to -1, 0 or 1. -/
  small : Bool := false
  /-- The source and the place of the column that it is bound to, if it is one. -/
  twin : Option (Nat × Nat) := none
  /-- Each of the two columns may stand for the other one where that is bound. -/
  swaps : Bool := false
  deriving Repr, DecidableEq

/-- An index of these columns helps to find what is bound. -/
def Bound.helps (b : Bound) (column : Affinity) : Bool :=
  match b.affinity with
  | .blob => true
  | .text => column == .text
  | _ => column.isNumeric

/-- One of the conditions that have to hold all together. -/
structure Conjunct where
  /-- The sources that it speaks of. -/
  sources : List Nat
  /-- The columns that it speaks of, by source and place. -/
  columns : List (Nat × Nat)
  bounds : List Bound
  /-- The source that it is tied to, where unmatched rows are kept. -/
  tied : Option Nat := none
  deriving Repr, DecidableEq

/-- What is bound by one of some conjuncts, with the number of the conjunct. -/
structure Term where
  conjunct : Nat
  bound : Bound
  deriving Repr, DecidableEq

/-- The bounds of a conjunct as it is written, and those that follow from it: for the second of two
columns, and for a range or a test for nulls. -/
def Conjunct.parts (c : Conjunct) : List Bound × List Bound :=
  match c.bounds with
  | [] => ([], [])
  | b :: bs =>
    let isRange := bs.any fun d => d.source == b.source && d.place == b.place
    if b.kind == .present || isRange then ([], b :: bs) else ([b], bs)

/-- All terms of some conjuncts: those of the conjuncts as they are written, and then those that
follow, the ones of the last conjunct first. -/
def termsOf (conjuncts : List Conjunct) : List Term :=
  let numbered := conjuncts.zipIdx
  (numbered.flatMap fun (c, n) => c.parts.1.map fun b => ⟨n, b⟩) ++
    numbered.reverse.flatMap fun (c, n) => c.parts.2.map fun b => ⟨n, b⟩

/-- The greatest number of columns that stand for a column, itself among them. -/
def maxStandIns : Nat := 11

/-- Some columns with those that stand for them from the `n`th one on, in at most `fuel` steps. -/
def standIns (terms : List Term) : (fuel n : Nat) → List (Nat × Nat) → List (Nat × Nat)
  | 0, _, columns => columns
  | fuel + 1, n, columns =>
    match columns[n]? with
    | none => columns
    | some c =>
      let twins := (terms.filter fun t => t.bound.swaps && (t.bound.source, t.bound.place) == c)
        |>.filterMap (·.bound.twin)
      standIns terms fuel (n + 1) (twins.foldl (fun columns t =>
        if columns.contains t || maxStandIns ≤ columns.length then columns else columns ++ [t])
        columns)

/-- The terms that bound a column, or one that stands for it. -/
def termsOn (conjuncts : List Conjunct) (source place : Nat) : List Term :=
  let terms := termsOf conjuncts
  let tied := fun (t : Term) => ((conjuncts[t.conjunct]?).bind (·.tied)).isSome
  (standIns terms maxStandIns 0 [(source, place)]).zipIdx.flatMap fun (c, n) =>
    (terms.filter fun t => (t.bound.source, t.bound.place) == c &&
      t.bound.twin != some (source, place) && (n == 0 || !tied t)).map fun t =>
        { t with bound := { t.bound with source, place } }

/-- A column of an index. -/
structure KeyColumn where
  /-- The place of the column in its table, if it is one. -/
  place : Option Nat
  affinity : Affinity
  direction : Direction
  notNull : Bool
  deriving Repr, DecidableEq

/-- A way into a table. -/
structure Probe where
  /-- The columns that keep the rows apart or in order; the row number comes after them. -/
  key : List KeyColumn
  /-- The columns after them where rows have no number. -/
  rest : List KeyColumn := []
  /-- The places of the columns that an entry is known to hold. -/
  held : List Nat := []
  unique : Bool
  /-- The logarithmic width of an entry. -/
  width : Size
  /-- The table itself, in the order of its row numbers. -/
  byRowNumber : Bool := false
  /-- The table itself, in the order of its primary key. -/
  isTable : Bool := false
  deriving Repr, DecidableEq

/-- A source of rows. -/
structure Site where
  number : Nat
  /-- A table, and not the result of a query. -/
  stored : Bool
  /-- The logarithmic number of its rows. -/
  rows : Size := tableRows
  /-- The logarithmic width of a row. -/
  width : Size
  probes : List Probe
  /-- The place of the row number. -/
  rowNumber : Option Nat
  /-- The places of the columns in use, the row number left out. -/
  used : List Nat
  /-- What the columns prefer, by place. -/
  affinities : List Affinity := []
  /-- The rows are others each time. -/
  changes : Bool := false
  /-- Rows of the sources before it are kept if they match nothing in it. -/
  keepsLeft : Bool := false
  /-- The sources before it are run through before it. -/
  ordered : Bool := false
  deriving Repr, DecidableEq

/-- What rows are to be ordered by. -/
structure OrderTerm where
  /-- The column, by source and place, if it is one. -/
  column : Option (Nat × Nat)
  direction : Direction
  /-- The sources that it speaks of. -/
  sources : List Nat
  deriving Repr, DecidableEq

/-- Why rows are wanted in an order. -/
inductive Purpose where
  /-- The result is ordered. -/
  | order
  /-- Equal rows are to follow each other. -/
  | group
  /-- Equal rows are to be left out. -/
  | distinct
  deriving Repr, DecidableEq

/-- What a route is wanted for. -/
structure Demand where
  terms : List OrderTerm := []
  purpose : Purpose := .order
  /-- The number of columns of the result. -/
  columns : Nat := 1
  /-- The logarithmic number of rows that are asked for. -/
  limit : Option Size := none
  /-- Equal rows are left out. -/
  distinct : Bool := false

/-- How the rows of a source are run through. -/
inductive Way where
  /-- In the order of their row numbers. -/
  | rows
  /-- By the way into the table of this number. -/
  | probe (n : Nat)
  /-- By an index made on the spot for the column at a place. -/
  | made (place : Nat)
  deriving Repr, DecidableEq

/-- A stage of a route. -/
structure Stage where
  source : Nat
  way : Way
  reversed : Bool
  deriving Repr, DecidableEq

end AskSql.Database.Route
