import AskSql.Database.Route.Search
import AskSql.Database.Source

/-!
# Rows of joined sources

The rows that the sources of a query give together. A route is chosen for them, and its loops are
run one inside the other; each condition is tested as soon as there are rows for all sources that
it speaks of. Where rows of a later source are kept that match nothing, the sources are joined one
after the other instead, as they are written.
-/

namespace AskSql.Database.Selection

/-- The sources of a query with the conditions on them. -/
structure Joined where
  origins : List Origin
  /-- The conditions on the rows of all sources. -/
  conditions : List Term
  /-- What speaks of the columns besides the conditions. -/
  terms : List Term

namespace Joined

/-! ## Sites -/

/-- The places of the columns of a source that are in use. -/
def usedPlaces (j : Joined) (source : Nat) : List Nat :=
  let terms := j.terms ++ j.conditions ++ j.origins.flatMap (·.tied)
  ((terms.flatMap (·.uses)).filterMap fun s =>
    if s.level = 0 ∧ s.source = source then some s.place else none).eraseDups.mergeSort

/-- A column of a table as a column of a key. -/
def keyColumn (shape : TableShape) (c : IndexColumn) : Route.KeyColumn :=
  let column := c.place.bind (shape.columns[·]?)
  { place := c.place
    affinity := (column.map (·.affinity)).getD .blob
    direction := c.direction
    notNull := (column.map fun c => c.notNull.isSome).getD false }

/-- The way into a table by its row numbers. -/
def byRowNumber (place : Nat) : Route.Probe :=
  { key := [⟨some place, .integer, {}, true⟩], unique := true, width := 3, byRowNumber := true }

/-- The indexes of a table that lead to all of its rows. -/
def wholeIndexes (indexes : List IndexShape) : List IndexShape :=
  indexes.filter fun i => i.condition.isNone

/-- The place of the row number of a table. -/
def rowNumberPlace (shape : TableShape) : Option Nat :=
  if shape.withoutRowNumber then none
  else some (shape.rowNumberPlace?.getD shape.columns.length)

/-- The way into a table by an index. Of the columns of the primary key that it holds, only those
are known that it has itself, unless the index came after the table. -/
def byIndex (shape : TableShape) (i : IndexShape) : Route.Probe :=
  let rest := shape.keyRest i
  let known := if shape.indexes.contains i then i.columns else i.columns ++ rest
  { key := i.columns.map (keyColumn shape)
    rest := rest.map (keyColumn shape)
    held := known.filterMap (·.place)
    unique := i.unique.isSome
    width := Route.sizeOf (4 * shape.indexWidth i)
    isTable := shape.withoutRowNumber && i.isPrimary }

/-- What is known about a source. -/
def site (j : Joined) (number : Nat) (o : Origin) : Route.Site :=
  let used := j.usedPlaces number
  match o.table with
  | some (t, indexes) =>
    let shape := t.shape
    let rowNumber := rowNumberPlace shape
    let computes := used.any fun n => ((shape.columns[n]?).bind (·.generated)).isSome
    let used := if computes then List.range shape.columns.length else used
    { number, stored := true
      width := Route.sizeOf (4 * shape.width)
      probes := rowNumber.toList.map byRowNumber ++ (wholeIndexes indexes).map (byIndex shape)
      rowNumber
      used := used.filter fun n => some n != rowNumber
      affinities := shape.columns.map (·.affinity)
      keepsLeft := o.join.keepsLeft
      ordered := o.join.ordered }
  | none =>
    { number, stored := false, rows := o.size, width := 0
      probes := [{ key := [], unique := true, width := 3, byRowNumber := true }]
      rowNumber := none, used
      affinities := o.affinities
      changes := o.changes
      keepsLeft := o.join.keepsLeft
      ordered := o.join.ordered }

/-- What is known about all sources. -/
def sites (j : Joined) : List Route.Site :=
  j.origins.zipIdx.map fun (o, n) => j.site n o

/-- A condition as the search for a route sees it; `about` are sources that it speaks of besides
those of its columns. -/
def conjunct (tied : Option Nat) (before about : List Nat) (t : Term) : Route.Conjunct :=
  { sources := Route.union t.sources about
    columns := (t.uses.filter (·.level == 0)).map fun s => (s.source, s.place)
    bounds := t.bounds.map fun b =>
      { b with needs := Route.union b.needs before, swaps := b.swaps && tied.isNone }
    tied }

/-- All conditions as the search for a route sees them. What keeps unmatched rows of a join cannot
be tested before both of its sides are there. -/
def conjuncts (j : Joined) : List Route.Conjunct :=
  j.conditions.map (conjunct none [] []) ++ j.origins.zipIdx.flatMap fun (o, n) =>
    o.tied.map (conjunct (some n) (List.range n)
      (if o.join.keepsLeft || o.join.keepsRight then [n] else []))

/-- The route through the sources. -/
def route (j : Joined) (d : Route.Demand) : Route.Itinerary :=
  Route.find j.sites j.conjuncts d

/-! ## Orders of rows -/

/-- Some rows in the order of an index. -/
def rowsByIndex (i : IndexShape) (rows : List (List Value)) : List (List Value) :=
  let key := fun (row : List Value) =>
    i.columns.map fun c => ((c.place.bind (row[·]?)).getD .null)
  let directions := i.columns.map (·.direction)
  rows.mergeSort fun a b => compareRows directions (key a) (key b) != .gt

/-- Some rows in the order of the values at some places. -/
def rowsByPlaces (places : List (Nat × Direction)) (rows : List (List Value)) :
    List (List Value) :=
  let key := fun (row : List Value) => places.map fun (n, _) => (row[n]?).getD .null
  rows.mergeSort fun a b => compareRows (places.map (·.2)) (key a) (key b) != .gt

/-- How an index that is made on the spot compares the values of a column: as the condition that
binds the column does, if there is one. -/
def madeDirection (j : Joined) (source place : Nat) : Direction :=
  let bound := (j.conjuncts.flatMap (·.bounds)).find? fun b =>
    b.kind == .equal && b.source == source && b.place == place
  { collation := (bound.map (·.collation)).getD .binary }

/-- The rows of a source as a stage of a route runs through them. -/
def stageRows (j : Joined) (s : Route.Stage) (o : Origin) (rows : List (List Value)) :
    List (List Value) :=
  let ordered := match s.way, o.table with
    | .rows, _ => rows
    | .made place, _ =>
      let rowNumber := o.table.bind fun (t, _) => rowNumberPlace t.shape
      let used := j.usedPlaces s.source
      let rest := used.filter fun n => n != place && some n != rowNumber
      rowsByPlaces ((place :: rest).map fun n => (n, j.madeDirection s.source n)) rows
    | .probe _, none => rows
    | .probe n, some (t, indexes) =>
      let own := if t.shape.withoutRowNumber then 0 else 1
      match if n < own then none else (wholeIndexes indexes)[n - own]? with
      | some i => rowsByIndex i rows
      | none => rows
  if s.reversed then ordered.reverse else ordered

/-! ## Loops -/

/-- A loop of a query. -/
structure Step where
  source : Nat
  rows : List (List Value)
  width : Nat
  keepsLeft : Bool
  /-- What decides whether a row matches. -/
  tied : List Term
  /-- The conditions that can be tested with the rows so far. -/
  tests : List Term

/-- Some conditions are all true. -/
def hold (frames : Frames) : List Term → Except StoreError Bool
  | [] => .ok true
  | t :: ts => do
    if (← t.value frames).isTrue then hold frames ts else return false

/-- The rows among some for which conditions are all true. -/
def holding (outer : Frames) (terms : List Term) (rows : List Tuple) :
    Except StoreError (List Tuple) :=
  rows.filterM fun row => hold ({ row } :: outer) terms

/-- A row of nulls. -/
def nulls (width : Nat) : List Value :=
  List.replicate width .null

/-- The rows that some loops give after a row of the loops around them. -/
def runSteps (outer : Frames) : List Step → Tuple → Except StoreError (List Tuple)
  | [], row => .ok [row]
  | s :: steps, row => do
    let matching ← holding outer s.tied (s.rows.map fun r => row.set s.source r)
    let matching := if s.keepsLeft && matching.isEmpty then [row.set s.source (nulls s.width)]
      else matching
    let kept ← holding outer s.tests matching
    let results ← kept.mapM (runSteps outer steps)
    return results.flatten

/-- Conditions that can be tested when the sources `known` have rows, and the others. -/
def testable (known : List Nat) (conditions : List Term) : List Term × List Term :=
  conditions.partition fun t => Route.within t.sources known

/-- The loops of the stages of a route, when the sources `known` have rows already. -/
def stepsOf (j : Joined) (outer : Frames) :
    List Route.Stage → (known : List Nat) → (conditions : List Term) →
    Except StoreError (List Step)
  | [], _, _ => .ok []
  | s :: stages, known, conditions =>
    match j.origins[s.source]? with
    | none => j.stepsOf outer stages known conditions
    | some o => do
      let rows ← o.rows outer
      let known := s.source :: known
      let (tests, conditions) := testable known conditions
      let steps ← j.stepsOf outer stages known conditions
      return {
        source := s.source, rows := j.stageRows s o rows, width := o.width
        keepsLeft := o.join.keepsLeft, tied := o.tied, tests } :: steps

/-! ## Joins one after the other -/

/-- The rows of some sources joined with those of one more, out of `size` sources. -/
def joinNext (outer : Frames) (size number : Nat) (o : Origin) (rows : List Tuple) :
    Except StoreError (List Tuple) := do
  let own ← o.rows outer
  let numbered := own.zipIdx
  let pairs ← rows.mapM fun row => do
    let found ← numbered.filterM fun (r, _) =>
      hold ({ row := row.set number r } :: outer) o.tied
    return (row, found)
  let joined := pairs.flatMap fun (row, found) =>
    if found.isEmpty && o.join.keepsLeft then [row.set number (nulls o.width)]
    else found.map fun (r, _) => row.set number r
  let met := pairs.flatMap fun (_, found) => found.map (·.2)
  let unmatched := numbered.filter fun (_, n) => o.join.keepsRight && !met.contains n
  return joined ++ unmatched.map fun (r, _) => (List.replicate size []).set number r

/-- The rows of some sources joined as they are written, out of `size` sources. -/
def joinAll (outer : Frames) (size : Nat) : (number : Nat) → List Origin → List Tuple →
    Except StoreError (List Tuple)
  | _, [], rows => .ok rows
  | number, o :: os, rows => do
    let joined ← joinNext outer size number o rows
    joinAll outer size (number + 1) os joined

/-! ## All rows -/

/-- The rows of all sources that satisfy the conditions, in the order of a route. -/
def tuples (j : Joined) (r : Route.Itinerary) (outer : Frames) : Except StoreError (List Tuple) := do
  let blank : Tuple := List.replicate j.origins.length []
  if j.origins.any fun o => o.join.keepsRight then
    let rows ← joinAll outer j.origins.length 0 j.origins [blank]
    holding outer j.conditions rows
  else
    let (first, conditions) := testable [] j.conditions
    let start ← holding outer first [blank]
    match start with
    | [] => return []
    | _ =>
      let steps ← j.stepsOf outer r.stages [] conditions
      runSteps outer steps blank

end Joined
end AskSql.Database.Selection
