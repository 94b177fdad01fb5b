import AskSql.Database.Selection.Rows

/-!
# Queries

What a query gives: its rows grouped, reduced to what its items take from them, put in order and
bounded; and queries put together. The sources are looked up first, then the bounds, the items and
the conditions, and in the end what rows are ordered and grouped by; the first fault found in this
order is the one reported.
-/

namespace AskSql.Database.Selection

open Text Evaluator

/-! ## Bounds -/

/-- How many rows are given, and how many are left out before them. -/
structure Bounds where
  limit : Option Term
  offset : Option Term

/-- The bounds that a query sets. -/
def boundsOf (ev : Evaluator) (limit offset : Option Expr) : Except StoreError Bounds := do
  let limit ← ev.optional [] limit
  let offset ← ev.optional [] offset
  return ⟨limit, offset⟩

/-- The logarithmic number of rows that a limit allows, if it is written as a number. -/
def Bounds.size (b : Bounds) : Option Route.Size :=
  match b.limit.map Term.form with
  | some (.literal (.integer n)) => if 0 ≤ n then some (Route.sizeOf n.toNat) else none
  | _ => none

/-- The integer that bounds rows. -/
def boundValue (v : Value) : Except StoreError Int :=
  match Affinity.asInteger (Affinity.asNumber v) with
  | .integer n => .ok n
  | _ => .error (.database 20 "datatype mismatch".toList)

/-- The numbers that bound rows: how many are given, and how many are left out. A negative number
bounds nothing. -/
def Bounds.values (b : Bounds) (outer : Frames) : Except StoreError (Option Nat × Nat) := do
  let valueOf := fun (t : Option Term) => do
    match t with
    | none => return (none : Option Int)
    | some t =>
      let n ← boundValue (← t.value outer)
      return some n
  let limit ← valueOf b.limit
  let offset ← valueOf b.offset
  return ((limit.filter fun n => 0 ≤ n).map Int.toNat, (offset.getD 0).toNat)

/-- Some rows within bounds. -/
def Bounds.apply {α : Type} (b : Bounds) (outer : Frames)
    (rows : Unit → Except StoreError (List α)) : Except StoreError (List α) := do
  let (limit, offset) ← b.values outer
  if limit = some 0 then return []
  else
    let rest := (← rows ()).drop offset
    match limit with
    | some n => return rest.take n
    | none => return rest

/-! ## Demands -/

/-- What rows are ordered by as the search for a route sees it. -/
def orderTerm (t : Term) (d : Direction) : Route.OrderTerm where
  column := match t.form with
    | .column source place => some (source, place)
    | _ => none
  direction := d
  sources := t.sources

/-! ## Groups -/

/-- The row that stands for a group: the one that the last search for an extreme stopped at, or
else the first one. -/
def representative (outer : Frames) (aggregates : List Aggregate) (group : List Tuple) :
    Except StoreError Tuple :=
  match (aggregates.filter (·.extreme.isSome)).getLast? with
  | none => .ok (group.headD [])
  | some a => do
    let (best, _) ← group.foldlM (fun ((best, known) : Tuple × Option Value) row => do
      let v ← a.argument ({ row } :: outer)
      match known with
      | none => return (row, if v.isNull then none else some v)
      | some w =>
        if !v.isNull && some (v.compare a.collation w) == a.extreme then return (row, some v)
        else return (best, known)) (group.headD [], none)
    return best

/-- Rows with equal keys that follow each other, put together. -/
def runs (directions : List Direction) : List (List Value × Tuple) → List (List Tuple)
  | [] => []
  | (key, row) :: rest =>
    match rest, runs directions rest with
    | (next, _) :: _, group :: groups =>
      if compareRows directions key next == .eq then (row :: group) :: groups
      else [row] :: group :: groups
    | _, groups => [row] :: groups

/-- The groups of some rows, which are put in order first unless they come in one. -/
def groupsOf (outer : Frames) (keys : List Term) (directions : List Direction) (ordered : Bool)
    (rows : List Tuple) : Except StoreError (List (List Tuple)) := do
  let keyed ← rows.mapM fun row => do
    let key ← Term.values ({ row } :: outer) keys
    return (key, row)
  let sorted := if ordered then keyed
    else keyed.mergeSort fun a b => compareRows directions a.1 b.1 != .gt
  return runs directions sorted

/-! ## Selections -/

/-- A selection whose names have been looked up. -/
structure Compiled where
  joined : Joined
  fields : List Field
  distinct : Bool
  aggregated : Bool
  groups : List Term
  having : Option Term
  order : List (Term × Direction)
  bounds : Bounds

namespace Compiled

/-- All aggregates of a selection. -/
def aggregates (c : Compiled) : List Aggregate :=
  (c.fields.map (·.term) ++ c.having.toList ++ c.order.map (·.1)).flatMap (·.aggregates)

/-- The directions in which the keys of groups are put in order: those of what the groups are
ordered by afterwards, if that is as long. -/
def groupDirections (c : Compiled) : List Direction :=
  let own := c.groups.map fun t => ({ collation := t.collation.getD .binary } : Direction)
  if c.order.length = own.length then
    (own.zip c.order).map fun (d, _, e) =>
      { d with descending := e.descending, nullsLast := e.descending }
  else own

/-- Whatever is left out as equal to something else would differ from it anyway: a field is the
number of the row of the only source, or all columns of a key are among the fields. -/
def isDistinctAnyway (c : Compiled) : Bool :=
  match c.joined.origins with
  | [{ table := some (t, indexes), .. }] =>
    let places := c.fields.filterMap fun f => match f.term.form with
      | .column 0 place => some place
      | _ => none
    let number := Joined.rowNumberPlace t.shape
    (number.map places.contains).getD false || indexes.any fun i =>
      i.unique.isSome && i.condition.isNone && i.columns.all fun k =>
        match k.place with
        | some p => places.contains p &&
          (((t.shape.columns[p]?).map fun s => s.notNull.isSome).getD false)
        | none => false
  | _ => false

/-- The order that the rows of the sources are asked for in. -/
def demand (c : Compiled) : Route.Demand :=
  let columns := c.fields.length
  let limit := c.bounds.size
  if c.aggregated then
    { terms := (c.groups.zip c.groupDirections).map fun (t, d) => orderTerm t d
      purpose := .group, columns }
  else if !c.order.isEmpty then
    { terms := c.order.map fun (t, d) => orderTerm t d, columns, limit, distinct := c.distinct }
  else if c.distinct && !c.isDistinctAnyway then
    { terms := c.fields.map fun f =>
        orderTerm f.term { collation := f.term.collation.getD .binary }
      purpose := .distinct, columns, limit, distinct := true }
  else { columns }

/-- The frames that a selection takes its fields from. -/
def frames (c : Compiled) (ordered : Bool) (outer : Frames) (rows : List Tuple) :
    Except StoreError (List Frame) := do
  if c.aggregated then
    let groups ← if c.groups.isEmpty then pure [rows]
      else groupsOf outer c.groups c.groupDirections ordered rows
    let all ← groups.mapM fun group => do
      let row ← representative outer c.aggregates group
      return ({ row, group } : Frame)
    match c.having with
    | none => return all
    | some h => all.filterM fun f => return (← h.value (f :: outer)).isTrue
  else return rows.map fun row => { row }

/-- The rows of a selection, for what there is around it. -/
def rows (c : Compiled) (r : Route.Itinerary) (outer : Frames) :
    Except StoreError (List (List Value)) :=
  c.bounds.apply outer fun _ => do
    let tuples ← c.joined.tuples r outer
    let frames ← c.frames r.ordered outer tuples
    let terms := c.fields.map (·.term)
    let keyed ← frames.mapM fun f => do
      let values ← Term.values (f :: outer) terms
      let keys ← Term.values (f :: outer) (c.order.map (·.1))
      return (keys, values)
    let kept := if c.distinct then
        let directions := c.fields.map fun f =>
          ({ collation := f.column.collation } : Direction)
        keyed.foldl (fun kept row =>
          if kept.any fun (k : List Value × List Value) =>
            compareRows directions k.2 row.2 == .eq then kept else kept ++ [row]) []
      else keyed
    let sorted := if c.order.isEmpty then kept
      else kept.mergeSort fun a b => compareRows (c.order.map (·.2)) a.1 b.1 != .gt
    return sorted.map (·.2)

/-- The columns of the queries around that a selection depends on. -/
def uses (c : Compiled) : List Spot :=
  let terms := c.joined.terms ++ c.joined.conditions ++ c.joined.origins.flatMap (·.tied)
  let own := lowered (terms.flatMap (·.uses))
  (own ++ c.joined.origins.flatMap (·.uses)).eraseDups

/-- The logarithmic number of rows that a selection is taken to give, at most as many as a limit
allows. -/
def size (c : Compiled) (r : Route.Itinerary) : Route.Size :=
  let own : Route.Size :=
    if c.aggregated then if c.groups.isEmpty then 0 else 66
    else if c.distinct && !c.joined.origins.isEmpty then r.rows - 30
    else r.rows
  match c.bounds.size with
  | some limit => min limit own
  | none => own

/-- The plan of a selection. -/
def plan (c : Compiled) : Plan :=
  let route := c.joined.route c.demand
  { columns := c.fields.map (·.column)
    rows := c.rows route
    uses := c.uses
    aggregated := c.aggregated
    size := c.size route }

end Compiled

/-- A misuse of an aggregate where there is nothing to aggregate. -/
def misuse? (terms : List Term) : Option StoreError :=
  ((terms.flatMap (·.aggregates)).head?).map fun a =>
    fault ("misuse of aggregate: ".toList ++ a.name ++ "()".toList)

/-- The origins with the conditions that are tied to each of them. -/
def withTies (origins : List Origin) (ties : List (Tie × List Term)) : List Origin :=
  origins.zipIdx.map fun (o, n) =>
    { o with tied := (ties.filter fun (t, _) => t.source == n).flatMap (·.2) }

/-- Some origins and what ties them, where rows before an origin that match nothing in it are not
kept if a condition needs a row of it anyway. -/
def narrowJoins (conditions : List Term) : (number : Nat) → List Origin →
    List (Tie × List Term) → List Origin × List (Tie × List Term)
  | _, [], ties => ([], ties)
  | number, o :: os, ties =>
    let free := (ties.filter fun (t, _) => !t.keeps).flatMap (·.2)
    if o.join.keepsLeft && (conditions ++ free).any (·.needsRow number) then
      let ties := ties.map fun (t, terms) =>
        (if t.source == number then { t with keeps := false } else t, terms)
      let (os, ties) := narrowJoins conditions (number + 1) os ties
      ({ o with join := { o.join with keepsLeft := false } } :: os, ties)
    else
      let (os, ties) := narrowJoins conditions (number + 1) os ties
      (o :: os, ties)

/-- A selection with its names looked up; `apartOrdered` tells whether an ordered query among its
sources may be taken apart, and `limited` whether one that bounds its rows may be. -/
def compileWith (ev : Evaluator) (ss : List Scope) (apartOrdered limited distinct : Bool)
    (items : List Item) (sources : List Database.Joined) (condition : Option Expr)
    (groups : List Expr) (having : Option Expr) (order : List Order) (limit offset : Option Expr) :
    Except StoreError (Compiled × Bool) := do
  let o ← ev.origins ss
    { start := 0, apart := true, ordered := order.isEmpty && groups.isEmpty, apartOrdered
      limited := limited && limit.isNone && condition.isNone && !distinct } sources
  let bounds ← boundsOf ev limit offset
  let bounds := { bounds with limit := bounds.limit.or o.limit }
  let scope : Scope :=
    { columns := o.columns, isJoined := 1 < sources.length, aggregates := true }
  let fields ← ev.allFields scope ss items
  let aggregated := !groups.isEmpty || fields.any fun f => !f.term.aggregates.isEmpty
  let scope := { scope with aliases := aliasesOf fields }
  let narrow := { scope with aggregates := false }
  if having.isSome && !aggregated then
    throw (fault "HAVING clause on a non-aggregate query".toList)
  let having ← ev.optional (scope :: ss) having
  let conditions ← ev.conditionTerms (narrow :: ss) condition
  let ties ← o.ties.mapM fun t => do
    let terms ← ev.tieTerms (narrow :: ss) t
    return (t, terms)
  let own ← orderKeys ev scope fields order
  let groups ← groupKeys ev scope fields groups
  if !aggregated then
    match misuse? (own.map (·.1)) with
    | some e => throw e
    | none => pure ()
  let keepsRight := o.list.any fun o => o.join.keepsRight
  let (list, ties) := if keepsRight then (o.list, ties)
    else narrowJoins (conditions ++ o.conditions) 0 o.list ties
  let (tied, free) := ties.partition fun (t, _) => t.keeps || keepsRight
  let order := if own.isEmpty then o.order else own
  let joined : Joined :=
    { origins := withTies list tied
      conditions := conditions ++ free.flatMap (·.2) ++ o.conditions
      terms := fields.map (·.term) ++ having.toList ++ order.map (·.1) ++ groups }
  return (⟨joined, fields, distinct, aggregated, groups, having, order, bounds⟩,
    aggregated && ((own.isEmpty && !o.order.isEmpty) || o.limit.isSome))

/-- A selection with its names looked up; `limited` tells whether a query among its sources that
bounds its rows may be taken apart. -/
def compile (ev : Evaluator) (ss : List Scope) (limited distinct : Bool)
    (items : List Item) (sources : List Database.Joined) (condition : Option Expr)
    (groups : List Expr) (having : Option Expr) (order : List Order) (limit offset : Option Expr) :
    Except StoreError Compiled := do
  let attempt := fun (apartOrdered limited : Bool) =>
    compileWith ev ss apartOrdered limited distinct items sources condition groups having order
      limit offset
  let (c, needsAll) ← attempt groups.isEmpty (limited && groups.isEmpty)
  if needsAll then
    let (c, _) ← attempt false false
    return c
  else return c

/-! ## Values -/

/-- The plan of rows of values. -/
def valuesPlan (ev : Evaluator) (ss : List Scope) (rows : List (List Expr)) :
    Except StoreError Plan := do
  let scope : Scope := {}
  let backwards ← rows.reverse.mapM (ev.singles (scope :: ss))
  let terms := backwards.reverse
  let first := terms.headD []
  if terms.any fun row => row.length != first.length then
    throw Grammar.Rules.unevenRows
  return {
    columns := first.zipIdx.map fun (t, i) =>
      let name := "column".toList ++ ofNat (i + 1)
      { label := name, name, affinity := t.affinity, collation := t.collation.getD .binary }
    rows := fun outer => terms.mapM (Term.values ({} :: outer))
    uses := lowered ((terms.flatten).flatMap (·.uses)) }

/-- The plan of one of the queries that are put together. -/
def corePlan (ev : Evaluator) (ss : List Scope) : Core → Except StoreError (Plan × List Field)
  | .select distinct items sources condition groups having => do
    let c ← compile ev ss false distinct items sources condition groups having [] none none
    return (c.plan, c.fields)
  | .values rows => do
    let p ← valuesPlan ev ss rows
    return (p, p.columns.map fun c => ⟨c, .ofValue .null, none⟩)

/-! ## Queries put together -/

/-- Some rows put together with others. Whatever leaves out rows puts them in order. Of rows that
are equal, but not the same, the last one stays; if the rows are asked for in an order, the first
one of the rows that come last. -/
def combine (c : Combination) (directions : List Direction) (ordered : Bool)
    (a b : List (List Value)) : List (List Value) :=
  let same := fun (r s : List Value) => compareRows directions r s == .eq
  let single := fun (rows : List (List Value)) =>
    if ordered then distinctRows directions rows
    else (distinctRows directions rows.reverse).reverse
  let sorted := fun (rows : List (List Value)) =>
    (single rows).mergeSort fun r s => compareRows directions r s != .gt
  match c with
  | .unionAll => a ++ b
  | .union => sorted (if ordered then b ++ a else a ++ b)
  | .intersect => sorted (a.filter fun r => b.any (same r))
  | .except => sorted (a.filter fun r => !b.any (same r))

/-- The plans of the queries that are put together, with what puts each of them behind those
before it. The last one is looked at first. -/
def partPlans (ev : Evaluator) (ss : List Scope) :
    (before : Option Combination) → Core → List (Combination × Core) →
    Except StoreError (List (Option Combination × Plan × List Field))
  | before, core, [] => do
    let (p, fields) ← corePlan ev ss core
    return [(before, p, fields)]
  | before, core, (c, next) :: rest => do
    let later ← partPlans ev ss (some c) next rest
    let (p, fields) ← corePlan ev ss core
    match later with
    | (_, q, _) :: _ =>
      if p.columns.length != q.columns.length then
        throw (fault ("SELECTs to the left and right of ".toList ++ c.text ++
          " do not have the same number of result columns".toList))
    | [] => pure ()
    return (before, p, fields) :: later

/-- The column of queries put together that an expression means: by its place, or by a name that
one of the queries gives it. -/
def columnOf? (parts : List (List Field)) (e : Expr) : Option Nat :=
  match withoutCollation e with
  | .name _ path =>
    let name := path.getLastD []
    parts.findSome? fun fields =>
      (fields.findIdx? fun f =>
        path.length = 1 && (f.label.map (equalsIgnoringCase name)).getD false).or
      (fields.findIdx? fun f =>
        (f.term.columnName.map (equalsIgnoringCase name)).getD false)
  | _ => none

/-- The columns that queries put together are ordered by, with their directions. -/
def combinedOrder (columns : List ResultColumn) (parts : List (List Field)) (order : List Order) :
    Except StoreError (List (Nat × Direction)) :=
  (order.zipIdx 1).mapM fun (o, n) => do
    match o with
    | .by e descending nullsLast =>
      let place ← match integerOf? (withoutCollation e) with
        | some i =>
          if 1 ≤ i ∧ i ≤ columns.length then pure (i.toNat - 1)
          else throw (outOfRange "ORDER" n columns.length)
        | none =>
          match columnOf? parts e with
          | some i => pure i
          | none =>
            throw (fault (ordinal n ++
              " ORDER BY term does not match any column in the result set".toList))
      let own := ((columns[place]?).map (·.collation)).getD .binary
      let t ← underCollation e { Term.ofValue .null with collation := some own }
      return (place,
        { collation := t.collation.getD .binary, descending
          nullsLast := nullsLast.getD descending })

/-- The logarithmic number of rows that queries put together are taken to give. -/
def combinedSize (parts : List (Option Combination × Plan)) : Route.Size :=
  parts.foldl (fun (size : Route.Size) (c, p) =>
    match c with
    | none => p.size
    | some .unionAll | some .union => Route.sum p.size size
    | some .intersect => min p.size size
    | some .except => p.size) 0

/-- The plan of queries put together. -/
def combinedPlan (ev : Evaluator) (ss : List Scope) (first : Core)
    (rest : List (Combination × Core)) (order : List Order) (limit offset : Option Expr) :
    Except StoreError Plan := do
  let bounds ← boundsOf ev limit offset
  let parts ← partPlans ev ss none first rest
  let columns := match parts with
    | (_, p, _) :: _ => p.columns
    | [] => []
  let keys ← combinedOrder columns (parts.map fun (_, _, fields) => fields) order
  let directions := columns.map fun c => ({ collation := c.collation } : Direction)
  return {
    columns
    uses := (parts.flatMap fun (_, p, _) => p.uses).eraseDups
    aggregated := parts.any fun (_, p, _) => p.aggregated
    size :=
      let own := combinedSize (parts.map fun (c, p, _) => (c, p))
      (bounds.size.map (min own)).getD own
    rows := fun outer => bounds.apply outer fun _ => do
      let rows ← parts.foldlM (fun rows (c, p, _) => do
        let next ← p.rows outer
        return match c with
          | none => next
          | some c => combine c directions (!keys.isEmpty) rows next) []
      if keys.isEmpty then return rows
      else
        let key := fun (row : List Value) => keys.map fun (place, _) => (row[place]?).getD .null
        return rows.mergeSort fun a b =>
          compareRows (keys.map (·.2)) (key a) (key b) != .gt }

/-- The plan of a query without queries that have a name of their own. -/
def plainPlan (ev : Evaluator) (ss : List Scope) (first : Core)
    (rest : List (Combination × Core)) (order : List Order) (limit offset : Option Expr) :
    Except StoreError Plan := do
  match first, rest with
  | .select distinct items sources condition groups having, [] =>
    let c ← compile ev ss true distinct items sources condition groups having order limit offset
    return c.plan
  | first, rest => combinedPlan ev ss first rest order limit offset

/-- The plan of a query. -/
def planOf (ev : Evaluator) (ss : List Scope) : Query → Except StoreError Plan
  | .query [] first rest order limit offset => plainPlan ev ss first rest order limit offset
  | .query commons first rest order limit offset => do
    let named := commons.map NamedQuery.of
    let p ← plainPlan ev ({ named } :: ss) first rest order limit offset
    return { p with rows := fun outer => p.rows ({} :: outer), uses := lowered p.uses }

end Selection
end AskSql.Database
