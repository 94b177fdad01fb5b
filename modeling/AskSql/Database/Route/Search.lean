import AskSql.Database.Route.Loop

/-!
# Search for a route

A route runs through all sources of a query, one loop inside the other. The search extends the
best routes through some of them by one loop after the other, and takes the cost of putting the
rows in order into account where the loops do not bring them in the order that is asked for.
-/

namespace AskSql.Database.Route

/-- A route through some of the sources. -/
structure Path where
  loops : List Loop := []
  /-- The number of rows that come out. -/
  rows : Size := 0
  cost : Size := 0
  /-- The cost without what it takes to put the rows in order. -/
  unsorted : Size := 0
  /-- The number of terms of the order that the rows come in, once that is known. -/
  ordered : Option Nat := none
  /-- The sources that are run through backwards. -/
  reversed : List Nat := []
  deriving Repr, DecidableEq

/-- The sources of a path. -/
def Path.sources (p : Path) : List Nat :=
  p.loops.map (·.source)

/-- What a search is about. -/
structure Problem where
  sites : List Site
  conjuncts : List Conjunct
  demand : Demand
  loops : List Loop

/-! ## Orders -/

/-- How far an order has been followed through the loops of a path. -/
structure Progress where
  /-- For each term of the order, whether the rows come in it. -/
  met : List Bool
  /-- The loops so far tell all their rows apart. -/
  distinct : Bool := true
  distinctSources : List Nat := []
  /-- The sources that have been passed. -/
  passed : List Nat := []
  reversed : List Nat := []

/-- How far an order has been followed along the key of a way into a table. -/
structure KeyProgress where
  met : List Bool
  distinct : Bool
  /-- Whether the key is followed backwards, once that is known. -/
  backward : Option Bool := none
  /-- The row number has been met. -/
  rowNumberMet : Bool := false

namespace Problem

/-- The site of a source. -/
def site? (p : Problem) (source : Nat) : Option Site :=
  p.sites.find? (·.number == source)

/-- A column is bound to one value by what has been passed. -/
def isFixed (p : Problem) (passed : List Nat) (source place : Nat) (c : Collation) : Bool :=
  (termsOn p.conjuncts source place).any fun t => within t.bound.needs passed &&
    (t.bound.kind == .null || (t.bound.kind == .equal && t.bound.collation == c))

/-- The first term of the order that is not met and that a key column meets; with an order
proper, only the first term that is left is looked at. -/
def termFor? (p : Problem) (source : Nat) (isRowNumber : Bool) (c : KeyColumn)
    (met : List Bool) : Option (Nat × OrderTerm) :=
  let left := ((p.demand.terms.zip met).zipIdx.filter fun ((_, done), _) => !done).map
    fun ((t, _), n) => (n, t)
  let candidates := if p.demand.purpose == .order then left.take 1 else left
  candidates.find? fun (_, t) =>
    t.column == c.place.map (source, ·) &&
      (isRowNumber || t.direction.collation == c.direction.collation)

/-- The order followed along a key from column number `n` on. -/
def followKey (p : Problem) (s : Site) (l : Loop) (keyLength : Nat) :
    (n : Nat) → List KeyColumn → KeyProgress → KeyProgress
  | _, [], k => k
  | n, c :: key, k =>
    if n < l.points && !l.several.contains n then
      let isNull := ((l.terms[n]?).map fun t => t.bound.kind == .null).getD false
      followKey p s l keyLength (n + 1) key { k with distinct := k.distinct && !isNull }
    else
      let isRowNumber := c.place == s.rowNumber
      let k := { k with distinct := k.distinct && (isRowNumber || n < l.points || c.notNull) }
      let stopped := { k with distinct := k.distinct && !(n = 0 || n < keyLength) }
      match p.termFor? s.number isRowNumber c k.met with
      | none => stopped
      | some (i, t) =>
        let opposite := c.direction.descending != t.direction.descending
        let turned := p.demand.purpose != .group && (k.backward.map (· != opposite)).getD false
        let nullsApart := t.direction.nullsLast != t.direction.descending && n != l.points
        if turned || nullsApart then stopped
        else
          followKey p s l keyLength (n + 1) key { k with
            met := k.met.set i true
            backward := if p.demand.purpose == .group then k.backward else some opposite
            rowNumberMet := k.rowNumberMet || isRowNumber }

/-- The columns that the entries of a way into a table are ordered by. -/
def keyOf (s : Site) (q : Probe) : List KeyColumn :=
  let number : List KeyColumn := (s.rowNumber.toList).map fun n => ⟨some n, .integer, {}, true⟩
  if q.byRowNumber then number else q.key ++ q.rest ++ number

/-- The terms of an order that are met because only sources speak in them whose rows are told
apart, or none. -/
def withDistinct (p : Problem) (sources : List Nat) (met : List Bool) : List Bool :=
  (p.demand.terms.zip met).map fun (t, done) => done || within t.sources sources

/-- The order followed through one more loop; nothing if the loop brings no order at all. -/
def followLoop? (p : Problem) (g : Progress) (l : Loop) : Option Progress :=
  match p.site? l.source with
  | none => none
  | some s =>
    let met := (p.demand.terms.zip g.met).map fun (t, done) =>
      done || match t.column with
        | some (source, place) => source == l.source && p.isFixed g.passed source place
            t.direction.collation
        | none => false
    let probe := match l.way with
      | .probe n => s.probes[n]?
      | _ => none
    match probe with
    | none => none
    | some q =>
      let k : KeyProgress :=
        if l.single then { met, distinct := g.distinct }
        else
          p.followKey s l q.key.length 0 (keyOf s q)
            { met, distinct := q.byRowNumber || q.unique }
      let distinct := k.distinct || k.rowNumberMet
      let sources := if distinct then l.source :: g.distinctSources else g.distinctSources
      some
        { met := if distinct then p.withDistinct sources k.met else k.met
          distinct
          distinctSources := sources
          passed := l.source :: g.passed
          reversed := if k.backward == some true then l.source :: g.reversed else g.reversed }

/-- The order followed through the loops of a path, as long as each tells its rows apart. -/
def follow? (p : Problem) : List Loop → Progress → Option Progress
  | [], g => some g
  | l :: ls, g =>
    if !g.distinct || g.met.all id then some g
    else (p.followLoop? g l).bind (p.follow? ls)

/-- The number of terms of the order that the rows of a path come in, if it is known before all
sources are in it, and the sources that are run through backwards. -/
def orderOf (p : Problem) (loops : List Loop) : Option Nat × List Nat :=
  match p.follow? loops { met := p.demand.terms.map fun _ => false } with
  | none => (some 0, [])
  | some g =>
    if g.met.all id then (some g.met.length, g.reversed)
    else if g.distinct then (none, g.reversed)
    else (some (g.met.takeWhile id).length, g.reversed)

/-! ## Costs -/

/-- The cost of putting `rows` rows in an order, of which they come in the first `met` terms. -/
def sortCost (p : Problem) (rows : Size) (met : Nat) : Size :=
  let n := p.demand.terms.length
  let cost := rows + sizeOf ((p.demand.columns + 59) / 30)
  let cost := if 0 < met then cost + sizeOf ((n - met) * 100 / n) - 66 else cost
  match p.demand.limit with
  | some limit =>
    let cost := cost + 10 + if met = 0 then 0 else 6
    cost + logOf (min limit rows)
  | none =>
    cost + logOf (if p.demand.distinct && 10 < rows then rows - 10 else rows)

/-- A path with one more loop; `estimate` is the number of rows to be put in order. -/
def extended (p : Problem) (estimate : Option Size) (path : Path) (l : Loop) : Path :=
  let run := l.run + path.rows
  let run := if l.setup = 0 then run else sum l.setup run
  let unsorted := sum run path.unsorted
  let rows := path.rows + l.out
  let loops := path.loops ++ [l]
  let wanted := p.demand.terms.length
  let (ordered, reversed) := match estimate, path.ordered with
    | none, _ => (some wanted, [])
    | some _, some n => (some n, path.reversed)
    | some _, none =>
      if wanted = 0 then (some 0, []) else p.orderOf loops
  let (cost, unsorted) := match estimate, ordered with
    | some estimate, some met =>
      if met < wanted then (sum unsorted (p.sortCost estimate met) + 3, unsorted)
      else (unsorted, unsorted - 2)
    | _, _ => (unsorted, unsorted - 2)
  let outermost := path.loops.isEmpty && 1 < p.sites.length &&
    (((p.site? l.source).map fun s => !s.stored).getD false) && !l.isMade
  { loops, unsorted, ordered, reversed
    rows := if outermost then rows - 30 else rows
    cost := if outermost then cost - 10 else cost }

/-- The number of paths that are kept at each step. -/
def breadth (p : Problem) : Nat :=
  if p.sites.length ≤ 1 then 1 else if p.sites.length = 2 then 5 else 10

/-- Two paths run through the same sources, and both are known to bring the order or not. -/
def alike (x y : Path) : Bool :=
  within x.sources y.sources && within y.sources x.sources &&
    x.ordered.isNone == y.ordered.isNone

/-- Some paths with one more, if it is among the best of them. -/
def keep (p : Problem) (best : List Path) (path : Path) : List Path :=
  match best.findIdx? (alike path) with
  | some i =>
    match best[i]? with
    | some old =>
      let worse := old.cost < path.cost || (old.cost == path.cost &&
        (old.rows < path.rows || (old.rows == path.rows && old.unsorted ≤ path.unsorted)))
      if worse then best else best.set i path
    | none => best
  | none =>
    if best.length < p.breadth then best ++ [path]
    else
      let worst := best.foldl (fun (w : Option Path) x =>
        match w with
        | none => some x
        | some w => if x.cost > w.cost || (x.cost == w.cost && x.unsorted > w.unsorted) then some x
          else some w) none
      match worst with
      | none => best
      | some w =>
        if path.cost > w.cost || (path.cost == w.cost && path.unsorted ≥ w.unsorted) then best
        else (best.erase w) ++ [path]

/-- The best paths with `n` more loops. -/
def grow (p : Problem) (estimate : Option Size) : (n : Nat) → List Path → List Path
  | 0, paths => paths
  | n + 1, paths =>
    let next := paths.flatMap fun path =>
      (p.loops.filter fun l =>
        within l.needs path.sources && !path.sources.contains l.source &&
          !(l.isMade && path.rows < 3)).map fun l => (path, l)
    p.grow estimate n (next.foldl (fun best (path, l) =>
      p.keep best (p.extended estimate path l)) [])

/-- The cheapest path through all sources. -/
def search? (p : Problem) (estimate : Option Size) : Option Path :=
  (p.grow estimate p.sites.length [{}]).foldl (fun best path =>
    match best with
    | none => some path
    | some b => if path.cost < b.cost then some path else best) none

/-- The loops without those over whole tables for sources that the first loops of a path find by
fixed values. -/
def withoutScans (loops : List Loop) : List Loop → List Loop
  | [] => loops
  | l :: ls =>
    if 0 < l.points then
      withoutScans (loops.filter fun m => m.source != l.source || m.isBounded || m.isMade) ls
    else loops

end Problem

/-- A route through some sources, and whether the rows come in the order that is asked for. -/
structure Itinerary where
  stages : List Stage
  ordered : Bool
  /-- The logarithmic number of rows that come out. -/
  rows : Size

/-- The loops of some sources, given those of the sources `before`. Where unmatched rows are kept,
a source waits for those before it; after a join in a fixed order, so do all sources that follow. -/
def loopsOf (conjuncts : List Conjunct) (d : Demand) :
    (before : List Nat) → (waits : Bool) → List Site → List Loop → List Loop
  | _, _, [], loops => loops
  | before, waits, s :: sites, loops =>
    let waits := waits || s.ordered
    let needs := if waits || s.keepsLeft then before else []
    loopsOf conjuncts d (before ++ [s.number]) waits sites (s.addLoops conjuncts d needs loops)

/-- The route through some sources. -/
def find (sites : List Site) (conjuncts : List Conjunct) (d : Demand) : Itinerary :=
  let loops := loopsOf conjuncts d [] false sites []
  let p : Problem := ⟨sites, conjuncts, d, loops⟩
  let first := p.search? none
  let best :=
    if d.terms.isEmpty then first
    else
      match first with
      | none => none
      | some path =>
        let p := { p with loops := Problem.withoutScans loops path.loops }
        (p.search? (some (path.rows + 1))).or first
  match best with
  | none => ⟨sites.map fun s => ⟨s.number, .rows, false⟩, d.terms.isEmpty, 0⟩
  | some path =>
    let reversed := if d.purpose = .distinct then [] else path.reversed
    { stages := path.loops.map fun l => ⟨l.source, l.way, reversed.contains l.source⟩
      ordered := d.terms.isEmpty || path.ordered == some d.terms.length
      rows := match path.loops with
        | [l] => if l.single then 1 else path.rows
        | _ => path.rows }

end AskSql.Database.Route
