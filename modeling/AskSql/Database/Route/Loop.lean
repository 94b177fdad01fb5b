import AskSql.Database.Route.Basic

/-!
# Loops

The loops in which the rows of one source can be run through: over the whole table, over an
index that holds all that is needed, over the part of an index that bounds leave, or over an
index made on the spot. A loop is kept only as long as none is known that is as good in every
way.
-/

namespace AskSql.Database.Route

/-- A way to run through the rows of a source, with what it costs. -/
structure Loop where
  source : Nat
  /-- The sources that have a row when the loop begins. -/
  needs : List Nat
  /-- The cost of the preparation. -/
  setup : Size := 0
  /-- The cost of running through it once. -/
  run : Size := 0
  /-- The number of rows that come out. -/
  out : Size
  way : Way
  /-- The terms that bound the loop. -/
  terms : List Term := []
  /-- The number of key columns with fixed values. -/
  points : Nat := 0
  /-- The key columns among them that run through several values. -/
  several : List Nat := []
  /-- A way into the table of its own is used. -/
  indexed : Bool := false
  /-- Nothing besides the way into the table is looked at. -/
  covered : Bool := false
  /-- A column is bound to an equal value. -/
  equal : Bool := false
  /-- There is a bound from above or from below. -/
  ranged : Bool := false
  /-- There is one row at most. -/
  single : Bool := false
  /-- Loops are compared only with those of the same number. -/
  sort : Nat := 0
  deriving Repr, DecidableEq

/-- Every element of one list is in another. -/
def within (xs ys : List Nat) : Bool :=
  xs.all ys.contains

/-- Some numbers with others, each of them once. -/
def union (xs ys : List Nat) : List Nat :=
  xs ++ ys.filter fun y => !xs.contains y

namespace Loop

/-- The loop uses an index made on the spot. -/
def isMade (l : Loop) : Bool :=
  match l.way with
  | .made _ => true
  | _ => false

/-- Bounds narrow the loop. -/
def isBounded (l : Loop) : Bool :=
  !l.terms.isEmpty && !l.isMade

/-- The number of rows that come out, with the conditions that can be tested in the loop and are
not what bounds it. -/
def adjusted (l : Loop) (conjuncts : List Conjunct) (rows : Size) : Loop :=
  let known := l.source :: l.needs
  let tested := (conjuncts.zipIdx.filter fun (c, n) =>
    within c.sources known && c.sources.contains l.source &&
      !l.terms.any fun t => t.conjunct == n).map (·.1)
  let reduction := tested.foldl (fun (r : Size) c =>
    if c.bounds.any fun b => b.kind == .equal then
      max r (if c.bounds.any (·.small) then 10 else 20)
    else r) 0
  { l with out := min (l.out - tested.length) (rows - reduction) }

/-! ## Keeping the best -/

/-- A loop is cheaper than another one that is bounded by all of its terms and more. -/
def cheaperWithLess (x y : Loop) : Bool :=
  x.terms.length < y.terms.length && !(x.run > y.run && x.out > y.out) &&
    x.terms.all y.terms.contains && !(x.covered && !y.covered)

/-- The loop with its costs brought in line with those of loops that have less or more terms. -/
def leveled (l : Loop) (others : List Loop) : Loop :=
  if !l.indexed then l
  else
    others.foldl (fun l p =>
      if p.source != l.source || !p.indexed then l
      else if p.cheaperWithLess l then
        { l with run := min p.run l.run, out := min (p.out - 1) l.out }
      else if l.cheaperWithLess p then
        { l with run := max p.run l.run, out := max (p.out + 1) l.out }
      else l) l

/-- A loop is as good as another one in every way. -/
def isAsGood (x y : Loop) : Bool :=
  within x.needs y.needs && x.setup ≤ y.setup && x.run ≤ y.run && x.out ≤ y.out

/-- A loop makes another one needless. -/
def outdoes (x y : Loop) : Bool :=
  (y.isMade && x.indexed && x.equal && within x.needs y.needs) ||
    (within x.needs y.needs && x.run ≤ y.run && x.out ≤ y.out)

/-- Some loops with one more, unless one of them is as good; those that it makes needless are
left out. -/
def insertInto (l : Loop) : List Loop → List Loop
  | [] => [l]
  | p :: rest =>
    let comparable := fun (q : Loop) => q.source == l.source && q.sort == l.sort
    if !comparable p then p :: insertInto l rest
    else if p.isMade && l.indexed && l.equal && within l.needs p.needs then
      l :: rest.filter fun q => !(comparable q && l.outdoes q)
    else if p.isAsGood l then p :: rest
    else if l.outdoes p then l :: rest.filter fun q => !(comparable q && l.outdoes q)
    else p :: insertInto l rest

end Loop

/-- Some loops with one more, if it is worth it. -/
def addLoop (conjuncts : List Conjunct) (site : Site) (loops : List Loop) (l : Loop) :
    List Loop :=
  let l := l.adjusted conjuncts site.rows
  (l.leveled loops).insertInto loops

/-! ## Loops of a site -/

namespace Site

/-- A term may bound the columns of a source. Where unmatched rows are kept, only what is tied to
the source may, and nothing may that is tied to another one. -/
def allows (s : Site) (conjuncts : List Conjunct) (t : Term) : Bool :=
  let tied := (conjuncts[t.conjunct]?).bind (·.tied)
  t.bound.source == s.number && !t.bound.needs.contains s.number &&
    match tied with
    | some k => k == s.number && t.bound.kind != .present
    | none => !s.keepsLeft

/-- A term bounds a column of a way into the table. -/
def fits (s : Site) (c : KeyColumn) (t : Term) : Bool :=
  let b := t.bound
  c.place == some b.place && (some b.place == s.rowNumber || b.kind == .null ||
    (b.helps c.affinity && b.collation == c.direction.collation))

/-- An order that is asked for may be had from a way into the table. -/
def mayOrder (s : Site) (p : Probe) (d : Demand) : Bool :=
  d.terms.any fun t =>
    match t.column with
    | some (source, place) => source == s.number &&
        (some place == s.rowNumber || p.key.any fun c => c.place == some place)
    | none => false

/-- The columns of the source that a conjunct speaks of are among those of a way into the
table. -/
def holds (s : Site) (p : Probe) (c : Conjunct) : Bool :=
  c.columns.all fun (source, place) => source != s.number || some place == s.rowNumber ||
    (p.key ++ p.rest).any fun k => k.place == some place

/-- The cost of looking up the rows of a table that are left when the first conjuncts have been
tested with a way into it. -/
def lookups (s : Site) (conjuncts : List Conjunct) (p : Probe) : Size :=
  let written := conjuncts.map fun c => (c, c.parts.1.any fun b => b.kind == .equal)
  let derived := conjuncts.reverse.flatMap fun c => c.parts.2.map fun b => (c, b.kind == .equal)
  ((written ++ derived).takeWhile fun (c, _) => s.holds p c).foldl
    (fun (n : Size) (_, isEqual) => n - if isEqual then 20 else 1) (s.rows + 16)

/-- All columns in use are among those of a way into the table. -/
def covers (s : Site) (p : Probe) : Bool :=
  p.isTable || within s.used p.held

end Site

namespace Probe

/-- The rows that are left when the first `n` columns of the key have fixed values. -/
def rowsAt (p : Probe) (rows : Size) (n : Nat) : Size :=
  if n = 0 then rows
  else if p.byRowNumber || (p.unique && n = p.key.length) then 0
  else ([33, 32, 30, 28, 27][n - 1]?).getD 23

/-- The cost of visiting a number of entries. -/
def visit (p : Probe) (s : Site) (out : Size) : Size :=
  if p.byRowNumber then out + 16 else out + 1 + 15 * p.width / s.width

end Probe

/-- What is needed to tell the loops of a way into a table. -/
structure Entrance where
  conjuncts : List Conjunct
  site : Site
  probe : Probe
  terms : List Term

namespace Entrance

/-- A loop with the cost of running through it; `times` is the logarithmic number of values that
its bounds run through. -/
def costed (e : Entrance) (l : Loop) (times : Size) : Loop :=
  let run := sum (logOf e.site.rows) (e.probe.visit e.site l.out)
  let run := if l.covered || e.probe.byRowNumber then run else sum run (l.out + 16)
  { l with run := run + times, out := l.out + times }

/-- A loop with one more bound on the rows that come out. -/
def narrowed (l : Loop) (t : Term) (before out : Size) : Loop :=
  { l with
    terms := l.terms ++ [t]
    needs := union l.needs t.bound.needs
    ranged := true
    out := min before (max 10 out) }

/-- The loops with those that a range on the column `c` bounds further. -/
def addRanges (e : Entrance) (c : KeyColumn) (l : Loop) (times : Size) (loops : List Loop) :
    List Loop :=
  let fitting := e.terms.filter (e.site.fits c)
  let add := addLoop e.conjuncts e.site
  let upward := fun (loops : List Loop) (t : Term) (gain : Size) =>
    let half := narrowed l t (l.out - 1) (l.out - gain)
    let loops := add loops (e.costed half times)
    (fitting.filter fun u => u.bound.kind == .below).foldl (fun loops u =>
      let both := narrowed { half with out := l.out } u (l.out - 2) (l.out - gain - 40)
      add loops (e.costed both times)) loops
  fitting.foldl (fun loops t =>
    match t.bound.kind with
    | .above => upward loops t 20
    | .present => if c.notNull then loops else upward loops t 0
    | .below => add loops (e.costed (narrowed l t (l.out - 1) (l.out - 20)) times)
    | _ => loops) loops

/-- A loop with the value of the next column of the key fixed. -/
def fixed (e : Entrance) (l : Loop) (t : Term) : Loop :=
  let n := l.points
  let isLast := n + 1 = e.probe.key.length
  let out := l.out + (e.probe.rowsAt e.site.rows (n + 1) - e.probe.rowsAt e.site.rows n)
  { l with
    terms := l.terms ++ [t]
    needs := union l.needs t.bound.needs
    points := n + 1
    several := match t.bound.kind with
      | .among _ => n :: l.several
      | _ => l.several
    equal := l.equal || t.bound.kind == .equal
    single := l.single || (t.bound.kind == .equal && isLast && l.several.isEmpty &&
      (e.probe.byRowNumber || (e.probe.unique &&
        (e.probe.key.length == 1 || e.probe.key.all (·.notNull)))))
    out := if t.bound.kind == .null then out + 10 else out }

/-- The loops with those that are bounded on the columns `key` and those before; `times` is the
logarithmic number of values that the bounds so far run through. -/
def addBounded (e : Entrance) : (key : List KeyColumn) → Loop → (times : Size) → List Loop →
    List Loop
  | [], _, _, loops => loops
  | c :: key, l, times, loops =>
    let points := e.terms.filter fun t => t.bound.kind.isPoint && e.site.fits c t &&
      !(t.bound.kind == .null && c.notNull)
    let loops := points.foldl (fun loops t =>
      let more := match t.bound.kind with
        | .among n => n
        | _ => 0
      let next := e.fixed l t
      let loops := addLoop e.conjuncts e.site loops (e.costed next (times + more))
      addBounded e key next (times + more) loops) loops
    e.addRanges c l times loops

end Entrance

namespace Site

/-- The loop over all rows by a way into the table, if it is worth it: the table itself always
is, an index if it may bring the order that is asked for, if rows have no numbers, or if it holds
all that is needed and is narrower than the table. -/
def scan? (s : Site) (conjuncts : List Conjunct) (d : Demand) (needs : List Nat) (n : Nat)
    (p : Probe) : Option Loop :=
  let mayOrder := s.mayOrder p d
  let base : Loop :=
    { source := s.number, needs, out := s.rows, way := .probe n
      sort := if mayOrder then n + 1 else 0 }
  if p.byRowNumber then some { base with run := s.rows + 16 }
  else
    let covers := s.covers p
    let l := { base with indexed := true, covered := covers }
    let run := s.rows + 1 + 15 * p.width / s.width
    if p.isTable then some { l with run }
    else if covers then
      if mayOrder || s.rowNumber.isNone || p.width < s.width then some { l with run } else none
    else if mayOrder || s.rowNumber.isNone then
      some { l with run := sum run (s.lookups conjuncts p) }
    else none

/-- The loops of a source whose rows are found by an index made on the spot. -/
def madeLoops (s : Site) (needs : List Nat) (terms : List Term) : List Loop :=
  if s.changes || (s.stored && s.rowNumber.isNone) then []
  else
    terms.filterMap fun t =>
      let b := t.bound
      if b.kind == .equal && some b.place != s.rowNumber &&
          b.helps ((s.affinities[b.place]?).getD .blob) then
        let setup := logOf s.rows + s.rows + if s.stored then 28 else -25
        some { source := s.number, needs := union needs b.needs, setup := max 0 setup
               run := sum (logOf s.rows) 43, out := 43, way := .made b.place
               terms := [t] }
      else none

/-- The loops with those of a source; `before` are the sources that have to be run through
before it. -/
def addLoops (s : Site) (conjuncts : List Conjunct) (d : Demand) (before : List Nat)
    (loops : List Loop) : List Loop :=
  let made := s.madeLoops before ((termsOf conjuncts).filter (s.allows conjuncts))
  let loops := made.foldl (fun loops l => l.insertInto loops) loops
  s.probes.zipIdx.foldl (fun loops (p, n) =>
    let loops := match s.scan? conjuncts d before n p with
      | some l => addLoop conjuncts s loops l
      | none => loops
    let places := (p.key.filterMap (·.place)).eraseDups
    let terms := (places.flatMap (termsOn conjuncts s.number)).filter (s.allows conjuncts)
    let e : Entrance := ⟨conjuncts, s, p, terms⟩
    let start : Loop :=
      { source := s.number, needs := before, out := s.rows, way := .probe n
        indexed := !p.byRowNumber, covered := s.covers p }
    e.addBounded p.key start 0 loops) loops

end Site
end AskSql.Database.Route
