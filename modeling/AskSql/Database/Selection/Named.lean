import AskSql.Database.Selection.Query

/-!
# Queries with a name of their own

A query may have a name by which other queries take its rows. If its last parts take rows by the
name as well, the query goes on from its own rows: the parts before give the first ones, and the
last parts are run for each row in turn, with the row in place of the name, until nothing new
comes.

While a query with a name is looked at, nothing else in it may mention the name.
-/

namespace AskSql.Database

open Text

namespace Selection

open Evaluator

/-! ## Mentions -/

/-- A source is a table of this name. -/
def isMention (name : Text) : Database.Joined → Bool
  | .joined _ (.table none table) _ _ _ => equalsIgnoringCase table name
  | _ => false

/-- The number of times that a query takes rows from a table of this name. -/
def mentions (name : Text) : Core → Nat
  | .select _ _ sources _ _ _ => (sources.filter (isMention name)).length
  | .values _ => 0

/-- A query with the rows that it has given so far in place of a table of this name. -/
def takingOwn (name : Text) : Core → Core
  | .select distinct items sources condition groups having =>
    let sources := sources.map fun j =>
      match j with
      | .joined join _ called on shared =>
        if isMention name j then .joined join (.own name) called on shared else j
    .select distinct items sources condition groups having
  | c => c

/-- The parts of a query after its first one: those before it goes on from its own rows, and those
by which it does. -/
def splitParts (name : Text) (rest : List (Combination × Core)) :
    List (Combination × Core) × List (Combination × Core) :=
  match rest.getLast? with
  | some (c, _) =>
    if c == .unionAll || c == .union then
      let last := rest.reverse.takeWhile fun (d, core) => d == c && 0 < mentions name core
      (rest.take (rest.length - last.length), last.reverse)
    else (rest, [])
  | none => (rest, [])

/-! ## Rows that come of rows -/

/-- The greatest number of rows that a query gives that goes on from its own rows. -/
def recursionLimit : Nat := 10000

/-- The rows that come of those which wait in a queue, by taking up each of them in turn, at most
`fuel` of them. Where equal rows are left out, `distinct` tells how they are compared. -/
def recursion (step : List Value → Except StoreError (List (List Value)))
    (ordered : List (List Value) → List (List Value)) (distinct : Option (List Direction)) :
    (fuel : Nat) → (given queue : List (List Value)) → Except StoreError (List (List Value))
  | 0, given, _ => .ok given.reverse
  | _ + 1, given, [] => .ok given.reverse
  | fuel + 1, given, row :: queue => do
    let next ← step row
    let known := row :: given ++ queue
    let next := match distinct with
      | none => next
      | some ds => (distinctRows ds next).filter fun r =>
          !known.any fun k => compareRows ds k r == .eq
    recursion step ordered distinct fuel (row :: given) (ordered (queue ++ next))

/-- The plan of a query that goes on from its own rows: what comes first, and what is made of each
row. -/
def recursivePlan (first : Plan) (next : List Plan) (isUnion : Bool)
    (keys : List (Nat × Direction)) (bounds : Bounds) : Plan where
  columns := first.columns
  uses := (first.uses ++ lowered (next.flatMap (·.uses))).eraseDups
  size := (next.tail.map (·.size)).foldl Route.sum ((next.head?.map (·.size)).getD 0)
  rows := fun frames => do
    let (limit, offset) ← bounds.values frames
    if limit = some 0 then return []
    else
      let directions := first.columns.map fun c => ({ collation := c.collation } : Direction)
      let key := fun (row : List Value) => keys.map fun (place, _) => (row[place]?).getD .null
      let ordered := fun (rows : List (List Value)) =>
        if keys.isEmpty then rows
        else rows.mergeSort fun a b => compareRows (keys.map (·.2)) (key a) (key b) != .gt
      let start ← first.rows frames
      let start := if isUnion then distinctRows directions start else start
      let step := fun (row : List Value) => do
        let rows ← next.mapM fun p => p.rows ({ group := [[row]] } :: frames)
        return rows.flatten
      let rows ← recursion step ordered (if isUnion then some directions else none)
        ((limit.map (· + offset)).getD recursionLimit) [] (ordered start)
      return rows.drop offset

/-! ## Plans -/

/-- The plan of a query with a name of its own, in the scopes that it was named in. -/
def namedPlan (ev : Evaluator) (ss : List Scope) (q : NamedQuery) : Except StoreError Plan := do
  let outside := Scope.barring q.name circular ss
  match q.body with
  | .query commons first rest order limit offset =>
    match splitParts q.name rest with
    | (before, (c, core) :: last) =>
      let cores := core :: last.map (·.2)
      if cores.any fun core => 1 < mentions q.name core then
        throw (fault ("multiple references to recursive table: ".toList ++ q.name))
      let start ← ev.query outside (.query commons first before [] none none)
      let names ← givenNames q.columns (start.columns.map (·.name)) (namedMismatch q.name)
      let columns := (start.columns.zip names).map fun (c, name) =>
        ({ name, declaredType := [], affinity := c.affinity.getD .blob
           collation := c.collation } : ColumnShape)
      let scope : Scope := { working := some ⟨q.name, columns⟩ }
      let inside := scope :: Scope.barring q.name "multiple recursive references" ss
      let bounds ← boundsOf ev limit offset
      let backwards ← cores.reverse.mapM fun core =>
        ev.query inside (.query commons (takingOwn q.name core) [] [] none none)
      if backwards.any fun p => p.columns.length != columns.length then
        throw (fault ("SELECTs to the left and right of ".toList ++ c.text ++
          " do not have the same number of result columns".toList))
      let fields := (start :: backwards.reverse).map fun p => p.columns.map fun c =>
        (⟨c, .ofValue .null, some c.label⟩ : Field)
      let keys ← combinedOrder start.columns fields order
      if backwards.any (·.aggregated) then
        throw (fault "recursive aggregate queries not supported".toList)
      return recursivePlan start backwards.reverse (c == .union) keys bounds
    | (_, []) => ev.query outside q.body

end Selection

namespace Evaluator

/-- Nesting that is too deep. -/
def tooDeep {α : Type} : Except StoreError α :=
  .error (fault "parser stack overflow".toList)

/-- The evaluator for what is nested at most `depth` deep. -/
def ofDepth (db : Database) : (depth : Nat) → Evaluator
  | 0 => ⟨db, fun _ _ => tooDeep, fun _ _ => tooDeep, fun _ _ => tooDeep, fun _ _ _ => tooDeep⟩
  | depth + 1 =>
    let ev := ofDepth db depth
    ⟨db, ev.term, Selection.planOf ev, Selection.namedPlan ev, ev.originsOf⟩

/-- The number of pieces of all views. -/
def viewSize (db : Database) : Nat :=
  sumOf (db.views.map fun v => v.body.length + 2)

/-- The evaluator for statements of at most `size` pieces on a database. -/
def ofSize (db : Database) (size : Nat) : Evaluator :=
  ofDepth db (size + viewSize db + 4)

end Evaluator
end AskSql.Database
