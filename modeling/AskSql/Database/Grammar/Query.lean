import AskSql.Database.Grammar.Expression

/-!
# Grammar of queries

Selections and lists of values, put together or alone, with the queries that have a name of
their own in front of them.
-/

namespace AskSql.Database

/-- How two queries are put together, as it is written. -/
def Combination.text : Combination → Text
  | .unionAll => "UNION ALL".toList
  | .union => "UNION".toList
  | .intersect => "INTERSECT".toList
  | .except => "EXCEPT".toList

namespace Grammar.Rules

open Text Reader

/-! ## Sources -/

/-- The words of a join besides `JOIN`, as they are put together. -/
structure JoinWords where
  natural : Bool := false
  left : Bool := false
  right : Bool := false
  inner : Bool := false
  outer : Bool := false
  ordered : Bool := false
  unknown : Bool := false

/-- The words of a join with one more. -/
def JoinWords.add (j : JoinWords) (w : Text) : JoinWords :=
  match String.ofList (w.map Char.toUpper) with
  | "NATURAL" => { j with natural := true }
  | "LEFT" => { j with left := true, outer := true }
  | "RIGHT" => { j with right := true, outer := true }
  | "FULL" => { j with left := true, right := true, outer := true }
  | "OUTER" => { j with outer := true }
  | "INNER" => { j with inner := true }
  | "CROSS" => { j with inner := true, ordered := true }
  | _ => { j with unknown := true }

/-- The join that some words ask for. -/
def joinOf (words : List Text) : Except StoreError Join :=
  let j := words.foldl JoinWords.add {}
  if (j.inner && j.outer) || j.unknown || (j.outer && !j.left && !j.right) then
    .error (fault ("unknown join type: ".toList ++ join [' '] words))
  else
    .ok { natural := j.natural, keepsLeft := j.left, keepsRight := j.right, ordered := j.ordered }

/-- The join in front of a source, if one is there. -/
def joinBefore : Reader (Option Join) := do
  if ← acceptsSymbol "," then return some {}
  else if ← acceptsKeyword "JOIN" then return some {}
  else if ← sees (·.isAmong joining) then
    let first ← name
    let second ← if ← seesKeyword "JOIN" then pure [] else (do let w ← name; return [w])
    let third ← if second.isEmpty || (← seesKeyword "JOIN") then pure []
      else (do let w ← name; return [w])
    keyword "JOIN"
    match joinOf (first :: second ++ third) with
    | .ok j => return some j
    | .error e => refuse e
  else return none

/-- What a source is called, after `AS` or without it. -/
def called : Reader (Option Text) := do
  if ← acceptsKeyword "AS" then
    let n ← name
    return some n
  else if ← seesBareName then
    let n ← bareName
    return some n
  else return none

/-- Whether an index is to be used. -/
def indexChoice : Reader Unit := do
  if ← acceptsKeyword "INDEXED" then
    keyword "BY"
    let _ ← name
  else if ← acceptsKeyword "NOT" then keyword "INDEXED"

/-- What ties a source to those before it. -/
def tie (r : Rules) : Reader (Option Expr × List Text) := do
  if ← acceptsKeyword "ON" then
    let e ← r.any
    return (some e, [])
  else if ← acceptsKeyword "USING" then
    let names ← parenthesized (list name)
    return (none, names)
  else return (none, [])

/-- A source and what it is called. -/
def source (r : Rules) : Reader (Source × Option Text) := do
  if ← acceptsSymbol "(" then
    if ← seesQuery then
      let q ← r.query
      symbol ")"
      let n ← called
      return (.query q, n)
    else
      let ss ← r.sources
      symbol ")"
      let n ← called
      return (.sources ss, n)
  else
    let (schema, table) ← qualifiedName
    if ← acceptsSymbol "(" then
      let es ← r.anyList
      symbol ")"
      let n ← called
      return (.call table es, n)
    else
      let n ← called
      indexChoice
      return (.table schema table, n)

/-- Sources after others, if a join follows. Parentheses around the first sources, or around a
single one, are as good as none; but what a single one is called inside is forgotten. -/
def moreSources (r : Rules) (first : Bool) : (fuel : Nat) → Reader (List Joined)
  | 0 => stuck
  | fuel + 1 => do
    match ← if first then pure (some {}) else joinBefore with
    | none => return []
    | some j =>
      let (s, n) ← r.source
      let (on, shared) ← r.tie
      if first && (on.isSome || !shared.isEmpty) then
        refuse (fault ("a JOIN clause is required before ".toList ++
          (if on.isSome then "ON" else "USING").toList))
      else
        let more ← r.moreSources false fuel
        return match s, n, first with
          | .sources ss, none, true => ss ++ more
          | .sources [.joined _ s _ _ _], n, _ => .joined j s n on shared :: more
          | s, n, _ => .joined j s n on shared :: more

/-- Sources with joins between them. -/
def sourceList (r : Rules) : Reader (List Joined) :=
  fun ps => r.moreSources true (ps.length + 1) ps

/-! ## Selections -/

/-- What a selection takes from each row. -/
def item (r : Rules) : Reader Item := do
  if ← acceptsSymbol "*" then return .all
  else
    let ofTable := (← seesName) && !(← sees (·.isAmong operandWords)) &&
      (← seesAt 1 (·.isSymbol ".")) && (← seesAt 2 (·.isSymbol "*"))
    if ofTable then
      let table ← name
      symbol "."
      symbol "*"
      return .allOf table
    else
      let (e, taken) ← spanned r.any
      let label ← called
      return .expr e label (Piece.span taken)

/-- The windows that a selection names are passed over. -/
def windows : Reader Unit := do
  let named := (← seesKeyword "WINDOW") && (← seesAt 1 fun t => (nameOf? reserved t).isSome) &&
    (← seesAt 2 (·.isKeyword "AS"))
  if named then
    keyword "WINDOW"
    let _ ← list do
      let _ ← name
      keyword "AS"
      symbol "("
      passEnclosed 0
    pure ()

/-- How many rows a query gives, and how many it leaves out before them. -/
def limit (r : Rules) : Reader (Option Expr × Option Expr) := do
  if ← acceptsKeyword "LIMIT" then
    let e ← r.any
    if ← acceptsKeyword "OFFSET" then
      let offset ← r.any
      return (some e, some offset)
    else if ← acceptsSymbol "," then
      let limit ← r.any
      return (some limit, some e)
    else return (some e, none)
  else return (none, none)

/-- One of the queries that are put together, with what orders and bounds it. -/
structure Part where
  core : Core
  order : List Order := []
  limit : Option Expr := none
  offset : Option Expr := none

/-- Rows of values do not all have the same number of values. -/
def unevenRows : StoreError :=
  fault "all VALUES must have the same number of terms".toList

/-- An expression depends on nothing but parameters. -/
def isPlain (e : Expr) : Bool :=
  e.ingredients.all fun
    | .parameter => true
    | _ => false

/-- Rows of values after a first one of `width` values, at most `fuel`. A plain row of another
width is refused at once. -/
def moreRows (r : Rules) (width : Nat) : (fuel : Nat) → Reader (List (List Expr))
  | 0 => stuck
  | fuel + 1 => do
    if ← acceptsSymbol "," then
      let row ← parenthesized (list r.any)
      if row.length != width && row.all isPlain then refuse unevenRows
      else
        let rows ← r.moreRows width fuel
        return row :: rows
    else return []

/-- A selection after the items that it takes from each row. -/
def clauses (r : Rules) (distinct : Bool) (items : List Item) : Reader Part := do
  let sources ← Reader.after "FROM" r.sources
  let condition ← Reader.after "WHERE" r.any
  let groups ← if ← phrase "GROUP" ["BY"] then list r.any else pure []
  let having ← Reader.after "HAVING" r.any
  windows
  let order ← r.orderBy
  let (limit, offset) ← r.limit
  return ⟨.select distinct items (sources.getD []) condition groups having, order, limit, offset⟩

/-- A selection, or rows of values. -/
def part (r : Rules) : Reader Part := do
  if ← acceptsKeyword "VALUES" then
    let first ← parenthesized (list r.any)
    let rows ← fun ps => r.moreRows first.length (ps.length + 1) ps
    return ⟨.values (first :: rows), [], none, none⟩
  else
    keyword "SELECT"
    let distinct ← acceptsKeyword "DISTINCT"
    if !distinct then
      let _ ← acceptsKeyword "ALL"
    let items ← list r.item
    r.clauses distinct items

/-- How the next query is put together with those before it, if one follows. -/
def combination : Reader (Option Combination) := do
  if ← acceptsKeyword "UNION" then
    if ← acceptsKeyword "ALL" then return some .unionAll else return some .union
  else if ← acceptsKeyword "INTERSECT" then return some .intersect
  else if ← acceptsKeyword "EXCEPT" then return some .except
  else return none

/-- The queries that are put together with the ones before them, at most `fuel`. -/
def moreParts (r : Rules) : (fuel : Nat) → Reader (List (Combination × Part))
  | 0 => stuck
  | fuel + 1 => do
    match ← combination with
    | none => return []
    | some c =>
      let p ← r.part
      let more ← r.moreParts fuel
      return (c, p) :: more

/-- What is wrong with the order of the parts of a query: only the last one may be ordered or
bounded. -/
def misplaced? : Part → List (Combination × Part) → Option StoreError
  | _, [] => none
  | p, (c, q) :: rest =>
    match misplaced? q rest with
    | some e => some e
    | none =>
      let clause := if !p.order.isEmpty then some "ORDER BY"
        else if p.limit.isSome then some "LIMIT" else none
      clause.map fun clause =>
        fault (clause.toList ++ " clause should come after ".toList ++ c.text ++
          " not before".toList)

/-- Queries put together. -/
def combined (r : Rules) (commons : List Common) : Reader Query := do
  let first ← r.part
  let rest ← fun ps => r.moreParts (ps.length + 1) ps
  match misplaced? first rest with
  | some e => refuse e
  | none =>
    let last := match rest.getLast? with
      | some (_, p) => p
      | none => first
    return .query commons first.core (rest.map fun (c, p) => (c, p.core)) last.order last.limit
      last.offset

/-- The names of columns between parentheses, if they are given. -/
def columnNames : Reader (List Text) := do
  if ← seesSymbol "(" then parenthesized (list name)
  else return []

/-- A query with a name of its own. -/
def common (r : Rules) : Reader Common := do
  let n ← name
  let columns ← columnNames
  keyword "AS"
  let whole ← if ← acceptsKeyword "NOT" then (do keyword "MATERIALIZED"; return false)
    else acceptsKeyword "MATERIALIZED"
  let q ← parenthesized r.query
  return .common n columns whole q

/-- The first name that queries with names have in common with ones before them. -/
def repeatedName? : (before : List Text) → List Common → Option Text
  | _, [] => none
  | before, .common name _ _ _ :: rest =>
    if before.any (Text.equalsIgnoringCase name) then some name
    else repeatedName? (name :: before) rest

/-- The queries with names of their own in front of a statement. -/
def commons (r : Rules) : Reader (List Common) := do
  if ← acceptsKeyword "WITH" then
    let recursive := (← seesKeyword "RECURSIVE") &&
      !(← seesAt 1 fun t => t.isKeyword "AS" || t.isSymbol "(")
    if recursive then keyword "RECURSIVE"
    let all ← list r.common
    match repeatedName? [] all with
    | some name => refuse (fault ("duplicate WITH table name: ".toList ++ name))
    | none => return all
  else return []

/-- A query. -/
def fullQuery (r : Rules) : Reader Query := do
  let commons ← r.commons
  r.combined commons

end Grammar.Rules

/-! ## Rules at a depth -/

namespace Grammar

/-- The rules for what is nested at most `depth` deep. -/
def rules : (depth : Nat) → Rules
  | 0 => ⟨fun _ => Reader.stuck, Reader.stuck, Reader.stuck⟩
  | depth + 1 =>
    let r := rules depth
    ⟨fun level => r.expression level, r.fullQuery, r.sourceList⟩

/-- A reader that uses the rules for whatever the pieces that are left hold. -/
def ruled {α : Type} (r : Rules → Reader α) : Reader α :=
  fun ps => r (rules (ps.length + 1)) ps

end Grammar
end AskSql.Database
