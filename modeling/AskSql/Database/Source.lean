import AskSql.Database.Item
import AskSql.Database.Grammar.Query

/-!
# Sources

The sources of a query become its origins: tables as they are, views and queries with a name as
the queries that they stand for. A simple query among the sources is taken apart: its own sources
stand in its place, and its conditions join those of the query around it.
-/

namespace AskSql.Database

open Text

/-! ## Names of columns -/

/-- A name without a colon and the number behind it at its end. -/
def withoutNumber (name : Text) : Text :=
  let base := dropEndWhile isAsciiDigit name
  if base.getLast? = some ':' then base.dropLast else name

/-- The first of `name`, `name:1`, `name:2` and so on that is not among `names`. -/
def freshName (names : List Text) (name : Text) : Text :=
  let numbered := (List.range (names.length + 1)).map fun n =>
    withoutNumber name ++ ':' :: ofNat (n + 1)
  ((name :: numbered).find? fun candidate =>
    !names.any (equalsIgnoringCase candidate)).getD name

/-- Names made different from each other. -/
def freshNames : (before : List Text) → List Text → List Text
  | _, [] => []
  | before, name :: rest =>
    let fresh := freshName before name
    fresh :: freshNames (fresh :: before) rest

/-- The names of columns as those of a source. The name of a truth value is no name. -/
def sourceNames (names : List Text) : List Text :=
  freshNames [] (names.zipIdx.map fun (name, i) =>
    if (Scope.truthOf? name).isSome then "column".toList ++ ofNat (i + 1) else name)

namespace Evaluator

/-! ## Conditions -/

/-- Conditions that have to hold all together. -/
def conjuncts : Expr → List Expr
  | .binary .and a b => conjuncts a ++ conjuncts b
  | e => [e]

/-- The terms of the conditions that a query sets. -/
def conditionTerms (ev : Evaluator) (ss : List Scope) (condition : Option Expr) :
    Except StoreError (List Term) :=
  ev.singles ss ((condition.map conjuncts).getD [])

/-- The terms of a tie. -/
def tieTerms (ev : Evaluator) (ss : List Scope) (t : Tie) : Except StoreError (List Term) :=
  match t.condition with
  | .inl e => ev.conditionTerms ss (some e)
  | .inr term => .ok [term]

/-! ## Taking queries apart -/

/-- The origins of a query that is simple enough, and what it gives for each row of them. -/
def takenApart? (ev : Evaluator) (ss : List Scope) (taking : Taking) :
    Query → Except StoreError (Option (Origins × List Field))
  | .query [] (.select false items (s :: sources) condition [] none) [] order limit none => do
    if !taking.allows order limit then return none
    let inside := { taking with
      ordered := false
      limited := taking.limited && limit.isNone && condition.isNone }
    let inner ← ev.origins ss inside (s :: sources)
    if inner.list.any fun o => o.join.keepsLeft || o.join.keepsRight then return none
    let scope : Scope :=
      { columns := inner.columns, isJoined := !sources.isEmpty, aggregates := true }
    let bound ← ev.optional [] limit
    let fields ← ev.allFields scope ss items
    if fields.any fun f => !f.term.aggregates.isEmpty then return none
    let scopes := { scope with aliases := aliasesOf fields, aggregates := false } :: ss
    let conditions ← ev.conditionTerms scopes condition
    let ties ← inner.ties.mapM (ev.tieTerms scopes)
    let order ← orderKeys ev { scope with aliases := aliasesOf fields } fields order
    if order.any fun (t, _) => !t.aggregates.isEmpty then return none
    return some (
      { list := inner.list
        conditions := conditions ++ ties.flatten ++ inner.conditions
        order := if taking.ordered then order else []
        limit := bound.or inner.limit }, fields)
  | _ => .ok none

/-! ## Origins -/

/-- What is added to the origins of a query by one source. -/
structure Addition where
  list : List Origin
  columns : List ScopeColumn
  conditions : List Term := []
  order : List (Term × Direction) := []
  limit : Option Term := none
  ties : List Tie := []

/-- A stored table as an origin. -/
def tableAddition (db : Database) (number : Nat) (t : StoredTable) (indexed : Bool)
    (called : Option Text) : Addition :=
  let table := called.getD t.name
  let schema := some (if t.temporary then "temp" else "main").toList
  let width := t.shape.columns.length
  let columns := t.shape.columns.zipIdx.map fun (c, place) =>
    ({ table, schema, name := c.name, term := .column number place c } : ScopeColumn)
  let number : List ScopeColumn :=
    if t.shape.withoutRowNumber then []
    else
      let term := match t.shape.rowNumberPlace? with
        | some place => (columns[place]?).map ScopeColumn.term
        | none => none
      let plain := Term.column number width
        { name := "rowid".toList, declaredType := [], affinity := .integer }
      [{ table, schema, name := "rowid".toList, term := term.getD plain, isRowNumber := true }]
  { list := [
      { rows := fun _ => .ok (t.rows.map StoredTable.valuesOf)
        width := width + 1
        table := some (t, if indexed then t.indexes db else []) }]
    columns := columns ++ number }

/-- The columns of a source that a plan stands for. -/
def planColumns (number : Nat) (table : Text) (columns : List ResultColumn) (names : List Text) :
    List ScopeColumn :=
  (columns.zip names).zipIdx.map fun ((c, name), place) =>
    let shape : ColumnShape :=
      { name, declaredType := [], affinity := .blob, collation := c.collation }
    { table, schema := none, name
      term := { Term.column number place shape with affinity := c.affinity } }

/-- A plan as an origin. -/
def planAddition (number : Nat) (table : Text) (p : Plan) (names : List Text) : Addition where
  list := [
    { rows := p.rows, width := p.columns.length, uses := p.uses, size := p.size
      affinities := p.columns.map fun c => c.affinity.getD .blob }]
  columns := planColumns number table p.columns names

/-- The names that the columns of a query get, where some are given for them. -/
def givenNames (given own : List Text) (mismatch : Nat → Nat → StoreError) :
    Except StoreError (List Text) :=
  if given.isEmpty then .ok (sourceNames own)
  else if given.length = own.length then .ok (sourceNames given)
  else .error (mismatch given.length own.length)

/-- A query that is taken apart as origins. -/
def takenAddition (table : Text) (given : List Text) (mismatch : Nat → Nat → StoreError)
    (inner : Origins) (fields : List Field) : Except StoreError Addition := do
  let names ← givenNames given (fields.map (·.column.name)) mismatch
  return {
    list := inner.list
    columns := (fields.zip names).map fun (f, name) =>
      { table, schema := none, name, term := { f.term with columnName := some name } }
    conditions := inner.conditions
    order := inner.order
    limit := inner.limit }

/-- A query as an origin, taken apart if it can be. -/
def queryAddition (ev : Evaluator) (ss : List Scope) (taking : Taking) (table : Text)
    (given : List Text) (mismatch : Nat → Nat → StoreError) (q : Query) :
    Except StoreError Addition := do
  match ← ev.takenApart? ss taking q with
  | some (inner, fields) => takenAddition table given mismatch inner fields
  | none =>
    let p ← ev.query ss q
    let names ← givenNames given (p.columns.map (·.name)) mismatch
    return planAddition taking.start table p names

/-- A wrong number of names for the columns of a view. -/
def viewMismatch (name : Text) (given own : Nat) : StoreError :=
  fault ("expected ".toList ++ ofNat given ++ " columns for '".toList ++ name ++
    "' but got ".toList ++ ofNat own)

/-- A view as an origin. -/
def viewAddition (ev : Evaluator) (ss : List Scope) (taking : Taking) (v : StoredView)
    (called : Option Text) : Except StoreError Addition := do
  let views := Scope.openViews ss
  if views.any (equalsIgnoringCase v.name) then
    throw (fault ("view ".toList ++ v.name ++ " is circularly defined".toList))
  match Grammar.ruled Grammar.Rules.query v.body with
  | .error e => throw e.error
  | .ok (q, _) =>
    ev.queryAddition [{ views := v.name :: views }] taking (called.getD v.name) v.columns
      (viewMismatch v.name) q

/-! ## Named queries -/

/-- How a mention of a name in its own query is reported. -/
def circular : String := "circular reference"

/-- A wrong number of names for the columns of a query with a name. -/
def namedMismatch (name : Text) (given own : Nat) : StoreError :=
  fault ("table ".toList ++ name ++ " has ".toList ++ ofNat own ++ " values for ".toList ++
    ofNat given ++ " columns".toList)

/-- A query with a name of its own as an origin. -/
def namedAddition (ev : Evaluator) (taking : Taking) (level : Nat) (q : NamedQuery)
    (ss : List Scope) (called : Option Text) : Except StoreError Addition := do
  match q.barred with
  | some report => throw (fault (report.toList ++ ": ".toList ++ q.name))
  | none => pure ()
  let table := called.getD q.name
  let apart ← if level = 0 && !q.whole then
      ev.takenApart? (Scope.barring q.name circular ss) taking q.body
    else pure none
  match apart with
  | some (inner, fields) => takenAddition table q.columns (namedMismatch q.name) inner fields
  | none =>
    let p ← ev.named ss q
    let names ← givenNames q.columns (p.columns.map (·.name)) (namedMismatch q.name)
    let p := { p with
      rows := fun frames => p.rows (frames.drop level)
      uses := p.uses.map fun s => { s with level := s.level + level } }
    return planAddition taking.start table p names

/-- The rows that a query has given so far as an origin. -/
def workingAddition (taking : Taking) (level : Nat) (w : Working) (called : Option Text) :
    Addition where
  list := [
    { rows := fun frames =>
        .ok ((((frames.drop level).head?.map (·.group)).getD []).map (·.headD []))
      width := w.columns.length
      changes := true }]
  columns := w.columns.zipIdx.map fun (c, place) =>
    { table := called.getD w.name, schema := none, name := c.name
      term := .column taking.start place c }

/-! ## Functions that give rows -/

/-- The place of a column in the primary key of a table, counted from one, or zero. -/
def keyPlace (t : StoredTable) (c : ColumnShape) : Nat :=
  match t.shape.primaryKey.findIdx? (equalsIgnoringCase c.name) with
  | some i => i + 1
  | none => 0

/-- What is told about the columns of a table. -/
def tableInfo (t : StoredTable) : List (List Value) :=
  (t.shape.columns.filter (·.generated.isNone)).zipIdx.map fun (c, i) =>
    [.integer i, .text c.name, .text c.declaredType, Value.ofBool c.notNull.isSome,
      .ofText? (c.default.map Piece.written), .integer (keyPlace t c)]

/-- The word for what becomes of a row that points to another one. -/
def KeyAction.text : KeyAction → Text
  | .nothing => "NO ACTION".toList
  | .restrict => "RESTRICT".toList
  | .clear => "SET NULL".toList
  | .reset => "SET DEFAULT".toList
  | .cascade => "CASCADE".toList

/-- What is told about the foreign keys of a table. -/
def foreignKeyList (t : StoredTable) : List (List Value) :=
  t.shape.foreignKeys.reverse.zipIdx.flatMap fun (k, id) =>
    (TableShape.split k).zipIdx.map fun (f, seq) =>
      [.integer id, .integer seq, .text f.targetTable, .text f.column,
        .ofText? f.targetColumn, .text (KeyAction.text k.onUpdate),
        .text (KeyAction.text k.onDelete), .text "NONE".toList]

/-- The names of the columns and the rows of what is told about a table. -/
def pragmaRows? (db : Database) (name table : Text) :
    Option (List String × List (List Value)) :=
  let rowsOf := fun (f : StoredTable → List (List Value)) =>
    ((db.table? none table).map f).getD []
  match String.ofList (name.map Char.toLower) with
  | "table_info" => some (["cid", "name", "type", "notnull", "dflt_value", "pk"],
      rowsOf tableInfo)
  | "foreign_key_list" => some (["id", "seq", "table", "from", "to", "on_update", "on_delete",
      "match"], rowsOf foreignKeyList)
  | _ => none

/-- A function that gives rows as an origin. -/
def callAddition (ev : Evaluator) (ss : List Scope) (taking : Taking) (name : Text)
    (es : List Expr) (called : Option Text) : Except StoreError Addition := do
  let args ← ev.singles ss es
  let values ← Term.values [] args
  let table := ((values.head?).bind Value.text?).getD []
  match (dropPrefix? "pragma_".toList name).bind fun n => pragmaRows? ev.db n table with
  | some (columns, rows) =>
    let p : Plan :=
      { columns := columns.map fun c => ({ label := c.toList, name := c.toList } : ResultColumn)
        rows := fun _ => .ok rows }
    return planAddition taking.start (called.getD name) p (columns.map String.toList)
  | none =>
    match Scope.named? name 0 ss with
    | some (_, { barred := some report, name, .. }, _) =>
      throw (fault (report.toList ++ ": ".toList ++ name))
    | found =>
      if found.isSome || (ev.db.table? none name).isSome || (ev.db.view? none name).isSome then
        throw (fault ('\x27' :: name ++ "' is not a function".toList))
      else throw (noTable name)

/-! ## Sources -/

/-- The columns of some sources as those of a single one, which may have a name. A star gives them
different names. -/
def nestedColumns (called : Option Text) (cs : List ScopeColumn) : List ScopeColumn :=
  let visible := cs.filter ScopeColumn.isVisible
  let hidden := cs.filter fun c => !c.isVisible
  let names := sourceNames (visible.map fun c => c.shown.getD c.name)
  let named := (visible.zip names).map fun (c, name) => { c with shown := some name }
  (named ++ hidden).map fun c => { c with also := called.or c.also }

/-- A table, a view or a query with a name as an origin. -/
def namedSource (ev : Evaluator) (ss : List Scope) (taking : Taking) (schema : Option Text)
    (name : Text) (called : Option Text) : Except StoreError Addition :=
  match (if schema.isNone then Scope.named? name 0 ss else none) with
  | some (level, q, inside) => ev.namedAddition taking level q inside called
  | none =>
    let inView := !(Scope.openViews ss).isEmpty
    let place := if inView && schema.isNone then some "main".toList else schema
    if isCatalogName name && mayBe place false then
      .ok (tableAddition ev.db taking.start ev.db.catalogTable false called)
    else
      match ev.db.table? place name, ev.db.view? place name with
      | some t, none => .ok (tableAddition ev.db taking.start t true called)
      | some t, some v =>
        if t.temporary || !v.temporary then .ok (tableAddition ev.db taking.start t true called)
        else ev.viewAddition ss taking v called
      | none, some v => ev.viewAddition ss taking v called
      | none, none => .error (noTable (qualified place name))

/-- The origins of a source. -/
def addition (ev : Evaluator) (ss : List Scope) (taking : Taking) (j : Join)
    (called : Option Text) : Source → Except StoreError Addition
  | .table schema name => ev.namedSource ss taking schema name called
  | .own name =>
    match Scope.working? name 0 ss with
    | some (level, w) => .ok (workingAddition taking level w called)
    | none => .error (noTable name)
  | .call name es => ev.callAddition ss taking name es called
  | .query q =>
    ev.queryAddition ss taking (called.getD []) [] (fun _ _ => noTable []) q
  | .sources sources => do
    let inner ← ev.origins ss { taking with ordered := false, limited := false } sources
    let columns := nestedColumns called inner.columns
    let keeps := fun (j : Join) => j.keepsLeft || j.keepsRight
    if 1 < inner.list.length && (keeps j || inner.list.any fun o => keeps o.join) then
      let p ← ev.query ss (.query [] (.select false [.all] sources none [] none) [] [] none none)
      let a := planAddition taking.start [] p (p.columns.map (·.name))
      let visible := columns.filter ScopeColumn.isVisible
      return { a with
        columns := (visible.zip a.columns).map fun (c, d) => { c with term := d.term } }
    else
      return {
        list := inner.list
        columns
        conditions := inner.conditions
        ties := inner.ties }

/-- The names of the columns that a source shares with those before it. -/
def sharedNames (j : Join) (on : Option Expr) (shared : List Text)
    (before columns : List ScopeColumn) : Except StoreError (List Text) :=
  if j.natural then
    if on.isSome || !shared.isEmpty then
      .error (fault "a NATURAL join may not have an ON or USING clause".toList)
    else
      .ok ((columns.filter fun c => c.isVisible &&
        before.any fun b => b.isVisible && equalsIgnoringCase b.name c.name).map (·.name))
  else .ok shared

/-- The first of two values that is no null. -/
def firstOf (a b : Term) : Term :=
  { Term.made [a, b] (fun frames => do
      let v ← a.value frames
      if v.isNull then b.value frames else return v) with
    affinity := a.affinity
    collation := a.collation
    columnName := a.columnName }

/-- The columns before a source and those of the source, joined by common names, with the ties
that make. -/
def shareNames (number : Nat) (j : Join) :
    (names : List Text) → (before columns : List ScopeColumn) →
    Except StoreError (List ScopeColumn × List ScopeColumn × List Tie)
  | [], before, columns => .ok (before, columns, [])
  | name :: names, before, columns =>
    let named := fun (c : ScopeColumn) =>
      !c.isRowNumber && !c.merged && equalsIgnoringCase c.name name
    match before.find? named, columns.find? named with
    | some b, some c => do
      let condition ← compared .equal b.term c.term
      let before := if j.keepsRight then
          before.map fun d => if named d then { d with term := firstOf b.term c.term } else d
        else before
      let columns := columns.map fun d => if named d then { d with merged := true } else d
      let (before, columns, ties) ← shareNames number j names before columns
      return (before, columns,
        { source := number, keeps := j.keepsLeft || j.keepsRight, condition := .inr condition }
          :: ties)
    | _, _ =>
      .error (fault ("cannot join using column ".toList ++ name ++
        " - column not present in both tables".toList))

/-- The origins with those of one more source. -/
def addSource (ev : Evaluator) (ss : List Scope) (taking : Taking) (o : Origins) :
    Joined → Except StoreError Origins
  | .joined j source called on shared => do
    let number := taking.start + o.list.length
    let keeps := j.keepsLeft || j.keepsRight
    let a ← ev.addition ss
      { taking with start := number, apart := taking.apart && !keeps } j called source
    let names ← sharedNames j on shared o.columns a.columns
    let (before, columns, ties) ← shareNames number j names o.columns a.columns
    let own := match on with
      | some e => [({ source := number, keeps, condition := .inl e } : Tie)]
      | none => []
    let list := match a.list with
      | first :: rest => { first with join := j } :: rest
      | [] => []
    return {
      list := o.list ++ list
      columns := before ++ columns
      ties := o.ties ++ a.ties ++ own ++ ties
      conditions := o.conditions ++ a.conditions
      order := o.order ++ a.order
      limit := o.limit.or a.limit }

/-- The origins of some sources. -/
def originsOf (ev : Evaluator) (ss : List Scope) (taking : Taking) (sources : List Joined) :
    Except StoreError Origins := do
  let keepsRight := sources.any fun
    | .joined j _ _ _ _ => j.keepsRight
  let several := 1 < sources.length
  let taking := { taking with
    apart := taking.apart && !keepsRight
    ordered := taking.ordered && !several
    apartOrdered := taking.apartOrdered || several
    limited := taking.limited && !several }
  sources.foldlM (ev.addSource ss taking) {}

end Evaluator
end AskSql.Database
