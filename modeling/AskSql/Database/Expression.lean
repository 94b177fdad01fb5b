import AskSql.Database.Aggregation
import AskSql.Database.Plan
import AskSql.Database.Scalar

/-!
# Expressions

An expression becomes a term in the scopes that it stands in. Whatever is wrong with it apart
from the values that it meets is found then. What stands inside of it is looked at by an
evaluator that is handed in, so that each definition here speaks of one operator.
-/

namespace AskSql.Database

open Text

namespace Evaluator

/-- A row of values stands where one value should. -/
def rowMisused : StoreError :=
  fault "row value misused".toList

/-- Something is not allowed in what is being defined. -/
def prohibit (scopes : List Scope) (what : String) : Except StoreError Unit :=
  match Scope.definition? scopes with
  | some d => .error (fault (what.toList ++ " prohibited in ".toList ++ d))
  | none => .ok ()

/-- What is being defined has to give the same whenever it is looked at. -/
def isNarrow (scopes : List Scope) : Bool :=
  (Scope.definition? scopes).any fun d => d != "CHECK constraints".toList

/-- The term of an expression that is one value. -/
def single (ev : Evaluator) (ss : List Scope) (e : Expr) : Except StoreError Term := do
  let t ← ev.expr ss e
  if t.parts.isEmpty then return t else throw rowMisused

/-- The terms of expressions that are one value each. -/
def singles (ev : Evaluator) (ss : List Scope) : List Expr → Except StoreError (List Term)
  | [] => .ok []
  | e :: es => do
    let t ← ev.single ss e
    let ts ← ev.singles ss es
    return t :: ts

/-- The term of an expression, if it is there. -/
def optional (ev : Evaluator) (ss : List Scope) : Option Expr → Except StoreError (Option Term)
  | none => .ok none
  | some e => (ev.single ss e).map some

/-! ## Literals -/

/-- The value of a numeral with a minus in front of it, or without one. -/
def numeralValue (negative : Bool) (numeral : Text) : Except StoreError Value :=
  if (numeral.take 2).map Char.toLower = "0x".toList then
    let digits := (numeral.drop 2).dropWhile (· == '0')
    let n := digits.foldl (fun n d => 16 * n + (hexValue? d).getD 0) 0
    let value := wrapped n
    if 16 < digits.length || (negative && value == Value.minInteger) then
      .error (fault ("hex literal too big: ".toList ++
        (if negative then '-' :: numeral else numeral)))
    else .ok (.integer (if negative then -value else value))
  else .ok (Numeral.ofText (if negative then '-' :: numeral else numeral)).toValue

/-! ## Operators -/

/-- The term after a sign. -/
def unary (ev : Evaluator) (ss : List Scope) (s : Sign) (e : Expr) : Except StoreError Term := do
  match s, e with
  | .minus, .numeral n => return .ofValue (← numeralValue true n)
  | s, e =>
    let t ← ev.single ss e
    let made := Term.madeOfAll [t] fun frames => return s.apply (← t.value frames)
    match s with
    | .plus => return { made with collation := t.collation }
    | _ => return made

/-- The bounds that a comparison of two terms sets to columns. -/
def boundsOf (c : Comparison) (a b : Term) : List Route.Bound :=
  let kind? := match c with
    | .equal | .same => some (Route.BoundKind.equal, Route.BoundKind.equal)
    | .less | .atMost => some (.below, .above)
    | .greater | .atLeast => some (.above, .below)
    | .differ | .notSame => none
  let isSmall := fun (t : Term) => match t.form with
    | .literal (.integer n) => decide (-1 ≤ n ∧ n ≤ 1)
    | _ => false
  let alike := a.affinity == b.affinity ||
    ((a.affinity.map Affinity.isNumeric).getD false &&
      (b.affinity.map Affinity.isNumeric).getD false)
  let swaps := (c == .equal || c == .same) && alike &&
    (a.collationWith b == .binary || a.collation == b.collation)
  let bound := fun (kind : Route.BoundKind) (a b : Term) => match a.form with
    | .column source place =>
      let twin := match b.form with
        | .column source place => some (source, place)
        | _ => none
      [({ source, place, kind, needs := b.sources, collation := a.collationWith b
          affinity := a.affinityWith b, small := isSmall b, twin
          swaps := swaps && twin.isSome } : Route.Bound)]
    | _ => []
  match kind? with
  | some (forA, forB) => bound forA a b ++ bound forB b a
  | none => []

/-- What a comparison makes of two rows: the first pair of values that differ decides. -/
def compareParts (c : Comparison) (frames : Frames) :
    List Computed → List Computed → Except StoreError Value
  | x :: xs, y :: ys => do
    let v ← x frames
    let w ← y frames
    let decided := match c with
      | .equal | .differ | .same | .notSame => false
      | _ => !xs.isEmpty && v.same .binary w
    if decided then compareParts c frames xs ys
    else
      let here := c.apply .binary v w
      match c, xs with
      | .equal, _ :: _ | .same, _ :: _ => return bothTrue here (← compareParts c frames xs ys)
      | .differ, _ :: _ | .notSame, _ :: _ =>
        return eitherTrue here (← compareParts c frames xs ys)
      | _, _ => return here
  | _, _ => .ok (Value.ofBool (c.accepts .eq))

/-- The term of a comparison. -/
def compared (c : Comparison) (a b : Term) : Except StoreError Term :=
  if a.parts.isEmpty && b.parts.isEmpty then
    let made := if c == .same || c == .notSame then Term.made [a, b] (c.ofTerms a b)
      else Term.madeOfAll [a, b] (c.ofTerms a b)
    .ok { made with bounds := boundsOf c a b }
  else if a.parts.length = b.parts.length then
    .ok (Term.made [a, b] fun frames => compareParts c frames a.parts b.parts)
  else .error rowMisused

/-- The truth value that an expression names, if it names one. -/
def truthNamed? (ss : List Scope) : Expr → Option Bool
  | .name false [name] =>
    match Scope.resolveFrom? [name] 0 ss with
    | .ok none => Scope.truthOf? name
    | _ => none
  | _ => none

/-- The bound that an expression is null, or that it is not. -/
def nullBounds (negated : Bool) (t : Term) : List Route.Bound :=
  match t.form with
  | .column source place =>
    [{ source, place, needs := [], affinity := .blob
       kind := if negated then .present else .null
       collation := t.collation.getD .binary }]
  | _ => []

/-- The term of a test for nulls. -/
def isNull (negated : Bool) (t : Term) : Term :=
  let made := Term.made [t] fun frames =>
    return Value.ofBool ((← t.value frames).isNull != negated)
  { made with bounds := nullBounds negated t }

/-- The term of two expressions with an operator between them. -/
def binary (ev : Evaluator) (ss : List Scope) (op : Operator) (a b : Expr) :
    Except StoreError Term := do
  match op with
  | .and | .or =>
    let x ← ev.single ss a
    let y ← ev.single ss b
    let combine := if op = .and then bothTrue else eitherTrue
    let made := Term.made [x, y] fun frames =>
      return combine (← x.value frames) (← y.value frames)
    return { made with rowsOf := x.rowsOfBoth y }
  | .compute op =>
    let x ← ev.single ss a
    let y ← ev.single ss b
    return Term.madeOfAll [x, y] fun frames =>
      return op.apply (← x.value frames) (← y.value frames)
  | .extract _ =>
    let x ← ev.single ss a
    let y ← ev.single ss b
    return Term.made [x, y] fun _ => .ok .null
  | .compare c =>
    let x ← ev.expr ss a
    let tests := c == .same || c == .notSame
    match (if tests then truthNamed? ss b else none), b with
    | some truth, _ =>
      return Term.made [x] fun frames =>
        return Value.ofBool (((← x.value frames).truth? == some truth) == (c == .same))
    | none, .value .null =>
      if tests then return isNull (c == .notSame) x
      else compared c x (.ofValue .null)
    | none, b =>
      let y ← ev.expr ss b
      compared c x y

/-- The term of a range. -/
def between (ev : Evaluator) (ss : List Scope) (negated : Bool) (e low high : Expr) :
    Except StoreError Term := do
  let t ← ev.expr ss e
  let a ← ev.expr ss low
  let b ← ev.expr ss high
  let above ← compared .atLeast t a
  let below ← compared .atMost t b
  let made := Term.made [t, a, b] fun frames => do
    let inside := bothTrue (← above.value frames) (← below.value frames)
    return if negated then Sign.not.apply inside else inside
  let own := fun (bounds : List Route.Bound) => match t.form with
    | .column source place => bounds.filter fun b => b.source == source && b.place == place
    | _ => []
  return { made with
    bounds := if negated then [] else own above.bounds ++ own below.bounds
    rowsOf := t.rowsOf ++ a.rowsOfBoth b }

/-! ## Patterns -/

/-- The value of a search for a pattern. -/
def matched (op : Pattern) (pattern v : Value) (escape : Option Value) :
    Except StoreError Value :=
  match op, escape.map Value.text? with
  | .fullText, _ => .error (fault "unable to use function MATCH in the requested context".toList)
  | _, some none => .ok .null
  | op, escape =>
    let chars := (escape.bind id).getD []
    if escape.isSome && chars.length != 1 then
      .error (fault "ESCAPE expression must be a single character".toList)
    else
      match pattern.text?, v.text? with
      | some p, some s =>
        let fits := match op with
          | .glob => isGlob p.length (Scalar.upToZero p) (Scalar.upToZero s)
          | _ => isLike chars.head? (Scalar.upToZero p) (Scalar.upToZero s)
        .ok (Value.ofBool fits)
      | _, _ => .ok .null

/-- The term of a search for a pattern. -/
def pattern (ev : Evaluator) (ss : List Scope) (op : Pattern) (negated : Bool)
    (e p : Expr) (escape : Option Expr) : Except StoreError Term := do
  let x ← ev.single ss p
  let t ← ev.single ss e
  let y ← ev.optional ss escape
  match op, y with
  | .regexp, _ => throw (fault "no such function: REGEXP".toList)
  | .glob, some _ => throw (fault "wrong number of arguments to function GLOB()".toList)
  | _, _ =>
    return Term.made ([x, t] ++ y.toList) fun frames => do
      let escape ← match y with
        | some y => (y.value frames).map some
        | none => .ok none
      let found ← matched op (← x.value frames) (← t.value frames) escape
      return if negated then Sign.not.apply found else found

/-! ## Sets -/

/-- Whether a value is among some others, where it is compared with each of them by `test`. -/
def anyOf (test : Value → Value) : List Value → Value
  | [] => .integer 0
  | v :: vs => eitherTrue (test v) (anyOf test vs)

/-- The term of a test whether an expression is among others. -/
def among (ev : Evaluator) (ss : List Scope) (negated : Bool) (e : Expr) (es : List Expr) :
    Except StoreError Term := do
  let t ← ev.expr ss e
  let sign := fun (v : Value) => if negated then Sign.not.apply v else v
  match es with
  | [] => return Term.made [t] fun _ => .ok (sign (.integer 0))
  | es =>
    let others ← es.mapM (ev.expr ss)
    if others.any fun o => o.parts.length != t.parts.length then throw rowMisused
    else
      let left := { t with affinity := t.affinity.map fun a => if a == .real then .numeric else a }
      let tests ← others.mapM fun o =>
        compared .equal left { o with affinity := none, collation := none, explicit := false }
      let made := Term.made (t :: others) fun frames => do
        let results ← tests.mapM (·.value frames)
        return sign (anyOf id results)
      let bounds := match t.form, others with
        | .column _ _, [o] => boundsOf .equal left { o with affinity := none, collation := none }
        | .column source place, _ =>
          [{ source, place, kind := .among (Route.sizeOf others.length)
             needs := (others.flatMap Term.sources).eraseDups
             collation := t.collation.getD .binary, affinity := t.affinity.getD .blob }]
        | _, _ => []
      return { made with bounds := if negated then [] else bounds, rowsOf := t.rowsOf }

/-- The wrong number of columns of a query inside an expression. -/
def wrongWidth (found expected : Nat) : StoreError :=
  fault ("sub-select returns ".toList ++ ofNat found ++ " columns - expected ".toList ++
    ofNat expected)

/-- The term of a test whether an expression is among the rows of a query. -/
def amongRows (ev : Evaluator) (ss : List Scope) (negated : Bool) (e : Expr) (q : Query) :
    Except StoreError Term := do
  prohibit ss "subqueries"
  let plan ← ev.query ss q
  let t ← ev.expr ss e
  let width := max 1 t.parts.length
  if plan.columns.length != width then throw (wrongWidth plan.columns.length width)
  else
    let columns := plan.columns.map fun c =>
      ({ Term.ofValue .null with affinity := c.affinity, collation := some c.collation } : Term)
    let whole : List Term := if t.parts.isEmpty then [t]
      else t.parts.map fun value => ({ value } : Term)
    let compareRow := fun (vs ws : List Value) =>
      ((whole.zip columns).zip (vs.zip ws)).foldl (fun known ((a, b), (v, w)) =>
        let affinity := a.affinityWith b
        bothTrue known (Comparison.equal.apply (a.collationWith b)
          (affinity.forComparison w v) (affinity.forComparison v w))) (.integer 1)
    let made := Term.made [t] fun frames => do
      let vs ← Term.values frames whole
      let rows ← plan.rows frames
      let found := anyOf id (rows.map (compareRow vs))
      return if negated then Sign.not.apply found else found
    let bounds := match t.form, columns with
      | .column source place, [c] =>
        [({ source, place, kind := .among 46, collation := t.collationWith c
            needs := ((plan.uses.filter (·.level == 0)).map (·.source)).eraseDups
            affinity := t.affinityWith c } : Route.Bound)]
      | _, _ => []
    return { made with
      uses := (made.uses ++ plan.uses).eraseDups
      bounds := if negated then [] else bounds }

/-! ## Other operators -/

/-- The term under a collation. -/
def collate (ev : Evaluator) (ss : List Scope) (e : Expr) (name : Text) :
    Except StoreError Term := do
  let t ← ev.single ss e
  match Collation.ofName? name with
  | some c => return { t with collation := some c, explicit := true, columnName := none }
  | none => throw (.database 257 ("no such collation sequence: ".toList ++ name))

/-- The affinity of a type that a value is cast to. -/
def castAffinity (type : Text) : Affinity :=
  if type.isEmpty then .numeric else .ofType type

/-- The term of a cast. -/
def cast (ev : Evaluator) (ss : List Scope) (e : Expr) (type : Text) :
    Except StoreError Term := do
  let t ← ev.single ss e
  let a := castAffinity type
  let made := Term.madeOfAll [t] fun frames => return a.cast (← t.value frames)
  return { made with affinity := some a, collation := t.collation }

/-- The value of the first branch whose test is true, or of what stands behind all of them. -/
def firstBranch (frames : Frames) (otherwise : Option Term) :
    List (Term × Term) → Except StoreError Value
  | [] =>
    match otherwise with
    | some t => t.value frames
    | none => .ok .null
  | (test, t) :: rest => do
    if (← test.value frames).isTrue then t.value frames else firstBranch frames otherwise rest

/-- The term of a choice. -/
def choice (ev : Evaluator) (ss : List Scope) (base : Option Expr)
    (branches : List (Expr × Expr)) (otherwise : Option Expr) : Except StoreError Term := do
  let subject ← ev.optional ss base
  let branches ← branches.mapM fun (condition, e) => do
    let c ← ev.single ss condition
    let t ← ev.single ss e
    let test ← match subject with
      | some s => compared .equal s c
      | none => .ok c
    return (test, t)
  let otherwise ← ev.optional ss otherwise
  let parts := subject.toList ++ branches.flatMap (fun (c, t) => [c, t]) ++ otherwise.toList
  return Term.made parts fun frames => firstBranch frames otherwise branches

/-! ## Functions -/

/-- The arguments of a call with what belongs to it. -/
structure Arguments where
  distinct : Bool := false
  exprs : List Expr := []
  order : List Order := []
  filter : Option Expr := none
  windowed : Bool := false

/-- The arguments of a call. A star stands for none. -/
def argumentsOf : Call → Arguments
  | .star filter windowed => { filter, windowed }
  | .arguments distinct exprs order filter windowed => { distinct, exprs, order, filter, windowed }

/-- How an expression is ordered by. -/
def directionOf (t : Term) : Order → Direction
  | .by _ descending nullsLast =>
    { collation := t.collation.getD .binary, descending
      nullsLast := nullsLast.getD descending }

/-- Some rows without those that are equal to earlier ones. -/
def distinctRows (directions : List Direction) : List (List Value) → List (List Value)
  | [] => []
  | r :: rs =>
    r :: (distinctRows directions rs).filter fun s => compareRows directions r s != .eq

/-- The values that the arguments of an aggregate have in the rows of a group. -/
def argumentRows (args : List Term) (filter : Option Term)
    (order : List (Term × Direction)) (distinct : Bool) (outer : Frames) (group : List Tuple) :
    Except StoreError (List (List Value)) := do
  let frameOf := fun (row : Tuple) => ({ row } : Frame) :: outer
  let kept ← group.filterM fun row =>
    match filter with
    | some f => return (← f.value (frameOf row)).isTrue
    | none => .ok true
  let rows ← kept.mapM fun row => do
    let values ← Term.values (frameOf row) args
    let keys ← Term.values (frameOf row) (order.map (·.1))
    return (keys, values)
  let rows := if order.isEmpty then rows
    else rows.mergeSort fun a b => compareRows (order.map (·.2)) a.1 b.1 != .gt
  let values := rows.map (·.2)
  return if distinct then
    distinctRows (args.map fun t => { collation := t.collation.getD .binary }) values
  else values

/-- The collation that some terms bring with them. -/
def collationOf (ts : List Term) : Collation :=
  (ts.findSome? (·.collation)).getD .binary

/-- A function is called with the wrong number of arguments. -/
def wrongArguments (name : Text) : StoreError :=
  fault ("wrong number of arguments to function ".toList ++ name ++ "()".toList)

/-- The term of an aggregate. -/
def aggregate (ev : Evaluator) (ss : List Scope) (name : Text) (f : Aggregation)
    (a : Arguments) : Except StoreError Term := do
  let inside := match ss with
    | s :: outer => { s with aggregates := false } :: outer
    | [] => []
  let filter ← ev.optional inside a.filter
  let args ← ev.singles inside a.exprs
  if args.length < f.least || f.most < args.length then throw (wrongArguments name)
  if !((ss.head?.map (·.aggregates)).getD false) then
    throw (fault ("misuse of aggregate function ".toList ++ name ++ "()".toList))
  let order ← a.order.mapM fun o => do
    match o with
    | .by e _ _ =>
      let t ← ev.single inside e
      return (t, directionOf t o)
  if a.distinct && args.length != 1 then
    throw (fault "DISTINCT aggregates must have exactly one argument".toList)
  let collation := collationOf args
  let value : Computed := fun frames => do
    match frames with
    | frame :: outer =>
      let rows ← argumentRows args filter order a.distinct outer frame.group
      f.apply collation rows
    | [] => f.apply collation []
  let parts := args ++ order.map (·.1) ++ filter.toList
  let own : Aggregate :=
    { name, extreme := f.extreme, collation
      argument := fun frames => match args with
        | t :: _ => t.value frames
        | [] => .ok .null }
  return { Term.made parts value with aggregates := [own], collation := none, explicit := false }

/-- The functions that give something else each time. -/
def changeable : List String :=
  ["random", "randomblob", "changes", "total_changes", "last_insert_rowid"]

/-- The term of a call. What is wrong with an argument comes before what is wrong with the call
itself. -/
def call (ev : Evaluator) (ss : List Scope) (name : Text) (c : Call) :
    Except StoreError Term := do
  let a := argumentsOf c
  match Aggregation.ofName? name a.exprs.length with
  | some f => ev.aggregate ss name f a
  | none =>
    let args ← ev.singles ss a.exprs
    let collation := collationOf args
    match Scalar.ofName? name, c with
    | none, _ => throw (fault ("no such function: ".toList ++ name))
    | some f, .star _ _ =>
      if f.takes 0 && f.most.isSome then
        return Term.made [] fun _ => f.apply collation []
      else throw (wrongArguments name)
    | some f, _ =>
      if !f.takes args.length then throw (wrongArguments name)
      if a.filter.isSome then
        throw (fault ("FILTER may not be used with non-aggregate ".toList ++ name ++ "()".toList))
      if isNarrow ss && changeable.any fun n => equalsIgnoringCase n.toList name then
        prohibit ss "non-deterministic functions"
      return Term.made args fun frames => do
        let values ← Term.values frames args
        f.apply collation values

/-! ## Queries -/

/-- The term of a query that gives one value: that of its first row. -/
def ofQuery (ev : Evaluator) (ss : List Scope) (q : Query) : Except StoreError Term := do
  prohibit ss "subqueries"
  let plan ← ev.query ss q
  match plan.columns with
  | [c] =>
    return { Term.ofValue .null with
      value := fun frames => do
        let rows ← plan.rows frames
        return ((rows.head?).bind List.head?).getD .null
      form := .other
      affinity := c.affinity
      collation := some c.collation
      uses := plan.uses }
  | columns => throw (wrongWidth columns.length 1)

/-- The term of a test whether a query gives any row. -/
def anyRow (ev : Evaluator) (ss : List Scope) (q : Query) : Except StoreError Term := do
  prohibit ss "subqueries"
  let plan ← ev.query ss q
  return { Term.ofValue .null with
    value := fun frames => do
      let rows ← plan.rows frames
      return Value.ofBool !rows.isEmpty
    form := .other
    uses := plan.uses }

/-- The term of an expression. -/
def term (ev : Evaluator) (ss : List Scope) : Expr → Except StoreError Term
  | .value v => .ok (.ofValue v)
  | .numeral n => (numeralValue false n).map .ofValue
  | .name quoted parts => do
    let t ← Scope.resolve ss quoted parts
    if 1 < parts.length && isNarrow ss then prohibit ss "the \".\" operator"
    return t
  | .parameter _ => do
    prohibit ss "parameters"
    return { Term.ofValue .null with form := .other }
  | .unary s e => ev.unary ss s e
  | .binary op a b => ev.binary ss op a b
  | .pattern op negated e p escape => ev.pattern ss op negated e p escape
  | .between negated e low high => ev.between ss negated e low high
  | .isNull negated e => do
    let t ← ev.single ss e
    return isNull negated t
  | .among negated e es => ev.among ss negated e es
  | .amongRows negated e q => ev.amongRows ss negated e q
  | .collate e name => ev.collate ss e name
  | .cast e type => ev.cast ss e type
  | .choice base branches otherwise => ev.choice ss base branches otherwise
  | .call name c => ev.call ss name c
  | .anyRow q => ev.anyRow ss q
  | .query q => ev.ofQuery ss q
  | .row es => do
    let ts ← ev.singles ss es
    return { Term.made ts (fun _ => .ok .null) with parts := ts.map (·.value) }
  | .raise _ => .error (fault "RAISE() may only be used within a trigger-program".toList)

end Evaluator
end AskSql.Database
