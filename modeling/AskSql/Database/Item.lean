import AskSql.Database.Expression

/-!
# Items and orders

What a query takes from each row, as the fields of its result, and what rows are ordered or
grouped by: a field by its place or its name, or an expression.
-/

namespace AskSql.Database

open Text

namespace Evaluator

/-! ## Items -/

/-- A column that a query gives. -/
structure Field where
  column : ResultColumn
  term : Term
  /-- The name that the query gives to it. -/
  label : Option Text

/-- A term as a column of a result. -/
def fieldOf (t : Term) (label : Option Text) (written : Text) : Field where
  column :=
    { label := label.getD (t.columnName.getD written)
      name := label.getD (t.columnName.getD written)
      affinity := t.affinity
      collation := t.collation.getD .binary }
  term := t
  label

/-- The names that a query gives to some of its columns. -/
def aliasesOf (fields : List Field) : List (Text × Term) :=
  fields.filterMap fun f => f.label.map fun l => (l, f.term)

/-- The columns that a star stands for. -/
def starFields (scope : Scope) (several : Bool) (cs : List ScopeColumn) :
    Except StoreError (List Field) :=
  cs.mapM fun c => do
    let _ ← scope.find? (if several then [c.schemaName, c.table, c.name] else [c.name])
    let name := c.shown.getD c.name
    return fieldOf { c.term with columnName := some name } none name

/-- The columns that an item stands for. -/
def fields (ev : Evaluator) (scope : Scope) (ss : List Scope) :
    Item → Except StoreError (List Field)
  | .all =>
    if scope.columns.isEmpty then .error (fault "no tables specified".toList)
    else
      starFields scope scope.isJoined
        (scope.columns.filter (·.isVisible))
  | .allOf table =>
    match scope.columns.filter fun c => !c.isRowNumber && equalsIgnoringCase c.table table with
    | [] => .error (noTable table)
    | cs => starFields scope scope.isJoined cs
  | .expr e label written => do
    let t ← ev.single (scope :: ss) e
    return [fieldOf t label written]

/-- The columns that some items stand for. -/
def allFields (ev : Evaluator) (scope : Scope) (ss : List Scope) :
    List Item → Except StoreError (List Field)
  | [] => .ok []
  | i :: is => do
    let fields ← ev.fields scope ss i
    let rest ← ev.allFields scope ss is
    return fields ++ rest

/-! ## Orders -/

/-- A number as a place. -/
def ordinal (n : Nat) : Text :=
  let suffix := if 10 < n % 100 ∧ n % 100 < 14 then "th"
    else match n % 10 with
      | 1 => "st"
      | 2 => "nd"
      | 3 => "rd"
      | _ => "th"
  ofNat n ++ suffix.toList

/-- A place that is no column of the result. -/
def outOfRange (clause : String) (n columns : Nat) : StoreError :=
  fault (ordinal n ++ ' ' :: clause.toList ++
    " BY term out of range - should be between 1 and ".toList ++ ofNat columns)

/-- The integer that an expression is, if it is written as one. -/
def integerOf? : Expr → Option Int
  | .numeral n =>
    match numeralValue false n with
    | .ok (.integer n) => if n < 0x80000000 then some n else none
    | _ => none
  | .unary .minus (.numeral n) =>
    match numeralValue true n with
    | .ok (.integer n) => some n
    | _ => none
  | .unary .plus (.numeral n) => integerOf? (.numeral n)
  | _ => none

/-- An expression without the collations that it is put under. -/
def withoutCollation : Expr → Expr
  | .collate e _ => withoutCollation e
  | e => e

/-- The field that an expression names, and how it is compared. -/
def fieldNamed? (fields : List Field) (e : Expr) : Option Term :=
  match withoutCollation e with
  | .name _ [name] =>
    (fields.find? fun f => (f.label.map (equalsIgnoringCase name)).getD false).map (·.term)
  | _ => none

/-- A term under the collation that an expression asks for. -/
def underCollation (e : Expr) (t : Term) : Except StoreError Term :=
  match e with
  | .collate _ name =>
    match Collation.ofName? name with
    | some c => .ok { t with collation := some c, explicit := true }
    | none => .error (.database 257 ("no such collation sequence: ".toList ++ name))
  | _ => .ok t

/-- The greatest place that a column may have. -/
def lastPlace : Int := 0xFFFF

/-- The term of the `n`th thing that rows are ordered or grouped by: a field by its place or its
name, or an expression. There is none if the place is beyond the fields. -/
def keyTerm? (ev : Evaluator) (scope : Scope) (fields : List Field) (clause : String)
    (byName : Bool) (n : Nat) (e : Expr) : Except StoreError (Option Term) :=
  match (if byName then fieldNamed? fields e else none), integerOf? (withoutCollation e) with
  | some t, _ => (underCollation e t).map some
  | none, some i =>
    if i < 1 ∨ lastPlace < i then .error (outOfRange clause n fields.length)
    else
      match fields[i.toNat - 1]? with
      | some f => (underCollation e f.term).map some
      | none => .ok none
  | none, none => (ev.single [scope] e).map some

/-- The terms of the things that rows are ordered or grouped by. A place beyond the fields is
reported after whatever else is wrong. -/
def keyTerms (ev : Evaluator) (scope : Scope) (fields : List Field) (clause : String)
    (byName : Bool) (es : List Expr) : Except StoreError (List Term) := do
  let found ← (es.zipIdx 1).mapM fun (e, n) => do
    return (← keyTerm? ev scope fields clause byName n e, n)
  found.mapM fun
    | (some t, _) => .ok t
    | (none, n) => .error (outOfRange clause n fields.length)

/-- The terms of what rows are ordered by. -/
def orderKeys (ev : Evaluator) (scope : Scope) (fields : List Field) (order : List Order) :
    Except StoreError (List (Term × Direction)) := do
  let terms ← keyTerms ev scope fields "ORDER" true (order.map fun
    | .by e _ _ => e)
  return (terms.zip order).map fun (t, o) => (t, directionOf t o)

/-- The terms of what rows are grouped by. -/
def groupKeys (ev : Evaluator) (scope : Scope) (fields : List Field) (groups : List Expr) :
    Except StoreError (List Term) := do
  let terms ← keyTerms ev scope fields "GROUP" false groups
  if terms.any fun t => !t.aggregates.isEmpty then
    throw (fault "aggregate functions are not allowed in the GROUP BY clause".toList)
  return terms

end Evaluator
end AskSql.Database
