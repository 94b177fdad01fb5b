import AskSql.Database.Term

/-!
# Scopes

Where names are looked up. Each query has a scope of its own, with the columns of its sources and,
for some of its parts, the names that its result gives to expressions; what it does not find is
looked for in the scopes of the queries around it.
-/

namespace AskSql.Database

open Text

/-- A column that can be named. -/
structure ScopeColumn where
  table : Text
  /-- What the table belongs to, if it is a stored one. -/
  schema : Option Text
  name : Text
  term : Term
  /-- The column is the number of the row. -/
  isRowNumber : Bool := false
  /-- The column shares its name with one of an earlier source that it is joined by. -/
  merged : Bool := false
  /-- What else its table is called, with others. -/
  also : Option Text := none
  /-- The name that a star gives to it, if it is not its own. -/
  shown : Option Text := none

/-- A query with a name of its own. -/
structure NamedQuery where
  name : Text
  columns : List Text
  /-- The rows are asked for all at once. -/
  whole : Bool
  body : Query
  /-- How a mention of the name is reported where there must be none. -/
  barred : Option String := none

/-- A named query as it is written. -/
def NamedQuery.of : Common → NamedQuery
  | .common name columns whole body => { name, columns, whole, body }

/-- The rows that a query has given so far, under its name. -/
structure Working where
  name : Text
  columns : List ColumnShape

/-- Where names are looked up. -/
structure Scope where
  columns : List ScopeColumn := []
  /-- The columns are those of more than one source. -/
  isJoined : Bool := false
  /-- The names that the result gives to expressions. -/
  aliases : List (Text × Term) := []
  /-- Aggregates may be called. -/
  aggregates : Bool := false
  /-- What is defined where some things are not allowed. -/
  definition : Option Text := none
  named : List NamedQuery := []
  working : Option Working := none
  /-- The views that are being looked at. -/
  views : List Text := []

/-- The names of the number of a row. -/
def isRowNumberName (name : Text) : Bool :=
  ["rowid", "oid", "_rowid_"].any fun n => equalsIgnoringCase n.toList name

namespace ScopeColumn

/-- The name in front of that of a column's table; a star stands for the one that a query has. -/
def schemaName (c : ScopeColumn) : Text :=
  c.schema.getD ['*']

/-- The column is among those that a star stands for. -/
def isVisible (c : ScopeColumn) : Bool :=
  !c.isRowNumber && !c.merged

/-- A name is that of a column's table. The catalog has more than one. -/
def isOf (c : ScopeColumn) (table : Text) : Bool :=
  equalsIgnoringCase table c.table || (c.also.map (equalsIgnoringCase table)).getD false ||
    (isCatalogName table && isCatalogName c.table)

/-- The names in front of a column's name, the last one first, fit the column. -/
def isUnder (c : ScopeColumn) : List Text → Bool
  | [] => true
  | [table] => c.isOf table
  | [table, schema] =>
    c.isOf table && equalsIgnoringCase schema c.schemaName
  | _ => false

end ScopeColumn

namespace Scope

/-- A dotted name as an error shows it. -/
def dotted (parts : List Text) : Text :=
  join ['.'] parts

/-- What a dotted name means in a scope, if it means something. -/
def find? (s : Scope) (parts : List Text) : Except StoreError (Option Term) :=
  let name := parts.getLastD []
  let under := parts.dropLast.reverse
  let fitting := s.columns.filter fun c =>
    !c.isRowNumber && c.isUnder under && equalsIgnoringCase c.name name &&
      !(c.merged && under.isEmpty)
  let numbers := if isRowNumberName name then
      s.columns.filter fun c => c.isRowNumber && c.isUnder under
    else []
  let ambiguous := fault ("ambiguous column name: ".toList ++ dotted parts)
  match fitting, numbers with
  | [c], _ => .ok (some c.term)
  | _ :: _ :: _, _ => .error ambiguous
  | [], [c] => .ok (some c.term)
  | [], _ :: _ :: _ => .error ambiguous
  | [], [] =>
    let found := if under.isEmpty then
        (s.aliases.find? fun a => equalsIgnoringCase a.1 name).map (·.2)
      else none
    match found with
    | some t =>
      match t.aggregates with
      | a :: _ =>
        if s.aggregates then .ok (some { t with columnName := none })
        else .error (fault ("misuse of aggregate: ".toList ++ a.name ++ "()".toList))
      | [] => .ok (some t)
    | none => .ok none

/-- What a dotted name means in some scopes, the innermost first, of which `level` were
passed. -/
def resolveFrom? (parts : List Text) :
    (level : Nat) → List Scope → Except StoreError (Option Term)
  | _, [] => .ok none
  | level, s :: scopes => do
    match ← s.find? parts with
    | some t => return some (t.outward level)
    | none => resolveFrom? parts (level + 1) scopes

/-- The truth value of a name that is one. -/
def truthOf? (name : Text) : Option Bool :=
  if equalsIgnoringCase name "true".toList then some true
  else if equalsIgnoringCase name "false".toList then some false
  else none

/-- What a dotted name means. A single one between double quotes is a text where it means nothing
else. -/
def resolve (scopes : List Scope) (quoted : Bool) (parts : List Text) : Except StoreError Term := do
  match ← resolveFrom? parts 0 scopes with
  | some t => return t
  | none =>
    match parts with
    | [name] =>
      if quoted then return .ofValue (.text name)
      else
        match truthOf? name with
        | some b => return .ofValue (Value.ofBool b)
        | none => throw (noColumn name)
    | _ => throw (noColumn (dotted parts))

/-- A named query among some scopes, with the number of scopes in front of it, and those from it
on. -/
def named? (name : Text) : (level : Nat) → List Scope → Option (Nat × NamedQuery × List Scope)
  | _, [] => none
  | level, s :: scopes =>
    match s.named.find? fun q => equalsIgnoringCase name q.name with
    | some q => some (level, q, s :: scopes)
    | none => named? name (level + 1) scopes

/-- The rows that a query of a name has given so far, with the number of scopes in front of
them. -/
def working? (name : Text) : (level : Nat) → List Scope → Option (Nat × Working)
  | _, [] => none
  | level, s :: scopes =>
    match s.working.filter fun w => equalsIgnoringCase name w.name with
    | some w => some (level, w)
    | none => working? name (level + 1) scopes

/-- The scopes where the named queries of the first one were named, for a look at one of them: a
mention of its name is reported. -/
def barring (name : Text) (report : String) : List Scope → List Scope
  | [] => []
  | s :: outer =>
    let named := s.named.map fun q =>
      if equalsIgnoringCase name q.name then { q with barred := some report } else q
    { s with columns := [], aliases := [], named } :: outer

/-- What is defined where some things are not allowed. -/
def definition? (scopes : List Scope) : Option Text :=
  scopes.findSome? (·.definition)

/-- The views that are being looked at. -/
def openViews (scopes : List Scope) : List Text :=
  scopes.flatMap (·.views)

end Scope
end AskSql.Database
